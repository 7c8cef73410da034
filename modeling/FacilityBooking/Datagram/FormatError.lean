import FacilityBooking.Calendar.Time

/-!
# Format errors

Why bytes are no message of the protocol, or a value has no encoding in it.
-/

namespace FacilityBooking

inductive FormatError where
  /-- A field needs more bytes than are left. -/
  | truncated (needed remaining : Nat)
  /-- A header promises more payload than the datagram carries. -/
  | payloadLength (advertised : UInt32) (available : Nat)
  /-- A text has too many bytes for its length field. -/
  | textTooLong (length : Nat)
  | invalidText
  | invalidTime (cause : InvalidTime)
  | unsupportedVersion (version : UInt16)
  | unknownOperation (code : UInt16)
  /-- A reply belongs to another operation than the request. -/
  | unexpectedOperation (expected actual : UInt16)
  deriving DecidableEq, Repr

def FormatError.message : FormatError → String
  | truncated needed remaining => s!"truncated: need {needed} bytes, {remaining} remaining"
  | payloadLength advertised available =>
      s!"payload length {advertised} exceeds the {available} bytes after the header"
  | textTooLong length => s!"string of {length} bytes exceeds u16 length prefix"
  | invalidText => "string is not valid UTF-8"
  | invalidTime cause => cause.message
  | unsupportedVersion version => s!"unsupported protocol version {version}"
  | unknownOperation code => "unknown opcode " ++ Text.fourHexDigits code.toNat
  | unexpectedOperation expected actual =>
      "expected opcode " ++ Text.fourHexDigits expected.toNat ++ ", got " ++
        Text.fourHexDigits actual.toNat

end FacilityBooking
