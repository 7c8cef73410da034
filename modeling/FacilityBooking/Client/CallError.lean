import FacilityBooking.Message.ErrorReply
import FacilityBooking.Message.Operation
import FacilityBooking.Network.Host
import FacilityBooking.Text.Quoted

/-!
# Call errors

Why a call of the service has no result, in words for people and with all parts
named.
-/

namespace FacilityBooking

inductive CallError where
  /-- No reply came to any attempt. -/
  | undelivered (attempts : Nat)
  /-- The service said why it did not carry out the request. -/
  | refused (reply : ErrorReply)
  /-- The reply was a response to another operation. -/
  | unexpectedResponse (operation : Operation)
  | network (cause : NetworkError)
  /-- The request has no encoding, or the reply no meaning. -/
  | format (cause : FormatError)
  deriving DecidableEq, Repr

/-- The category as it is named in reports. -/
def ErrorCategory.name : ErrorCategory → String
  | conflict => "Conflict"
  | notFound => "NotFound"
  | badRequest => "BadRequest"
  | internal => "Internal"

/-- The operation as it is named in reports. -/
def Operation.name : Operation → String
  | queryAvailability => "QueryAvail"
  | book => "Book"
  | changeBooking => "ChangeBooking"
  | monitor => "Monitor"
  | resetDay => "ResetDay"
  | incrementUsage => "IncrementUsage"

def InvalidTime.report : InvalidTime → String
  | day value => s!"Day({value})"
  | hour value => s!"Hour({value})"
  | minute value => s!"Minute({value})"
  | outsideWeek value => s!"OutsideWeek({value})"

def FormatError.report : FormatError → String
  | truncated needed remaining =>
      s!"Truncated \x7b needed: {needed}, remaining: {remaining} \x7d"
  | payloadLength advertised available =>
      s!"PayloadLength \x7b advertised: {advertised}, available: {available} \x7d"
  | textTooLong length => s!"StringTooLong({length})"
  | invalidText => "InvalidUtf8"
  | invalidTime cause => s!"InvalidTime({cause.report})"
  | unsupportedVersion version => s!"UnsupportedVersion({version})"
  | unknownOperation code => s!"UnknownOp({code})"
  | unexpectedOperation expected actual =>
      s!"UnexpectedOp \x7b expected: {expected}, actual: {actual} \x7d"

namespace CallError

def message : CallError → String
  | undelivered attempts => s!"no reply from server after {attempts} attempts"
  | refused reply => reply.category.label ++ ": " ++ reply.message
  | unexpectedResponse operation => "unexpected response to " ++ operation.label
  | network cause => "io: " ++ cause.message
  | format cause => "malformed reply: " ++ cause.message

/-- The error with all of its parts named. -/
def report : CallError → String
  | undelivered attempts => s!"Delivery \x7b attempts: {attempts} \x7d"
  | refused reply =>
      s!"Server \x7b kind: {reply.category.name}, message: {Text.quoted reply.message} \x7d"
  | unexpectedResponse operation => s!"UnexpectedResponse({operation.name})"
  | network cause => s!"Io({cause.report})"
  | format cause => s!"Wire({cause.report})"

end CallError

end FacilityBooking
