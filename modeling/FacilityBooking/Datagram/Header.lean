import FacilityBooking.Datagram.Field

/-!
# Datagrams

Every datagram is a header of sixteen bytes followed by a payload. The header
holds, in big-endian order, the protocol version and the operation code of two
bytes each, and the request id, the flags and the payload length of four bytes
each. Bytes behind the announced payload belong to no one and are ignored.
-/

namespace FacilityBooking

/-- The version of the protocol that this library speaks. -/
def protocolVersion : UInt16 := 1

/-- The bit of an operation code that marks an error reply. -/
def errorMask : UInt16 := 0x8000

/-- The flag by which a caller asks for at most one execution. -/
def atMostOnceFlag : UInt32 := 1

/-- The flag of a datagram that the server sends unasked. -/
def noticeFlag : UInt32 := 2

structure Header where
  version : UInt16 := protocolVersion
  operation : UInt16
  requestId : UInt32
  flags : UInt32
  payloadLength : UInt32 := 0
  deriving DecidableEq, Repr

namespace Header

/-- Length of an encoded header. -/
def size : Nat := 16

def bytes (header : Header) : Bytes :=
  Field.word16Bytes header.version ++ Field.word16Bytes header.operation ++
    Field.word32Bytes header.requestId ++ Field.word32Bytes header.flags ++
    Field.word32Bytes header.payloadLength

/-- The header fields in the order in which they are sent. -/
def reader : FieldReader Header := do
  let version ← FieldReader.word16
  let operation ← FieldReader.word16
  let requestId ← FieldReader.word32
  let flags ← FieldReader.word32
  let payloadLength ← FieldReader.word32
  return ⟨version, operation, requestId, flags, payloadLength⟩

/-- The header at the front of a datagram; a shorter datagram lacks all of it. -/
def decode (datagram : Bytes) : Except FormatError Header :=
  if datagram.length < size then .error (.truncated size datagram.length)
  else reader.value? datagram

def isError (header : Header) : Bool :=
  header.operation &&& errorMask != 0

def isAtMostOnce (header : Header) : Bool :=
  header.flags &&& atMostOnceFlag != 0

def isNotice (header : Header) : Bool :=
  header.flags &&& noticeFlag != 0

@[simp]
theorem length_bytes (header : Header) : header.bytes.length = size := rfl

@[simp]
theorem reader_append (header : Header) (rest : Bytes) :
    reader (header.bytes ++ rest) = (.ok header, rest) := by
  simp only [bytes, List.append_assoc, reader, bind, FieldReader.word16_append,
    FieldReader.word32_append, pure]

@[simp]
theorem decode_append (header : Header) (rest : Bytes) :
    decode (header.bytes ++ rest) = .ok header := by
  rw [decode, if_neg (by simp), FieldReader.value?, reader_append]

end Header

namespace Datagram

/-- A datagram of the given header and payload; the header announces the payload's length. -/
def frame (header : Header) (payload : Bytes) : Bytes :=
  { header with payloadLength := .ofNat payload.length }.bytes ++ payload

/-- The header of a datagram and the payload that it announces. -/
def split (datagram : Bytes) : Except FormatError (Header × Bytes) :=
  match Header.decode datagram with
  | .error cause => .error cause
  | .ok header =>
      let body := datagram.drop Header.size
      if body.length < header.payloadLength.toNat then
        .error (.payloadLength header.payloadLength body.length)
      else .ok (header, body.take header.payloadLength.toNat)

end Datagram

end FacilityBooking
