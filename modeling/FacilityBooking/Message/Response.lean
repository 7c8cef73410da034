import FacilityBooking.Datagram.Field
import FacilityBooking.Message.Operation

/-!
# Responses

What a caller gets when its request was carried out, and the payload that
carries it. The operation is not part of the payload: whoever reads a response
knows what it asked for.
-/

namespace FacilityBooking

inductive Response where
  | availability (intervals : List Interval)
  | booked (booking : Int64)
  | changed (interval : Interval)
  | monitoring
  | reset (removed : UInt32)
  | usage (count : Int64)
  deriving DecidableEq, Repr

namespace Response

/-- The operation that a response answers. -/
def operation : Response → Operation
  | availability .. => .queryAvailability
  | booked .. => .book
  | changed .. => .changeBooking
  | monitoring => .monitor
  | reset .. => .resetDay
  | usage .. => .incrementUsage

def payload : Response → Bytes
  | availability intervals => Field.intervalsBytes intervals
  | booked booking => Field.int64Bytes booking
  | changed interval => Field.intervalBytes interval
  | monitoring => Field.word16Bytes 1
  | reset removed => Field.word32Bytes removed
  | usage count => Field.int64Bytes count

/-- The response to an operation. The word that confirms a monitor is not judged. -/
def reader : Operation → FieldReader Response
  | .queryAvailability => do
      let intervals ← FieldReader.intervals
      return .availability intervals
  | .book => do
      let booking ← FieldReader.int64
      return .booked booking
  | .changeBooking => do
      let interval ← FieldReader.interval
      return .changed interval
  | .monitor => do
      let _ ← FieldReader.word16
      return .monitoring
  | .resetDay => do
      let removed ← FieldReader.word32
      return .reset removed
  | .incrementUsage => do
      let count ← FieldReader.int64
      return .usage count

/-- The response that a payload holds; bytes behind it are ignored. -/
def decode (operation : Operation) (payload : Bytes) : Except FormatError Response :=
  (reader operation).value? payload

end Response

end FacilityBooking
