import FacilityBooking.Datagram.Field
import FacilityBooking.Message.Operation

/-!
# Requests

What a caller sends: an operation with its arguments, and the payload that
carries the arguments.
-/

namespace FacilityBooking

inductive Request where
  | queryAvailability (facility : String) (day : Day)
  | book (facility user : String) (start stop : WeekTime)
  /-- Move a booking by a number of minutes, which travels in two's complement. -/
  | changeBooking (booking : Int64) (offset : Int32)
  /-- Push availability to a port of the caller's host for some seconds. -/
  | monitor (facility : String) (seconds port : UInt32)
  | resetDay (facility : String) (day : Day)
  | incrementUsage (facility : String)
  deriving DecidableEq, Repr

namespace Request

def operation : Request → Operation
  | queryAvailability .. => .queryAvailability
  | book .. => .book
  | changeBooking .. => .changeBooking
  | monitor .. => .monitor
  | resetDay .. => .resetDay
  | incrementUsage .. => .incrementUsage

/-- The payload of a request; a text too long for its length field has none. -/
def payload : Request → Except FormatError Bytes
  | queryAvailability facility day | resetDay facility day => do
      let facility ← Field.textBytes facility
      return facility ++ [Field.dayByte day]
  | book facility user start stop => do
      let facility ← Field.textBytes facility
      let user ← Field.textBytes user
      return facility ++ user ++ Field.timeBytes start ++ Field.timeBytes stop
  | changeBooking booking offset =>
      return Field.int64Bytes booking ++ Field.word32Bytes offset.toUInt32
  | monitor facility seconds port => do
      let facility ← Field.textBytes facility
      return facility ++ Field.word32Bytes seconds ++ Field.word32Bytes port
  | incrementUsage facility => Field.textBytes facility

/-- The arguments of an operation, in the order in which they are sent. -/
def reader : Operation → FieldReader Request
  | .queryAvailability => do
      let facility ← FieldReader.text
      let day ← FieldReader.day
      return .queryAvailability facility day
  | .book => do
      let facility ← FieldReader.text
      let user ← FieldReader.text
      let start ← FieldReader.time
      let stop ← FieldReader.time
      return .book facility user start stop
  | .changeBooking => do
      let booking ← FieldReader.int64
      let offset ← FieldReader.word32
      return .changeBooking booking offset.toInt32
  | .monitor => do
      let facility ← FieldReader.text
      let seconds ← FieldReader.word32
      let port ← FieldReader.word32
      return .monitor facility seconds port
  | .resetDay => do
      let facility ← FieldReader.text
      let day ← FieldReader.day
      return .resetDay facility day
  | .incrementUsage => do
      let facility ← FieldReader.text
      return .incrementUsage facility

/-- The request that a payload holds; bytes behind it are ignored. -/
def decode (operation : Operation) (payload : Bytes) : Except FormatError Request :=
  (reader operation).value? payload

end Request

end FacilityBooking
