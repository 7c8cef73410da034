import FacilityBooking.Calendar.Interval
import FacilityBooking.Message.ErrorReply

/-!
# Refusals

Why the booking desk does not carry out an operation, the kind of error that
each reason is, and its wording.
-/

namespace FacilityBooking

/-- Bookings are numbered from 1 in the order in which they are made. The numbers have no
bound; while fewer than 2^63 bookings were made, they agree with those of 64 bits with a
sign, in which they travel. -/
abbrev BookingId := Int

/-- The number as messages show it: in the 64 bits with a sign that it travels in. -/
def BookingId.text (booking : BookingId) : String :=
  toString (Int64.ofInt booking)

/-- Whose name a name is. -/
inductive NameHolder where
  | facility
  | user
  deriving DecidableEq, Repr

def NameHolder.label : NameHolder → String
  | facility => "facility"
  | user => "user"

/-- The bounds that an operation may run into. -/
inductive Limit where
  | facilityName
  | userName
  | facilities
  | bookings
  | watches
  deriving DecidableEq, Repr

def Limit.message : Limit → String
  | facilityName => "facility name too long"
  | userName => "user name too long"
  | facilities => "too many facilities"
  | bookings => "too many bookings on facility"
  | watches => "too many monitors"

/-- States that no sequence of operations reaches. -/
inductive Fault where
  /-- A booking names a facility that has no timetable. -/
  | orphan (booking : BookingId)
  /-- A span of a timetable has no interval. -/
  | unscheduled (cause : InvalidTime)
  deriving DecidableEq, Repr

def Fault.message : Fault → String
  | orphan booking => s!"booking {BookingId.text booking} has no facility"
  | unscheduled cause => cause.message

inductive Refusal where
  | notFound (booking : BookingId)
  | conflict (booking : BookingId)
  | outsideWeek (start stop : Int)
  | emptySpan (span : Span)
  | emptyName (holder : NameHolder)
  | limitExceeded (limit : Limit)
  | internal (fault : Fault)
  deriving DecidableEq, Repr

namespace Refusal

def category : Refusal → ErrorCategory
  | notFound .. => .notFound
  | conflict .. | outsideWeek .. => .conflict
  | emptySpan .. | emptyName .. | limitExceeded .. => .badRequest
  | internal .. => .internal

def message : Refusal → String
  | notFound booking => s!"booking not found: {BookingId.text booking}"
  | conflict booking => s!"conflict with booking: {BookingId.text booking}"
  | outsideWeek start stop => s!"shifted booking [{start}, {stop}) leaves the week"
  | emptySpan span => s!"booking must end after it starts: [{span.start}, {span.stop})"
  | emptyName holder => s!"{holder.label} name must not be empty"
  | limitExceeded limit => "limit exceeded: " ++ limit.message
  | internal fault => "internal error: " ++ fault.message

end Refusal

end FacilityBooking
