import FacilityBooking.Desk.Availability
import FacilityBooking.Ledger.Basic

/-!
# The booking desk

The ledger and the usage counts, and what can be asked of them. An operation
that may be refused returns its outcome together with the desk afterwards, so
that the state behind a refusal is part of what it does.
-/

namespace FacilityBooking

structure Desk where
  ledger : Ledger
  /-- How often each facility was used. The counts have no bound; while a facility was
  used fewer than 2^63 times, its count agrees with one of 64 bits with a sign. -/
  usage : Std.ExtTreeMap String Nat

/-- A booking that was moved: where it was and where it is. -/
structure Shift where
  booking : BookingId
  facility : String
  source : Span
  target : Span
  deriving DecidableEq, Repr

def Shift.interval (shift : Shift) : Except Refusal Interval :=
  (Interval.ofSpan shift.target).mapError fun cause => .internal (.unscheduled cause)

namespace Desk

def empty : Desk where
  ledger := .empty
  usage := ∅

instance : Inhabited Desk := ⟨empty⟩

/-! ## Booking -/

/-- A booking covers at least one minute and stays inside the week. -/
def checkSpan (span : Span) : Except Refusal Unit :=
  if span.stop ≤ span.start then .error (.emptySpan span)
  else if span.start < 0 ∨ minutesPerWeek ≤ span.stop then
    .error (.outsideWeek span.start span.stop)
  else .ok ()

def checkUser (user : String) : Except Refusal Unit :=
  if user.isEmpty then .error (.emptyName .user)
  else if Limits.userNameBytes < user.utf8ByteSize then .error (.limitExceeded .userName)
  else .ok ()

/-- Book the time from `start` to `stop`, unless a booking of the facility overlaps it. -/
def book (desk : Desk) (facility user : String) (start stop : WeekTime) :
    Except Refusal BookingId × Desk :=
  let span : Span := ⟨start.toMinute, stop.toMinute⟩
  match checkUser user *> checkSpan span *> desk.ledger.ensure facility with
  | .error refusal => (.error refusal, desk)
  | .ok ledger =>
      let timetable := ledger.timetables.getD facility (Timetable.mk facility [])
      match timetable.firstConflict? span none with
      | some other => (.error (.conflict other), { desk with ledger })
      | none =>
          let (id, ledger) := ledger.allocate
          match ledger.insert ⟨id, facility, user, span⟩ with
          | .error refusal => (.error refusal, { desk with ledger })
          | .ok ledger => (.ok id, { desk with ledger })

/-- The nearest number that fits into 32 bits with a sign. -/
def clampMinute (minute : Int) : Int :=
  max (-0x80000000) (min minute 0x7fffffff)

/-- Move a booking by `offset` minutes. The week does not wrap around. -/
def change (desk : Desk) (id : BookingId) (offset : Int) : Except Refusal Shift × Desk :=
  match desk.ledger.bookings[id]? with
  | none => (.error (.notFound id), desk)
  | some booking =>
      let target : Span := ⟨booking.span.start + offset, booking.span.stop + offset⟩
      if target.start < 0 ∨ minutesPerWeek ≤ target.stop then
        (.error (.outsideWeek (clampMinute target.start) (clampMinute target.stop)), desk)
      else
        match desk.ledger.timetables[booking.facility]? with
        | none => (.error (.internal (.orphan id)), desk)
        | some timetable =>
            match timetable.firstConflict? target (some id) with
            | some other => (.error (.conflict other), desk)
            | none =>
                match desk.ledger.move id target with
                | .error refusal => (.error refusal, desk)
                | .ok (source, ledger) =>
                    (.ok ⟨id, booking.facility, source, target⟩, { desk with ledger })

/-- Remove the bookings of a facility that start on a day, and return them. -/
def resetDay (desk : Desk) (facility : String) (day : Day) :
    Except Refusal (List Booking) × Desk :=
  match desk.ledger.ensure facility with
  | .error refusal => (.error refusal, desk)
  | .ok ledger =>
      let doomed := (ledger.slotsOf facility).filter fun slot =>
        Day.ofMinute? slot.span.start = some day
      let (outcome, ledger) := ledger.removeAll (doomed.map (·.booking))
      (outcome, { desk with ledger })

/-! ## Counting -/

def usageOf (desk : Desk) (facility : String) : Nat :=
  desk.usage.getD facility 0

/-- Count one more use of a facility, and return the new count. -/
def incrementUsage (desk : Desk) (facility : String) : Except Refusal Nat × Desk :=
  match desk.ledger.ensure facility with
  | .error refusal => (.error refusal, desk)
  | .ok ledger =>
      let count := desk.usageOf facility + 1
      (.ok count, { ledger, usage := desk.usage.insert facility count })

/-! ## Looking -/

/-- The free intervals of a facility on a day, in order. -/
def freeOn (desk : Desk) (facility : String) (day : Day) : Except Refusal (List Interval) :=
  (Availability.freeSpans desk.ledger.timetables[facility]? day).mapM fun span =>
    (Interval.ofSpan span).mapError fun cause => .internal (.unscheduled cause)

/-- The free intervals of a facility on a day; the facility has a timetable afterwards. -/
def queryDay (desk : Desk) (facility : String) (day : Day) :
    Except Refusal (List Interval) × Desk :=
  match desk.ledger.ensure facility with
  | .error refusal => (.error refusal, desk)
  | .ok ledger =>
      let desk := { desk with ledger }
      (desk.freeOn facility day, desk)

/-- The days that some booking of a facility overlaps, Monday first. -/
def daysWithBookings (desk : Desk) (facility : String) : List Day :=
  Day.all.filter fun day =>
    (desk.ledger.slotsOf facility).any fun slot => slot.span.days.contains day

end Desk

end FacilityBooking
