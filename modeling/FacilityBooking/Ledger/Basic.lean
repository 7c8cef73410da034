import FacilityBooking.Ledger.Timetable
import FacilityBooking.Limits
import Std.Data.ExtTreeMap

/-!
# The ledger

All timetables by facility and all bookings by number. A booking stands in both
places, and the operations below are the only ones that change them.
-/

namespace FacilityBooking

structure Booking where
  id : BookingId
  facility : String
  user : String
  span : Span
  deriving DecidableEq, Repr

structure Ledger where
  timetables : Std.ExtTreeMap String Timetable
  bookings : Std.ExtTreeMap BookingId Booking
  /-- The number that the next booking gets. It has no bound and never wraps around; the
  numbers given agree with those of 64 bits with a sign while fewer than 2^63 bookings were
  made. -/
  nextId : BookingId

namespace Ledger

def empty : Ledger where
  timetables := ∅
  bookings := ∅
  nextId := 1

instance : Inhabited Ledger := ⟨empty⟩

/-! ## Facilities -/

/-- The ledger with a timetable for the facility. A facility has one from the
first time that it is named, if its name and the number of facilities allow it. -/
def ensure (ledger : Ledger) (facility : String) : Except Refusal Ledger :=
  if facility.isEmpty then .error (.emptyName .facility)
  else if Limits.facilityNameBytes < facility.utf8ByteSize then
    .error (.limitExceeded .facilityName)
  else if facility ∈ ledger.timetables then .ok ledger
  else if Limits.facilities ≤ ledger.timetables.size then .error (.limitExceeded .facilities)
  else .ok { ledger with
    timetables := ledger.timetables.insert facility (Timetable.mk facility []) }

/-- The slots of a facility; one without a timetable has none. -/
def slotsOf (ledger : Ledger) (facility : String) : List Slot :=
  match ledger.timetables[facility]? with
  | some timetable => timetable.slots
  | none => []

/-! ## Bookings -/

/-- A number that no booking has had, and the ledger that will not give it again. -/
def allocate (ledger : Ledger) : BookingId × Ledger :=
  (ledger.nextId, { ledger with nextId := ledger.nextId + 1 })

def insert (ledger : Ledger) (booking : Booking) : Except Refusal Ledger := do
  let ledger ← ledger.ensure booking.facility
  let timetable := ledger.timetables.getD booking.facility (Timetable.mk booking.facility [])
  if Limits.bookingsPerFacility ≤ timetable.slots.length then
    throw (.limitExceeded .bookings)
  return { ledger with
    timetables := ledger.timetables.insert booking.facility
      (timetable.insert booking.span booking.id)
    bookings := ledger.bookings.insert booking.id booking }

/-- The booking moved to another span; its old span comes with the new ledger. -/
def move (ledger : Ledger) (id : BookingId) (span : Span) : Except Refusal (Span × Ledger) :=
  match ledger.bookings[id]? with
  | none => .error (.notFound id)
  | some booking =>
      match ledger.timetables[booking.facility]? with
      | none => .error (.internal (.orphan id))
      | some timetable => .ok (booking.span, { ledger with
          timetables := ledger.timetables.insert booking.facility
            ((timetable.erase id).insert span id)
          bookings := ledger.bookings.insert id { booking with span := span } })

/-- The booking with the given number, and the ledger without it. -/
def remove? (ledger : Ledger) (id : BookingId) : Option (Booking × Ledger) :=
  match ledger.bookings[id]? with
  | none => none
  | some booking =>
      let timetables :=
        match ledger.timetables[booking.facility]? with
        | some timetable => ledger.timetables.insert booking.facility (timetable.erase id)
        | none => ledger.timetables
      some (booking, { ledger with timetables, bookings := ledger.bookings.erase id })

/-- The bookings of a facility in the order of their starts. -/
def bookingsOf (ledger : Ledger) (facility : String) : List Booking :=
  (ledger.slotsOf facility).filterMap fun slot => ledger.bookings[slot.booking]?

/-- Removes the bookings one by one; one that is missing ends the work there. -/
def removeAll : List BookingId → Ledger → Except Refusal (List Booking) × Ledger
  | [], ledger => (.ok [], ledger)
  | id :: rest, ledger =>
      match ledger.remove? id with
      | none => (.error (.notFound id), ledger)
      | some (booking, ledger) =>
          let (outcome, ledger) := removeAll rest ledger
          (outcome.map (booking :: ·), ledger)

end Ledger

end FacilityBooking
