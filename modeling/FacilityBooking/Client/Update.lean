import FacilityBooking.Datagram.Header
import FacilityBooking.Message.Response

/-!
# Updates

What a watcher reads from the notices that the service pushes: the free intervals
of one day. A datagram that is no notice is passed over.
-/

namespace FacilityBooking

structure Update where
  intervals : List Interval
  deriving DecidableEq, Repr

namespace Update

/-- The day of an update; a day without free time leaves no interval to tell it by. -/
def day? (update : Update) : Option Day :=
  update.intervals.head?.map fun interval => interval.start.day

/-- The update in a datagram, if it is a notice of availability. -/
def ofDatagram? (datagram : Bytes) : Option Update :=
  match Datagram.split datagram with
  | .error _ => none
  | .ok (header, payload) =>
      if header.isNotice ∧ header.operation = Operation.queryAvailability.code then
        match Response.decode .queryAvailability payload with
        | .ok (.availability intervals) => some ⟨intervals⟩
        | _ => none
      else none

/-- Takes the datagram in a buffer, whole, and reads it. -/
def take (buffer : Bytes) : Option Update × Bytes :=
  (ofDatagram? buffer, [])

end Update

end FacilityBooking
