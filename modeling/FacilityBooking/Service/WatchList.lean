import FacilityBooking.Address
import FacilityBooking.Ledger.Refusal
import FacilityBooking.Limits

/-!
# Watches

Who is notified when the availability of a facility changes, and for how long.
Watches stand in the order in which they were registered. One whose time is over
stays on the list until the next sweep, but no look-up returns it. Times are in
nanoseconds.
-/

namespace FacilityBooking

structure Watch where
  facility : String
  target : Address
  expiry : Nat
  deriving DecidableEq, Repr

/-- The time of a watch is not over. -/
def Watch.isLive (watch : Watch) (now : Nat) : Bool :=
  now < watch.expiry

structure WatchList where
  watches : Array Watch := #[]
  deriving DecidableEq, Repr

namespace WatchList

def empty : WatchList := {}

instance : Inhabited WatchList := ⟨empty⟩

def size (list : WatchList) : Nat :=
  list.watches.size

/-- Register a target for a time from now on; the time at which it ends is returned. -/
def register (list : WatchList) (target : Address) (facility : String) (duration now : Nat) :
    Except Refusal (Nat × WatchList) :=
  if facility.isEmpty then .error (.emptyName .facility)
  else if Limits.watches ≤ list.size then .error (.limitExceeded .watches)
  else .ok (now + duration, ⟨list.watches.push ⟨facility, target, now + duration⟩⟩)

/-- The live watches of a facility in the order of their registration. -/
def activeFor (list : WatchList) (facility : String) (now : Nat) : List Watch :=
  (list.watches.filter fun watch => watch.facility == facility && watch.isLive now).toList

/-- The list without the watches whose time is over, and how many these were. -/
def sweep (list : WatchList) (now : Nat) : Nat × WatchList :=
  let watches := list.watches.filter fun watch => watch.isLive now
  (list.size - watches.size, ⟨watches⟩)

end WatchList

end FacilityBooking
