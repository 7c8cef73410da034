import FacilityBooking.Proofs.Service.Notices
import FacilityBooking.Proofs.Service.WatchTable

/-!
# Watches and their history

What a registry of watches answers follows from the calls before: the watches that were
accepted stand in their order, without those that a sweep found expired. Times need not come
in order.
-/

namespace FacilityBooking

/-- A sweep takes away the watches whose time is over, and no other call takes any. -/
def WatchCall.spares (call : WatchCall) (watch : Watch) : Bool :=
  match call with
  | .sweep now => watch.isLive now
  | _ => true

namespace WatchTable

def after (table : WatchTable) (calls : List WatchCall) : WatchTable :=
  calls.foldl (fun table call => (table.step call).2) table

def answers (table : WatchTable) : List WatchCall → List WatchAnswer
  | [] => []
  | call :: rest => (table.step call).1 :: (table.step call).2.answers rest

end WatchTable

namespace WatchList

def after (list : WatchList) (calls : List WatchCall) : WatchList :=
  calls.foldl (fun list call => (list.step call).2) list

def answers (list : WatchList) : List WatchCall → List WatchAnswer
  | [] => []
  | call :: rest => (list.step call).1 :: (list.step call).2.answers rest

variable {list : WatchList}

/-! ## One call -/

example :
    empty.answers [.register ⟨"10.0.0.9", 5000⟩ "Lab" 5 0, .activeFor "Lab" 4, .sweep 7,
        .activeFor "Lab" 4] =
      [.registered (.ok 5), .active [⟨"Lab", ⟨"10.0.0.9", 5000⟩, 5⟩], .swept 1, .active []] :=
  rfl

end WatchList

end FacilityBooking
