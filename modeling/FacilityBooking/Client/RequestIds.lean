import FacilityBooking.Datagram.Header

/-!
# Request ids and guarantees

Where the ids of a caller's requests come from, and what a caller may ask the
service to promise about them.
-/

namespace FacilityBooking

/-- How often a request that is sent again may be carried out. -/
inductive Guarantee where
  | atLeastOnce
  /-- A request sent again is answered with the reply that was kept. -/
  | atMostOnce
  deriving DecidableEq, Repr

namespace Guarantee

instance : Inhabited Guarantee := ⟨atLeastOnce⟩

def all : List Guarantee :=
  [atLeastOnce, atMostOnce]

/-- The flags of a request with this guarantee. -/
def flags : Guarantee → UInt32
  | atLeastOnce => 0
  | atMostOnce => atMostOnceFlag

def name : Guarantee → String
  | atLeastOnce => "AtLeastOnce"
  | atMostOnce => "AtMostOnce"

end Guarantee

/-- A counter from which ids are drawn. The id 0 belongs to notices and is never drawn. -/
structure RequestIds where
  counter : UInt32
  deriving DecidableEq, Repr

namespace RequestIds

/-- The value of the counter, which is then one step further; it wraps around. -/
def fetch (ids : RequestIds) : UInt32 × RequestIds :=
  (ids.counter, ⟨ids.counter + 1⟩)

/-- The next id. -/
def draw (ids : RequestIds) : UInt32 × RequestIds :=
  let (id, ids) := ids.fetch
  if id = 0 then ids.fetch else (id, ids)

/-- The next `count` ids. -/
def take : Nat → RequestIds → List UInt32
  | 0, _ => []
  | count + 1, ids =>
      let (id, ids) := ids.draw
      id :: take count ids

theorem draw_ne_zero (ids : RequestIds) : ids.draw.1 ≠ 0 := by
  unfold draw fetch
  dsimp only
  split
  · next hzero => simp [hzero]
  · next hne => exact hne

end RequestIds

end FacilityBooking
