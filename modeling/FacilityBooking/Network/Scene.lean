import FacilityBooking.Client.Update
import FacilityBooking.Network.Loopback

/-!
# Callers and listeners of a service

A service on one host with a caller for each guarantee, and with listeners that
collect the updates pushed to them.
-/

namespace FacilityBooking

/-- A caller at an address of its own. -/
structure Seat where
  guarantee : Guarantee
  address : Address
  caller : Caller

structure Scene where
  world : Loopback
  seats : List Seat := []
  listeners : List (String × Address) := []

namespace Scene

/-- The scene of a service before any call. -/
def start (world : Loopback) (policy : RetryPolicy) : Scene :=
  let seat (guarantee : Guarantee) (port : UInt16) : Seat :=
    ⟨guarantee, ⟨"127.0.0.1", port⟩, .new world.address policy ⟨1⟩⟩
  let seats := [seat .atLeastOnce 20001, seat .atMostOnce 20002]
  { world := seats.foldl (fun world seat => world.openAt seat.address) world, seats }

/-- The scene with one more listener. -/
def listen (scene : Scene) (name : String) : Scene :=
  let address : Address := ⟨"127.0.0.1", .ofNat (30000 + scene.listeners.length)⟩
  { scene with
    world := scene.world.openAt address
    listeners := scene.listeners ++ [(name, address)] }

/-- The port of a listener. -/
def portOf? (scene : Scene) (name : String) : Option UInt16 :=
  (scene.listeners.lookup name).map (·.port)

/-- The updates that a listener received since it was last asked. -/
def collect (scene : Scene) (name : String) : List Update × Scene :=
  match scene.listeners.lookup name with
  | none => ([], scene)
  | some address =>
      let (datagrams, world) := scene.world.collect address
      (datagrams.filterMap Update.ofDatagram?, { scene with world })

/-- A call as the caller with the given guarantee makes it, over a network in which
some datagrams get lost. -/
def call {α : Type} (scene : Scene) (guarantee : Guarantee) (disturbance : Disturbance)
    (make : Caller → Channel (Disturbance × Loopback) → Disturbance × Loopback →
      Outcome α × Caller × Disturbance × Loopback) : Option (Outcome α × Scene) := do
  let seat ← scene.seats.find? fun seat => seat.guarantee = guarantee
  let (outcome, caller, _, world) :=
    make seat.caller (Loopback.channel seat.address scene.world.address) (disturbance, scene.world)
  let seats := scene.seats.map fun other =>
    if other.guarantee = guarantee then { other with caller } else other
  return (outcome, { scene with world, seats })

end Scene

end FacilityBooking
