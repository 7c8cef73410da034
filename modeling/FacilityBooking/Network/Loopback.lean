import FacilityBooking.Client.Caller
import FacilityBooking.Network.HostName
import FacilityBooking.Service.Loss
import FacilityBooking.Service.Server

/-!
# A service on one host

The service, its callers and their watchers on one host, as a state: what is sent
arrives at once, in order, unless the host refuses it or it is lost on purpose. No
time passes.
-/

namespace FacilityBooking

/-- An open address and what has arrived there. -/
structure Mailbox where
  address : Address
  arrived : List Bytes := []
  deriving DecidableEq, Repr

/-- What lies between the server and the open addresses. -/
structure Wire where
  host : Host
  loss : Loss
  mailboxes : List Mailbox := []

namespace Wire

/-- The datagram joins the mailbox of its target; at an address that is not open it
is gone. -/
def deposit (wire : Wire) (target : Address) (datagram : Bytes) : Wire :=
  { wire with mailboxes := wire.mailboxes.map fun mailbox =>
      if mailbox.address = target then { mailbox with arrived := mailbox.arrived ++ [datagram] }
      else mailbox }

/-- Carries a parcel of the server: it may be lost on purpose, or refused by the host. -/
def carry : Carrier Wire := fun parcel wire =>
  let (lost, loss) := wire.loss.next
  let wire := { wire with loss }
  if lost then (.lost, wire)
  else
    match wire.host.route parcel.target parcel.datagram.length with
    | .error cause => (.refused cause, wire)
    | .ok none => (.sent, wire)
    | .ok (some place) => (.sent, wire.deposit place parcel.datagram)

/-- The wire with an open address. -/
def openAt (wire : Wire) (address : Address) : Wire :=
  { wire with mailboxes := wire.mailboxes ++ [⟨address, []⟩] }

/-- What has arrived at an address, which is empty afterwards. -/
def collect (wire : Wire) (address : Address) : List Bytes × Wire :=
  ((wire.mailboxes.filter fun mailbox => mailbox.address = address).flatMap (·.arrived),
    { wire with mailboxes := wire.mailboxes.map fun mailbox =>
        if mailbox.address = address then { mailbox with arrived := [] } else mailbox })

end Wire

structure Loopback where
  /-- Where the server listens. -/
  address : Address
  server : Server
  wire : Wire
  /-- The warnings of the server so far. -/
  warnings : List String := []

/-- How many of a caller's next requests, and of the replies to it, get lost. -/
structure Disturbance where
  requests : Nat := 0
  replies : Nat := 0
  deriving DecidableEq, Repr

namespace Loopback

/-- A new service with the given settings on a port, or why it cannot listen. -/
def start (host : Host) (settings : Settings) (port : UInt16) :
    Except NetworkError Loopback :=
  match HostName.listener? settings.bind with
  | none => .error host.lookupError
  | some own =>
      match host.listenError? own with
      | some cause => .error cause
      | none => .ok {
          address := ⟨own, port⟩
          server := { service := .new settings.replyLifetime settings.atMostOnce }
          wire := { host, loss := .new settings.lossRate (settings.lossSeed.getD 0) } }

/-- Whether the server hears what arrives at an address. -/
def hears (world : Loopback) (place : Address) : Bool :=
  place.port == world.address.port &&
    (place.host == world.address.host || Host.isWildcard world.address.host)

/-- The server handles a datagram of a peer. -/
def receive (world : Loopback) (datagram : Bytes) (peer : Address) : Loopback :=
  let (fates, server, wire) := world.server.receive Wire.carry datagram peer 0 world.wire
  { world with
    server
    wire
    warnings := world.warnings ++ fates.filterMap fun (parcel, fate) => parcel.warning? fate }

/-- A peer sends a datagram to an address, if the host lets it. -/
def send (world : Loopback) (datagram : Bytes) (peer target : Address) :
    Except NetworkError Loopback := do
  match ← world.wire.host.route target datagram.length with
  | some place => return if world.hears place then world.receive datagram peer else world
  | none => return world

def openAt (world : Loopback) (address : Address) : Loopback :=
  { world with wire := world.wire.openAt address }

def collect (world : Loopback) (address : Address) : List Bytes × Loopback :=
  let (arrived, wire) := world.wire.collect address
  (arrived, { world with wire })

/-- Whether a datagram is a notice. -/
def isNotice (datagram : Bytes) : Bool :=
  match Header.decode datagram with
  | .ok header => header.isNotice
  | .error _ => false

/-- The network between the caller at one address and the server that it looks for at
another. A request that gets lost never reaches the server; a reply that gets lost was
sent all the same. -/
def channel (caller server : Address) : Channel (Disturbance × Loopback) :=
  fun datagram (disturbance, world) =>
    match world.wire.host.route server datagram.length with
    | .error cause => (.error cause, disturbance, world)
    | .ok none => (.ok [], disturbance, world)
    | .ok (some place) =>
        if !world.hears place then (.ok [], disturbance, world)
        else if 0 < disturbance.requests then
          (.ok [], { disturbance with requests := disturbance.requests - 1 }, world)
        else
          let (arrived, world) := (world.receive datagram caller).collect caller
          let (read, disturbance) :=
            if 0 < disturbance.replies ∧ arrived.any fun bytes => !isNotice bytes then
              (arrived.filter isNotice,
                { disturbance with replies := disturbance.replies - 1 })
            else (arrived, disturbance)
          (.ok (read.map (Reception.datagram place)), disturbance, world)

end Loopback

end FacilityBooking
