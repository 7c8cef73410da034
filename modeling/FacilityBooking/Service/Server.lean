import FacilityBooking.Network.Host
import FacilityBooking.Service.Tally

/-!
# The server

One datagram at a time is handled, and its reply and notices are handed to the
network, which carries, loses or refuses each of them. Everything that happens
is counted.
-/

namespace FacilityBooking

/-- A datagram on its way out. -/
structure Parcel where
  target : Address
  datagram : Bytes
  isNotice : Bool
  deriving DecidableEq, Repr

/-- What the network makes of a parcel. -/
inductive Fate where
  | sent
  /-- Lost on purpose. -/
  | lost
  | refused (cause : NetworkError)
  deriving DecidableEq, Repr

/-- The parcels of a verdict on a datagram of `peer`: the reply, then the notices. -/
def Verdict.parcels (verdict : Verdict) (peer : Address) : List Parcel :=
  match verdict.reply? with
  | none => []
  | some reply =>
      ⟨peer, reply, false⟩ :: verdict.notices.map fun notice =>
        ⟨notice.target, notice.datagram, true⟩

namespace Parcel

/-- What the fate of a parcel adds to the counters. -/
def counters (parcel : Parcel) : Fate → List Counter
  | .sent => if parcel.isNotice then [.noticesSent] else []
  | .lost => [.dropped .simulated]
  | .refused _ => [.dropped .sendError]

/-- The warning that a refused parcel gives rise to. -/
def warning? (parcel : Parcel) : Fate → Option String
  | .refused cause => some ("send to " ++ parcel.target.text ++ " failed: " ++ cause.message)
  | _ => none

end Parcel

/-- A way to send parcels: what becomes of one, and the network behind it. -/
abbrev Carrier (network : Type) : Type :=
  Parcel → network → Fate × network

/-- The fates of parcels that are sent one after the other. -/
def Carrier.sendAll {network : Type} (carrier : Carrier network) :
    List Parcel → network → List (Parcel × Fate) × network
  | [], state => ([], state)
  | parcel :: rest, state =>
      let (fate, state) := carrier parcel state
      let (fates, state) := sendAll carrier rest state
      ((parcel, fate) :: fates, state)

structure Server where
  service : Service
  tally : Tally := .empty

namespace Server

/-- Handle a datagram of a peer; the parcels that it gives rise to are still to be sent. -/
def handle (server : Server) (datagram : Bytes) (peer : Address) (now : Nat) :
    List Parcel × Server :=
  let (verdict, service) := server.service.handle datagram peer now
  (verdict.parcels peer, { service, tally := server.tally.addAll verdict.counters })

/-- Count what became of parcels. -/
def record (server : Server) (fates : List (Parcel × Fate)) : Server :=
  { server with
    tally := server.tally.addAll (fates.flatMap fun (parcel, fate) => parcel.counters fate) }

/-- Handle a datagram of a peer and send what it gives rise to. -/
def receive {network : Type} (server : Server) (carrier : Carrier network) (datagram : Bytes)
    (peer : Address) (now : Nat) (state : network) :
    List (Parcel × Fate) × Server × network :=
  let (parcels, server) := server.handle datagram peer now
  let (fates, state) := carrier.sendAll parcels state
  (fates, server.record fates, state)

/-- Forget what has expired. -/
def sweep (server : Server) (now : Nat) : Server :=
  { server with service := (server.service.sweep now).2 }

end Server

end FacilityBooking
