import FacilityBooking.Proofs.Client.Results
import FacilityBooking.Proofs.Service.Executions
import FacilityBooking.Service.Server
import Mathlib.Logic.Function.Basic

/-!
# Callers and a service over a network

Any number of callers, each at an address of its own, ask one service for at most one
execution of each request. The network between them loses, delays, repeats and reorders
datagrams, and makes up none. A state of this world holds everything that is on its way,
as whatever was sent may arrive at any later time and any number of times.
-/

namespace FacilityBooking

/-- What became of an attempt to send a datagram: it could not be sent, or it was, and
some receptions came before the attempt was over. -/
abbrev Attempt : Type :=
  Except NetworkError (List Reception)

/-- A network of which it is known what becomes of each attempt. Nothing comes of those
that are not known. -/
def Channel.scripted : Channel (List Attempt) := fun _ attempts =>
  match attempts with
  | [] => (.ok [], [])
  | attempt :: rest => (attempt, rest)

/-- A call that has begun. -/
structure Call where
  /-- The caller as it was before. -/
  caller : Caller
  request : Request
  /-- What became of the attempts so far, the latest of which comes first. -/
  attempts : List Attempt := []

namespace Call

/-- What the call comes to if nothing more arrives, and the caller afterwards. -/
def run (call : Call) : Outcome Response × Caller × List Attempt :=
  call.caller.request Channel.scripted call.request .atMostOnce call.attempts.reverse

def result (call : Call) : Except CallError Response :=
  call.run.1.result

/-- The copy that the next attempt sends. There is none if a result was received, if an
attempt failed, or if no attempts are left. -/
def nextCopy? (call : Call) : Option Bytes :=
  call.run.1.sent[call.attempts.length]?

/-- The call after one more attempt. -/
def tried (call : Call) (attempt : Attempt) : Call :=
  { call with attempts := attempt :: call.attempts }

/-- The datagram of which all copies are sent, if the request has an encoding. -/
def datagram? (call : Call) : Option Bytes :=
  call.request.payload.toOption.map fun payload =>
    call.caller.datagram call.request payload .atMostOnce

/-- The id of the request, if it takes one. -/
def id? (call : Call) : Option UInt32 :=
  call.request.payload.toOption.map fun _ => call.caller.ids.draw.1

end Call

/-- A caller at an address of its own. -/
structure Station where
  /-- The caller as it was before the call that is being made. -/
  caller : Caller
  /-- The call that is being made. -/
  current : Option Call := none
  /-- The calls that are over, in order. -/
  past : List Call := []
  /-- Every copy that was ever sent. -/
  sent : List Bytes := []

namespace Station

/-- All calls that were begun, in order. -/
def calls (station : Station) : List Call :=
  station.past ++ station.current.toList

variable {station : Station}

theorem calls_of_idle (hidle : station.current = none) : station.calls = station.past := by
  rw [calls, hidle]
  exact List.append_nil _

theorem calls_of_current {call : Call} (hcurrent : station.current = some call) :
    station.calls = station.past ++ [call] := by
  rw [calls, hcurrent]
  rfl

end Station

/-- The parcels that the service sends at a moment. -/
def Moment.parcels (moment : Moment) : List Parcel :=
  match moment.event with
  | .sweep _ => []
  | .arrival datagram peer now => (moment.service.handle datagram peer now).1.parcels peer

structure World where
  /-- Where the service listens. -/
  server : Address
  /-- How long the service is set to keep replies. -/
  lifetime : Nat
  /-- What has happened to the service, in order. -/
  events : List Event := []
  stations : Address → Station

namespace World

/-- The history of the service, which always keeps the replies asked for. -/
def history (world : World) : List Moment :=
  (Service.new world.lifetime true).history world.events

/-- The network may let something arrive at an address: a failure, a datagram from
elsewhere, or one that the service sent there. -/
def Offers (world : World) (address : Address) : Reception → Prop
  | .failure => True
  | .datagram source bytes =>
      source ≠ world.server ∨
        ∃ moment ∈ world.history, ∃ parcel ∈ moment.parcels,
          parcel.target = address ∧ parcel.datagram = bytes

/-- The world with another station at an address. -/
def settle (world : World) (address : Address) (station : Station) : World :=
  { world with stations := Function.update world.stations address station }

@[simp]
theorem stations_settle_self (world : World) (address : Address) (station : Station) :
    (world.settle address station).stations address = station :=
  Function.update_self ..

@[simp]
theorem stations_settle_of_ne (world : World) {address other : Address} (hne : other ≠ address)
    (station : Station) : (world.settle address station).stations other = world.stations other :=
  Function.update_of_ne hne ..

/-- The world after one more event of the service. -/
def happen (world : World) (event : Event) : World :=
  { world with events := world.events ++ [event] }

/-- The world before any call, with the given settings of the callers. -/
def start (server : Address) (lifetime : Nat) (policy : Address → RetryPolicy)
    (ids : Address → RequestIds) : World where
  server := server
  lifetime := lifetime
  stations address := { caller := .new server (policy address) (ids address) }

/-- What can happen next. -/
inductive Step (world : World) : World → Prop where
  /-- A caller that is not making a call begins one. -/
  | begin (address : Address) (request : Request)
      (hidle : (world.stations address).current = none) :
      Step world (world.settle address { world.stations address with
        current := some ⟨(world.stations address).caller, request, []⟩ })
  /-- A caller sends a copy: the first one, or the next one as its time ran out. -/
  | transmit (address : Address) (call : Call) (copy : Bytes)
      (hcurrent : (world.stations address).current = some call)
      (hcopy : call.nextCopy? = some copy) :
      Step world (world.settle address { world.stations address with
        current := some (call.tried (.ok []))
        sent := (world.stations address).sent ++ [copy] })
  /-- A copy cannot be sent. -/
  | fail (address : Address) (call : Call) (copy : Bytes) (cause : NetworkError)
      (hcurrent : (world.stations address).current = some call)
      (hcopy : call.nextCopy? = some copy) :
      Step world (world.settle address { world.stations address with
        current := some (call.tried (.error cause)) })
  /-- A call is over: it has a result, or its last time ran out. -/
  | finish (address : Address) (call : Call)
      (hcurrent : (world.stations address).current = some call)
      (hdone : call.nextCopy? = none) :
      Step world (world.settle address { world.stations address with
        caller := call.run.2.1
        current := none
        past := (world.stations address).past ++ [call] })
  /-- Something arrives at a caller that waits for a reply. -/
  | hear (address : Address) (call : Call) (arrived : List Reception) (reception : Reception)
      (hcurrent : (world.stations address).current = some (call.tried (.ok arrived)))
      (hoffers : world.Offers address reception) :
      Step world (world.settle address { world.stations address with
        current := some (call.tried (.ok (arrived ++ [reception]))) })
  /-- Something arrives at a caller between its calls. -/
  | wait (address : Address) (reception : Reception)
      (hidle : (world.stations address).current = none)
      (hoffers : world.Offers address reception) :
      Step world (world.settle address { world.stations address with
        caller := { (world.stations address).caller with
          inbox := (world.stations address).caller.inbox ++ [reception] } })
  /-- A copy that was sent arrives at the service. -/
  | arrive (address : Address) (copy : Bytes) (now : Nat)
      (hsent : copy ∈ (world.stations address).sent) :
      Step world (world.happen (.arrival copy address now))
  | sweep (now : Nat) : Step world (world.happen (.sweep now))

/-- The outcomes of all executions of a call of a station. -/
def executions (world : World) (address : Address) (call : Call) :
    List (Except Rejection Execution) :=
  match call.datagram? with
  | none => []
  | some datagram => FacilityBooking.executions world.history address datagram

theorem executions_of_datagram (world : World) (address : Address) {call : Call}
    {datagram : Bytes} (hdatagram : call.datagram? = some datagram) :
    world.executions address call =
      FacilityBooking.executions world.history address datagram := by
  rw [executions, hdatagram]

end World

end FacilityBooking
