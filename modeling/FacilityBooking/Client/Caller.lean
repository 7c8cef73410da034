import FacilityBooking.Client.CallError
import FacilityBooking.Client.RequestIds
import FacilityBooking.Message.Request
import FacilityBooking.Message.Response
import FacilityBooking.Service.Settings

/-!
# Callers

A caller sends a request and waits for its reply, and sends the very same datagram
again when none comes in time. The network is a function: it takes a datagram and
tells what arrives at the caller before the attempt is over. What a call leaves
unread waits for the next call.
-/

namespace FacilityBooking

/-- What a caller's socket yields. -/
inductive Reception where
  | datagram (source : Address) (bytes : Bytes)
  /-- A failure to receive, which is passed over. -/
  | failure
  deriving DecidableEq, Repr

/-- The network of a caller: what arrives after a datagram was sent, or why it could
not be sent. -/
abbrev Channel (network : Type) : Type :=
  Bytes → network → Except NetworkError (List Reception) × network

structure Caller where
  server : Address
  policy : RetryPolicy
  ids : RequestIds
  /-- What has arrived and is not read yet. -/
  inbox : List Reception := []

/-- A request on its way, by what its reply must fit. -/
structure Pending where
  server : Address
  operation : Operation
  id : UInt32
  deriving DecidableEq, Repr

/-- What a call came to. -/
structure Outcome (α : Type) where
  result : Except CallError α
  /-- The datagrams that were sent, in order. -/
  sent : List Bytes

namespace Pending

/-- What a reply with the given header means for the request that it answers. -/
def settle (pending : Pending) (header : Header) (payload : Bytes) : Except CallError Bytes :=
  if header.isError then
    match ErrorReply.decode payload with
    | .error cause => .error (.format cause)
    | .ok reply => .error (.refused reply)
  else if header.operation = pending.operation.code then .ok payload
  else .error (.format (.unexpectedOperation pending.operation.code header.operation))

/-- The result that a reception decides, if it is the reply to the request: it comes
from the server, it is a message and no notice, and it carries the request's id. -/
def judge? (pending : Pending) : Reception → Option (Except CallError Bytes)
  | .failure => none
  | .datagram source bytes =>
      if source ≠ pending.server then none
      else
        match Datagram.split bytes with
        | .error _ => none
        | .ok (header, payload) =>
            if header.isNotice ∨ header.requestId ≠ pending.id then none
            else some (pending.settle header payload)

/-- The first result in an inbox, and what stands behind it unread. -/
def await (pending : Pending) :
    List Reception → Option (Except CallError Bytes) × List Reception
  | [] => (none, [])
  | reception :: rest =>
      match pending.judge? reception with
      | some result => (some result, rest)
      | none => pending.await rest

/-- Send a datagram up to `attempts` times, until a result comes. -/
def attempt {network : Type} (pending : Pending) (channel : Channel network) (datagram : Bytes) :
    Nat → List Reception → network →
      Option (Except CallError Bytes) × Nat × List Reception × network
  | 0, inbox, state => (none, 0, inbox, state)
  | attempts + 1, inbox, state =>
      match channel datagram state with
      | (.error cause, state) => (some (.error (.network cause)), 0, inbox, state)
      | (.ok arrived, state) =>
          match pending.await (inbox ++ arrived) with
          | (some result, inbox) => (some result, 1, inbox, state)
          | (none, inbox) =>
              let (result, copies, inbox, state) :=
                pending.attempt channel datagram attempts inbox state
              (result, copies + 1, inbox, state)

end Pending

namespace Caller

/-- A caller of the server; it waits at most an hour for one reply. -/
def new (server : Address) (policy : RetryPolicy) (ids : RequestIds) : Caller where
  server := server
  policy := { policy with timeout := min policy.timeout Limits.attemptTimeout }
  ids := ids

/-- How often a request is sent at most; the count does not leave its 32 bits. -/
def attempts (caller : Caller) : Nat :=
  min (caller.policy.retries.toNat + 1) 0xffffffff

/-- Send the payload of an operation and wait for the payload of its reply. The id
is drawn once, and every copy of the datagram carries it. -/
def invoke {network : Type} (caller : Caller) (channel : Channel network) (operation : Operation)
    (payload : Bytes) (guarantee : Guarantee) (state : network) :
    Outcome Bytes × Caller × network :=
  let (id, ids) := caller.ids.draw
  let datagram := Datagram.frame
    { operation := operation.code, requestId := id, flags := guarantee.flags } payload
  let pending : Pending := ⟨caller.server, operation, id⟩
  let (result, copies, inbox, state) :=
    pending.attempt channel datagram caller.attempts caller.inbox state
  (⟨result.getD (.error (.undelivered caller.attempts)), List.replicate copies datagram⟩,
    { caller with ids, inbox }, state)

/-- Send a request and read its response. A request without an encoding is not sent,
and takes no id. -/
def request {network : Type} (caller : Caller) (channel : Channel network) (request : Request)
    (guarantee : Guarantee) (state : network) : Outcome Response × Caller × network :=
  match request.payload with
  | .error cause => (⟨.error (.format cause), []⟩, caller, state)
  | .ok payload =>
      let (outcome, caller, state) :=
        caller.invoke channel request.operation payload guarantee state
      let response := outcome.result.bind fun reply =>
        (Response.decode request.operation reply).mapError .format
      (⟨response, outcome.sent⟩, caller, state)

end Caller

end FacilityBooking
