import FacilityBooking.Datagram.Header
import FacilityBooking.Desk.Basic
import FacilityBooking.Message.Request
import FacilityBooking.Message.Response
import FacilityBooking.Service.ReplyCache
import FacilityBooking.Service.WatchList

/-!
# Handling datagrams

A datagram is answered from the reply cache, or carried out at the booking desk
and answered with a response or an error reply. When a booking changed, every
live watcher of its facility is told the availability of every day concerned.
-/

namespace FacilityBooking

/-- What the service holds. -/
structure Service where
  desk : Desk
  cache : ReplyCache
  watches : WatchList
  /-- Whether callers may ask for at most one execution. -/
  atMostOnce : Bool

/-- A datagram for a watcher. -/
structure Notice where
  target : Address
  datagram : Bytes
  deriving DecidableEq, Repr

/-- A facility whose bookings changed. -/
structure Touched where
  facility : String
  /-- Days to report even if nothing is booked on them any more. -/
  extraDays : List Day
  deriving DecidableEq, Repr

/-- An operation that was carried out. -/
structure Execution where
  response : Response
  touched : Option Touched := none
  deriving DecidableEq, Repr

/-- Why a request was not carried out. -/
inductive Rejection where
  | refused (cause : Refusal)
  | malformed (cause : FormatError)
  | portOutOfRange (port : UInt32)
  | watchTooLong (seconds : UInt32)
  deriving DecidableEq, Repr

def Rejection.reply : Rejection → ErrorReply
  | refused cause => ⟨cause.category, cause.message⟩
  | malformed cause => ⟨.badRequest, cause.message⟩
  | portOutOfRange port => ⟨.badRequest, s!"callback port {port} out of range"⟩
  | watchTooLong seconds => ⟨.badRequest, s!"monitor window of {seconds}s exceeds one week"⟩

/-- What became of a datagram. -/
inductive Verdict where
  /-- It is too broken to address a reply to. -/
  | malformed (cause : FormatError)
  /-- It was answered before, and is answered with the same bytes. -/
  | replayed (operation : Option Operation) (reply : Bytes)
  /-- It was carried out, or refused for an error of the given category. -/
  | executed (operation : Option Operation) (failure : Option ErrorCategory) (reply : Bytes)
      (notices : List Notice)
  deriving DecidableEq, Repr

namespace Verdict

def reply? : Verdict → Option Bytes
  | malformed .. => none
  | replayed _ reply => some reply
  | executed _ _ reply _ => some reply

def notices : Verdict → List Notice
  | executed _ _ _ notices => notices
  | _ => []

end Verdict

namespace Service

def new (replyLifetime : Nat) (atMostOnce : Bool) : Service where
  desk := .empty
  cache := .new replyLifetime
  watches := .empty
  atMostOnce := atMostOnce

/-! ## Carrying out -/

/-- Register the caller's host and a port of it as a watcher. -/
def watch (service : Service) (facility : String) (seconds port : UInt32) (peer : Address)
    (now : Nat) : Except Rejection Execution × Service :=
  if 65535 < port.toNat then (.error (.portOutOfRange port), service)
  else if Limits.watchSeconds < seconds.toNat then (.error (.watchTooLong seconds), service)
  else
    let target := peer.atPort port.toUInt16
    match service.watches.register target facility (seconds.toNat * Limits.second) now with
    | .error cause => (.error (.refused cause), service)
    | .ok (_, watches) => (.ok { response := .monitoring }, { service with watches })

/-- Carry out a request of the given caller. -/
def perform (service : Service) (request : Request) (peer : Address) (now : Nat) :
    Except Rejection Execution × Service :=
  match request with
  | .queryAvailability facility day =>
      let (outcome, desk) := service.desk.queryDay facility day
      (match outcome with
        | .error cause => .error (.refused cause)
        | .ok free => .ok { response := .availability free },
        { service with desk })
  | .book facility user start stop =>
      let (outcome, desk) := service.desk.book facility user start stop
      (match outcome with
        | .error cause => .error (.refused cause)
        | .ok id => .ok { response := .booked (.ofInt id), touched := some ⟨facility, []⟩ },
        { service with desk })
  | .changeBooking booking offset =>
      let (outcome, desk) := service.desk.change booking.toInt offset.toInt
      (match outcome with
        | .error cause => .error (.refused cause)
        | .ok shift =>
            match shift.interval with
            | .error cause => .error (.refused cause)
            | .ok interval =>
                .ok { response := .changed interval
                      touched := some ⟨shift.facility, shift.source.days⟩ },
        { service with desk })
  | .monitor facility seconds port => service.watch facility seconds port peer now
  | .resetDay facility day =>
      let (outcome, desk) := service.desk.resetDay facility day
      (match outcome with
        | .error cause => .error (.refused cause)
        | .ok removed =>
            .ok { response := .reset (.ofNat removed.length)
                  touched := some ⟨facility, day :: removed.flatMap fun booking =>
                    booking.span.days⟩ },
        { service with desk })
  | .incrementUsage facility =>
      let (outcome, desk) := service.desk.incrementUsage facility
      (match outcome with
        | .error cause => .error (.refused cause)
        | .ok count => .ok { response := .usage (.ofNat count) },
        { service with desk })

/-- Carry out what a header and a payload ask for. -/
def execute (service : Service) (header : Header) (payload : Bytes) (peer : Address)
    (now : Nat) : Except Rejection Execution × Service :=
  if header.version ≠ protocolVersion then
    (.error (.malformed (.unsupportedVersion header.version)), service)
  else
    match Operation.ofCode header.operation with
    | .error cause => (.error (.malformed cause), service)
    | .ok operation =>
        match Request.decode operation payload with
        | .error cause => (.error (.malformed cause), service)
        | .ok request => service.perform request peer now

/-! ## Notices -/

/-- The days of which watchers are told: those with bookings and the extra ones. -/
def reportedDays (service : Service) (touched : Touched) : List Day :=
  let booked := service.desk.daysWithBookings touched.facility
  Day.all.filter fun day => booked.contains day || touched.extraDays.contains day

/-- The datagram that tells the availability of a facility on a day, if it is known. -/
def noticeDatagram? (service : Service) (facility : String) (day : Day) : Option Bytes :=
  match service.desk.freeOn facility day with
  | .ok free => some (Datagram.frame
      { operation := Operation.queryAvailability.code, requestId := 0, flags := noticeFlag }
      (Response.availability free).payload)
  | .error _ => none

/-- One datagram for each live watch of the facility and each day concerned. -/
def noticesFor (service : Service) (touched : Touched) (now : Nat) : List Notice :=
  match service.watches.activeFor touched.facility now with
  | [] => []
  | watches =>
      let datagrams := (service.reportedDays touched).filterMap
        (service.noticeDatagram? touched.facility)
      watches.flatMap fun watch => datagrams.map fun datagram => ⟨watch.target, datagram⟩

/-! ## Answering -/

/-- The answer to a request: its category of error, its bytes and its notices. -/
def answer (service : Service) (header : Header) (outcome : Except Rejection Execution)
    (now : Nat) : Option ErrorCategory × Bytes × List Notice :=
  match outcome with
  | .ok execution =>
      (none,
        Datagram.frame
          { operation := header.operation, requestId := header.requestId, flags := header.flags }
          execution.response.payload,
        match execution.touched with
        | some touched => service.noticesFor touched now
        | none => [])
  | .error rejection =>
      (some rejection.reply.category,
        Datagram.frame
          { operation := header.operation ||| errorMask, requestId := header.requestId
            flags := header.flags }
          rejection.reply.bytes,
        [])

/-- Handle a datagram of a peer. A request that asks for at most one execution is
answered from the cache if it can be, and its answer is kept if it cannot. -/
def handle (service : Service) (datagram : Bytes) (peer : Address) (now : Nat) :
    Verdict × Service :=
  match Datagram.split datagram with
  | .error cause => (.malformed cause, service)
  | .ok (header, payload) =>
      let operation := (Operation.ofCode header.operation).toOption
      let remembered := service.atMostOnce && header.isAtMostOnce
      let key : RequestKey := ⟨peer, header.requestId⟩
      match if remembered then service.cache.get? key now else none with
      | some reply => (.replayed operation reply, service)
      | none =>
          let (outcome, after) := service.execute header payload peer now
          let (failure, reply, notices) := after.answer header outcome now
          let cache := if remembered then after.cache.insert key reply now else after.cache
          (.executed operation failure reply notices, { after with cache })

/-- Forget the replies and watches whose time is over; their numbers are returned. -/
def sweep (service : Service) (now : Nat) : (Nat × Nat) × Service :=
  let (replies, cache) := service.cache.sweep now
  let (watches, list) := service.watches.sweep now
  ((replies, watches), { service with cache, watches := list })

end Service

end FacilityBooking
