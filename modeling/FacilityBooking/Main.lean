import FacilityBooking.Client.Program
import FacilityBooking.Service.Loss
import FacilityBooking.Service.Server
import Std.Async.Select
import Std.Async.Signal
import Std.Async.TCP
import Std.Async.Timer
import Std.Async.UDP

/-!
# The program

`facility-booking serve` runs the service with the settings of the environment until
it is interrupted. Any other arguments are those of a caller of the service.
-/

namespace FacilityBooking.Main

open Std.Async Std.Net

/-! ## Addresses -/

def toSocketAddress? (address : Address) : Option SocketAddress :=
  match IPv4Addr.ofString address.bareHost with
  | some host => some (.v4 ⟨host, address.port⟩)
  | none => (IPv6Addr.ofString address.bareHost).map fun host => .v6 ⟨host, address.port⟩

def ofSocketAddress : SocketAddress → Address
  | .v4 address => ⟨toString address.addr, address.port⟩
  | .v6 address => ⟨"[" ++ toString address.addr ++ "]", address.port⟩

/-- The address to listen on or to send to, or the reason why there is none. -/
def socketAddress (address : Address) : IO SocketAddress :=
  match toSocketAddress? address with
  | some found => return found
  | none => throw (.userError NetworkError.unknownHost.message)

/-- The largest datagram that is received whole. -/
def datagramSize : UInt64 := 65535

def wait (nanoseconds : Nat) : Async (Selector Unit) :=
  Selector.sleep (.ofNat ((nanoseconds + Limits.millisecond - 1) / Limits.millisecond))

/-- Send a datagram; the network may refuse it. -/
def send (socket : UDP.Socket) (datagram : Bytes) (target : Address) :
    Async (Except NetworkError Unit) := do
  try
    socket.send ⟨datagram.toArray⟩ (some (← socketAddress target))
    return .ok ()
  catch failure => return .error (.other (toString failure))

/-! ## The service -/

/-- What the service waits for. -/
inductive Event where
  | datagram (bytes : Bytes) (peer : Address)
  | scrape (visitor : TCP.Socket.Client)
  | quiet

/-- Signals that end the program. -/
abbrev Interruption := List (AsyncTask Int)

def watchFor (signals : List Signal) : IO Interruption :=
  signals.mapM fun signal => do (← Signal.Waiter.mk signal false).wait

/-- Whether one of the signals has come. -/
def Interruption.hasCome (interruption : Interruption) : IO Bool :=
  interruption.anyM fun signal => IO.hasFinished signal

/-- The longest wait between two looks for a signal. -/
def longestWait : Nat := 200 * Limits.millisecond

structure Station where
  settings : Settings
  socket : UDP.Socket
  metrics : Option TCP.Socket.Server
  interruption : Interruption

def report (line : String) : IO Unit := do
  IO.println ("INFO " ++ line)
  (← IO.getStdout).flush

def Station.next (station : Station) : Async Event := do
  let silence ← wait (min station.settings.receiveTimeout longestWait)
  let receive : Selectable Event := .case (station.socket.recvSelector datagramSize)
    fun (bytes, source) => return match source with
      | some source => .datagram bytes.toList (ofSocketAddress source)
      | none => .quiet
  let visits : List (Selectable Event) := station.metrics.toList.map fun server =>
    .case server.acceptSelector fun visitor => return .scrape visitor
  try
    Selectable.one (receive :: .case silence (fun _ => return .quiet) :: visits).toArray
  catch _ => return .quiet

/-- Send a parcel, unless it is to be lost. -/
def Station.transmit (station : Station) (parcel : Parcel) (loss : Loss) :
    Async (Fate × Loss) := do
  let (lost, loss) := loss.next
  if lost then return (.lost, loss)
  match ← send station.socket parcel.datagram parcel.target with
  | .ok () => return (.sent, loss)
  | .error cause =>
      let fate := Fate.refused cause
      if let some warning := parcel.warning? fate then IO.println ("WARN " ++ warning)
      return (fate, loss)

/-- The counters as a page that a monitoring system reads. -/
def metricsPage (tally : Tally) : String :=
  let lines := tally.entries.map fun (counter, count) => s!"{counter.text} {count}\n"
  let body := String.join lines
  s!"HTTP/1.1 200 OK\r\ncontent-type: text/plain\r\ncontent-length: {body.utf8ByteSize}\r\n\r\n" ++
    body

def answerVisitor (visitor : TCP.Socket.Client) (tally : Tally) : Async Unit := do
  try
    let _ ← visitor.recv? datagramSize
    visitor.send (metricsPage tally).toByteArray
    visitor.shutdown
  catch _ => return

partial def Station.run (station : Station) (server : Server) (loss : Loss) (swept : Nat) :
    Async Unit := do
  let event ← station.next
  if ← station.interruption.hasCome then return
  let now ← IO.monoNanosNow
  let (server, loss) ←
    match event with
    | .quiet => pure (server, loss)
    | .scrape visitor =>
        answerVisitor visitor server.tally
        pure (server, loss)
    | .datagram bytes peer =>
        let (parcels, server) := server.handle bytes peer now
        let mut loss := loss
        let mut fates := #[]
        for parcel in parcels do
          let (fate, rest) ← station.transmit parcel loss
          fates := fates.push (parcel, fate)
          loss := rest
        pure (server.record fates.toList, loss)
  if station.settings.sweepInterval ≤ now - swept then
    station.run (server.sweep now) loss now
  else station.run server loss swept

/-- Listen for whoever reads the counters. -/
def openMetrics (settings : Settings) : IO (Option TCP.Socket.Server) := do
  let some port := settings.metricsPort | return none
  let server ← TCP.Socket.Server.mk
  server.bind (← socketAddress ⟨"0.0.0.0", port⟩)
  server.listen 16
  settings.metricsNotice.forM report
  return some server

def serve (settings : Settings) : Async Unit := do
  let metrics ← openMetrics settings
  let socket ← UDP.Socket.mk
  let host := (HostName.listener? settings.bind).getD settings.bind
  socket.bind (← socketAddress ⟨host, settings.port⟩)
  let own := ofSocketAddress (← socket.getSockName)
  (settings.listeningNotice own.text).forM fun line => (report line : IO Unit)
  let interruption ← watchFor [.sigint, .sigterm]
  let seed ←
    match settings.lossSeed with
    | some seed => pure seed
    | none => pure (.ofNat (← IO.rand 0 (UInt64.size - 1)))
  let server : Server := { service := .new settings.replyLifetime settings.atMostOnce }
  let station : Station := ⟨settings, socket, metrics, interruption⟩
  station.run server (.new settings.lossRate seed) (← IO.monoNanosNow)
  Settings.closingNotice.forM fun line => (report line : IO Unit)

/-- The variables of the environment that settings are read from. -/
def readEnvironment : IO Settings.Environment := do
  let values ← Settings.variableNames.mapM fun name => return (name, ← IO.getEnv name)
  return fun name => (values.lookup name).join

/-! ## The caller -/

/-- The result of a request among what arrives before the deadline. -/
partial def await (socket : UDP.Socket) (pending : Pending) (deadline : Nat) :
    Async (Option (Except CallError Bytes)) := do
  let now ← IO.monoNanosNow
  if deadline ≤ now then return none
  let silence ← wait (deadline - now)
  let reception ← try
      Selectable.one #[
        .case (socket.recvSelector datagramSize) fun (bytes, source) =>
          return source.map fun source =>
            Reception.datagram (ofSocketAddress source) bytes.toList,
        .case silence fun _ => return none]
    catch _ => pure (some Reception.failure)
  match reception with
  | none => await socket pending deadline
  | some reception =>
      match pending.judge? reception with
      | some result => return some result
      | none => await socket pending deadline

/-- Send the datagram until a result comes, at most as often as is left. -/
partial def attempt (socket : UDP.Socket) (pending : Pending) (datagram : Bytes) (timeout : Nat)
    (attempts : Nat) : Nat → Async (Except CallError Bytes)
  | 0 => return .error (.undelivered attempts)
  | left + 1 => do
      match ← send socket datagram pending.server with
      | .error cause => return .error (.network cause)
      | .ok () =>
          match ← await socket pending ((← IO.monoNanosNow) + timeout) with
          | some result => return result
          | none => attempt socket pending datagram timeout attempts left

def call (socket : UDP.Socket) (caller : Caller) (request : Request) (guarantee : Guarantee) :
    Async (Except CallError Response) := do
  match request.payload with
  | .error cause => return .error (.format cause)
  | .ok payload =>
      let (id, _) := caller.ids.draw
      let pending : Pending := ⟨caller.server, request.operation, id⟩
      let datagram := Datagram.frame
        { operation := request.operation.code, requestId := id, flags := guarantee.flags } payload
      let result ← attempt socket pending datagram caller.policy.timeout caller.attempts
        caller.attempts
      return result.bind fun reply =>
        (Response.decode request.operation reply).mapError .format

/-- Print what arrives for a watcher until it is interrupted. -/
partial def printUpdates (line : CommandLine) (listener : UDP.Socket)
    (interruption : Interruption) : Async Unit := do
  let silence ← wait longestWait
  let arrived ← Selectable.one #[
    .case (listener.recvSelector datagramSize) fun (bytes, _) => return [bytes.toList],
    .case silence fun _ => return []]
  if ← interruption.hasCome then return
  (line.updateLines arrived).forM fun text => (IO.println text : IO Unit)
  (← IO.getStdout).flush
  printUpdates line listener interruption

def bindAt (host : String) (port : UInt16) : IO UDP.Socket := do
  let socket ← UDP.Socket.mk
  socket.bind (← socketAddress ⟨host, port⟩)
  return socket

def runCaller (line : CommandLine) : Async Ending := do
  match line.server? with
  | none => return .failed NetworkError.unknownHost.report
  | some server =>
      let socket ← bindAt (Host.wildcardFor server) 0
      let first ← IO.rand 0 0x3fffffff
      let caller := Caller.new server line.policy ⟨.ofNat first⟩
      match line.command with
      | .call request =>
          match ← call socket caller request line.guarantee with
          | .ok response => return .done (response.lines line.json)
          | .error cause => return .failed cause.report
      | .watch _ _ port =>
          let listener ← bindAt "0.0.0.0" port
          let interruption ← watchFor [.sigint]
          let listening := (ofSocketAddress (← listener.getSockName)).port
          match ← call socket caller (line.command.request listening) line.guarantee with
          | .error cause => return .failed cause.report
          | .ok _ =>
              printUpdates line listener interruption
              return .done []

def runArguments (arguments : List String) : IO Ending := do
  match arguments with
  | ["serve"] =>
      try
        (serve (.ofEnvironment (← readEnvironment))).block
        return .done []
      catch failure => return .failed (toString failure)
  | _ =>
      match CommandLine.ofArguments arguments with
      | .error reason => return .refused reason
      | .ok line =>
          try (runCaller line).block
          catch failure => return .failed (NetworkError.report (.other (toString failure)))

end FacilityBooking.Main

def main (arguments : List String) : IO UInt32 := do
  let ending ← FacilityBooking.Main.runArguments arguments
  IO.print ending.output
  IO.eprint ending.complaint
  return .ofNat ending.status
