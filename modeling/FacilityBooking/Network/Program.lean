import FacilityBooking.Client.Program
import FacilityBooking.Network.Loopback

/-!
# The programs on one host

Runs of the caller's and of the server's program against a service on the same host:
what comes back, what is printed, and with which status they end.
-/

namespace FacilityBooking

/-- A run of the caller's program. -/
structure CallerRun where
  ending : Ending
  line : Option CommandLine
  /-- Where the program listens for notices. -/
  listener : Address
  deriving DecidableEq, Repr

namespace CallerRun

/-- What a watching program prints for the datagrams that arrive while it runs. -/
def printed (run : CallerRun) (datagrams : List Bytes) : List String :=
  match run.ending, run.line with
  | .done _, some line => line.updateLines datagrams
  | _, _ => []

end CallerRun

/-- A run of the server's program, and the lines of its log. -/
inductive ServerRun where
  | notListening (log : List String)
  /-- It served until it was stopped; `received` came back to the peer that called it. -/
  | served (received : List Bytes) (tally : Tally) (log : List String)

namespace ServerRun

def log : ServerRun → List String
  | notListening log => log
  | served _ _ log => log

def status : ServerRun → Nat
  | notListening _ => 1
  | served .. => 0

end ServerRun

namespace Loopback

/-- Run the caller's program with addresses of its own. -/
def runCaller (world : Loopback) (own listener : Address) (arguments : List String) :
    CallerRun × Loopback :=
  match CommandLine.ofArguments arguments with
  | .error reason => (⟨.refused reason, none, listener⟩, world)
  | .ok line =>
      let world := (world.openAt own).openAt listener
      let (ending, _, world) :=
        line.perform world.wire.host ⟨1⟩ listener.port (channel own)
          (({} : Disturbance), world)
      (⟨ending, some line, listener⟩, world)

/-- Run the server's program and send it the datagrams of a peer on the same host, which
fails if the host does not let the peer send. -/
def runServer (host : Host) (settings : Settings) (port : UInt16) (peer : Address)
    (datagrams : List Bytes) : Except NetworkError ServerRun :=
  match start host settings port with
  | .error _ => .ok (.notListening settings.metricsNotice)
  | .ok world => do
      let world ← datagrams.foldlM
        (fun world datagram => world.send datagram peer ⟨"127.0.0.1", port⟩) (world.openAt peer)
      let (received, world) := world.collect peer
      return .served received world.server.tally
        (settings.metricsNotice ++ settings.listeningNotice world.address.text ++
          world.warnings.map ("WARN " ++ ·) ++ Settings.closingNotice)

end Loopback

end FacilityBooking
