import FacilityBooking.Client.Caller
import FacilityBooking.Client.CommandLine
import FacilityBooking.Client.Display
import FacilityBooking.Network.HostName

/-!
# The caller's program

What a command line comes to: the request that it makes of the service, the lines
that it prints, and the status with which it ends.
-/

namespace FacilityBooking

/-- How a run of the program ends. -/
inductive Ending where
  /-- The arguments make no command. -/
  | refused (reason : NoCommand)
  /-- The request was carried out, and these lines are printed. -/
  | done (lines : List String)
  | failed (report : String)
  deriving DecidableEq, Repr

namespace Ending

/-- The exit status of the program. -/
def status : Ending → Nat
  | refused .usage => 2
  | refused .help | done _ => 0
  | failed _ => 1

/-- What the program prints. -/
def output : Ending → String
  | done lines => String.join (lines.map (· ++ "\n"))
  | _ => ""

/-- What the program complains of. -/
def complaint : Ending → String
  | failed report => "Error: " ++ report ++ "\n"
  | _ => ""

end Ending

namespace Command

/-- The request of a command; a watcher listens on the given port. -/
def request (listening : UInt16) : Command → Request
  | call request => request
  | watch facility seconds _ => .monitor facility seconds listening.toUInt32

end Command

namespace CommandLine

/-- The address of the service to call. -/
def server? (line : CommandLine) : Option Address :=
  (HostName.resolve? line.host).map fun host => ⟨host, line.port⟩

/-- Make the request of a command line over a host's network. A watcher prints nothing
here: what it prints are the updates that come later. -/
def perform {network : Type} (line : CommandLine) (host : Host) (ids : RequestIds)
    (listening : UInt16) (channel : Address → Channel network) (state : network) :
    Ending × network :=
  match line.server? with
  | none => (.failed host.lookupError.report, state)
  | some server =>
      let caller := Caller.new server line.policy ids
      let (outcome, _, state) :=
        caller.request (channel server) (line.command.request listening) line.guarantee state
      match outcome.result, line.command with
      | .error cause, _ => (.failed cause.report, state)
      | .ok response, .call _ => (.done (response.lines line.json), state)
      | .ok _, .watch .. => (.done [], state)

/-- The lines that a watcher prints for the datagrams that it received. -/
def updateLines (line : CommandLine) (datagrams : List Bytes) : List String :=
  match line.command with
  | .call _ => []
  | .watch facility _ _ =>
      (datagrams.filterMap Update.ofDatagram?).flatMap (Update.lines line.json facility)

end CommandLine

end FacilityBooking
