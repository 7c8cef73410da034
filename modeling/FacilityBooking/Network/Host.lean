import FacilityBooking.Address

/-!
# Hosts

What a host does for programs on it: which addresses it lets them listen on, what
becomes of the datagrams that they send, and why names stand for nothing.
-/

namespace FacilityBooking

/-- Why the network does not do what it is asked for. -/
inductive NetworkError where
  /-- No network leads to the address. -/
  | unreachable
  /-- The address is not one of the host's own. -/
  | addressUnavailable
  /-- The address is one that nothing can be sent to. -/
  | invalidAddress
  /-- The datagram is too large. -/
  | messageTooLong
  /-- The name of a host stands for no address. -/
  | unknownHost
  /-- Nobody can be asked what the name of a host stands for. -/
  | unansweredName
  /-- A failure known only by its text. -/
  | other (text : String)
  deriving DecidableEq, Repr

namespace NetworkError

/-- The number and the wording that the system gives to a failure. -/
def systemCode? : NetworkError → Option (Nat × String)
  | unreachable => some (101, "Network is unreachable")
  | addressUnavailable => some (99, "Cannot assign requested address")
  | invalidAddress => some (22, "Invalid argument")
  | messageTooLong => some (90, "Message too long")
  | unknownHost | unansweredName | other _ => none

/-- The wording of a failure to which the system gives no number. -/
def plainText : NetworkError → String
  | unknownHost => "failed to lookup address information: Name or service not known"
  | unansweredName =>
      "failed to lookup address information: Temporary failure in name resolution"
  | other text => text
  | _ => ""

def message (failure : NetworkError) : String :=
  match failure.systemCode? with
  | some (code, words) => s!"{words} (os error {code})"
  | none => failure.plainText

/-- The class of a failure. -/
def kind : NetworkError → String
  | unreachable => "NetworkUnreachable"
  | addressUnavailable => "AddrNotAvailable"
  | invalidAddress => "InvalidInput"
  | messageTooLong | unknownHost | unansweredName => "Uncategorized"
  | other _ => "Other"

/-- The failure with all of its parts named. -/
def report (failure : NetworkError) : String :=
  match failure.systemCode? with
  | some (code, words) =>
      s!"Os \x7b code: {code}, kind: {failure.kind}, message: \"{words}\" \x7d"
  | none => s!"Custom \x7b kind: {failure.kind}, error: \"{failure.plainText}\" \x7d"

end NetworkError

structure Host where
  /-- Why a program cannot listen on an address of this host. -/
  listenError? : String → Option NetworkError
  /-- Where a datagram of some size for an address arrives: nowhere if it gets lost. -/
  route : Address → Nat → Except NetworkError (Option Address)
  /-- Why a name that is no numeric address stands for nothing. -/
  lookupError : NetworkError := .unknownHost

namespace Host

/-- What every host asks of a datagram: its size and the port can be written in a header. -/
def checkHeader (target : Address) (size : Nat) : Except NetworkError Unit :=
  if 65535 < size then .error .messageTooLong
  else if target.port = 0 then .error .invalidAddress
  else .ok ()

/-- What a datagram can hold besides its headers. -/
def largestDatagram : Nat := 65507

def checkSize (size : Nat) : Except NetworkError Unit :=
  if largestDatagram < size then .error .messageTooLong else .ok ()

/-- Whether a numeric host stands for all addresses of a host. -/
def isWildcard (host : String) : Bool :=
  host == "0.0.0.0" || host == "[::]"

/-- Whether a numeric host stands for a host itself. -/
def isOwn (host : String) : Bool :=
  isWildcard host || host.startsWith "127." || host == "[::1]"

/-- The address at which a datagram for a wildcard arrives. -/
def landing (target : Address) : Address :=
  match target.host with
  | "0.0.0.0" => { target with host := "127.0.0.1" }
  | "[::]" => { target with host := "[::1]" }
  | _ => target

/-- A host that reaches itself. -/
def selfConnected : Host where
  listenError? host := if isOwn host then none else some .addressUnavailable
  route target size := do
    checkHeader target size
    checkSize size
    return some (landing target)

/-- Whether a numeric host is an address of four bytes, in groups or not. -/
def isShort (host : String) : Bool :=
  !host.startsWith "[" || (host.startsWith "[::ffff:" && host.toList.contains '.')

/-- A host without any network. With no addresses of its own it cannot tell those of
others, and listens on any of four bytes. It reaches nothing, and what it sends to its
wildcard gets lost. -/
def isolated : Host where
  listenError? host :=
    if isShort host || isWildcard host then none else some .addressUnavailable
  route target size := do
    checkHeader target size
    if target.host ≠ "0.0.0.0" then throw .unreachable
    checkSize size
    return none
  lookupError := .unansweredName

/-- The host on which a caller of `server` listens: any address of the same family. -/
def wildcardFor (server : Address) : String :=
  if server.host.startsWith "[" then "::" else "0.0.0.0"

end Host

end FacilityBooking
