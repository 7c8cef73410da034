import FacilityBooking.Client.Caller

/-!
# Calls

One function for each operation of the service, with the arguments and the kind of
result that the operation has.
-/

namespace FacilityBooking

namespace Response

def intervals? : Response → Option (List Interval)
  | availability intervals => some intervals
  | _ => none

def booking? : Response → Option Int64
  | booked booking => some booking
  | _ => none

def interval? : Response → Option Interval
  | changed interval => some interval
  | _ => none

def confirmation? : Response → Option Unit
  | monitoring => some ()
  | _ => none

def removed? : Response → Option UInt32
  | reset removed => some removed
  | _ => none

def count? : Response → Option Int64
  | usage count => some count
  | _ => none

end Response

/-- The result of a call as `view?` sees the response; a response that it does not see
belongs to another operation. -/
def Outcome.view {α : Type} (outcome : Outcome Response) (operation : Operation)
    (view? : Response → Option α) : Outcome α where
  sent := outcome.sent
  result :=
    match outcome.result with
    | .error cause => .error cause
    | .ok response =>
        match view? response with
        | some value => .ok value
        | none => .error (.unexpectedResponse operation)

namespace Caller

variable {network : Type} (caller : Caller) (channel : Channel network) (guarantee : Guarantee)

/-- The request, and its response as `view?` sees it. -/
def ask {α : Type} (request : Request) (view? : Response → Option α) (state : network) :
    Outcome α × Caller × network :=
  let (outcome, caller, state) := caller.request channel request guarantee state
  (outcome.view request.operation view?, caller, state)

/-- The free intervals of a facility on a day. -/
def queryAvailability (facility : String) (day : Day) (state : network) :
    Outcome (List Interval) × Caller × network :=
  caller.ask channel guarantee (.queryAvailability facility day) Response.intervals? state

/-- Book a facility for a user; the result is the booking's number. -/
def book (facility user : String) (start stop : WeekTime) (state : network) :
    Outcome Int64 × Caller × network :=
  caller.ask channel guarantee (.book facility user start stop) Response.booking? state

/-- Move a booking by some minutes; the result is its new interval. -/
def changeBooking (booking : Int64) (offset : Int32) (state : network) :
    Outcome Interval × Caller × network :=
  caller.ask channel guarantee (.changeBooking booking offset) Response.interval? state

/-- Have changes of a facility pushed to a port of this host. A time that does not
fit into its field is cut to the longest that does. -/
def monitor (facility : String) (seconds : Nat) (port : UInt16) (state : network) :
    Outcome Unit × Caller × network :=
  caller.ask channel guarantee
    (.monitor facility (.ofNat (min seconds 0xffffffff)) port.toUInt32)
    Response.confirmation? state

/-- Clear a day of a facility; the result is the number of bookings removed. -/
def resetDay (facility : String) (day : Day) (state : network) :
    Outcome UInt32 × Caller × network :=
  caller.ask channel guarantee (.resetDay facility day) Response.removed? state

/-- Count one use of a facility; the result is the new count. -/
def incrementUsage (facility : String) (state : network) :
    Outcome Int64 × Caller × network :=
  caller.ask channel guarantee (.incrementUsage facility) Response.count? state

end Caller

end FacilityBooking
