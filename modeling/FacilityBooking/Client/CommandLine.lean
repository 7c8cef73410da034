import FacilityBooking.Calendar.Reading
import FacilityBooking.Client.Arguments
import FacilityBooking.Client.RequestIds
import FacilityBooking.Message.Request
import FacilityBooking.Service.Settings

/-!
# The command line of a caller

Which service to call and how stands before the command; the command and its
arguments stand behind. Days and times are written as a person writes them.
-/

namespace FacilityBooking

/-- What a caller can be told to do. -/
inductive Command where
  /-- Make a request and print its response. -/
  | call (request : Request)
  /-- Watch a facility for some seconds and print each update. -/
  | watch (facility : String) (seconds : UInt32) (port : UInt16)
  deriving DecidableEq, Repr

structure CommandLine where
  host : String := "127.0.0.1"
  port : UInt16 := 9999
  policy : RetryPolicy := {}
  guarantee : Guarantee := default
  /-- Whether responses are printed as JSON. -/
  json : Bool := false
  command : Command
  deriving DecidableEq, Repr

/-- The options before the command. -/
inductive CallOption where
  | host
  | port
  | timeout
  | retries
  | atMostOnce
  | json
  deriving DecidableEq, Repr

namespace CallOption

def all : List CallOption :=
  [host, port, timeout, retries, atMostOnce, json]

def name : CallOption → String
  | host => "host"
  | port => "port"
  | timeout => "timeout-ms"
  | retries => "retries"
  | atMostOnce => "at-most-once"
  | json => "json"

def ofLetter? : Char → Option CallOption
  | 'p' => some port
  | 't' => some timeout
  | 'r' => some retries
  | _ => none

def takesValue : CallOption → Bool
  | atMostOnce | json => false
  | _ => true

/-- The number that an option asks for. A timeout has no sign but a plus. -/
def readNumber? : CallOption → String → Option Int
  | port, text => Text.readBetween? 0 0xffff text.toList
  | timeout, text => (Text.readBelow? UInt64.size text.toList).map fun value => (value : Int)
  | retries, text => Text.readBetween? 0 0xffffffff text.toList
  | host, _ | atMostOnce, _ | json, _ => none

def accepts : CallOption → String → Bool
  | port, text => (port.readNumber? text).isSome
  | timeout, text => (timeout.readNumber? text).isSome
  | retries, text => (retries.readNumber? text).isSome
  | host, _ | atMostOnce, _ | json, _ => true

def grammar : Grammar CallOption where
  long? name := all.find? fun key => key.name == name
  short? := ofLetter?
  takesValue := takesValue
  accepts := accepts
  values := 0

end CallOption

/-- What a value of a command has to be. -/
inductive ValueKind where
  | text
  | day
  | time
  | number (low high : Int)
  /-- A number of 32 bits, which may begin with a hyphen. -/
  | offset
  deriving DecidableEq, Repr

namespace ValueKind

/-- A number of the range from 0 up to, but not including, `2 ^ bits`. -/
def word (bits : Nat) : ValueKind :=
  number 0 (Nat.pow 2 bits - 1 : Nat)

def readOffset? (text : String) : Option Int :=
  Text.readBetween? (-0x80000000) 0x7fffffff text.toList

def admits : ValueKind → String → Bool
  | text, _ => true
  | day, value => (Day.read? value.toList).isSome
  | time, value => (WeekTime.read? value.toList).isSome
  | number low high, value => (Text.readBetween? low high value.toList).isSome
  | offset, value => (readOffset? value).isSome

end ValueKind

namespace Command

/-- The commands by name, the explanation of the others among them. -/
def names : List String :=
  ["query", "book", "change", "monitor", "reset", "incr", "help"]

/-- The grammar of a command with some values and perhaps a port for notices. -/
def grammar (kinds : List ValueKind) (withPort : Bool) : Grammar Unit where
  long? name := if withPort ∧ name = "callback-port" then some () else none
  accepts _ text := (ValueKind.word 16).admits text
  values := kinds.length
  admits place text := kinds[place]?.any (·.admits text)
  hyphens place := kinds[place]? == some .offset

/-- The values of a command that has these kinds of them, and its port. -/
def values (kinds : List ValueKind) (withPort : Bool) (arguments : List String) :
    Except NoCommand (List String × Option String) := do
  let grammar := grammar kinds withPort
  let (gathered, rest) ← grammar.gather {} arguments
  let gathered ← grammar.settle gathered
  if rest.isEmpty ∧ gathered.plain.length = kinds.length then
    return (gathered.plain, gathered.options.lookup ())
  else throw .usage

/-- A value that must read as something. -/
def expect {α : Type} (value : Option α) : Except NoCommand α :=
  match value with
  | some value => .ok value
  | none => .error .usage

def readDay (text : String) : Except NoCommand Day :=
  expect (Day.read? text.toList)

def readTime (text : String) : Except NoCommand WeekTime :=
  expect (WeekTime.read? text.toList)

def readNumber (low high : Int) (text : String) : Except NoCommand Int :=
  expect (Text.readBetween? low high text.toList)

/-- What an explanation of the named command comes to: there is one of each command,
and one of all of them. -/
def explain : List String → NoCommand
  | [] => .help
  | [name] => if name ∈ names then .help else .usage
  | _ => .usage

/-- The command of the given name and arguments. -/
def ofArguments (name : String) (arguments : List String) : Except NoCommand Command :=
  match name with
  | "query" => do
      let ([facility, day], _) ← values [.text, .day] false arguments | throw .usage
      return .call (.queryAvailability facility (← readDay day))
  | "book" => do
      let ([facility, user, start, stop], _) ←
          values [.text, .text, .time, .time] false arguments
        | throw .usage
      return .call (.book facility user (← readTime start) (← readTime stop))
  | "change" => do
      let low : Int := -0x8000000000000000
      let high : Int := 0x7fffffffffffffff
      let ([booking, offset], _) ← values [.number low high, .offset] false arguments
        | throw .usage
      let booking ← readNumber low high booking
      let offset ← expect (ValueKind.readOffset? offset)
      return .call (.changeBooking (.ofInt booking) (.ofInt offset))
  | "monitor" => do
      let ([facility, seconds], port) ← values [.text, .word 32] true arguments
        | throw .usage
      let seconds ← readNumber 0 0xffffffff seconds
      let port ← readNumber 0 0xffff (port.getD "0")
      return .watch facility (.ofInt seconds) (.ofInt port)
  | "reset" => do
      let ([facility, day], _) ← values [.text, .day] false arguments | throw .usage
      return .call (.resetDay facility (← readDay day))
  | "incr" => do
      let ([facility], _) ← values [.text] false arguments | throw .usage
      return .call (.incrementUsage facility)
  | "help" => throw (explain arguments)
  | _ => throw .usage

end Command

namespace CommandLine

/-- The command line that the arguments make. -/
def ofArguments (arguments : List String) : Except NoCommand CommandLine := do
  let (gathered, rest) ← CallOption.grammar.gather {} arguments
  let name :: arguments := rest | throw .usage
  let command ← Command.ofArguments name arguments
  let gathered ← CallOption.grammar.settle gathered
  let number (key : CallOption) (standard : String) : Except NoCommand Int :=
    Command.expect (key.readNumber? ((gathered.options.lookup key).getD standard))
  let port ← number .port "9999"
  let timeout ← number .timeout "1000"
  let retries ← number .retries "3"
  return {
    host := (gathered.options.lookup .host).getD "127.0.0.1"
    port := .ofInt port
    policy := ⟨timeout.toNat * Limits.millisecond, .ofInt retries⟩
    guarantee :=
      if (gathered.options.lookup .atMostOnce).isSome then .atMostOnce else .atLeastOnce
    json := (gathered.options.lookup .json).isSome
    command := command }

end CommandLine

end FacilityBooking
