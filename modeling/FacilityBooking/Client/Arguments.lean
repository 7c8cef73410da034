/-!
# Arguments

The arguments of a command line, sorted into options and plain values by a grammar.
An option stands for itself or takes a value, which is attached to it or follows as
the next argument. Each option may be given once.
-/

namespace FacilityBooking

/-- Why no command comes of a command line. -/
inductive NoCommand where
  /-- The arguments do not fit. -/
  | usage
  /-- An explanation was asked for. -/
  | help
  deriving DecidableEq, Repr

/-- One argument by its form. -/
inductive Argument where
  /-- Two hyphens alone: what follows is plain. -/
  | escape
  /-- Two hyphens and a name, and a value behind an equals sign. -/
  | long (name : String) (attached : Option String)
  /-- One hyphen and at least one letter. -/
  | short (letter : Char) (more : List Char)
  | plain
  deriving DecidableEq, Repr

def Argument.ofText (text : String) : Argument :=
  match text.toList with
  | ['-', '-'] => .escape
  | '-' :: '-' :: rest =>
      let name := rest.takeWhile (· != '=')
      .long (String.ofList name)
        (match rest.drop name.length with
          | _ :: value => some (String.ofList value)
          | [] => none)
  | '-' :: letter :: more => .short letter more
  | _ => .plain

/-- What a command understands. -/
structure Grammar (option : Type) where
  long? : String → Option option
  short? : Char → Option option := fun _ => none
  takesValue : option → Bool := fun _ => true
  /-- Whether an option can have this text as its value. -/
  accepts : option → String → Bool := fun _ _ => true
  /-- How many plain values belong to the command. -/
  values : Nat
  /-- Whether the value at a place can be this text. -/
  admits : Nat → String → Bool := fun _ _ => true
  /-- Whether the value at a place may begin with a hyphen. -/
  hyphens : Nat → Bool := fun _ => false

/-- The options with their values, and the plain values in order. -/
structure Gathered (option : Type) where
  options : List (option × String) := []
  /-- The last option, while the value that follows it has not been looked at. -/
  pending : Option (option × String) := none
  plain : List String := []

namespace Grammar

variable {option : Type} [DecidableEq option] (grammar : Grammar option)

/-- Looks at the value that followed the last option. The option must accept it, and
must not have been given before. -/
def settle (gathered : Gathered option) : Except NoCommand (Gathered option) :=
  match gathered.pending with
  | none => .ok gathered
  | some (key, value) =>
      if (gathered.options.lookup key).isNone ∧ grammar.accepts key value then
        .ok { gathered with options := gathered.options ++ [(key, value)], pending := none }
      else .error .usage

/-- One more option, with a value that is looked at in its turn. -/
def give (gathered : Gathered option) (key : option) (value : String) :
    Except NoCommand (Gathered option) :=
  (grammar.settle gathered).map fun gathered => { gathered with pending := some (key, value) }

/-- One more plain value, if it fits its place. -/
def push (gathered : Gathered option) (text : String) : Except NoCommand (Gathered option) :=
  if grammar.admits gathered.plain.length text then
    .ok { gathered with plain := gathered.plain ++ [text] }
  else .error .usage

/-- Whether an argument that begins with a hyphen is a value at the given place: the
place allows it, and no option has this name. -/
def isValue (place : Nat) : Argument → Bool
  | .long name _ => grammar.hyphens place && name != "help" && (grammar.long? name).isNone
  | .short letter more =>
      grammar.hyphens place &&
        (letter :: more).any fun letter => letter != 'h' && (grammar.short? letter).isNone
  | _ => false

/-- The option that an argument names, with the value that is attached to it. -/
def option? : Argument → Except NoCommand (option × Option String)
  | .long name attached =>
      match grammar.long? name with
      | some key => .ok (key, attached)
      | none => .error (if name = "help" ∧ attached.isNone then .help else .usage)
  | .short letter more =>
      match grammar.short? letter, more with
      | some key, [] => .ok (key, none)
      | some key, '=' :: value => .ok (key, some (String.ofList value))
      | some key, value => .ok (key, some (String.ofList value))
      | none, _ => .error (if letter = 'h' then .help else .usage)
  | _ => .error .usage

/-- Sorts arguments until a plain one comes that does not belong to the command; it
and the arguments behind it are returned. A value that follows its option is looked at
when the next option comes; one that comes last is left to be looked at. -/
def gather (gathered : Gathered option) :
    List String → Except NoCommand (Gathered option × List String)
  | [] => .ok (gathered, [])
  | text :: rest =>
      match Argument.ofText text with
      | .plain =>
          if gathered.plain.length < grammar.values then do
            gather (← grammar.push gathered text) rest
          else .ok (gathered, text :: rest)
      | .escape =>
          if gathered.plain.length + rest.length ≤ grammar.values then do
            return (← rest.foldlM grammar.push gathered, [])
          else .error .usage
      | argument =>
          if grammar.isValue gathered.plain.length argument then do
            gather (← grammar.push gathered text) rest
          else do
            let gathered ← grammar.settle gathered
            let (key, attached) ← grammar.option? argument
            if grammar.takesValue key then
              match attached, rest with
              | some value, rest => do
                  gather (← grammar.settle (← grammar.give gathered key value)) rest
              | none, value :: rest =>
                  if Argument.ofText value = .plain then do
                    gather (← grammar.give gathered key value) rest
                  else throw .usage
              | none, [] => throw .usage
            else if attached.isSome then throw .usage
            else do
              gather (← grammar.settle (← grammar.give gathered key "")) rest

end Grammar

end FacilityBooking
