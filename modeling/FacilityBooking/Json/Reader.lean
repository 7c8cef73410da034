import FacilityBooking.Text.Numeral

/-!
# Reading JSON

A JSON value from its text. Values that nothing here asks for are read by their
form alone: a number that is no integer, and a text or an object with half of a
surrogate pair in it, are well formed but cannot be read further.
-/

namespace FacilityBooking

inductive Json where
  | null
  | bool (value : Bool)
  | integer (value : Int)
  | text (content : String)
  | list (items : List Json)
  | object (members : List (String × Json))
  /-- A value that is well formed and stands for nothing. -/
  | unreadable
  deriving Repr

namespace Json

def isSpace (letter : Char) : Bool :=
  letter == ' ' || letter == '\n' || letter == '\t' || letter == '\r'

def skipSpace (letters : List Char) : List Char :=
  letters.dropWhile isSpace

/-! ## Texts -/

/-- The number written with four hexadecimal digits. -/
def readHex? (first second third fourth : Char) : Option Nat := do
  let first ← Text.hexValue? first
  let second ← Text.hexValue? second
  let third ← Text.hexValue? third
  let fourth ← Text.hexValue? fourth
  return ((first * 16 + second) * 16 + third) * 16 + fourth

/-- The letter that a backslash and another letter stand for. -/
def escapedLetter? : Char → Option Char
  | '"' => some '"'
  | '\\' => some '\\'
  | '/' => some '/'
  | 'b' => some '\x08'
  | 'f' => some '\x0c'
  | 'n' => some '\n'
  | 'r' => some '\r'
  | 't' => some '\t'
  | _ => none

/-- The code points of a text up to its closing quote, and what stands behind it. A
code point may be half of a surrogate pair. -/
def readCodes : List Char → Option (List Nat × List Char)
  | [] => none
  | '"' :: rest => some ([], rest)
  | '\\' :: 'u' :: first :: second :: third :: fourth :: rest => do
      let code ← readHex? first second third fourth
      let (codes, behind) ← readCodes rest
      return (code :: codes, behind)
  | '\\' :: letter :: rest => do
      let letter ← escapedLetter? letter
      let (codes, behind) ← readCodes rest
      return (letter.toNat :: codes, behind)
  | letter :: rest => do
      if letter.toNat < 0x20 ∨ letter = '\\' then none
      let (codes, behind) ← readCodes rest
      return (letter.toNat :: codes, behind)

def isHighHalf (code : Nat) : Bool :=
  0xD800 ≤ code && code < 0xDC00

def isLowHalf (code : Nat) : Bool :=
  0xDC00 ≤ code && code < 0xE000

/-- The letters of code points; the halves of a pair must follow each other. -/
def joinHalves : List Nat → Option (List Char)
  | [] => some []
  | high :: low :: rest =>
      if isHighHalf high && isLowHalf low then
        (joinHalves rest).map
          (Char.ofNat (0x10000 + (high - 0xD800) * 0x400 + (low - 0xDC00)) :: ·)
      else if isHighHalf high || isLowHalf high then none
      else (joinHalves (low :: rest)).map (Char.ofNat high :: ·)
  | [code] => if isHighHalf code || isLowHalf code then none else some [Char.ofNat code]

/-- The text behind an opening quote, if its halves are paired. -/
def readText (letters : List Char) : Option (Option String × List Char) := do
  let (codes, rest) ← readCodes letters
  return ((joinHalves codes).map String.ofList, rest)

/-! ## Numbers -/

/-- A number, as long as there are letters that continue it. -/
def readNumber (letters : List Char) : Option (Json × List Char) := do
  let negative := letters.head? == some '-'
  let unsigned := if negative then letters.drop 1 else letters
  let digits := unsigned.takeWhile Char.isDigit
  let rest := unsigned.dropWhile Char.isDigit
  let value ← Text.readDigits? digits
  if digits.head? == some '0' ∧ digits.length ≠ 1 then none
  let (places, rest) :=
    match rest with
    | '.' :: behind => (some (behind.takeWhile Char.isDigit), behind.dropWhile Char.isDigit)
    | _ => (none, rest)
  if places == some [] then none
  let (power, rest) :=
    match rest with
    | mark :: behind =>
        if mark == 'e' || mark == 'E' then
          let behind :=
            if behind.head? == some '+' || behind.head? == some '-' then behind.drop 1 else behind
          (some (behind.takeWhile Char.isDigit), behind.dropWhile Char.isDigit)
        else (none, rest)
    | [] => (none, rest)
  if power == some [] then none
  if places.isNone ∧ power.isNone ∧ ¬ (negative ∧ value = 0) then
    return (.integer (if negative then -(value : Int) else value), rest)
  else
    return (.unreadable, rest)

/-! ## Values -/

/-- An object with the given members; it cannot be read if one of their names cannot. -/
def ofMembers (members : List (Option String × Json)) : Json :=
  match members.mapM fun (name, value) => name.map (·, value) with
  | some members => .object members
  | none => .unreadable

mutual

/-- A value and what stands behind it; `fuel` bounds the depth of the recursion. -/
def readValue : Nat → List Char → Option (Json × List Char)
  | 0, _ => none
  | fuel + 1, letters =>
      match skipSpace letters with
      | '"' :: rest => do
          let (content, rest) ← readText rest
          return (content.elim .unreadable .text, rest)
      | '[' :: rest => do
          match skipSpace rest with
          | ']' :: rest => return (.list [], rest)
          | rest =>
              let (items, rest) ← readItems fuel rest
              return (.list items, rest)
      | '\x7b' :: rest => do
          match skipSpace rest with
          | '\x7d' :: rest => return (.object [], rest)
          | rest =>
              let (members, rest) ← readMembers fuel rest
              return (ofMembers members, rest)
      | 'n' :: 'u' :: 'l' :: 'l' :: rest => some (.null, rest)
      | 't' :: 'r' :: 'u' :: 'e' :: rest => some (.bool true, rest)
      | 'f' :: 'a' :: 'l' :: 's' :: 'e' :: rest => some (.bool false, rest)
      | rest => readNumber rest

/-- The items of an array up to its end; there is at least one. -/
def readItems : Nat → List Char → Option (List Json × List Char)
  | 0, _ => none
  | fuel + 1, letters => do
      let (item, rest) ← readValue fuel letters
      match skipSpace rest with
      | ',' :: rest =>
          let (items, rest) ← readItems fuel rest
          return (item :: items, rest)
      | ']' :: rest => return ([item], rest)
      | _ => none

/-- The members of an object up to its end; there is at least one. -/
def readMembers : Nat → List Char → Option (List (Option String × Json) × List Char)
  | 0, _ => none
  | fuel + 1, letters =>
      match skipSpace letters with
      | '"' :: rest => do
          let (name, rest) ← readText rest
          match skipSpace rest with
          | ':' :: rest =>
              let (value, rest) ← readValue fuel rest
              match skipSpace rest with
              | ',' :: rest =>
                  let (members, rest) ← readMembers fuel rest
                  return ((name, value) :: members, rest)
              | '\x7d' :: rest => return ([(name, value)], rest)
              | _ => none
          | _ => none
      | _ => none

end

/-- The value of a whole text. -/
def read? (text : String) : Option Json :=
  let letters := text.toList
  match readValue (letters.length + 1) letters with
  | some (value, rest) => if (skipSpace rest).isEmpty then some value else none
  | none => none

/-! ## Parts -/

def text? : Json → Option String
  | text content => some content
  | _ => none

/-- An integer of the range `low` to `high`, both included. -/
def integer? (low high : Int) : Json → Option Int
  | integer value => if low ≤ value ∧ value ≤ high then some value else none
  | _ => none

/-- The one value that bears a name. -/
def member? (members : List (String × Json)) (name : String) : Option Json :=
  match members.filter fun member => member.1 == name with
  | [(_, value)] => some value
  | _ => none

/-- The values of the named fields: from an object, in which other names are ignored
and no field is missing or given twice, or from a list of exactly these fields. -/
def fields? (names : List String) : Json → Option (List Json)
  | list items => if items.length = names.length then some items else none
  | object members => names.mapM (member? members)
  | _ => none

end Json

end FacilityBooking
