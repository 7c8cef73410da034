/-!
# Numerals

Whole numbers in decimal and hexadecimal notation: the readers used for
settings, command lines and times, and the few printed forms with a fixed
width.
-/

namespace FacilityBooking.Text

/-- The value of an ASCII decimal digit. -/
def digitValue? (letter : Char) : Option Nat :=
  if '0' ≤ letter ∧ letter ≤ '9' then some (letter.toNat - '0'.toNat) else none

/-- The value of an ASCII hexadecimal digit of either case. -/
def hexValue? (letter : Char) : Option Nat :=
  if '0' ≤ letter ∧ letter ≤ '9' then some (letter.toNat - '0'.toNat)
  else if 'a' ≤ letter ∧ letter ≤ 'f' then some (letter.toNat - 'a'.toNat + 10)
  else if 'A' ≤ letter ∧ letter ≤ 'F' then some (letter.toNat - 'A'.toNat + 10)
  else none

/-- The value of `value` followed by the given digits. -/
def readDigitsFrom? (value : Nat) : List Char → Option Nat
  | [] => some value
  | letter :: rest =>
      match digitValue? letter with
      | some digit => readDigitsFrom? (10 * value + digit) rest
      | none => none

/-- The value of a non-empty run of digits. -/
def readDigits? : List Char → Option Nat
  | [] => none
  | digits => readDigitsFrom? 0 digits

/-- A natural number: digits, after at most one plus sign. -/
def readNatural? : List Char → Option Nat
  | '+' :: digits => readDigits? digits
  | digits => readDigits? digits

/-- A natural number below `bound`. -/
def readBelow? (bound : Nat) (text : List Char) : Option Nat :=
  (readNatural? text).filter (· < bound)

/-- An integer: digits, after at most one sign. -/
def readSigned? : List Char → Option Int
  | '-' :: digits => (readDigits? digits).map fun value => -(value : Int)
  | text => (readNatural? text).map fun value => (value : Int)

/-- An integer of the range `low` to `high`, both included. -/
def readBetween? (low high : Int) (text : List Char) : Option Int :=
  (readSigned? text).filter fun value => low ≤ value ∧ value ≤ high

/-- The text with zeros in front up to the given width. -/
def padZeros (width : Nat) (text : String) : String :=
  "".pushn '0' (width - text.length) ++ text

/-- A number in decimal, at least two digits wide. -/
def twoDigits (value : Nat) : String :=
  padZeros 2 (toString value)

/-- A number in lowercase hexadecimal. -/
def hexadecimal (value : Nat) : String :=
  String.ofList (Nat.toDigits 16 value)

/-- A number as `0x` and at least four lowercase hexadecimal digits. -/
def fourHexDigits (value : Nat) : String :=
  "0x" ++ padZeros 4 (hexadecimal value)

end FacilityBooking.Text
