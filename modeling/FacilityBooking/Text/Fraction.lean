import FacilityBooking.Text.Numeral

/-!
# Decimal fractions

Reading a binary floating-point number from decimal text, and writing one with
the fewest digits that read back as the same number.
-/

namespace FacilityBooking.Text

/-! ## Reading -/

/-- A decimal fraction: `digits` times ten to the power `exponent`. -/
structure Fraction where
  digits : Nat
  exponent : Int
  deriving DecidableEq, Repr

/-- The power of ten written behind a fraction: nothing, or `e` and an integer. -/
def readExponent? : List Char → Option Int
  | [] => some 0
  | mark :: text => if mark = 'e' ∨ mark = 'E' then readSigned? text else none

/-- Digits with at most one point among them, and an optional power of ten. -/
def readFraction? (text : List Char) : Option Fraction :=
  let whole := text.takeWhile Char.isDigit
  let rest := text.dropWhile Char.isDigit
  let (part, rest) :=
    match rest with
    | '.' :: behind => (behind.takeWhile Char.isDigit, behind.dropWhile Char.isDigit)
    | _ => ([], rest)
  match readDigits? (whole ++ part), readExponent? rest with
  | some digits, some power => some ⟨digits, power - part.length⟩
  | _, _ => none

/-- Fractions of this many digits before the point exceed every finite number,
and those with as many zeros behind it round to zero. -/
def fractionReach : Int := 400

/-- The number nearest to a fraction, a tie going to the even neighbour. -/
def Fraction.toFloat (fraction : Fraction) : Float :=
  let magnitude := ((toString fraction.digits).length : Int) + fraction.exponent
  if fraction.digits = 0 ∨ magnitude < -fractionReach then 0.0
  else if fractionReach < magnitude then 1.0 / 0.0
  else .ofScientific fraction.digits (fraction.exponent < 0) fraction.exponent.natAbs

/-- A number without a sign: a decimal fraction, or a word for a value that is none. -/
def readMagnitude? (text : List Char) : Option Float :=
  match readFraction? text with
  | some fraction => some fraction.toFloat
  | none =>
      match String.ofList (text.map Char.toLower) with
      | "nan" => some (0.0 / 0.0)
      | "inf" | "infinity" => some (1.0 / 0.0)
      | _ => none

/-- A floating-point number, after at most one sign. -/
def readFloat? : List Char → Option Float
  | '-' :: text => (readMagnitude? text).map fun value => -value
  | '+' :: text => readMagnitude? text
  | text => readMagnitude? text

/-! ## Writing -/

/-- Whether `digits * 10 ^ power` lies between the numbers `low` and `high`, which
count quarters of `2 ^ binary`; the ends belong to the range when `closed`. -/
def withinQuarters (low high : Nat) (binary : Int) (closed : Bool) (digits : Nat)
    (power : Int) : Bool :=
  let scale := Nat.pow 2 (binary - 2).toNat * Nat.pow 10 (-power).toNat
  let value := digits * Nat.pow 10 power.toNat * Nat.pow 2 (2 - binary).toNat
  if closed then low * scale ≤ value && value ≤ high * scale
  else low * scale < value && value < high * scale

/-- The position of the leading decimal digit of `significand * 2 ^ binary`. -/
def leadingPower (significand : Nat) (binary : Int) : Int :=
  let scaled := significand * Nat.pow 2 binary.toNat * Nat.pow 10 fractionReach.toNat /
    Nat.pow 2 (-binary).toNat
  (toString scaled).length - 1 - fractionReach

/-- The shortest decimal fraction that reads back as `significand * 2 ^ binary`, of
those with as few digits the nearest; `count` is the number of digits to try first. -/
def shortestFrom (significand : Nat) (binary : Int) (narrow : Bool) (count : Nat) :
    Nat → Fraction
  | 0 => ⟨significand, 0⟩
  | tries + 1 =>
      let middle := 4 * significand
      let low := middle - (if narrow then 1 else 2)
      let closed := significand % 2 == 0
      let power := leadingPower significand binary - (count - 1)
      let scale := Nat.pow 2 (binary - 2).toNat * Nat.pow 10 (-power).toNat
      let unit := Nat.pow 10 power.toNat * Nat.pow 2 (2 - binary).toNat
      let below := middle * scale / unit
      let fits := withinQuarters low (middle + 2) binary closed
      let nearBelow := 2 * (middle * scale - below * unit) ≤ unit
      if fits below power && (nearBelow || !fits (below + 1) power) then ⟨below, power⟩
      else if fits (below + 1) power then ⟨below + 1, power⟩
      else shortestFrom significand binary narrow (count + 1) tries

/-- The shortest fraction for a positive finite number given by its binary form. -/
def shortestFraction (bits : Nat) : Fraction :=
  let field : Nat := bits / 0x10000000000000 % 0x800
  let low : Nat := bits % 0x10000000000000
  if field = 0 then shortestFrom low (-1074) false 1 17
  else shortestFrom (0x10000000000000 + low) ((field : Int) - 1075) (low == 0 && 1 < field) 1 17

/-- A fraction without a power of ten: digits, and a point only where it is needed. -/
def Fraction.positional (fraction : Fraction) : String :=
  let digits := toString fraction.digits
  if 0 ≤ fraction.exponent then digits ++ "".pushn '0' fraction.exponent.toNat
  else
    let places := fraction.exponent.natAbs
    let letters := (padZeros (places + 1) digits).toList
    String.ofList (letters.take (letters.length - places)) ++ "." ++
      String.ofList (letters.drop (letters.length - places))

/-- A number in positional notation with the fewest digits that read back. -/
def floatText (value : Float) : String :=
  if value.isNaN then "NaN"
  else
    let bits := value.toBits.toNat
    let sign := if bits < 0x8000000000000000 then "" else "-"
    let bits := bits % 0x8000000000000000
    if value.isInf then sign ++ "inf"
    else if bits = 0 then sign ++ "0"
    else sign ++ (shortestFraction bits).positional

end FacilityBooking.Text
