import FacilityBooking.Text.Numeral

/-!
# Names of hosts

The host that a name stands for: a numeric address in one of its many spellings, or the
name that a host has for itself. No other name is known.
-/

namespace FacilityBooking.HostName

/-- The digits of one number in a base up to 16. -/
def readBase? (base : Nat) (digits : List Char) : Option Nat :=
  if digits.isEmpty then none
  else
    digits.foldlM (fun value letter =>
      ((Text.hexValue? letter).filter (· < base)).map (base * value + ·)) 0

/-- One number of a numeric address: hexadecimal behind `0x`, octal behind `0`, and
decimal else. -/
def readPart? : List Char → Option Nat
  | '0' :: 'x' :: digits | '0' :: 'X' :: digits => readBase? 16 digits
  | '0' :: digits => readBase? 8 ('0' :: digits)
  | digits => readBase? 10 digits

/-- The number of so many bytes that some parts make: each part is one byte, but the
last fills all bytes that are left. -/
def joinParts? : Nat → List Nat → Option Nat
  | 0, _ | _, [] => none
  | bytes + 1, [last] => if last < Nat.pow 256 (bytes + 1) then some last else none
  | bytes + 1, part :: rest =>
      if part < 256 then (joinParts? bytes rest).map (part * Nat.pow 256 bytes + ·) else none

/-- The four bytes of an address, with dots between them. -/
def dotted (address : Nat) : String :=
  ".".intercalate ([3, 2, 1, 0].map fun place => toString (address / Nat.pow 256 place % 256))

/-- The address of four bytes that is written in one to four parts. -/
def readDotted? (name : String) : Option String := do
  let parts ← (name.splitOn ".").mapM fun part => readPart? part.toList
  return dotted (← joinParts? 4 parts)

/-- How many of the eight groups of an address the text writes out: one for up to four
hexadecimal digits, and two for an address with dots, which may only come last. -/
def countGroups? : List String → Option Nat
  | [] => some 0
  | [last] =>
      if readDotted? last = some last then some 2
      else if last.length ≤ 4 ∧ (readBase? 16 last.toList).isSome then some 1
      else none
  | group :: rest =>
      if group.length ≤ 4 ∧ (readBase? 16 group.toList).isSome then
        (countGroups? rest).map (1 + ·)
      else none

/-- Whether the text is an address of eight groups with colons between them, in which
two colons may stand for groups of zeros. -/
def isGrouped (name : String) : Bool :=
  let groups (part : String) : List String := if part.isEmpty then [] else part.splitOn ":"
  match name.splitOn "::" with
  | [whole] => countGroups? (groups whole) == some 8
  | [left, right] =>
      !left.toList.contains '.' &&
        match countGroups? (groups left), countGroups? (groups right) with
        | some before, some behind => before + behind < 8
        | _, _ => false
  | _ => false

/-- The numeric host that a name stands for. -/
def resolve? (name : String) : Option String :=
  if name.toLower = "localhost" then some "127.0.0.1"
  else if isGrouped name then some ("[" ++ name ++ "]")
  else readDotted? name

/-- The numeric host to listen on. Around groups, brackets may stand. -/
def listener? (name : String) : Option String :=
  match resolve? name with
  | some host => some host
  | none =>
      if resolve? (String.ofList (name.toList.drop 1).dropLast) = some name then some name
      else none

end FacilityBooking.HostName
