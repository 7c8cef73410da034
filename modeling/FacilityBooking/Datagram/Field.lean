import FacilityBooking.Calendar.Interval
import FacilityBooking.Datagram.FormatError

/-!
# Fields

The encodings that payloads are made of: big-endian words, text behind a
two-byte length, days, times and lists of intervals. Each encoding has a reader,
and reading an encoding returns the value and the bytes behind it.
-/

namespace FacilityBooking

abbrev Bytes := List UInt8

/-! ## Writing -/

namespace Field

def word16Bytes (value : UInt16) : Bytes :=
  [.ofNat (value.toNat / 0x100), .ofNat value.toNat]

def word32Bytes (value : UInt32) : Bytes :=
  [.ofNat (value.toNat / 0x1000000), .ofNat (value.toNat / 0x10000), .ofNat (value.toNat / 0x100),
    .ofNat value.toNat]

/-- A signed 64-bit number as two words, the high one first. -/
def int64Bytes (value : Int64) : Bytes :=
  word32Bytes (.ofNat (value.toUInt64.toNat / 0x100000000)) ++
    word32Bytes (.ofNat value.toUInt64.toNat)

/-- The bytes of a text in UTF-8. -/
def utf8 (text : String) : Bytes :=
  text.toByteArray.data.toList

/-- The longest text, in bytes, that a length field can announce. -/
def maxTextBytes : Nat := 65535

/-- A text behind its length; a text too long for the length field has no encoding. -/
def textBytes (text : String) : Except FormatError Bytes :=
  if text.utf8ByteSize ≤ maxTextBytes then
    .ok (word16Bytes (.ofNat text.utf8ByteSize) ++ utf8 text)
  else .error (.textTooLong text.utf8ByteSize)

def dayByte (day : Day) : UInt8 :=
  .ofNat day.number

def timeBytes (time : WeekTime) : Bytes :=
  [dayByte time.day, time.hour, time.minute]

def intervalBytes (interval : Interval) : Bytes :=
  timeBytes interval.start ++ timeBytes interval.stop

/-- Intervals behind their number, which is kept modulo the size of its field. -/
def intervalsBytes (intervals : List Interval) : Bytes :=
  word16Bytes (.ofNat intervals.length) ++ intervals.flatMap intervalBytes

end Field

/-! ## Reading -/

/-- A reader takes bytes from the front. It returns a value, or the reason why
there is none, together with the bytes that it did not take. -/
def FieldReader (α : Type) : Type :=
  Bytes → Except FormatError α × Bytes

namespace FieldReader

instance : Monad FieldReader where
  pure value := fun bytes => (.ok value, bytes)
  bind first next := fun bytes =>
    match first bytes with
    | (.ok value, rest) => next value rest
    | (.error cause, rest) => (.error cause, rest)

/-- The value at the front of the bytes, whatever follows it. -/
def value? {α : Type} (reader : FieldReader α) (bytes : Bytes) : Except FormatError α :=
  (reader bytes).1

/-- A value that the bytes only hold if `outcome` is one. -/
def ofExcept {α : Type} (outcome : Except FormatError α) : FieldReader α :=
  fun bytes => (outcome, bytes)

def byte : FieldReader UInt8
  | first :: rest => (.ok first, rest)
  | [] => (.error (.truncated 1 0), [])

def word16 : FieldReader UInt16
  | high :: low :: rest => (.ok (.ofNat (high.toNat * 0x100 + low.toNat)), rest)
  | bytes => (.error (.truncated 2 bytes.length), bytes)

/-- The number whose four bytes are given, the highest first. -/
def joinWord32 (first second third fourth : UInt8) : Nat :=
  first.toNat * 0x1000000 + second.toNat * 0x10000 + third.toNat * 0x100 + fourth.toNat

def word32 : FieldReader UInt32
  | first :: second :: third :: fourth :: rest =>
      (.ok (.ofNat (joinWord32 first second third fourth)), rest)
  | bytes => (.error (.truncated 4 bytes.length), bytes)

def int64 : FieldReader Int64
  | a :: b :: c :: d :: e :: f :: g :: h :: rest =>
      (.ok (UInt64.ofNat (joinWord32 a b c d * 0x100000000 + joinWord32 e f g h)).toInt64, rest)
  | bytes => (.error (.truncated 8 bytes.length), bytes)

/-- The given number of bytes. -/
def take (count : Nat) : FieldReader Bytes :=
  fun bytes =>
    if bytes.length < count then (.error (.truncated count bytes.length), bytes)
    else (.ok (bytes.take count), bytes.drop count)

/-- The text whose bytes are given. -/
def decodeText (bytes : Bytes) : Except FormatError String :=
  match String.fromUTF8? ⟨bytes.toArray⟩ with
  | some text => .ok text
  | none => .error .invalidText

def text : FieldReader String := do
  let length ← word16
  let bytes ← take length.toNat
  ofExcept (decodeText bytes)

def day : FieldReader Day := do
  let value ← byte
  ofExcept ((Day.ofByte value).mapError .invalidTime)

def time : FieldReader WeekTime := do
  let day ← day
  let hour ← byte
  let minute ← byte
  ofExcept ((WeekTime.ofParts day hour minute).mapError .invalidTime)

def interval : FieldReader Interval := do
  let start ← time
  let stop ← time
  return ⟨start, stop⟩

/-- As many values, one behind the other, as `count` says. -/
def replicate {α : Type} (reader : FieldReader α) : Nat → FieldReader (List α)
  | 0 => pure []
  | count + 1 => do
      let first ← reader
      let rest ← replicate reader count
      return first :: rest

def intervals : FieldReader (List Interval) := do
  let count ← word16
  replicate interval count.toNat

/-! ## Reading what was written -/

@[simp]
theorem word16_append (value : UInt16) (rest : Bytes) :
    word16 (Field.word16Bytes value ++ rest) = (.ok value, rest) := by
  have hvalue := value.toNat_lt
  simp only [Field.word16Bytes, List.cons_append, List.nil_append, word16, Prod.mk.injEq,
    Except.ok.injEq, and_true]
  apply UInt16.toNat_inj.mp
  simp
  omega

theorem joinWord32_bytes (value : Nat) :
    joinWord32 (.ofNat (value / 0x1000000)) (.ofNat (value / 0x10000)) (.ofNat (value / 0x100))
      (.ofNat value) = value % 0x100000000 := by
  simp [joinWord32]
  omega

@[simp]
theorem word32_append (value : UInt32) (rest : Bytes) :
    word32 (Field.word32Bytes value ++ rest) = (.ok value, rest) := by
  simp only [Field.word32Bytes, List.cons_append, List.nil_append, word32, joinWord32_bytes,
    Prod.mk.injEq, Except.ok.injEq, and_true]
  apply UInt32.toNat_inj.mp
  simp

@[simp]
theorem int64_append (value : Int64) (rest : Bytes) :
    int64 (Field.int64Bytes value ++ rest) = (.ok value, rest) := by
  have hvalue := value.toUInt64.toNat_lt
  have hword : UInt64.ofNat ((value.toUInt64.toNat / 0x100000000) % 0x100000000 * 0x100000000 +
      value.toUInt64.toNat % 0x100000000) = value.toUInt64 := by
    apply UInt64.toNat_inj.mp
    simp
    omega
  simp only [Field.int64Bytes, Field.word32Bytes, UInt32.toNat_ofNat', List.cons_append,
    List.nil_append, int64, joinWord32_bytes, Nat.mod_mod, hword, Prod.mk.injEq, and_true]
  rfl

end FieldReader

end FacilityBooking
