import FacilityBooking.Datagram.FormatError

/-!
# Operations

What a caller may ask for, and the code and label of each operation.
-/

namespace FacilityBooking

inductive Operation where
  | queryAvailability
  | book
  | changeBooking
  | monitor
  /-- Clear one day of a facility; doing it twice is doing it once. -/
  | resetDay
  /-- Count one use of a facility; doing it twice counts two. -/
  | incrementUsage
  deriving DecidableEq, Repr

namespace Operation

def all : List Operation :=
  [queryAvailability, book, changeBooking, monitor, resetDay, incrementUsage]

def code : Operation → UInt16
  | queryAvailability => 0x0001
  | book => 0x0002
  | changeBooking => 0x0003
  | monitor => 0x0004
  | resetDay => 0x1001
  | incrementUsage => 0x1002

/-- The short name used in counters and reports. -/
def label : Operation → String
  | queryAvailability => "query_avail"
  | book => "book"
  | changeBooking => "change_booking"
  | monitor => "monitor"
  | resetDay => "reset_day"
  | incrementUsage => "increment_usage"

def ofCode (code : UInt16) : Except FormatError Operation :=
  match all.find? fun operation => operation.code = code with
  | some operation => .ok operation
  | none => .error (.unknownOperation code)

@[simp]
theorem ofCode_code (operation : Operation) : ofCode operation.code = .ok operation := by
  cases operation <;> rfl

theorem ofCode_eq_ok_iff {code : UInt16} {operation : Operation} :
    ofCode code = .ok operation ↔ code = operation.code := by
  constructor
  · intro hcode
    unfold ofCode at hcode
    split at hcode
    · next found hfound =>
        cases hcode
        have hmatch := List.find?_some hfound
        simpa using (of_decide_eq_true hmatch).symm
    · cases hcode
  · rintro rfl
    exact ofCode_code operation

theorem code_injective {first second : Operation} (hsame : first.code = second.code) :
    first = second := by
  have hfirst := ofCode_code first
  rw [hsame, ofCode_code] at hfirst
  exact (Except.ok.inj hfirst).symm

/-- No operation code has the bit that marks error replies. -/
theorem code_and_mask (operation : Operation) : operation.code &&& 0x8000 = 0 := by
  cases operation <;> rfl

end Operation

end FacilityBooking
