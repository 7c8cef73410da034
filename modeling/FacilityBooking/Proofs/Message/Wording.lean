import FacilityBooking.Ledger.Refusal
import FacilityBooking.Proofs.Text.Lengths

/-!
# Wording

The messages of errors are short as long as the numbers that they name are not large.
-/

namespace FacilityBooking

/-- An integer of at most ten digits. -/
def Brief (value : Int) : Prop :=
  value.natAbs < Nat.pow 10 10

instance (value : Int) : Decidable (Brief value) :=
  inferInstanceAs (Decidable (_ < _))

theorem Brief.length_le {value : Int} (hbrief : Brief value) : (toString value).length ≤ 11 :=
  Text.length_integer_le hbrief (by decide)

theorem Brief.length_natural_le {value : Nat} (hbrief : Brief value) :
    (toString value).length ≤ 10 :=
  Text.length_natural_le hbrief (by decide)

/-! ## Messages of at most a hundred characters -/

/-- All numbers in the message have at most ten digits. -/
def InvalidTime.Brief : InvalidTime → Prop
  | outsideWeek value => FacilityBooking.Brief value
  | _ => True

theorem InvalidTime.length_message_le {cause : InvalidTime} (hbrief : cause.Brief) :
    cause.message.length ≤ 60 := by
  have hbyte (value : UInt8) : (toString value).length ≤ 3 :=
    Text.length_natural_le (Nat.lt_trans value.toNat_lt (by decide)) (by decide)
  unfold message
  cases cause with
  | day value =>
      have hvalue := hbyte value
      rw [String.length_append]
      change 13 + _ ≤ _
      omega
  | hour value =>
      have hvalue := hbyte value
      rw [String.length_append]
      change 14 + _ ≤ _
      omega
  | minute value =>
      have hvalue := hbyte value
      rw [String.length_append]
      change 16 + _ ≤ _
      omega
  | outsideWeek minute =>
      have hminute := FacilityBooking.Brief.length_le hbrief
      simp only [String.length_append]
      change 15 + _ + 13 + 5 + 1 ≤ _
      omega

/-- All numbers in the message have at most ten digits. -/
def FormatError.Brief : FormatError → Prop
  | truncated needed remaining =>
      FacilityBooking.Brief needed ∧ FacilityBooking.Brief remaining
  | payloadLength _ available => FacilityBooking.Brief available
  | textTooLong length => FacilityBooking.Brief length
  | invalidTime cause => cause.Brief
  | _ => True

theorem FormatError.length_message_le {cause : FormatError} (hbrief : cause.Brief) :
    cause.message.length ≤ 80 := by
  have hcode (code : UInt16) : (Text.fourHexDigits code.toNat).length ≤ 6 :=
    Text.length_fourHexDigits_le code.toNat_lt
  unfold message
  cases cause with
  | truncated needed remaining =>
      have hneeded := hbrief.1.length_natural_le
      have hremaining := hbrief.2.length_natural_le
      simp only [String.length_append]
      change 16 + _ + 8 + _ + 10 ≤ _
      omega
  | payloadLength advertised available =>
      have hadvertised : (toString advertised).length ≤ 10 :=
        Text.length_natural_le (Nat.lt_trans advertised.toNat_lt (by decide)) (by decide)
      have havailable := FacilityBooking.Brief.length_natural_le hbrief
      simp only [String.length_append]
      change 15 + _ + 13 + _ + 23 ≤ _
      omega
  | textTooLong length =>
      have hlength := FacilityBooking.Brief.length_natural_le hbrief
      simp only [String.length_append]
      change 10 + _ + 32 ≤ _
      omega
  | invalidText => decide
  | invalidTime cause => exact Nat.le_trans (InvalidTime.length_message_le hbrief) (by decide)
  | unsupportedVersion version =>
      have hversion : (toString version).length ≤ 5 :=
        Text.length_natural_le (Nat.lt_trans version.toNat_lt (by decide)) (by decide)
      rw [String.length_append]
      change 29 + _ ≤ _
      omega
  | unknownOperation code =>
      have hdigits := hcode code
      rw [String.length_append]
      change 15 + _ ≤ _
      omega
  | unexpectedOperation expected actual =>
      have hexpected := hcode expected
      have hactual := hcode actual
      simp only [String.length_append]
      change 16 + _ + 6 + _ ≤ _
      omega

/-- The request is to blame, neither a fault of the ledger nor a full timetable. And all
numbers in the message have at most ten digits, but for those of bookings, which are shown
in 64 bits. -/
def Refusal.Ordinary : Refusal → Prop
  | outsideWeek start stop => Brief start ∧ Brief stop
  | emptySpan span => Brief span.start ∧ Brief span.stop
  | limitExceeded .bookings => False
  | internal _ => False
  | _ => True

theorem Refusal.Ordinary.category_ne_internal {refusal : Refusal} (hordinary : refusal.Ordinary) :
    refusal.category ≠ .internal := by
  cases refusal with
  | internal fault => exact absurd hordinary id
  | _ => exact nofun

theorem BookingId.length_text_le (booking : BookingId) : (text booking).length ≤ 20 := by
  have hlow := Int64.le_toInt (.ofInt booking)
  have hhigh := Int64.toInt_lt (.ofInt booking)
  change (toString (Int64.ofInt booking).toInt).length ≤ 19 + 1
  refine Text.length_integer_le ?_ (by decide)
  change _ < 10000000000000000000
  omega

theorem Refusal.length_message_le {cause : Refusal} (hordinary : cause.Ordinary) :
    cause.message.length ≤ 80 := by
  unfold message
  cases cause with
  | notFound booking =>
      have hbooking := BookingId.length_text_le booking
      rw [String.length_append]
      change 19 + (BookingId.text booking).length ≤ _
      omega
  | conflict booking =>
      have hbooking := BookingId.length_text_le booking
      rw [String.length_append]
      change 23 + (BookingId.text booking).length ≤ _
      omega
  | outsideWeek start stop =>
      have hstart := hordinary.1.length_le
      have hstop := hordinary.2.length_le
      simp only [String.length_append]
      change 17 + _ + 2 + _ + 17 ≤ _
      omega
  | emptySpan span =>
      have hstart := hordinary.1.length_le
      have hstop := hordinary.2.length_le
      simp only [String.length_append]
      change 35 + _ + 2 + _ + 1 ≤ _
      omega
  | emptyName holder => cases holder <;> decide
  | limitExceeded limit => cases limit <;> decide
  | internal fault => exact absurd hordinary id

end FacilityBooking
