import FacilityBooking.Datagram.FormatError

/-!
# Lengths of texts

A text takes one to four bytes for each of its characters, and a number has few
digits unless it is large.
-/

namespace FacilityBooking.Text

theorem utf8ByteSize_ofList_cons (letter : Char) (rest : List Char) :
    (String.ofList (letter :: rest)).utf8ByteSize =
      letter.utf8Size + (String.ofList rest).utf8ByteSize := by
  rw [String.ofList_cons, String.utf8ByteSize_append, String.utf8ByteSize_singleton]

theorem utf8ByteSize_ofList_le (letters : List Char) :
    (String.ofList letters).utf8ByteSize ≤ 4 * letters.length := by
  induction letters with
  | nil => exact Nat.le_refl 0
  | cons letter rest ih =>
      have hletter := letter.utf8Size_le_four
      rw [utf8ByteSize_ofList_cons, List.length_cons]
      omega

theorem length_le_utf8ByteSize_ofList (letters : List Char) :
    letters.length ≤ (String.ofList letters).utf8ByteSize := by
  induction letters with
  | nil => exact Nat.le_refl 0
  | cons letter rest ih =>
      have hletter := letter.utf8Size_pos
      rw [utf8ByteSize_ofList_cons, List.length_cons]
      omega

theorem utf8ByteSize_le (text : String) : text.utf8ByteSize ≤ 4 * text.length := by
  have hsize := utf8ByteSize_ofList_le text.toList
  rwa [String.ofList_toList, String.length_toList] at hsize

theorem length_natural_le {value digits : Nat} (hvalue : value < Nat.pow 10 digits)
    (hdigits : 0 < digits) : (toString value).length ≤ digits := by
  change (String.ofList (Nat.toDigits 10 value)).length ≤ digits
  rw [String.length_ofList]
  exact (Nat.length_toDigits_le_iff (by decide) hdigits).mpr hvalue

theorem length_integer_le {value : Int} {digits : Nat} (hvalue : value.natAbs < Nat.pow 10 digits)
    (hdigits : 0 < digits) : (toString value).length ≤ digits + 1 := by
  cases value with
  | ofNat value => exact Nat.le_succ_of_le (length_natural_le hvalue hdigits)
  | negSucc value =>
      change ("-" ++ toString (value + 1)).length ≤ digits + 1
      have hlength := length_natural_le hvalue hdigits
      rw [String.length_append, Nat.add_comm]
      exact Nat.add_le_add_right hlength 1

theorem length_fourHexDigits_le {value : Nat} (hvalue : value < 0x10000) :
    (fourHexDigits value).length ≤ 6 := by
  have hlength : (Nat.toDigits 16 value).length ≤ 4 :=
    (Nat.length_toDigits_le_iff (by decide) (by decide)).mpr hvalue
  unfold fourHexDigits padZeros hexadecimal
  simp only [String.length_append, String.length_pushn, String.length_ofList]
  change 2 + (0 + (4 - _) + _) ≤ 6
  omega

end FacilityBooking.Text
