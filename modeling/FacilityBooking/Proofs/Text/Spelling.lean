import FacilityBooking.Text.Blank
import FacilityBooking.Text.Numeral
import Mathlib.Data.List.DropRight

/-!
# Spelling

What the readers of words accept, told without them: a word that stands between white space,
a text cut at its first mark, and a numeral with the value of its digits.
-/

namespace FacilityBooking.Text

/-! ## White space -/

/-- The text is the word with white space around it, and the word neither begins nor ends
with white space. -/
structure Surrounds (text word : List Char) : Prop where
  split : ∃ before after, text = before ++ word ++ after ∧
    (∀ letter ∈ before, isBlank letter) ∧ ∀ letter ∈ after, isBlank letter
  first : ∀ letter ∈ word.head?, ¬ isBlank letter
  last : ∀ letter ∈ word.getLast?, ¬ isBlank letter

theorem not_blank_of_head?_dropWhile {text : List Char} {letter : Char}
    (hhead : letter ∈ (text.dropWhile isBlank).head?) : ¬ isBlank letter := by
  have hnot := List.head?_dropWhile_not isBlank text
  rw [Option.mem_def.mp hhead] at hnot
  exact Bool.not_eq_true _ ▸ hnot

theorem dropWhile_eq_self {word : List Char} (hfirst : ∀ letter ∈ word.head?, ¬ isBlank letter) :
    word.dropWhile isBlank = word := by
  cases word with
  | nil => rfl
  | cons letter rest => exact List.dropWhile_cons_of_neg (hfirst letter rfl)

theorem surrounds_trim (text : List Char) : Surrounds text (trim text) := by
  have htrim : trim text = (text.dropWhile isBlank).rdropWhile isBlank := rfl
  refine ⟨⟨text.takeWhile isBlank, (text.dropWhile isBlank).rtakeWhile isBlank, ?_,
    fun letter hletter => List.mem_takeWhile_imp hletter,
    fun letter hletter => List.mem_rtakeWhile_imp hletter⟩, ?_, ?_⟩
  · rw [htrim, List.append_assoc, List.rdropWhile_append_rtakeWhile,
      List.takeWhile_append_dropWhile]
  · intro letter hletter
    obtain ⟨after, hafter⟩ := List.rdropWhile_prefix isBlank (text.dropWhile isBlank)
    have hhead : letter ∈ (text.dropWhile isBlank).head? := by
      rw [← hafter, ← htrim, List.head?_append, Option.mem_def.mp hletter]
      rfl
    exact not_blank_of_head?_dropWhile hhead
  · intro letter hletter
    rw [trim, List.getLast?_reverse] at hletter
    exact not_blank_of_head?_dropWhile hletter

/-- Trimming finds the word that the white space surrounds, and there is only one. -/
theorem trim_eq_iff {text word : List Char} : trim text = word ↔ Surrounds text word := by
  constructor
  · rintro rfl
    exact surrounds_trim text
  · rintro ⟨⟨before, after, rfl, hbefore, hafter⟩, hfirst, hlast⟩
    rw [trim, List.append_assoc, List.dropWhile_append_of_pos hbefore]
    cases word with
    | nil =>
        rw [List.nil_append, List.dropWhile_eq_nil_iff.mpr hafter]
        rfl
    | cons letter rest =>
        have hreversed : ∀ other ∈ after.reverse, isBlank other := fun other hother =>
          hafter other (List.mem_reverse.mp hother)
        rw [List.cons_append, List.dropWhile_cons_of_neg (hfirst letter rfl), ← List.cons_append,
          List.reverse_append, List.dropWhile_append_of_pos hreversed, dropWhile_eq_self,
          List.reverse_reverse]
        rwa [List.head?_reverse]

theorem Surrounds.unique {text first second : List Char} (hfirst : Surrounds text first)
    (hsecond : Surrounds text second) : first = second :=
  (trim_eq_iff.mpr hfirst).symm.trans (trim_eq_iff.mpr hsecond)

/-! ## Marks -/

/-- The text is cut at the first letter that is a mark, and the mark is lost. -/
def CutAt (isMark : Char → Bool) (text before after : List Char) : Prop :=
  ∃ mark, isMark mark ∧ text = before ++ mark :: after ∧ ∀ letter ∈ before, ¬ isMark letter

theorem cutAtFirst_eq_some_iff {isMark : Char → Bool} {text before after : List Char} :
    cutAtFirst isMark text = some (before, after) ↔ CutAt isMark text before after := by
  refine ⟨cutAtFirst_eq_some, ?_⟩
  rintro ⟨mark, hmark, rfl, hbefore⟩
  induction before with
  | nil => exact if_pos hmark
  | cons letter rest ih =>
      rw [List.cons_append, cutAtFirst, if_neg (hbefore letter (.head _)),
        ih fun other hother => hbefore other (.tail _ hother)]
      rfl

/-! ## Numerals -/

/-- The text is a numeral: decimal digits of the given value, at least one of them, after at
most one plus sign. -/
def Numeral (text : List Char) (value : Nat) : Prop :=
  ∃ digits, digits ≠ [] ∧ (text = digits ∨ text = '+' :: digits) ∧
    (∀ letter ∈ digits, letter.isDigit) ∧ Nat.ofDigitChars 10 digits 0 = value

theorem digitValue?_eq (letter : Char) :
    digitValue? letter = if letter.isDigit then some (letter.toNat - '0'.toNat) else none := by
  unfold digitValue? Char.isDigit
  simp only [Bool.and_eq_true, decide_eq_true_eq]
  rfl

theorem readDigitsFrom?_eq_some_iff {digits : List Char} {start value : Nat} :
    readDigitsFrom? start digits = some value ↔
      (∀ letter ∈ digits, letter.isDigit) ∧ Nat.ofDigitChars 10 digits start = value := by
  induction digits generalizing start with
  | nil => simp [readDigitsFrom?]
  | cons letter rest ih =>
      rw [readDigitsFrom?, digitValue?_eq, List.forall_mem_cons, Nat.ofDigitChars_cons]
      by_cases hdigit : letter.isDigit
      · rw [if_pos hdigit, and_iff_right hdigit]
        exact ih
      · rw [if_neg hdigit]
        exact ⟨nofun, fun hdigits => absurd hdigits.1.1 hdigit⟩

theorem readDigits?_eq_some_iff {digits : List Char} {value : Nat} :
    readDigits? digits = some value ↔ digits ≠ [] ∧ (∀ letter ∈ digits, letter.isDigit) ∧
      Nat.ofDigitChars 10 digits 0 = value := by
  cases digits with
  | nil => simp [readDigits?]
  | cons letter rest =>
      rw [readDigits?, readDigitsFrom?_eq_some_iff, and_iff_right (List.cons_ne_nil _ _)]
      exact List.cons_ne_nil _ _

theorem readNatural?_eq_some_iff {text : List Char} {value : Nat} :
    readNatural? text = some value ↔ Numeral text value := by
  unfold readNatural? Numeral
  split
  · next digits =>
      rw [readDigits?_eq_some_iff]
      constructor
      · rintro ⟨hnonempty, hdigits, hvalue⟩
        exact ⟨digits, hnonempty, .inr rfl, hdigits, hvalue⟩
      · rintro ⟨found, hnonempty, rfl | hfound, hdigits, hvalue⟩
        · exact absurd (hdigits '+' (.head _)) (by decide)
        · obtain rfl := (List.cons.inj hfound).2
          exact ⟨hnonempty, hdigits, hvalue⟩
  · next hsign =>
      rw [readDigits?_eq_some_iff]
      constructor
      · rintro ⟨hnonempty, hdigits, hvalue⟩
        exact ⟨text, hnonempty, .inl rfl, hdigits, hvalue⟩
      · rintro ⟨found, hnonempty, rfl | rfl, hdigits, hvalue⟩
        · exact ⟨hnonempty, hdigits, hvalue⟩
        · exact absurd rfl (hsign found)

theorem readBelow?_eq_some_iff {bound value : Nat} {text : List Char} :
    readBelow? bound text = some value ↔ Numeral text value ∧ value < bound := by
  rw [readBelow?, Option.filter_eq_some_iff, readNatural?_eq_some_iff, decide_eq_true_eq]

/-- A numeral has a digit. -/
theorem Numeral.exists_digit {text : List Char} {value : Nat} (hnumeral : Numeral text value) :
    ∃ letter ∈ text, letter.isDigit := by
  obtain ⟨digits, hnonempty, htext, hdigits, -⟩ := hnumeral
  obtain ⟨letter, hletter⟩ := List.exists_mem_of_ne_nil digits hnonempty
  refine ⟨letter, ?_, hdigits letter hletter⟩
  rcases htext with rfl | rfl
  · exact hletter
  · exact .tail _ hletter

end FacilityBooking.Text
