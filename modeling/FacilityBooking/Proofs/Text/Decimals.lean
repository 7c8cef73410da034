import FacilityBooking.Proofs.Text.Floats
import FacilityBooking.Proofs.Text.Spelling

/-!
# The grammar of floating-point numbers

Every text that is read as a floating-point number is one of the grammar below, and every text
of the grammar is read as its value. The only ones without a number are the words for that.
-/

namespace FacilityBooking.Text

/-! ## Integers -/

/-- At least one decimal digit, and the value of the digits. -/
structure Digits (text : List Char) (value : Nat) : Prop where
  nonempty : text ≠ []
  digits : ∀ letter ∈ text, letter.isDigit
  value_eq : Nat.ofDigitChars 10 text 0 = value

/-- An integer is a numeral, or digits after a minus sign. -/
inductive Integer : List Char → Int → Prop where
  | numeral {text : List Char} {value : Nat} (hnumeral : Numeral text value) : Integer text value
  | negative {digits : List Char} {value : Nat} (hdigits : Digits digits value) :
      Integer ('-' :: digits) (-value)

theorem readDigits?_eq_some_iff_digits {text : List Char} {value : Nat} :
    readDigits? text = some value ↔ Digits text value := by
  rw [readDigits?_eq_some_iff]
  exact ⟨fun ⟨hnonempty, hdigits, hvalue⟩ => ⟨hnonempty, hdigits, hvalue⟩,
    fun hdigits => ⟨hdigits.nonempty, hdigits.digits, hdigits.value_eq⟩⟩

theorem Numeral.head {text : List Char} {value : Nat} (hnumeral : Numeral text value) :
    ∃ letter ∈ text.head?, letter = '+' ∨ letter.isDigit := by
  obtain ⟨digits, hnonempty, rfl | rfl, hdigits, -⟩ := hnumeral
  · obtain ⟨letter, rest, rfl⟩ := List.exists_cons_of_ne_nil hnonempty
    exact ⟨letter, rfl, .inr (hdigits letter (.head _))⟩
  · exact ⟨'+', rfl, .inl rfl⟩

theorem readSigned?_eq_some_iff {text : List Char} {value : Int} :
    readSigned? text = some value ↔ Integer text value := by
  unfold readSigned?
  split
  · next digits =>
      simp only [Option.bind_eq_bind, Option.pure_def, Option.map_eq_some_iff,
        Option.bind_eq_some_iff, Option.some.injEq]
      constructor
      · rintro ⟨_, ⟨found, hfound, rfl⟩, rfl⟩
        exact .negative (readDigits?_eq_some_iff_digits.mp hfound)
      · intro hinteger
        cases hinteger with
        | numeral hnumeral =>
            obtain ⟨letter, hhead, hletter⟩ := hnumeral.head
            cases hhead
            exact absurd hletter (by decide)
        | negative hdigits =>
            exact ⟨_, ⟨_, readDigits?_eq_some_iff_digits.mpr hdigits, rfl⟩, rfl⟩
  · next hsign =>
      simp only [Option.bind_eq_bind, Option.pure_def, Option.map_eq_some_iff,
        Option.bind_eq_some_iff, Option.some.injEq]
      constructor
      · rintro ⟨_, ⟨found, hfound, rfl⟩, rfl⟩
        exact .numeral (readNatural?_eq_some_iff.mp hfound)
      · intro hinteger
        cases hinteger with
        | numeral hnumeral =>
            exact ⟨_, ⟨_, readNatural?_eq_some_iff.mpr hnumeral, rfl⟩, rfl⟩
        | negative => exact absurd rfl (hsign _)

/-! ## Decimal fractions -/

/-- The power of ten behind a fraction. -/
inductive Power : List Char → Int → Prop where
  | none : Power [] 0
  | written {mark : Char} {text : List Char} {value : Int} (hmark : mark = 'e' ∨ mark = 'E')
      (hinteger : Integer text value) : Power (mark :: text) value

/-- Digits, with a point before, among or behind them if any, and a power of ten. -/
inductive Decimal : List Char → Fraction → Prop where
  | whole {digits power : List Char} {value : Nat} {exponent : Int}
      (hdigits : Digits digits value) (hpower : Power power exponent) :
      Decimal (digits ++ power) ⟨value, exponent⟩
  | pointed {whole part power : List Char} {value : Nat} {exponent : Int}
      (hdigits : Digits (whole ++ part) value) (hpower : Power power exponent) :
      Decimal (whole ++ '.' :: (part ++ power)) ⟨value, exponent - part.length⟩

theorem readExponent?_eq_some_iff {text : List Char} {value : Int} :
    readExponent? text = some value ↔ Power text value := by
  cases text with
  | nil =>
      rw [readExponent?, Option.some.injEq]
      constructor
      · rintro rfl
        exact .none
      · rintro ⟨⟩
        rfl
  | cons mark rest =>
      rw [readExponent?]
      constructor
      · intro hread
        split at hread
        · next hmark => exact .written hmark (readSigned?_eq_some_iff.mp hread)
        · exact nomatch hread
      · rintro ⟨⟩
        next hmark hinteger =>
          rw [if_pos hmark]
          exact readSigned?_eq_some_iff.mpr hinteger

theorem Power.head {text : List Char} {value : Int} (hpower : Power text value) :
    ∀ letter ∈ text.head?, letter ≠ '.' ∧ ¬ letter.isDigit := by
  cases hpower with
  | none => exact nofun
  | written hmark _ =>
      rintro letter ⟨⟩
      rcases hmark with rfl | rfl <;> decide

/-- The digits behind a point that the text begins with, and what follows them. -/
def behindPoint (text : List Char) : List Char × List Char :=
  match text with
  | '.' :: rest => (rest.takeWhile Char.isDigit, rest.dropWhile Char.isDigit)
  | _ => ([], text)

theorem behindPoint_of_ne {text : List Char} (htext : ∀ rest, text ≠ '.' :: rest) :
    behindPoint text = ([], text) := by
  unfold behindPoint
  split
  · exact absurd rfl (htext _)
  · rfl

theorem readFraction?_eq {text part power : List Char}
    (hparts : behindPoint (text.dropWhile Char.isDigit) = (part, power)) :
    readFraction? text =
      match readDigits? (text.takeWhile Char.isDigit ++ part), readExponent? power with
      | some value, some exponent => some ⟨value, exponent - part.length⟩
      | _, _ => none := by
  have hread : readFraction? text =
      let rest := behindPoint (text.dropWhile Char.isDigit)
      match readDigits? (text.takeWhile Char.isDigit ++ rest.1), readExponent? rest.2 with
      | some value, some exponent => some ⟨value, exponent - rest.1.length⟩
      | _, _ => none := rfl
  rw [hread, hparts]

theorem readFraction?_eq_some_iff_parts {text : List Char} {fraction : Fraction} :
    readFraction? text = some fraction ↔ ∃ part power value exponent,
      behindPoint (text.dropWhile Char.isDigit) = (part, power) ∧
        Digits (text.takeWhile Char.isDigit ++ part) value ∧ Power power exponent ∧
          fraction = ⟨value, exponent - part.length⟩ := by
  cases hparts : behindPoint (text.dropWhile Char.isDigit) with
  | mk part power =>
      simp only [readFraction?_eq hparts, ← readDigits?_eq_some_iff_digits,
        ← readExponent?_eq_some_iff]
      constructor
      · intro hfraction
        split at hfraction
        · next value exponent hvalue hexponent =>
            exact ⟨part, power, value, exponent, rfl, hvalue, hexponent,
              (Option.some.inj hfraction).symm⟩
        · exact nomatch hfraction
      · rintro ⟨_, _, value, exponent, ⟨⟩, hvalue, hexponent, rfl⟩
        rw [hvalue, hexponent]

/-- Digits end where a letter stands that is none. -/
theorem takeWhile_digits {digits rest : List Char} (hdigits : ∀ letter ∈ digits, letter.isDigit)
    (hrest : ∀ letter ∈ rest.head?, ¬ letter.isDigit) :
    (digits ++ rest).takeWhile Char.isDigit = digits ∧
      (digits ++ rest).dropWhile Char.isDigit = rest := by
  rw [List.takeWhile_append_of_pos hdigits, List.dropWhile_append_of_pos hdigits]
  cases rest with
  | nil => exact ⟨List.append_nil _, rfl⟩
  | cons letter rest =>
      have hletter := hrest letter rfl
      rw [List.takeWhile_cons_of_neg hletter, List.dropWhile_cons_of_neg hletter]
      exact ⟨List.append_nil _, rfl⟩

theorem readFraction?_eq_some_iff {text : List Char} {fraction : Fraction} :
    readFraction? text = some fraction ↔ Decimal text fraction := by
  rw [readFraction?_eq_some_iff_parts]
  constructor
  · rintro ⟨part, power, value, exponent, hparts, hdigits, hpower, rfl⟩
    have htext : text.takeWhile Char.isDigit ++ text.dropWhile Char.isDigit = text :=
      List.takeWhile_append_dropWhile
    rw [← htext]
    by_cases hpoint : ∃ rest, text.dropWhile Char.isDigit = '.' :: rest
    · obtain ⟨rest, hrest⟩ := hpoint
      rw [hrest] at hparts ⊢
      obtain ⟨rfl, rfl⟩ := Prod.mk.inj hparts
      have hdecimal := Decimal.pointed hdigits hpower
      rwa [List.takeWhile_append_dropWhile] at hdecimal
    · rw [behindPoint_of_ne (not_exists.mp hpoint)] at hparts
      obtain ⟨rfl, rfl⟩ := Prod.mk.inj hparts
      rw [List.append_nil] at hdigits
      rw [List.length_nil, Int.natCast_zero, Int.sub_zero]
      exact .whole hdigits hpower
  · intro hdecimal
    cases hdecimal with
    | @whole digits power value exponent hdigits hpower =>
        obtain ⟨htake, hdrop⟩ := takeWhile_digits hdigits.digits fun letter hletter =>
          (hpower.head letter hletter).2
        rw [htake, hdrop]
        refine ⟨[], power, value, exponent, behindPoint_of_ne ?_, ?_, hpower, ?_⟩
        · rintro rest rfl
          exact (hpower.head '.' rfl).1 rfl
        · rwa [List.append_nil]
        · rw [List.length_nil, Int.natCast_zero, Int.sub_zero]
    | @pointed whole part power value exponent hdigits hpower =>
        obtain ⟨hwhole, hpart⟩ := List.forall_mem_append.mp hdigits.digits
        have hpoint : ∀ letter ∈ ('.' :: (part ++ power)).head?, ¬ letter.isDigit := by
          rintro letter ⟨⟩
          decide
        obtain ⟨htake, hdrop⟩ := takeWhile_digits hwhole hpoint
        obtain ⟨htakePart, hdropPart⟩ := takeWhile_digits hpart fun letter hletter =>
          (hpower.head letter hletter).2
        rw [htake, hdrop]
        refine ⟨part, power, value, exponent, ?_, hdigits, hpower, rfl⟩
        exact Prod.ext htakePart hdropPart

theorem Decimal.exists_digit {text : List Char} {fraction : Fraction}
    (hdecimal : Decimal text fraction) : ∃ letter ∈ text, letter.isDigit := by
  cases hdecimal with
  | whole hdigits _ =>
      obtain ⟨letter, hletter⟩ := List.exists_mem_of_ne_nil _ hdigits.nonempty
      exact ⟨letter, List.mem_append_left _ hletter, hdigits.digits letter hletter⟩
  | pointed hdigits _ =>
      obtain ⟨letter, hletter⟩ := List.exists_mem_of_ne_nil _ hdigits.nonempty
      refine ⟨letter, ?_, hdigits.digits letter hletter⟩
      rcases List.mem_append.mp hletter with hwhole | hpart
      · exact List.mem_append_left _ hwhole
      · exact List.mem_append_right _ (.tail _ (List.mem_append_left _ hpart))

theorem Decimal.head {text : List Char} {fraction : Fraction} (hdecimal : Decimal text fraction) :
    ∃ letter ∈ text.head?, letter = '.' ∨ letter.isDigit := by
  cases hdecimal with
  | @whole digits power _ _ hdigits _ =>
      obtain ⟨letter, rest, rfl⟩ := List.exists_cons_of_ne_nil hdigits.nonempty
      exact ⟨letter, rfl, .inr (hdigits.digits letter (.head _))⟩
  | @pointed whole part power _ _ hdigits _ =>
      cases whole with
      | nil => exact ⟨'.', rfl, .inl rfl⟩
      | cons letter rest => exact ⟨letter, rfl, .inr (hdigits.digits letter (.head _))⟩

/-! ## Words -/

/-- The text is the word in any case of its letters. -/
def IsWord (word : String) (text : List Char) : Prop :=
  text.map Char.toLower = word.toList

theorem ofList_eq_iff_isWord {word : String} {text : List Char} :
    String.ofList (text.map Char.toLower) = word ↔ IsWord word text := by
  rw [IsWord, ← String.toList_inj, String.toList_ofList]

theorem toLower_of_isDigit {letter : Char} (hdigit : letter.isDigit) : letter.toLower = letter := by
  have hbelow : letter.val ≤ 57 := by
    simp only [Char.isDigit, Bool.and_eq_true, decide_eq_true_eq] at hdigit
    exact hdigit.2
  unfold Char.toLower
  split
  · next hcapital => grind
  · rfl

/-- A word without digits is no decimal fraction. -/
theorem IsWord.not_decimal {word : String} {text : List Char} {fraction : Fraction}
    (hword : IsWord word text) (hletters : word.toList.any Char.isDigit = false) :
    ¬ Decimal text fraction := by
  intro hdecimal
  obtain ⟨letter, hletter, hdigit⟩ := hdecimal.exists_digit
  apply List.any_eq_false.mp hletters letter _ hdigit
  rw [← hword, ← toLower_of_isDigit hdigit]
  exact List.mem_map_of_mem hletter

theorem IsWord.readFraction?_eq_none {word : String} {text : List Char} (hword : IsWord word text)
    (hletters : word.toList.any Char.isDigit = false) : readFraction? text = none :=
  Option.eq_none_iff_forall_ne_some.mpr fun _ hread =>
    hword.not_decimal hletters (readFraction?_eq_some_iff.mp hread)

theorem IsWord.head {word : String} {text : List Char} {first : Char} (hword : IsWord word text)
    (hfirst : word.toList.head? = some first) :
    ∀ letter ∈ text.head?, letter.toLower = first := by
  intro letter hletter
  rw [← hword, List.head?_map, Option.mem_def.mp hletter] at hfirst
  exact Option.some.inj hfirst

/-! ## Floating-point numbers -/

/-- A floating-point number without a sign. -/
inductive Magnitude : List Char → Float → Prop where
  | decimal {text : List Char} {fraction : Fraction} (hdecimal : Decimal text fraction) :
      Magnitude text fraction.toFloat
  | infinite {text : List Char} (hword : IsWord "inf" text ∨ IsWord "infinity" text) :
      Magnitude text (1.0 / 0.0)
  | notANumber {text : List Char} (hword : IsWord "nan" text) : Magnitude text (0.0 / 0.0)

/-- A floating-point number after at most one sign. -/
inductive Floating : List Char → Float → Prop where
  | unsigned {text : List Char} {value : Float} (hvalue : Magnitude text value) :
      Floating text value
  | positive {text : List Char} {value : Float} (hvalue : Magnitude text value) :
      Floating ('+' :: text) value
  | negative {text : List Char} {value : Float} (hvalue : Magnitude text value) :
      Floating ('-' :: text) (-value)

theorem readMagnitude?_eq_some_iff {text : List Char} {value : Float} :
    readMagnitude? text = some value ↔ Magnitude text value := by
  unfold readMagnitude?
  constructor
  · intro hread
    split at hread
    · next fraction hfraction =>
        obtain rfl := Option.some.inj hread
        exact .decimal (readFraction?_eq_some_iff.mp hfraction)
    · split at hread
      · next hword =>
          obtain rfl := Option.some.inj hread
          exact .notANumber (ofList_eq_iff_isWord.mp hword)
      · next hword =>
          obtain rfl := Option.some.inj hread
          exact .infinite (.inl (ofList_eq_iff_isWord.mp hword))
      · next hword =>
          obtain rfl := Option.some.inj hread
          exact .infinite (.inr (ofList_eq_iff_isWord.mp hword))
      · exact nomatch hread
  · intro hmagnitude
    cases hmagnitude with
    | decimal hdecimal => rw [readFraction?_eq_some_iff.mpr hdecimal]
    | infinite hword =>
        rcases hword with hword | hword
        · rw [hword.readFraction?_eq_none (by decide), ofList_eq_iff_isWord.mpr hword]
          rfl
        · rw [hword.readFraction?_eq_none (by decide), ofList_eq_iff_isWord.mpr hword]
          rfl
    | notANumber hword =>
        rw [hword.readFraction?_eq_none (by decide), ofList_eq_iff_isWord.mpr hword]
        rfl

theorem Magnitude.head {text : List Char} {value : Float} (hmagnitude : Magnitude text value) :
    ∀ letter ∈ text.head?, letter ≠ '+' ∧ letter ≠ '-' := by
  intro letter hletter
  have hfirst : letter = '.' ∨ letter.isDigit ∨ letter.toLower = 'i' ∨ letter.toLower = 'n' := by
    cases hmagnitude with
    | decimal hdecimal =>
        obtain ⟨first, hfirst, hkind⟩ := hdecimal.head
        obtain rfl := Option.mem_unique hfirst hletter
        exact hkind.imp_right .inl
    | infinite hword =>
        rcases hword with hword | hword
        · exact .inr (.inr (.inl (hword.head rfl letter hletter)))
        · exact .inr (.inr (.inl (hword.head rfl letter hletter)))
    | notANumber hword => exact .inr (.inr (.inr (hword.head rfl letter hletter)))
  constructor
  · rintro rfl
    exact absurd hfirst (by decide)
  · rintro rfl
    exact absurd hfirst (by decide)

theorem readFloat?_eq_some_iff {text : List Char} {value : Float} :
    readFloat? text = some value ↔ Floating text value := by
  unfold readFloat?
  split
  · next text =>
      rw [Option.map_eq_some_iff]
      constructor
      · rintro ⟨magnitude, hmagnitude, rfl⟩
        exact .negative (readMagnitude?_eq_some_iff.mp hmagnitude)
      · intro hfloating
        cases hfloating with
        | unsigned hvalue => exact absurd rfl (hvalue.head '-' rfl).2
        | negative hvalue => exact ⟨_, readMagnitude?_eq_some_iff.mpr hvalue, rfl⟩
  · next text =>
      rw [readMagnitude?_eq_some_iff]
      constructor
      · exact .positive
      · intro hfloating
        cases hfloating with
        | unsigned hvalue => exact absurd rfl (hvalue.head '+' rfl).1
        | positive hvalue => exact hvalue
  · next hminus hplus =>
      rw [readMagnitude?_eq_some_iff]
      constructor
      · exact .unsigned
      · intro hfloating
        cases hfloating with
        | unsigned hvalue => exact hvalue
        | positive => exact absurd rfl (hplus _)
        | negative => exact absurd rfl (hminus _)

theorem Floating.unique {text : List Char} {first second : Float} (hfirst : Floating text first)
    (hsecond : Floating text second) : first = second :=
  Option.some.inj
    ((readFloat?_eq_some_iff.mpr hfirst).symm.trans (readFloat?_eq_some_iff.mpr hsecond))

/-! ## Values that are no numbers -/

/-- The word for a value that is no number, after at most one sign. -/
inductive SaysNaN : List Char → Prop where
  | unsigned {text : List Char} (hword : IsWord "nan" text) : SaysNaN text
  | positive {text : List Char} (hword : IsWord "nan" text) : SaysNaN ('+' :: text)
  | negative {text : List Char} (hword : IsWord "nan" text) : SaysNaN ('-' :: text)

theorem Magnitude.isWord_of_isNaN {text : List Char} {value : Float}
    (hmagnitude : Magnitude text value) (hnan : value.isNaN) : IsWord "nan" text := by
  cases hmagnitude with
  | decimal => exact absurd hnan (Fraction.not_isNaN_toFloat _)
  | infinite => exact absurd hnan (by decide +kernel)
  | notANumber hword => exact hword

theorem SaysNaN.exists_floating {text : List Char} (hspelled : SaysNaN text) :
    ∃ value, Floating text value ∧ value.isNaN := by
  cases hspelled with
  | unsigned hword => exact ⟨_, .unsigned (.notANumber hword), by decide +kernel⟩
  | positive hword => exact ⟨_, .positive (.notANumber hword), by decide +kernel⟩
  | negative hword => exact ⟨_, .negative (.notANumber hword), by decide +kernel⟩

/-- Only the word for it is read as a value that is no number. -/
theorem Floating.isNaN_iff {text : List Char} {value : Float} (hfloating : Floating text value) :
    value.isNaN ↔ SaysNaN text := by
  constructor
  · intro hnan
    cases hfloating with
    | unsigned hvalue => exact .unsigned (hvalue.isWord_of_isNaN hnan)
    | positive hvalue => exact .positive (hvalue.isWord_of_isNaN hnan)
    | negative hvalue => exact .negative (hvalue.isWord_of_isNaN (isNaN_neg.mp hnan))
  · intro hspelled
    obtain ⟨other, hother, hnan⟩ := hspelled.exists_floating
    rwa [hfloating.unique hother]

end FacilityBooking.Text
