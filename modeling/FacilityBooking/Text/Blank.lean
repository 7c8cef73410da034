/-!
# White space

The characters that may surround a word typed by a person, and the word that
remains when they are taken off both ends.
-/

namespace FacilityBooking.Text

/-- The characters with the Unicode property `White_Space`. -/
def isBlank (letter : Char) : Bool :=
  let code := letter.toNat
  (9 ≤ code && code ≤ 13) || code == 0x20 || code == 0x85 || code == 0xA0 ||
    code == 0x1680 || (0x2000 ≤ code && code ≤ 0x200A) || code == 0x2028 ||
    code == 0x2029 || code == 0x202F || code == 0x205F || code == 0x3000

/-- The text without the white space at its two ends. -/
def trim (text : List Char) : List Char :=
  ((text.dropWhile isBlank).reverse.dropWhile isBlank).reverse

/-- The parts before and after the first letter that satisfies `isMark`. -/
def cutAtFirst (isMark : Char → Bool) : List Char → Option (List Char × List Char)
  | [] => none
  | letter :: rest =>
      if isMark letter then some ([], rest)
      else (cutAtFirst isMark rest).map fun (before, after) => (letter :: before, after)

/-- A cut loses exactly the mark, and no mark stands before it. -/
theorem cutAtFirst_eq_some {isMark : Char → Bool} {text before after : List Char}
    (hcut : cutAtFirst isMark text = some (before, after)) :
    ∃ mark, isMark mark ∧ text = before ++ mark :: after ∧
      ∀ letter ∈ before, ¬ isMark letter := by
  induction text generalizing before with
  | nil => simp [cutAtFirst] at hcut
  | cons letter rest ih =>
      unfold cutAtFirst at hcut
      split at hcut
      · next hmark =>
          cases hcut
          exact ⟨letter, hmark, rfl, by simp⟩
      · next hmark =>
          obtain ⟨⟨first, last⟩, hrest, hpair⟩ := Option.map_eq_some_iff.mp hcut
          cases hpair
          obtain ⟨mark, hmark', hsplit, hnone⟩ := ih hrest
          refine ⟨mark, hmark', by simp [hsplit], ?_⟩
          intro other hother
          rcases List.mem_cons.mp hother with rfl | hother
          · exact hmark
          · exact hnone other hother

end FacilityBooking.Text
