import FacilityBooking.Proofs.Ledger.LookUps

/-!
# Searches for a start

A slot is inserted at the position that a search for its start tells, and among slots that
start together a search may tell any one. Whichever it tells, the new slot stands between
slots that stand as before, and all are in the order of their starts. A timetable inserts by
halving, which is one such search.
-/

namespace FacilityBooking

namespace Timetable

/-! ## Positions -/

theorem exists_append_of_getElem? {slots : List Slot} {position : Nat} {slot : Slot}
    (hslot : slots[position]? = some slot) :
    ∃ earlier later, slots = earlier ++ slot :: later ∧ position = earlier.length := by
  obtain ⟨hposition, rfl⟩ := List.getElem?_eq_some_iff.mp hslot
  refine ⟨slots.take position, slots.drop (position + 1), ?_,
    (List.length_take_of_le (Nat.le_of_lt hposition)).symm⟩
  rw [← List.drop_eq_getElem_cons hposition, List.take_append_drop]

theorem insertIdx_append (slot : Slot) (earlier later : List Slot) :
    (earlier ++ later).insertIdx earlier.length slot = earlier ++ slot :: later := by
  induction earlier with
  | nil => rfl
  | cons first rest ih =>
      rw [List.cons_append, List.length_cons, List.insertIdx_succ_cons, ih, List.cons_append]

/-! ## Searches -/

/-- Looks for a minute among the starts of slots: `ok` with the position of a slot that starts
then, or `error` with the position where such a slot belongs. -/
abbrev Search := List Slot → Int → Except Nat Nat

namespace Search

/-- What may be told of a minute: the position of any slot that starts then, or, if there is
none, the position behind the slots that start earlier. -/
inductive Tells (slots : List Slot) (minute : Int) : Except Nat Nat → Prop
  | found {position : Nat} {slot : Slot} (hslot : slots[position]? = some slot)
      (hstart : slot.span.start = minute) : Tells slots minute (.ok position)
  | missing {position : Nat} (habsent : ∀ slot ∈ slots, slot.span.start ≠ minute)
      (hparted : Parted slots minute position position) : Tells slots minute (.error position)

/-- Of slots in the order of their starts the search tells what may be told. Of other slots
nothing is asked. -/
def Reliable (search : Search) : Prop :=
  ∀ slots minute, Sorted slots → Tells slots minute (search slots minute)

/-- The position that is told, whether or not a slot starts there at the minute. -/
def position : Except Nat Nat → Nat
  | .ok position => position
  | .error position => position

/-- Halves the slots up to the first that starts after the minute, and looks at the one before. -/
def halving : Search := fun slots minute =>
  match bisect slots (minute + 1) 0 slots.length with
  | 0 => .error 0
  | last + 1 =>
      if slots[last]?.any fun slot => slot.span.start = minute then .ok last
      else .error (last + 1)

variable {slots : List Slot} {minute : Int} {told : Except Nat Nat}

/-- No slot before the position that is told starts after the minute, and none from it on
starts before. -/
theorem Tells.exists_append (htells : Tells slots minute told) (hsorted : Sorted slots) :
    ∃ earlier later, slots = earlier ++ later ∧ position told = earlier.length ∧
      (∀ other ∈ earlier, other.span.start ≤ minute) ∧
      ∀ other ∈ later, minute ≤ other.span.start := by
  cases htells with
  | @found place slot hslot hstart =>
      obtain ⟨earlier, later, rfl, rfl⟩ := exists_append_of_getElem? hslot
      obtain ⟨-, hfrom, hacross⟩ := List.pairwise_append.mp hsorted
      refine ⟨earlier, slot :: later, rfl, rfl, ?_, ?_⟩
      · intro other hother
        exact hstart ▸ hacross other hother slot (.head _)
      · intro other hother
        rcases List.mem_cons.mp hother with rfl | hother
        · exact Int.le_of_eq hstart.symm
        · exact hstart ▸ (List.pairwise_cons.mp hfrom).1 other hother
  | @missing place habsent hparted =>
      refine ⟨slots.take place, slots.drop place, (List.take_append_drop _ _).symm,
        (List.length_take_of_le hparted.high_le_length).symm, ?_, ?_⟩
      · intro other hother
        exact Int.le_of_lt (hparted.lt_of_mem_take hother)
      · intro other hother
        exact hparted.le_of_mem_drop hother

/-- Halving tells of the last slot that does not start after the minute. -/
theorem halving_cases (hsorted : Sorted slots) (minute : Int) :
    (halving slots minute = .error 0 ∧ ∀ other ∈ slots, minute < other.span.start) ∨
    ∃ earlier last later, slots = earlier ++ last :: later ∧ last.span.start ≤ minute ∧
      (∀ other ∈ later, minute < other.span.start) ∧
      halving slots minute =
        if last.span.start = minute then .ok earlier.length else .error (earlier.length + 1) := by
  have hparted := (Parted.whole slots (minute + 1)).bisect hsorted
  unfold halving
  generalize bisect slots (minute + 1) 0 slots.length = behind at hparted ⊢
  cases behind with
  | zero => exact .inl ⟨rfl, fun other hother => hparted.le_of_mem_drop hother⟩
  | succ position =>
      obtain ⟨last, hslot⟩ : ∃ last, slots[position]? = some last :=
        ⟨_, List.getElem?_eq_getElem (Nat.lt_of_succ_le hparted.high_le_length)⟩
      have hlast := hparted.early position last hslot (Nat.lt_succ_self position)
      obtain ⟨earlier, later, rfl, rfl⟩ := exists_append_of_getElem? hslot
      refine .inr ⟨earlier, last, later, rfl, Int.le_of_lt_add_one hlast, ?_, ?_⟩
      · intro other hother
        apply hparted.le_of_mem_drop
        rwa [List.drop_append, List.drop_eq_nil_of_le (Nat.le_succ _), Nat.add_sub_cancel_left]
      · dsimp only
        simp only [hslot, Option.any_some, decide_eq_true_eq]

theorem halving_reliable : Reliable halving := by
  intro slots minute hsorted
  rcases halving_cases hsorted minute with
    ⟨htold, hlater⟩ | ⟨earlier, last, later, rfl, hlast, hlater, htold⟩
  · rw [htold]
    refine .missing (fun other hother => Int.ne_of_gt (hlater other hother)) ?_
    exact @Parted.of_append minute [] slots nofun fun other hother =>
      Int.le_of_lt (hlater other hother)
  · rw [htold]
    split
    · next hstart =>
        refine .found ?_ hstart
        rw [List.getElem?_append_right (Nat.le_refl _), Nat.sub_self, List.getElem?_cons_zero]
    · next hstart =>
        -- The last slot starts earlier, so everything up to it does.
        have hbefore : ∀ other ∈ earlier ++ [last], other.span.start < minute := by
          intro other hother
          have hle : other.span.start ≤ last.span.start := by
            rcases List.mem_append.mp hother with hother | hother
            · exact (List.pairwise_append.mp hsorted).2.2 other hother last (.head _)
            · exact Int.le_of_eq (by rw [List.mem_singleton.mp hother])
          exact Int.lt_of_le_of_lt hle (Int.lt_iff_le_and_ne.mpr ⟨hlast, hstart⟩)
        have hparted := Parted.of_append hbefore fun other hother =>
          Int.le_of_lt (hlater other hother)
        rw [List.length_append, List.length_singleton] at hparted
        rw [List.append_cons]
        refine .missing (fun other hother => ?_) hparted
        rcases List.mem_append.mp hother with hother | hother
        · exact Int.ne_of_lt (hbefore other hother)
        · exact Int.ne_of_gt (hlater other hother)

end Search

/-! ## Insertion -/

/-- The timetable with one more slot, at the position that a search for its start tells. A
position behind the end of the slots has no result. -/
def insertBy? (search : Search) (timetable : Timetable) (span : Span) (booking : BookingId) :
    Option Timetable :=
  let position := Search.position (search timetable.slots span.start)
  if position ≤ timetable.slots.length then
    some { timetable with slots := timetable.slots.insertIdx position ⟨span, booking⟩ }
  else none

theorem insertBy?_append {search : Search} {earlier later : List Slot} {span : Span}
    (hposition : Search.position (search (earlier ++ later) span.start) = earlier.length)
    (facility : String) (booking : BookingId) :
    insertBy? search ⟨facility, earlier ++ later⟩ span booking =
      some ⟨facility, earlier ++ ⟨span, booking⟩ :: later⟩ := by
  rw [insertBy?, hposition, insertIdx_append]
  exact if_pos (List.length_append ▸ Nat.le_add_right _ _)

/-- Whatever reliable search is used, the new slot stands between slots that stand as before,
and the slots stay in the order of their starts. -/
theorem insertBy?_eq {search : Search} (hsearch : search.Reliable) {timetable : Timetable}
    (hsorted : Sorted timetable.slots) (span : Span) (booking : BookingId) :
    ∃ earlier later, timetable.slots = earlier ++ later ∧
      timetable.insertBy? search span booking =
        some { timetable with slots := earlier ++ ⟨span, booking⟩ :: later } ∧
      Sorted (earlier ++ ⟨span, booking⟩ :: later) := by
  obtain ⟨facility, slots⟩ := timetable
  obtain ⟨earlier, later, rfl, hposition, hbefore, hbehind⟩ :=
    (hsearch slots span.start hsorted).exists_append hsorted
  obtain ⟨hearlier, hlater, hacross⟩ := List.pairwise_append.mp hsorted
  refine ⟨earlier, later, rfl, insertBy?_append hposition facility booking, ?_⟩
  refine List.pairwise_append.mpr ⟨hearlier, List.pairwise_cons.mpr ⟨hbehind, hlater⟩, ?_⟩
  intro other hother next hnext
  rcases List.mem_cons.mp hnext with rfl | hnext
  · exact hbefore other hother
  · exact hacross other hother next hnext

/-! ## The place of a slot -/

variable {slot last : Slot} {slots earlier later : List Slot}

theorem head?_any_of_later (hlater : ∀ other ∈ slots, slot.span.start < other.span.start) :
    (slots.head?.any fun next => next.span.start ≤ slot.span.start) = false := by
  cases slots with
  | nil => rfl
  | cons next rest => simpa using hlater next (.head _)

theorem place_of_later (hlater : ∀ other ∈ slots, slot.span.start < other.span.start) :
    place slot slots = slot :: slots := by
  cases slots with
  | nil => rfl
  | cons first rest =>
      have hfirst := hlater first (.head _)
      have hrest := head?_any_of_later fun other hother => hlater other (.tail _ hother)
      rw [place, hrest, if_neg Bool.false_ne_true, if_neg (Int.not_lt.mpr (Int.le_of_lt hfirst))]

/-- A slot is placed beside the last one that does not start after it. -/
theorem place_append_cons (hsorted : Sorted (earlier ++ last :: later))
    (hlast : last.span.start ≤ slot.span.start)
    (hlater : ∀ other ∈ later, slot.span.start < other.span.start) :
    place slot (earlier ++ last :: later) =
      if last.span.start = slot.span.start then earlier ++ slot :: last :: later
      else earlier ++ last :: slot :: later := by
  induction earlier with
  | nil =>
      rw [List.nil_append, place, head?_any_of_later hlater, if_neg Bool.false_ne_true]
      by_cases hstart : last.span.start = slot.span.start
      · rw [if_pos hstart, if_neg (Int.not_lt.mpr (Int.le_of_eq hstart.symm))]
        rfl
      · rw [if_neg hstart, if_pos (Int.lt_iff_le_and_ne.mpr ⟨hlast, hstart⟩)]
        rfl
  | cons first rest ih =>
      obtain ⟨hfirst, hrest⟩ := List.pairwise_cons.mp hsorted
      have hnext : ((rest ++ last :: later).head?.any fun next =>
          next.span.start ≤ slot.span.start) = true := by
        cases rest with
        | nil => simpa using hlast
        | cons next tail =>
            have hle := (List.pairwise_cons.mp hrest).1 last (List.mem_append_right _ (.head _))
            simpa using Int.le_trans hle hlast
      rw [List.cons_append, place, hnext, if_pos rfl, ih hrest]
      split <;> rfl

/-- A timetable inserts by halving. -/
theorem insertBy?_halving {timetable : Timetable} (hsorted : Sorted timetable.slots)
    (span : Span) (booking : BookingId) :
    timetable.insertBy? Search.halving span booking = some (timetable.insert span booking) := by
  obtain ⟨facility, slots⟩ := timetable
  rw [insert]
  rcases Search.halving_cases hsorted span.start with
    ⟨htold, hlater⟩ | ⟨earlier, last, later, rfl, hlast, hlater, htold⟩
  · rw [place_of_later hlater]
    have hposition : Search.position (Search.halving ([] ++ slots) span.start) = 0 := by
      rw [List.nil_append, htold]
      rfl
    exact insertBy?_append hposition facility booking
  · rw [place_append_cons hsorted hlast hlater]
    by_cases hstart : last.span.start = span.start
    · rw [if_pos hstart] at htold ⊢
      exact insertBy?_append (by rw [htold]; rfl) facility booking
    · rw [if_neg hstart] at htold ⊢
      have hposition : Search.position
          (Search.halving ((earlier ++ [last]) ++ later) span.start) =
          (earlier ++ [last]).length := by
        rw [← List.append_cons, htold, List.length_append]
        rfl
      simpa only [← List.append_cons] using insertBy?_append hposition facility booking

end Timetable

end FacilityBooking
