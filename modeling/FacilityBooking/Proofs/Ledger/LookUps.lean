import FacilityBooking.Proofs.Ledger.Slots

/-!
# Look-ups by halving

A look-up of overlapping slots only needs the slots that start before the query ends. In a
sorted list these stand before one position, which is found by halving; and wherever a search
finds it, the look-up tells what a scan of all slots tells.
-/

namespace FacilityBooking

namespace Timetable

/-- The slots before the position `low` start before a minute, and those from the position
`high` on do not. -/
structure Parted (slots : List Slot) (minute : Int) (low high : Nat) : Prop where
  low_le_high : low ≤ high
  high_le_length : high ≤ slots.length
  early : ∀ index slot, slots[index]? = some slot → index < low → slot.span.start < minute
  late : ∀ index slot, slots[index]? = some slot → high ≤ index → minute ≤ slot.span.start

/-- Halves the positions from `low` to `high` for as long as there are slots between them, and
goes on behind a slot in the middle that starts before the minute, and before any other one. -/
def bisect (slots : List Slot) (minute : Int) (low high : Nat) : Nat :=
  if low < high then
    let middle := (low + high) / 2
    if slots[middle]?.any fun slot => slot.span.start < minute then
      bisect slots minute (middle + 1) high
    else bisect slots minute low middle
  else low
termination_by high - low

theorem start_le_of_index_le {slots : List Slot} (hsorted : Sorted slots) {first second : Nat}
    {earlier later : Slot} (hearlier : slots[first]? = some earlier)
    (hlater : slots[second]? = some later) (hle : first ≤ second) :
    earlier.span.start ≤ later.span.start := by
  obtain ⟨hfirst, rfl⟩ := List.getElem?_eq_some_iff.mp hearlier
  obtain ⟨hsecond, rfl⟩ := List.getElem?_eq_some_iff.mp hlater
  rcases Nat.lt_or_eq_of_le hle with hlt | rfl
  · exact List.pairwise_iff_getElem.mp hsorted first second hfirst hsecond hlt
  · exact Int.le_refl _

namespace Parted

variable {slots : List Slot} {minute : Int} {low high middle position : Nat} {slot : Slot}

theorem whole (slots : List Slot) (minute : Int) : Parted slots minute 0 slots.length where
  low_le_high := Nat.zero_le _
  high_le_length := Nat.le_refl _
  early _ _ _ hindex := absurd hindex (Nat.not_lt_zero _)
  late index slot hslot hindex := by
    rw [List.getElem?_eq_none hindex] at hslot
    cases hslot

/-- Everything before a slot that starts before the minute does so, too. -/
theorem raise (hparted : Parted slots minute low high) (hsorted : Sorted slots)
    (hslot : slots[middle]? = some slot) (hbelow : middle < high)
    (hearly : slot.span.start < minute) : Parted slots minute (middle + 1) high where
  low_le_high := hbelow
  high_le_length := hparted.high_le_length
  early _ _ hother hindex := Int.lt_of_le_of_lt
    (start_le_of_index_le hsorted hother hslot (Nat.le_of_lt_succ hindex)) hearly
  late := hparted.late

/-- Nothing behind a slot that starts at the minute or later starts before it. -/
theorem lower (hparted : Parted slots minute low high) (hsorted : Sorted slots)
    (hslot : slots[middle]? = some slot) (habove : low ≤ middle)
    (hlate : minute ≤ slot.span.start) : Parted slots minute low middle where
  low_le_high := habove
  high_le_length := Nat.le_of_lt (List.getElem?_eq_some_iff.mp hslot).1
  early := hparted.early
  late _ _ hother hindex := Int.le_trans hlate
    (start_le_of_index_le hsorted hslot hother hindex)

/-- In a range that is not empty there is a slot at the middle. -/
theorem exists_middle (hparted : Parted slots minute low high) (hlt : low < high) :
    ∃ slot, slots[(low + high) / 2]? = some slot := by
  have hlength := hparted.high_le_length
  exact ⟨_, List.getElem?_eq_getElem (by omega : (low + high) / 2 < slots.length)⟩

/-- Halving ends at a position that parts the slots. -/
theorem bisect (hparted : Parted slots minute low high) (hsorted : Sorted slots) :
    Parted slots minute (bisect slots minute low high) (bisect slots minute low high) := by
  fun_induction Timetable.bisect slots minute low high with
  | case1 low high hlt middle hearly ih =>
      obtain ⟨slot, hslot⟩ := hparted.exists_middle hlt
      rw [hslot, Option.any_some, decide_eq_true_eq] at hearly
      exact ih (hparted.raise hsorted hslot (by omega) hearly)
  | case2 low high hlt middle hlate ih =>
      obtain ⟨slot, hslot⟩ := hparted.exists_middle hlt
      rw [hslot, Option.any_some, decide_eq_true_eq, Int.not_lt] at hlate
      exact ih (hparted.lower hsorted hslot (by omega) hlate)
  | case3 low high hdone =>
      obtain rfl : low = high := Nat.le_antisymm hparted.low_le_high (Nat.not_lt.mp hdone)
      exact hparted

theorem of_append {earlier later : List Slot}
    (hearlier : ∀ other ∈ earlier, other.span.start < minute)
    (hlater : ∀ other ∈ later, minute ≤ other.span.start) :
    Parted (earlier ++ later) minute earlier.length earlier.length where
  low_le_high := Nat.le_refl _
  high_le_length := by
    rw [List.length_append]
    exact Nat.le_add_right _ _
  early index other hother hindex := by
    rw [List.getElem?_append_left hindex] at hother
    exact hearlier other (List.mem_of_getElem? hother)
  late index other hother hindex := by
    rw [List.getElem?_append_right hindex] at hother
    exact hlater other (List.mem_of_getElem? hother)

theorem lt_of_mem_take (hparted : Parted slots minute low high) (hslot : slot ∈ slots.take low) :
    slot.span.start < minute := by
  obtain ⟨index, hindex⟩ := List.mem_iff_getElem?.mp hslot
  rw [List.getElem?_take] at hindex
  split at hindex
  · next hlt => exact hparted.early index slot hindex hlt
  · cases hindex

theorem le_of_mem_drop (hparted : Parted slots minute low high) (hslot : slot ∈ slots.drop high) :
    minute ≤ slot.span.start := by
  obtain ⟨index, hindex⟩ := List.mem_iff_getElem?.mp hslot
  rw [List.getElem?_drop] at hindex
  exact hparted.late _ slot hindex (Nat.le_add_right _ _)

/-- A position that parts the slots is where the slots end that start before the minute. -/
theorem takeWhile_eq_take (hparted : Parted slots minute position position) :
    (slots.takeWhile fun slot => slot.span.start < minute) = slots.take position := by
  have hfront : ∀ slot ∈ slots.take position, decide (slot.span.start < minute) = true :=
    fun slot hslot => decide_eq_true (hparted.lt_of_mem_take hslot)
  have hback : ((slots.drop position).takeWhile fun slot => slot.span.start < minute) = [] := by
    cases hdrop : slots.drop position with
    | nil => rfl
    | cons first rest =>
        have hlate := hparted.le_of_mem_drop (hdrop ▸ .head rest : first ∈ slots.drop position)
        exact List.takeWhile_cons_of_neg (by simpa using hlate)
  calc (slots.takeWhile fun slot => slot.span.start < minute)
      = ((slots.take position ++ slots.drop position).takeWhile fun slot =>
          slot.span.start < minute) := by rw [List.take_append_drop]
    _ = slots.take position ++ ((slots.drop position).takeWhile fun slot =>
          slot.span.start < minute) := List.takeWhile_append_of_pos hfront
    _ = slots.take position := by rw [hback, List.append_nil]

end Parted

/-- On a sorted timetable a look-up that stops early tells what a scan of all slots tells.
Halving finds a position that parts the slots that start before the query ends from all
others, and from any such position the look-up keeps the slots before it that end after the
query starts. If neither the query nor any slot is empty, these are the slots that overlap the
query, in their order. Of whatever slots there are, ties, overlaps and empty ones included, a
conflict is found exactly if one that counts overlaps the query, and it is with the first of
these. -/
theorem look_up_eq_scan {timetable : Timetable} (hsorted : Sorted timetable.slots)
    (query : Span) :
    Parted timetable.slots query.stop
        (bisect timetable.slots query.stop 0 timetable.slots.length)
        (bisect timetable.slots query.stop 0 timetable.slots.length) ∧
    (∀ position, Parted timetable.slots query.stop position position →
      timetable.overlapping query =
        (timetable.slots.take position).filter fun slot => query.start < slot.span.stop) ∧
    ((∀ slot ∈ timetable.slots, slot.span.start < slot.span.stop) → query.start < query.stop →
      timetable.overlapping query =
        timetable.slots.filter fun slot => slot.span.overlaps query) ∧
    ∀ except : Option BookingId,
      (timetable.firstConflict? query except = none ↔
        ∀ slot ∈ timetable.slots, some slot.booking ≠ except → ¬ slot.span.overlaps query) ∧
      ∀ booking, timetable.firstConflict? query except = some booking ↔
        ∃ earlier slot later, timetable.slots = earlier ++ slot :: later ∧
          slot.booking = booking ∧ some slot.booking ≠ except ∧ slot.span.overlaps query ∧
          ∀ other ∈ earlier, some other.booking ≠ except → ¬ other.span.overlaps query := by
  refine ⟨(Parted.whole _ _).bisect hsorted, fun position hparted => ?_,
    fun hfilled hquery => overlapping_eq_filter hsorted hfilled hquery, fun except =>
    ⟨firstConflict?_eq_none_iff hsorted, fun booking => firstConflict?_eq_some_iff hsorted⟩⟩
  rw [overlapping, hparted.takeWhile_eq_take]

/-- Of two slots that start together both are told, and if the first of them does not count,
the conflict is with the slot behind it that reaches into the query. -/
theorem overlaps_among_ties :
    Sorted [⟨⟨60, 120⟩, 2⟩, ⟨⟨60, 90⟩, 1⟩, ⟨⟨90, 150⟩, 3⟩, ⟨⟨300, 400⟩, 4⟩] ∧
    overlapping ⟨"LabA", [⟨⟨60, 120⟩, 2⟩, ⟨⟨60, 90⟩, 1⟩, ⟨⟨90, 150⟩, 3⟩, ⟨⟨300, 400⟩, 4⟩]⟩
      ⟨80, 100⟩ = [⟨⟨60, 120⟩, 2⟩, ⟨⟨60, 90⟩, 1⟩, ⟨⟨90, 150⟩, 3⟩] ∧
    firstConflict? ⟨"LabA", [⟨⟨60, 120⟩, 2⟩, ⟨⟨60, 90⟩, 1⟩, ⟨⟨90, 150⟩, 3⟩, ⟨⟨300, 400⟩, 4⟩]⟩
      ⟨80, 100⟩ (some 2) = some 1 := by
  have hsorted : Sorted
      [⟨⟨60, 120⟩, 2⟩, ⟨⟨60, 90⟩, 1⟩, ⟨⟨90, 150⟩, 3⟩, ⟨⟨300, 400⟩, 4⟩] := by
    unfold Sorted
    decide
  obtain ⟨-, -, hscan, hconflict⟩ := @look_up_eq_scan
    ⟨"LabA", [⟨⟨60, 120⟩, 2⟩, ⟨⟨60, 90⟩, 1⟩, ⟨⟨90, 150⟩, 3⟩, ⟨⟨300, 400⟩, 4⟩]⟩ hsorted ⟨80, 100⟩
  refine ⟨hsorted, (hscan (by decide) (by decide)).trans (by decide), ?_⟩
  exact ((hconflict (some 2)).2 1).mpr ⟨[⟨⟨60, 120⟩, 2⟩], ⟨⟨60, 90⟩, 1⟩,
    [⟨⟨90, 150⟩, 3⟩, ⟨⟨300, 400⟩, 4⟩], rfl, rfl, by decide, by decide, by decide⟩

end Timetable

end FacilityBooking
