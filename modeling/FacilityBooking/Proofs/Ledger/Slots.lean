import FacilityBooking.Ledger.Timetable
import FacilityBooking.Limits
import FacilityBooking.Proofs.Calendar.Week
import Mathlib.Data.List.Pairwise

/-!
# Slots in order

In a sorted list the look-up of overlapping slots, which stops early, misses none.
Slots inside the week of which no two overlap stand one behind the other, and a
week has room for a bounded number of them.
-/

namespace FacilityBooking

namespace Timetable

/-! ## Look-ups in a sorted list -/

/-- In a sorted list the slots that start before a minute are all at the front. -/
theorem takeWhile_start_lt {slots : List Slot} (hsorted : Sorted slots) (minute : Int) :
    (slots.takeWhile fun slot => slot.span.start < minute) =
      slots.filter fun slot => slot.span.start < minute := by
  induction slots with
  | nil => rfl
  | cons first rest ih =>
      obtain ⟨hfirst, hrest⟩ := List.pairwise_cons.mp hsorted
      by_cases hlt : first.span.start < minute
      · rw [List.takeWhile_cons_of_pos (by simpa using hlt),
          List.filter_cons_of_pos (by simpa using hlt), ih hrest]
      · have hnone : (rest.filter fun slot => slot.span.start < minute) = [] := by
          apply List.filter_eq_nil_iff.mpr
          intro slot hslot
          have hle := hfirst slot hslot
          simp only [decide_eq_true_eq]
          omega
        rw [List.takeWhile_cons_of_neg (by simpa using hlt),
          List.filter_cons_of_neg (by simpa using hlt), hnone]

/-- The first conflict is the first slot that overlaps the span, wherever it stands. -/
theorem firstConflict?_eq_find? {timetable : Timetable} (hsorted : Sorted timetable.slots)
    (span : Span) (except : Option BookingId) :
    timetable.firstConflict? span except =
      (timetable.slots.find? fun slot =>
        some slot.booking ≠ except && slot.span.overlaps span).map (·.booking) := by
  rw [firstConflict?, overlapping, takeWhile_start_lt hsorted, List.find?_filter, List.find?_filter]
  congr 2
  funext slot
  rw [Bool.eq_iff_iff]
  simp only [decide_eq_true_eq, Bool.and_eq_true, Span.overlaps_iff]
  constructor
  · rintro ⟨-, -, hfound⟩
    exact hfound
  · intro hfound
    exact ⟨hfound.2.2.1, hfound.2.2.2.1, hfound⟩

theorem firstConflict?_eq_none_iff {timetable : Timetable} (hsorted : Sorted timetable.slots)
    {span : Span} {except : Option BookingId} :
    timetable.firstConflict? span except = none ↔
      ∀ slot ∈ timetable.slots, some slot.booking ≠ except → ¬ slot.span.overlaps span := by
  rw [firstConflict?_eq_find? hsorted, Option.map_eq_none_iff, List.find?_eq_none]
  simp

/-- A conflict is with a slot that overlaps the span, and no slot before it does. -/
theorem firstConflict?_eq_some_iff {timetable : Timetable} (hsorted : Sorted timetable.slots)
    {span : Span} {except : Option BookingId} {booking : BookingId} :
    timetable.firstConflict? span except = some booking ↔
      ∃ earlier slot later, timetable.slots = earlier ++ slot :: later ∧
        slot.booking = booking ∧ some slot.booking ≠ except ∧ slot.span.overlaps span ∧
        ∀ other ∈ earlier, some other.booking ≠ except → ¬ other.span.overlaps span := by
  rw [firstConflict?_eq_find? hsorted, Option.map_eq_some_iff]
  simp only [List.find?_eq_some_iff_append, Bool.and_eq_true, decide_eq_true_eq,
    Bool.not_eq_true', Bool.and_eq_false_imp, Bool.not_eq_true]
  constructor
  · rintro ⟨slot, ⟨⟨hcounts, hoverlaps⟩, earlier, later, hslots, hnone⟩, hbooking⟩
    exact ⟨earlier, slot, later, hslots, hbooking, hcounts, hoverlaps, hnone⟩
  · rintro ⟨earlier, slot, later, hslots, hbooking, hcounts, hoverlaps, hnone⟩
    exact ⟨slot, ⟨⟨hcounts, hoverlaps⟩, earlier, later, hslots, hnone⟩, hbooking⟩

theorem firstConflict?_eq_some {timetable : Timetable} (hsorted : Sorted timetable.slots)
    {span : Span} {except : Option BookingId} {booking : BookingId}
    (hfound : timetable.firstConflict? span except = some booking) :
    ∃ slot ∈ timetable.slots, slot.booking = booking ∧ some slot.booking ≠ except ∧
      slot.span.overlaps span := by
  obtain ⟨earlier, slot, later, hslots, hbooking, hcounts, hoverlaps, -⟩ :=
    (firstConflict?_eq_some_iff hsorted).mp hfound
  exact ⟨slot, hslots ▸ List.mem_append_right _ (.head _), hbooking, hcounts, hoverlaps⟩

/-- If no slot is empty, the look-up tells the slots that overlap the query. -/
theorem overlapping_eq_filter {timetable : Timetable} (hsorted : Sorted timetable.slots)
    (hfilled : ∀ slot ∈ timetable.slots, slot.span.start < slot.span.stop) {query : Span}
    (hquery : query.start < query.stop) :
    timetable.overlapping query =
      timetable.slots.filter fun slot => slot.span.overlaps query := by
  rw [overlapping, takeWhile_start_lt hsorted, List.filter_filter]
  apply List.filter_congr
  intro slot hslot
  have hlt := hfilled slot hslot
  rw [Bool.eq_iff_iff, Span.overlaps_iff, Bool.and_eq_true, decide_eq_true_eq, decide_eq_true_eq]
  omega

/-! ## Removal -/

/-- If no two slots belong to one booking, removal leaves the slots of all others. -/
theorem erase_slots_eq_filter {timetable : Timetable} (booking : BookingId)
    (hunique : timetable.slots.Pairwise fun first second => first.booking ≠ second.booking) :
    (timetable.erase booking).slots =
      timetable.slots.filter fun slot => slot.booking ≠ booking := by
  obtain ⟨facility, slots⟩ := timetable
  dsimp only [erase] at hunique ⊢
  induction slots with
  | nil => rfl
  | cons first rest ih =>
      obtain ⟨hfirst, hrest⟩ := List.pairwise_cons.mp hunique
      by_cases hsame : first.booking = booking
      · have hall : ∀ slot ∈ rest, decide (slot.booking ≠ booking) = true := by
          intro slot hslot
          exact decide_eq_true fun hslotSame => hfirst slot hslot (hsame.trans hslotSame.symm)
        rw [List.eraseP_cons_of_pos (by simpa using hsame),
          List.filter_cons_of_neg (by simpa using hsame), List.filter_eq_self.mpr hall]
      · rw [List.eraseP_cons_of_neg (by simpa using hsame),
          List.filter_cons_of_pos (by simpa using hsame), ih hrest]

/-! ## Tidy slots -/

/-- The slots stay inside the week, and each ends before the next one starts. -/
structure Tidy (slots : List Slot) : Prop where
  inside : ∀ slot ∈ slots, slot.span.InWeek
  apart : slots.Pairwise fun earlier later => earlier.span.stop ≤ later.span.start

theorem tidy_nil : Tidy [] :=
  ⟨nofun, .nil⟩

namespace Tidy

variable {slots : List Slot}

theorem increasing (htidy : Tidy slots) :
    slots.Pairwise fun earlier later => earlier.span.start < later.span.start := by
  apply htidy.apart.imp_of_mem
  intro earlier later hearlier _ hapart
  obtain ⟨-, hlt, -⟩ := htidy.inside earlier hearlier
  exact Int.lt_of_lt_of_le hlt hapart

theorem sorted (htidy : Tidy slots) : Sorted slots :=
  htidy.increasing.imp Int.le_of_lt

theorem filled (htidy : Tidy slots) : ∀ slot ∈ slots, slot.span.start < slot.span.stop :=
  fun slot hslot => (htidy.inside slot hslot).2.1

theorem disjoint (htidy : Tidy slots) :
    slots.Pairwise fun earlier later => ¬ earlier.span.overlaps later.span := by
  apply htidy.apart.imp
  intro earlier later hapart hoverlaps
  have hminutes := Span.overlaps_iff.mp hoverlaps
  omega

/-- Wherever they stand, different slots do not overlap. -/
theorem not_overlaps (htidy : Tidy slots) {first second : Slot} (hfirst : first ∈ slots)
    (hsecond : second ∈ slots) (hne : first ≠ second) :
    ¬ first.span.overlaps second.span := by
  have hsymm : Std.Symm fun first second : Slot => ¬ first.span.overlaps second.span :=
    ⟨fun first second hnone => by rwa [Span.overlaps_comm]⟩
  exact htidy.disjoint.forall hfirst hsecond hne

theorem nodup (htidy : Tidy slots) : slots.Nodup := by
  apply htidy.increasing.imp
  intro earlier later hlt hsame
  rw [hsame] at hlt
  exact Int.lt_irrefl _ hlt

theorem sublist {fewer : List Slot} (htidy : Tidy slots) (hsublist : fewer.Sublist slots) :
    Tidy fewer :=
  ⟨fun slot hslot => htidy.inside slot (hsublist.subset hslot), htidy.apart.sublist hsublist⟩

/-- Sorted slots of which no two overlap are tidy if they stay inside the week. -/
theorem of_disjoint (hinside : ∀ slot ∈ slots, slot.span.InWeek) (hsorted : Sorted slots)
    (hdisjoint : slots.Pairwise fun first second => ¬ first.span.overlaps second.span) :
    Tidy slots := by
  refine ⟨hinside, (hsorted.and hdisjoint).imp_of_mem ?_⟩
  rintro earlier later hearlier hlater ⟨hle, hnone⟩
  obtain ⟨-, hearlierLt, -⟩ := hinside earlier hearlier
  obtain ⟨-, hlaterLt, -⟩ := hinside later hlater
  rw [Span.overlaps_iff] at hnone
  omega

/-- A slot that overlaps no other one may join tidy slots. -/
theorem place {slot : Slot} (htidy : Tidy slots) (hslot : slot.span.InWeek)
    (hfree : ∀ other ∈ slots, ¬ other.span.overlaps slot.span) :
    Tidy (Timetable.place slot slots) := by
  refine of_disjoint ?_ (place_sorted htidy.sorted) ?_
  · intro other hother
    rcases mem_place.mp hother with rfl | hother
    · exact hslot
    · exact htidy.inside other hother
  · -- No overlap is symmetric, so it does not matter where the new slot stands.
    refine (List.Perm.pairwise_iff ?_ (place_perm slot slots)).mpr ?_
    · intro first second hnone
      rwa [Span.overlaps_comm]
    · refine List.pairwise_cons.mpr ⟨fun other hother => ?_, htidy.disjoint⟩
      rw [Span.overlaps_comm]
      exact hfree other hother

/-- Tidy slots that start at a minute or later take at least one minute each. -/
theorem length_le_of_start_le (htidy : Tidy slots) {minute : Int}
    (hstart : ∀ slot ∈ slots, minute ≤ slot.span.start) (hminute : minute < minutesPerWeek) :
    (slots.length : Int) ≤ minutesPerWeek - 1 - minute := by
  induction slots generalizing minute with
  | nil =>
      rw [List.length_nil]
      omega
  | cons first rest ih =>
      obtain ⟨-, hlt, hstop⟩ := htidy.inside first (.head _)
      have hle := hstart first (.head _)
      have hrest := ih (htidy.sublist (List.sublist_cons_self first rest))
        (List.pairwise_cons.mp htidy.apart).1 hstop
      rw [List.length_cons]
      omega

/-- A week has room for one slot less than it has minutes. -/
theorem length_lt (htidy : Tidy slots) : slots.length < Limits.bookingsPerFacility := by
  have hle := htidy.length_le_of_start_le (fun slot hslot => (htidy.inside slot hslot).1)
    (by decide)
  have hminutes : minutesPerWeek = 10080 := rfl
  unfold Limits.bookingsPerFacility
  omega

end Tidy

end Timetable

end FacilityBooking
