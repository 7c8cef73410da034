import FacilityBooking.Proofs.Desk.FreeTime
import FacilityBooking.Proofs.Ledger.Consistency

/-!
# Gaps between bookings

Joining spans neither adds nor loses a minute, and carving them out of a window leaves
the longest pieces that they do not overlap. So a span of the window overlaps no booking
exactly if it lies within one free piece of the day.
-/

namespace FacilityBooking

namespace Span

/-- The span does not leave the other one. -/
def Within (span outer : Span) : Prop :=
  outer.start ≤ span.start ∧ span.stop ≤ outer.stop

/-- Some of the spans overlaps a span exactly if they share a minute with it. -/
theorem exists_overlaps_iff {spans : List Span} {span : Span} :
    (∃ other ∈ spans, other.overlaps span) ↔
      ∃ minute, span.Contains minute ∧ ∃ other ∈ spans, other.Contains minute := by
  simp only [overlaps_iff_exists]
  constructor
  · rintro ⟨other, hother, minute, hminute, hspan⟩
    exact ⟨minute, hspan, other, hother, hminute⟩
  · rintro ⟨minute, hspan, other, hother, hminute⟩
    exact ⟨other, hother, minute, hminute, hspan⟩

end Span

namespace Availability

/-- Spans that have minutes, in the order of their starts. -/
structure Ordered (spans : List Span) : Prop where
  nonempty : ∀ span ∈ spans, span.start < span.stop
  sorted : spans.Pairwise fun earlier later => earlier.start ≤ later.start

/-- Spans that have minutes, with time between any two of them. -/
structure Separate (spans : List Span) : Prop where
  nonempty : ∀ span ∈ spans, span.start < span.stop
  apart : spans.Pairwise fun earlier later => earlier.stop < later.start

namespace Ordered

variable {first last : Span} {spans : List Span}

theorem sublist {fewer : List Span} (hordered : Ordered spans) (hsublist : fewer.Sublist spans) :
    Ordered fewer :=
  ⟨fun span hspan => hordered.nonempty span (hsublist.subset hspan),
    hordered.sorted.sublist hsublist⟩

theorem start_le (hordered : Ordered (first :: spans)) :
    ∀ span ∈ spans, first.start ≤ span.start :=
  (List.pairwise_cons.mp hordered.sorted).1

/-- The first two spans may be joined. -/
theorem joined (hordered : Ordered (last :: first :: spans)) :
    Ordered (⟨last.start, max last.stop first.stop⟩ :: spans) := by
  obtain ⟨hnonempty, hsorted⟩ := hordered
  obtain ⟨hlast, hrest⟩ := List.pairwise_cons.mp hsorted
  refine ⟨?_, List.pairwise_cons.mpr ⟨?_, (List.pairwise_cons.mp hrest).2⟩⟩
  · intro span hspan
    rcases List.mem_cons.mp hspan with rfl | hspan
    · have hlt := hnonempty last (.head _)
      dsimp only
      omega
    · exact hnonempty span (.tail _ (.tail _ hspan))
  · intro span hspan
    exact hlast span (.tail _ hspan)

theorem tail (hordered : Ordered (first :: spans)) : Ordered spans :=
  hordered.sublist (List.sublist_cons_self first spans)

end Ordered

namespace Separate

variable {spans : List Span}

theorem ordered (hseparate : Separate spans) : Ordered spans := by
  refine ⟨hseparate.nonempty, hseparate.apart.imp_of_mem ?_⟩
  intro earlier later hearlier _ hapart
  have hlt := hseparate.nonempty earlier hearlier
  omega

end Separate

/-! ## Joining -/

theorem exists_mergeFrom_contains_iff {last : Span} {spans : List Span}
    (hordered : Ordered (last :: spans)) (minute : Int) :
    (∃ span ∈ mergeFrom last spans, span.Contains minute) ↔
      ∃ span ∈ last :: spans, span.Contains minute := by
  induction spans generalizing last with
  | nil => rfl
  | cons first rest ih =>
      have hle := hordered.start_le first (.head _)
      rw [mergeFrom]
      split
      · next hreach =>
          have hjoined : Span.Contains ⟨last.start, max last.stop first.stop⟩ minute ↔
              last.Contains minute ∨ first.Contains minute := by
            simp only [Span.Contains]
            omega
          rw [ih hordered.joined]
          simp only [List.mem_cons, exists_eq_or_imp, hjoined, or_assoc]
      · simp only [List.mem_cons, exists_eq_or_imp] at ih ⊢
        rw [ih hordered.tail]

theorem start_le_of_mem_mergeFrom {last : Span} {spans : List Span}
    (hordered : Ordered (last :: spans)) :
    ∀ span ∈ mergeFrom last spans, last.start ≤ span.start := by
  induction spans generalizing last with
  | nil =>
      intro span hspan
      obtain rfl := List.mem_singleton.mp hspan
      exact Int.le_refl _
  | cons first rest ih =>
      have hle := hordered.start_le first (.head _)
      rw [mergeFrom]
      split
      · exact ih hordered.joined
      · intro span hspan
        rcases List.mem_cons.mp hspan with rfl | hspan
        · exact Int.le_refl _
        · exact Int.le_trans hle (ih hordered.tail span hspan)

theorem separate_mergeFrom {last : Span} {spans : List Span}
    (hordered : Ordered (last :: spans)) : Separate (mergeFrom last spans) := by
  induction spans generalizing last with
  | nil => exact ⟨hordered.nonempty, List.pairwise_singleton _ _⟩
  | cons first rest ih =>
      rw [mergeFrom]
      split
      · exact ih hordered.joined
      · next hbefore =>
          have hrest := ih hordered.tail
          refine ⟨?_, List.pairwise_cons.mpr ⟨?_, hrest.apart⟩⟩
          · intro span hspan
            rcases List.mem_cons.mp hspan with rfl | hspan
            · exact hordered.nonempty span (.head _)
            · exact hrest.nonempty span hspan
          · intro span hspan
            have hle := start_le_of_mem_mergeFrom hordered.tail span hspan
            omega

/-- Joined spans have time between them. -/
theorem separate_merge {spans : List Span} (hordered : Ordered spans) :
    Separate (merge spans) := by
  cases spans with
  | nil => exact ⟨nofun, .nil⟩
  | cons first rest => exact separate_mergeFrom hordered

/-- Joining neither adds nor loses a minute. -/
theorem exists_merge_contains_iff {spans : List Span} (hordered : Ordered spans)
    (minute : Int) :
    (∃ span ∈ merge spans, span.Contains minute) ↔ ∃ span ∈ spans, span.Contains minute := by
  cases spans with
  | nil => rfl
  | cons first rest => exact exists_mergeFrom_contains_iff hordered minute

theorem exists_merge_overlaps_iff {spans : List Span} (hordered : Ordered spans)
    (span : Span) :
    (∃ other ∈ merge spans, other.overlaps span) ↔ ∃ other ∈ spans, other.overlaps span := by
  simp only [Span.exists_overlaps_iff, exists_merge_contains_iff hordered]

/-! ## Carving -/

/-- Where nothing is left to remove, the whole is the one piece. -/
theorem exists_mem_whole_iff {start stop : Int} {span : Span} (hspan : span.start < span.stop) :
    (∃ piece ∈ if start < stop then [(⟨start, stop⟩ : Span)] else [], span.Within piece) ↔
      span.Within ⟨start, stop⟩ := by
  split
  · simp only [List.mem_singleton, exists_eq_left]
  · simp only [Span.Within, List.not_mem_nil, false_and, exists_false, false_iff]
    omega

/-- The pieces before and behind the first removed span. -/
theorem exists_mem_carve_cons_iff {start stop : Int} {first span : Span} {rest : List Span}
    (hreach : first.start < stop) (hspan : span.start < span.stop) :
    (∃ piece ∈ carve start stop (first :: rest), span.Within piece) ↔
      span.Within ⟨start, first.start⟩ ∨
        ∃ piece ∈ carve (max start first.stop) stop rest, span.Within piece := by
  rw [carve, if_pos hreach]
  split
  · simp only [List.mem_cons, exists_eq_or_imp]
  · next hnone =>
      refine (or_iff_right ?_).symm
      simp only [Span.Within]
      omega

/-- A span lies within one of the pieces left exactly if it lies within the whole and
overlaps nothing of what was removed. -/
theorem exists_mem_carve_iff {removed : List Span} (hordered : Ordered removed)
    (start stop : Int) {span : Span} (hspan : span.start < span.stop) :
    (∃ piece ∈ carve start stop removed, span.Within piece) ↔
      span.Within ⟨start, stop⟩ ∧ ∀ other ∈ removed, ¬ other.overlaps span := by
  induction removed generalizing start with
  | nil =>
      rw [carve, exists_mem_whole_iff hspan]
      exact (and_iff_left fun other hother => absurd hother List.not_mem_nil).symm
  | cons first rest ih =>
      have hfirst := hordered.nonempty first (.head _)
      -- A span that ends before the first one starts overlaps none of them.
      have hahead (hbefore : span.stop ≤ first.start) :
          ∀ other ∈ first :: rest, ¬ other.overlaps span := by
        intro other hother hoverlaps
        have hminutes := Span.overlaps_iff.mp hoverlaps
        rcases List.mem_cons.mp hother with rfl | hother
        · omega
        · have hle := hordered.start_le other hother
          omega
      by_cases hreach : first.start < stop
      · rw [exists_mem_carve_cons_iff hreach hspan, ih hordered.tail]
        by_cases hbefore : span.stop ≤ first.start
        · rw [and_iff_left (hahead hbefore)]
          simp only [Span.Within]
          constructor
          · rintro (hwithin | ⟨hwithin, -⟩) <;> omega
          · intro hwithin
            exact .inl ⟨hwithin.1, hbefore⟩
        · have hbehind : span.Within ⟨max start first.stop, stop⟩ ↔
              span.Within ⟨start, stop⟩ ∧ ¬ first.overlaps span := by
            simp only [Span.overlaps_iff, Span.Within]
            omega
          rw [or_iff_right fun hwithin => hbefore hwithin.2, hbehind, and_assoc,
            List.forall_mem_cons]
      · rw [carve, if_neg hreach, exists_mem_whole_iff hspan]
        refine (and_iff_left_of_imp fun hwithin => hahead ?_).symm
        exact Int.le_trans hwithin.2 (Int.not_lt.mp hreach)

/-! ## The free time of a day -/

/-- What spans leave of a window that each of them overlaps. -/
def gaps (window : Span) (spans : List Span) : List Span :=
  carve window.start window.stop
    ((merge (spans.map (clip window))).dropWhile fun span => span.stop ≤ window.start)

theorem ordered_map_clip {window : Span} {spans : List Span} (hordered : Ordered spans)
    (hoverlaps : ∀ span ∈ spans, span.overlaps window) : Ordered (spans.map (clip window)) := by
  refine ⟨?_, List.pairwise_map.mpr (hordered.sorted.imp ?_)⟩
  · intro clipped hclipped
    obtain ⟨span, hspan, rfl⟩ := List.mem_map.mp hclipped
    have hminutes := Span.overlaps_iff.mp (hoverlaps span hspan)
    dsimp only [clip]
    omega
  · intro earlier later hle
    dsimp only [clip]
    omega

/-- What ends before a span starts has no part in what overlaps it. -/
theorem exists_dropWhile_overlaps_iff {start : Int} {span : Span} (hstart : start ≤ span.start)
    (spans : List Span) :
    (∃ other ∈ spans.dropWhile fun other => other.stop ≤ start, other.overlaps span) ↔
      ∃ other ∈ spans, other.overlaps span := by
  induction spans with
  | nil => rfl
  | cons first rest ih =>
      by_cases hbefore : first.stop ≤ start
      · have hnone : ¬ first.overlaps span := by
          rw [Span.overlaps_iff]
          omega
        rw [Bool.not_eq_true] at hnone
        rw [List.dropWhile_cons_of_pos (by simpa using hbefore), ih]
        simp only [List.mem_cons, exists_eq_or_imp, hnone, Bool.false_eq_true, false_or]
      · rw [List.dropWhile_cons_of_neg (by simpa using hbefore)]

/-- Clipping to a window loses nothing that overlaps a span of the window. -/
theorem exists_map_clip_overlaps_iff {window span : Span} {spans : List Span}
    (hoverlaps : ∀ other ∈ spans, other.overlaps window) (hwithin : span.Within window) :
    (∃ other ∈ spans.map (clip window), other.overlaps span) ↔
      ∃ other ∈ spans, other.overlaps span := by
  have hclip : ∀ other ∈ spans, ((clip window other).overlaps span ↔ other.overlaps span) := by
    intro other hother
    have hminutes := Span.overlaps_iff.mp (hoverlaps other hother)
    obtain ⟨hstart, hstop⟩ := hwithin
    simp only [Span.overlaps_iff, clip]
    omega
  simp only [List.mem_map]
  constructor
  · rintro ⟨_, ⟨other, hother, rfl⟩, hspan⟩
    exact ⟨other, hother, (hclip other hother).mp hspan⟩
  · rintro ⟨other, hother, hspan⟩
    exact ⟨_, ⟨other, hother, rfl⟩, (hclip other hother).mpr hspan⟩

/-- A span lies within a gap exactly if it lies within the window and overlaps none of
the spans. -/
theorem exists_mem_gaps_iff {window : Span} {spans : List Span} (hordered : Ordered spans)
    (hoverlaps : ∀ span ∈ spans, span.overlaps window) {span : Span}
    (hspan : span.start < span.stop) :
    (∃ gap ∈ gaps window spans, span.Within gap) ↔
      span.Within window ∧ ∀ other ∈ spans, ¬ other.overlaps span := by
  have hclipped := ordered_map_clip hordered hoverlaps
  have hmerged := (separate_merge hclipped).ordered
  rw [gaps, exists_mem_carve_iff (hmerged.sublist (List.dropWhile_sublist _)) _ _ hspan]
  apply and_congr_right
  intro hwithin
  have hsame := (exists_dropWhile_overlaps_iff hwithin.1 _).trans
    ((exists_merge_overlaps_iff hclipped span).trans
      (exists_map_clip_overlaps_iff hoverlaps hwithin))
  simpa only [not_exists, not_and] using not_congr hsame

theorem gaps_nil {window : Span} (hwindow : window.start < window.stop) :
    gaps window [] = [window] := if_pos hwindow

end Availability

/-- Tidy slots have ordered spans. -/
theorem Timetable.Tidy.ordered_spans {slots : List Slot} (htidy : Tidy slots) :
    Availability.Ordered (slots.map (·.span)) := by
  refine ⟨?_, List.pairwise_map.mpr htidy.sorted⟩
  intro span hspan
  obtain ⟨slot, hslot, rfl⟩ := List.mem_map.mp hspan
  exact htidy.filled slot hslot

namespace Ledger

variable {ledger : Ledger}

/-- The spans of a facility's slots that overlap the window of a day. -/
def spansOn (ledger : Ledger) (facility : String) (day : Day) : List Span :=
  ((ledger.slotsOf facility).filter fun slot => slot.span.overlaps day.window).map (·.span)

theorem mem_spansOn_iff {facility : String} {day : Day} {span : Span} :
    span ∈ ledger.spansOn facility day ↔
      ∃ slot ∈ ledger.slotsOf facility, slot.span.overlaps day.window ∧ slot.span = span := by
  simp only [spansOn, List.mem_map, List.mem_filter, and_assoc]

theorem overlaps_of_mem_spansOn {facility : String} {day : Day} {span : Span}
    (hspan : span ∈ ledger.spansOn facility day) : span.overlaps day.window := by
  obtain ⟨slot, -, hoverlaps, rfl⟩ := mem_spansOn_iff.mp hspan
  exact hoverlaps

theorem ordered_spansOn {facility : String} (htidy : Timetable.Tidy (ledger.slotsOf facility))
    (day : Day) : Availability.Ordered (ledger.spansOn facility day) :=
  (htidy.sublist List.filter_sublist).ordered_spans

/-- The free time of a day is what the slots in its window leave of it; a facility
without a timetable is as free as one without slots. -/
theorem freeSpans_eq_gaps {facility : String} (htidy : Timetable.Tidy (ledger.slotsOf facility))
    (day : Day) :
    Availability.freeSpans ledger.timetables[facility]? day =
      Availability.gaps day.window (ledger.spansOn facility day) := by
  have hwindow := day.window_inside.2.1
  unfold spansOn slotsOf at *
  cases htimetable : ledger.timetables[facility]? with
  | none => exact (Availability.gaps_nil hwindow).symm
  | some timetable =>
      rw [htimetable] at htidy
      dsimp only [Availability.freeSpans] at htidy ⊢
      rw [Timetable.overlapping_eq_filter htidy.sorted htidy.filled hwindow]
      cases timetable.slots.filter fun slot => slot.span.overlaps day.window with
      | nil => exact (Availability.gaps_nil hwindow).symm
      | cons first rest =>
          rw [Availability.gaps, List.map_map]
          exact List.append_nil _

/-- A span lies within a free piece of a day exactly if it lies within the window of the
day and overlaps no slot of the facility. -/
theorem exists_mem_freeSpans_iff {facility : String}
    (htidy : Timetable.Tidy (ledger.slotsOf facility)) {day : Day} {span : Span}
    (hspan : span.start < span.stop) :
    (∃ piece ∈ Availability.freeSpans ledger.timetables[facility]? day, span.Within piece) ↔
      span.Within day.window ∧ ∀ slot ∈ ledger.slotsOf facility, ¬ slot.span.overlaps span := by
  rw [freeSpans_eq_gaps htidy, Availability.exists_mem_gaps_iff (ordered_spansOn htidy day)
    (fun _ hother => overlaps_of_mem_spansOn hother) hspan]
  apply and_congr_right
  rintro ⟨hstart, hstop⟩
  constructor
  · intro hnone slot hslot hoverlaps
    -- A slot that overlaps a part of the window overlaps the window.
    have hreaches : slot.span.overlaps day.window := by
      have hminutes := Span.overlaps_iff.mp hoverlaps
      rw [Span.overlaps_iff]
      omega
    exact hnone _ (mem_spansOn_iff.mpr ⟨slot, hslot, hreaches, rfl⟩) hoverlaps
  · intro hnone other hother
    obtain ⟨slot, hslot, -, rfl⟩ := mem_spansOn_iff.mp hother
    exact hnone slot hslot

/-- Consistent ledgers with the same bookings in the window of a day have the same spans
on it. -/
theorem spansOn_congr {after : Ledger} (hledger : ledger.Consistent) (hafter : after.Consistent)
    {facility : String} {day : Day}
    (hsame : ∀ (id : BookingId) (booking : Booking), booking.facility = facility →
      booking.span.overlaps day.window →
        (after.bookings[id]? = some booking ↔ ledger.bookings[id]? = some booking)) :
    after.spansOn facility day = ledger.spansOn facility day := by
  have htidy := (hledger.tidy facility).sublist
    (List.filter_sublist (p := fun slot : Slot => slot.span.overlaps day.window))
  have htidyAfter := (hafter.tidy facility).sublist
    (List.filter_sublist (p := fun slot : Slot => slot.span.overlaps day.window))
  unfold spansOn
  congr 1
  refine List.Perm.eq_of_pairwise ?_ htidyAfter.increasing htidy.increasing
    ((List.perm_ext_iff_of_nodup htidyAfter.nodup htidy.nodup).mpr fun slot => ?_)
  · intro first second _ _ hlt hgt
    exact absurd hlt (Int.lt_asymm hgt)
  · simp only [List.mem_filter, hledger.listed, hafter.listed]
    apply and_congr_left
    intro hoverlaps
    constructor
    · rintro ⟨booking, hbooking, hspan, hfacility⟩
      exact ⟨booking, (hsame _ booking hfacility (hspan ▸ hoverlaps)).mp hbooking, hspan, hfacility⟩
    · rintro ⟨booking, hbooking, hspan, hfacility⟩
      exact ⟨booking, (hsame _ booking hfacility (hspan ▸ hoverlaps)).mpr hbooking, hspan,
        hfacility⟩

end Ledger

/-- The free time of a facility on a day depends on its bookings in the window of the day. -/
theorem Desk.freeOn_congr {desk after : Desk} (hdesk : desk.ledger.Consistent)
    (hafter : after.ledger.Consistent) {facility : String} {day : Day}
    (hsame : ∀ (id : BookingId) (booking : Booking), booking.facility = facility →
      booking.span.overlaps day.window →
        (after.ledger.bookings[id]? = some booking ↔ desk.ledger.bookings[id]? = some booking)) :
    after.freeOn facility day = desk.freeOn facility day := by
  rw [freeOn, freeOn, Ledger.freeSpans_eq_gaps (hafter.tidy facility),
    Ledger.freeSpans_eq_gaps (hdesk.tidy facility), Ledger.spansOn_congr hdesk hafter hsame]

end FacilityBooking
