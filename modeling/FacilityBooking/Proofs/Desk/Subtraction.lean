import FacilityBooking.Proofs.Desk.Pieces
import FacilityBooking.Proofs.Desk.Tiling

/-!
# Taking spans away

Two cursors can take spans away from a list of base spans: one passes for good what ends
before a base span starts, the other goes on from there through what reaches into it. Neither
looks behind the end of the list, and together they leave what the recursion over the lists
leaves: the minutes of the base spans that lie in no removed span.
-/

namespace FacilityBooking

namespace Availability

/-- Spans that have minutes, each of them over when a later one starts. -/
structure Successive (spans : List Span) : Prop where
  nonempty : ∀ span ∈ spans, span.start < span.stop
  inTurn : spans.Pairwise fun earlier later => earlier.stop ≤ later.start

/-! ## Cursors -/

/-- The first place from `place` on whose span does not end by `start`. A look at a place
without a span has no result. -/
def pass? (removed : List Span) (start : Int) (place : Nat) : Option Nat :=
  if place < removed.length then
    match removed[place]? with
    | none => none
    | some span => if span.stop ≤ start then pass? removed start (place + 1) else some place
  else some place
termination_by removed.length - place

/-- What the spans from `place` on leave of the minutes from `start` to `stop`. A look at a
place without a span has no result. -/
def carveFrom? (removed : List Span) (start stop : Int) (place : Nat) : Option (List Span) :=
  if place < removed.length then
    match removed[place]? with
    | none => none
    | some span =>
        if span.start < stop then do
          let pieces ← carveFrom? removed (max start span.stop) stop (place + 1)
          return if start < span.start then ⟨start, span.start⟩ :: pieces else pieces
        else some (if start < stop then [⟨start, stop⟩] else [])
  else some (if start < stop then [⟨start, stop⟩] else [])
termination_by removed.length - place

/-- What the spans from `place` on leave of the base spans. The place that is reached at one
base span is kept for the next one. -/
def subtractFrom? (removed : List Span) : List Span → Nat → Option (List Span)
  | [], _ => some []
  | base :: rest, place => do
      let ahead ← pass? removed base.start place
      let pieces ← carveFrom? removed base.start base.stop ahead
      let later ← subtractFrom? removed rest ahead
      return pieces ++ later

theorem pass?_eq_some (removed : List Span) (start : Int) (place : Nat) :
    ∃ ahead, pass? removed start place = some ahead ∧
      removed.drop ahead = (removed.drop place).dropWhile fun span => span.stop ≤ start := by
  fun_induction pass? removed start place with
  | case1 place hinside hnone =>
      rw [List.getElem?_eq_getElem hinside] at hnone
      cases hnone
  | case2 place hinside span hspan hbefore ih =>
      obtain ⟨hinside, rfl⟩ := List.getElem?_eq_some_iff.mp hspan
      obtain ⟨ahead, hahead, hdrop⟩ := ih
      refine ⟨ahead, hahead, ?_⟩
      rw [hdrop, List.drop_eq_getElem_cons hinside,
        List.dropWhile_cons_of_pos (by simpa using hbefore)]
  | case3 place hinside span hspan hbehind =>
      obtain ⟨hinside, rfl⟩ := List.getElem?_eq_some_iff.mp hspan
      refine ⟨place, rfl, ?_⟩
      rw [List.drop_eq_getElem_cons hinside,
        List.dropWhile_cons_of_neg (by simpa using hbehind)]
  | case4 place hdone =>
      refine ⟨place, rfl, ?_⟩
      rw [List.drop_eq_nil_of_le (Nat.not_lt.mp hdone), List.dropWhile_nil]

theorem carveFrom?_eq_some (removed : List Span) (start stop : Int) (place : Nat) :
    carveFrom? removed start stop place = some (carve start stop (removed.drop place)) := by
  fun_induction carveFrom? removed start stop place with
  | case1 start place hinside hnone =>
      rw [List.getElem?_eq_getElem hinside] at hnone
      cases hnone
  | case2 start place hinside span hspan hreach ih =>
      obtain ⟨hinside, rfl⟩ := List.getElem?_eq_some_iff.mp hspan
      rw [ih, List.drop_eq_getElem_cons hinside, carve, if_pos hreach]
      rfl
  | case3 start place hinside span hspan hbeyond =>
      obtain ⟨hinside, rfl⟩ := List.getElem?_eq_some_iff.mp hspan
      rw [List.drop_eq_getElem_cons hinside, carve, if_neg hbeyond]
  | case4 start place hdone =>
      rw [List.drop_eq_nil_of_le (Nat.not_lt.mp hdone), carve]

/-- The cursors never look behind the end, and they leave what the recursion leaves. -/
theorem subtractFrom?_eq_some (removed base : List Span) (place : Nat) :
    subtractFrom? removed base place = some (subtract base (removed.drop place)) := by
  induction base generalizing place with
  | nil => rfl
  | cons first rest ih =>
      obtain ⟨ahead, hahead, hdrop⟩ := pass?_eq_some removed first.start place
      rw [subtractFrom?, hahead, subtract, ← hdrop]
      simp only [Option.bind_eq_bind, Option.bind_some, carveFrom?_eq_some, ih]
      rfl

/-! ## Minutes -/

variable {base removed : List Span}

/-- The pieces left of a whole have its minutes but for those that were removed. -/
theorem exists_carve_contains_iff (hremoved : Ordered removed) (start stop minute : Int) :
    (∃ piece ∈ carve start stop removed, piece.Contains minute) ↔
      Span.Contains ⟨start, stop⟩ minute ∧ ∀ other ∈ removed, ¬ other.Contains minute := by
  have hnext : minute < minute + 1 := Int.lt_add_one_of_le (Int.le_refl _)
  have hpieces := exists_mem_carve_iff hremoved start stop
    (show (⟨minute, minute + 1⟩ : Span).start < (⟨minute, minute + 1⟩ : Span).stop from hnext)
  simpa only [Span.minute_within_iff, Span.overlaps_minute_iff] using hpieces

/-- What ends before a minute does not contain it. -/
theorem forall_dropWhile_not_contains_iff {start minute : Int} (hstart : start ≤ minute)
    (spans : List Span) :
    (∀ other ∈ spans.dropWhile fun other => other.stop ≤ start, ¬ other.Contains minute) ↔
      ∀ other ∈ spans, ¬ other.Contains minute := by
  have hdropped := exists_dropWhile_overlaps_iff
    (show start ≤ (⟨minute, minute + 1⟩ : Span).start from hstart) spans
  simpa only [Span.overlaps_minute_iff, not_exists, not_and] using not_congr hdropped

namespace Successive

variable {first : Span} {spans : List Span}

theorem tail (hspans : Successive (first :: spans)) : Successive spans :=
  ⟨fun span hspan => hspans.nonempty span (.tail _ hspan), (List.pairwise_cons.mp hspans.inTurn).2⟩

theorem stop_le (hspans : Successive (first :: spans)) :
    ∀ span ∈ spans, first.stop ≤ span.start :=
  (List.pairwise_cons.mp hspans.inTurn).1

/-- No minute of a later span comes before the first one is over. -/
theorem stop_le_of_contains (hspans : Successive (first :: spans)) {minute : Int}
    (hminute : ∃ span ∈ spans, span.Contains minute) : first.stop ≤ minute := by
  obtain ⟨span, hspan, hstart, -⟩ := hminute
  exact Int.le_trans (hspans.stop_le span hspan) hstart

end Successive

/-- A minute is left exactly if it lies in a base span and in no removed one. What was passed
at a base span ends before every later one starts, so it need not be looked at again. -/
theorem exists_subtract_contains_iff (hbase : Successive base) (hremoved : Ordered removed)
    (minute : Int) :
    (∃ piece ∈ subtract base removed, piece.Contains minute) ↔
      (∃ span ∈ base, span.Contains minute) ∧ ∀ other ∈ removed, ¬ other.Contains minute := by
  induction base generalizing removed with
  | nil => simp only [subtract, List.not_mem_nil, false_and, exists_false]
  | cons first rest ih =>
      have hfirst := hbase.nonempty first (.head _)
      have hahead := hremoved.sublist
        (List.dropWhile_sublist fun span : Span => span.stop ≤ first.start)
      simp only [subtract, List.mem_append, or_and_right, exists_or]
      rw [exists_carve_contains_iff hahead, ih hbase.tail hahead, ← or_and_right]
      simp only [List.mem_cons, exists_eq_or_imp]
      apply and_congr_right
      intro hminute
      apply forall_dropWhile_not_contains_iff
      rcases hminute with hminute | hminute
      · exact hminute.1
      · exact Int.le_trans (Int.le_of_lt hfirst) (hbase.stop_le_of_contains hminute)

/-- Each piece that is left has minutes and lies within a base span. -/
theorem subtract_within (base removed : List Span) :
    ∀ piece ∈ subtract base removed,
      piece.start < piece.stop ∧ ∃ span ∈ base, piece.Within span := by
  induction base generalizing removed with
  | nil => exact nofun
  | cons first rest ih =>
      intro piece hpiece
      rcases List.mem_append.mp hpiece with hpiece | hpiece
      · obtain ⟨hstart, hlt, hstop⟩ := carve_within _ _ _ piece hpiece
        exact ⟨hlt, first, .head _, hstart, hstop⟩
      · obtain ⟨hlt, span, hspan, hwithin⟩ := ih _ piece hpiece
        exact ⟨hlt, span, .tail _ hspan, hwithin⟩

theorem successive_subtract (hbase : Successive base) (hremoved : Ordered removed) :
    Successive (subtract base removed) := by
  refine ⟨fun piece hpiece => (subtract_within base removed piece hpiece).1, ?_⟩
  induction base generalizing removed with
  | nil => exact .nil
  | cons first rest ih =>
      have hahead := hremoved.sublist
        (List.dropWhile_sublist fun span : Span => span.stop ≤ first.start)
      have hpieces := (separate_carve hahead.nonempty first.start first.stop).apart
      refine List.pairwise_append.mpr
        ⟨hpieces.imp Int.le_of_lt, ih hbase.tail hahead, fun piece hpiece other hother => ?_⟩
      obtain ⟨-, -, hstop⟩ := carve_within _ _ _ piece hpiece
      obtain ⟨-, span, hspan, hstart, -⟩ := subtract_within _ _ other hother
      have hturn := hbase.stop_le span hspan
      omega

/-- Spans with minutes in the order of their starts are joined into spans with minutes, each
of which ends before the next one starts, and no minute is added or lost. From successive base
spans the cursors take such spans away without a look behind the end of the list, and what is
left are successive spans with exactly the minutes of the base spans that were not removed. -/
theorem joined_and_taken_away {spans : List Span} (hspans : Ordered spans)
    (hbase : Successive base) (hremoved : Ordered removed) :
    (Separate (merge spans) ∧
      ∀ minute, (∃ span ∈ merge spans, span.Contains minute) ↔
        ∃ span ∈ spans, span.Contains minute) ∧
    subtractFrom? removed base 0 = some (subtract base removed) ∧
    Successive (subtract base removed) ∧
    ∀ minute, (∃ piece ∈ subtract base removed, piece.Contains minute) ↔
      (∃ span ∈ base, span.Contains minute) ∧ ∀ other ∈ removed, ¬ other.Contains minute :=
  ⟨⟨separate_merge hspans, exists_merge_contains_iff hspans⟩,
    subtractFrom?_eq_some removed base 0, successive_subtract hbase hremoved,
    exists_subtract_contains_iff hbase hremoved⟩

/-- One removed span lies inside an earlier one, and another reaches over a whole base span
into the one behind it. -/
theorem straddling_span_taken_away :
    let spans : List Span := [⟨0, 10⟩, ⟨10, 20⟩, ⟨15, 18⟩, ⟨30, 40⟩]
    let base : List Span := [⟨0, 100⟩, ⟨100, 200⟩, ⟨300, 400⟩]
    let removed : List Span := [⟨10, 20⟩, ⟨15, 18⟩, ⟨90, 310⟩]
    Ordered spans ∧ Successive base ∧ Ordered removed ∧
      merge spans = [⟨0, 20⟩, ⟨30, 40⟩] ∧ Separate [⟨0, 20⟩, ⟨30, 40⟩] ∧
      subtractFrom? removed base 0 = some [⟨0, 10⟩, ⟨20, 90⟩, ⟨310, 400⟩] ∧
      Successive [⟨0, 10⟩, ⟨20, 90⟩, ⟨310, 400⟩] := by
  intro spans base removed
  have hspans : Ordered spans := ⟨by decide, by decide⟩
  have hbase : Successive base := ⟨by decide, by decide⟩
  have hremoved : Ordered removed := ⟨by decide, by decide⟩
  obtain ⟨⟨hseparate, -⟩, hleft, hsuccessive, -⟩ := joined_and_taken_away hspans hbase hremoved
  exact ⟨hspans, hbase, hremoved, rfl, hseparate, hleft, hsuccessive⟩

end Availability

end FacilityBooking
