import FacilityBooking.Desk.Basic
import FacilityBooking.Proofs.Calendar.Week

/-!
# Free time

What is left free of a day lies inside the day's window. So the free time of a
facility can always be told.
-/

namespace FacilityBooking

namespace Availability

theorem carve_within (start stop : Int) (removed : List Span) :
    ∀ span ∈ carve start stop removed,
      start ≤ span.start ∧ span.start < span.stop ∧ span.stop ≤ stop := by
  induction removed generalizing start with
  | nil =>
      intro span hspan
      rw [carve] at hspan
      split at hspan
      · next hlt =>
          rw [List.mem_singleton.mp hspan]
          exact ⟨Int.le_refl _, hlt, Int.le_refl _⟩
      · cases hspan
  | cons first rest ih =>
      have hlater (span : Span) (hspan : span ∈ carve (max start first.stop) stop rest) :
          start ≤ span.start ∧ span.start < span.stop ∧ span.stop ≤ stop := by
        have hwithin := ih _ span hspan
        omega
      intro span hspan
      rw [carve] at hspan
      split at hspan
      · next hbefore =>
          split at hspan
          · next hgap =>
              rcases List.mem_cons.mp hspan with rfl | hspan
              · exact ⟨Int.le_refl _, hgap, Int.le_of_lt hbefore⟩
              · exact hlater span hspan
          · exact hlater span hspan
      · split at hspan
        · next hlt =>
            rw [List.mem_singleton.mp hspan]
            exact ⟨Int.le_refl _, hlt, Int.le_refl _⟩
        · cases hspan

theorem freeSpans_within (timetable : Option Timetable) (day : Day) :
    ∀ span ∈ freeSpans timetable day,
      day.window.start ≤ span.start ∧ span.start < span.stop ∧ span.stop ≤ day.window.stop := by
  have hwhole : ∀ span ∈ [day.window],
      day.window.start ≤ span.start ∧ span.start < span.stop ∧ span.stop ≤ day.window.stop := by
    intro span hspan
    rw [List.mem_singleton.mp hspan]
    exact ⟨Int.le_refl _, day.window_inside.2.1, Int.le_refl _⟩
  unfold freeSpans
  split
  · exact hwhole
  · split
    · exact hwhole
    · simp only [subtract, List.append_nil]
      exact carve_within _ _ _

end Availability

/-- Spans inside the week have intervals, which are valid and stand for the spans. -/
theorem Interval.ofSpans_of_inside {spans : List Span}
    (hinside : ∀ span ∈ spans,
      0 ≤ span.start ∧ span.start ≤ span.stop ∧ span.stop < minutesPerWeek) :
    ∃ intervals, (spans.mapM fun span => (Interval.ofSpan span).mapError fun cause =>
        Refusal.internal (.unscheduled cause)) = .ok intervals ∧
      intervals.map Interval.toSpan = spans ∧ ∀ interval ∈ intervals, interval.Valid := by
  induction spans with
  | nil => exact ⟨[], rfl, rfl, nofun⟩
  | cons first rest ih =>
      obtain ⟨hstart, hle, hstop⟩ := hinside first (.head _)
      obtain ⟨interval, hinterval, hvalid, hspan⟩ := Interval.ofSpan_of_inside hstart hle hstop
      obtain ⟨intervals, hintervals, hspans, hvalids⟩ :=
        ih fun span hspan => hinside span (.tail _ hspan)
      refine ⟨interval :: intervals, ?_, ?_, ?_⟩
      · rw [List.mapM_cons, hinterval, hintervals]
        rfl
      · rw [List.map_cons, hspan, hspans]
      · intro other hother
        rcases List.mem_cons.mp hother with rfl | hother
        · exact hvalid
        · exact hvalids other hother

namespace Desk

/-- The free time of a facility on a day can always be told. -/
theorem freeOn_eq_ok (desk : Desk) (facility : String) (day : Day) :
    ∃ free, desk.freeOn facility day = .ok free ∧
      free.map Interval.toSpan = Availability.freeSpans desk.ledger.timetables[facility]? day ∧
      ∀ interval ∈ free, interval.Valid := by
  apply Interval.ofSpans_of_inside
  intro span hspan
  have hwithin := Availability.freeSpans_within _ day span hspan
  have hwindow := day.window_inside
  omega

variable {desk : Desk} {facility : String} {day : Day} {free : List Interval}

/-- The free intervals of a day are valid and stand for its free spans. -/
theorem spans_of_freeOn (hfree : desk.freeOn facility day = .ok free) :
    free.map Interval.toSpan = Availability.freeSpans desk.ledger.timetables[facility]? day ∧
      ∀ interval ∈ free, interval.Valid := by
  obtain ⟨intervals, hintervals, hspans, hvalid⟩ := desk.freeOn_eq_ok facility day
  rw [hfree] at hintervals
  cases hintervals
  exact ⟨hspans, hvalid⟩

theorem within_of_freeOn (hfree : desk.freeOn facility day = .ok free) :
    ∀ interval ∈ free, day.window.start ≤ interval.start.toMinute ∧
      interval.start.toMinute < interval.stop.toMinute ∧
      interval.stop.toMinute ≤ day.window.stop := by
  intro interval hinterval
  exact Availability.freeSpans_within _ day interval.toSpan
    ((spans_of_freeOn hfree).1 ▸ List.mem_map_of_mem hinterval)

end Desk

end FacilityBooking
