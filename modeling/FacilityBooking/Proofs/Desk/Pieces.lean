import FacilityBooking.Proofs.Desk.Gaps

/-!
# The number of free pieces

Free pieces have minutes and at least one minute between them. So the 1439 minutes of a
day hold no more than 720 of them, however it is booked.
-/

namespace FacilityBooking

namespace Availability

/-- Separate spans take two minutes each, but for the last one. -/
theorem Separate.two_mul_length_le {spans : List Span} (hseparate : Separate spans)
    (start stop : Int) (hbounds : start ≤ stop + 1)
    (hwithin : ∀ span ∈ spans, start ≤ span.start ∧ span.stop ≤ stop) :
    2 * (spans.length : Int) ≤ stop - start + 1 := by
  induction spans generalizing start with
  | nil =>
      rw [List.length_nil]
      omega
  | cons first rest ih =>
      obtain ⟨hstart, hstop⟩ := hwithin first (.head _)
      have hfirst := hseparate.nonempty first (.head _)
      obtain ⟨hapart, hrest⟩ := List.pairwise_cons.mp hseparate.apart
      have hseparateRest : Separate rest :=
        ⟨fun span hspan => hseparate.nonempty span (.tail _ hspan), hrest⟩
      have hlater := ih hseparateRest (first.stop + 1) (by omega) fun span hspan =>
        ⟨hapart span hspan, (hwithin span (.tail _ hspan)).2⟩
      rw [List.length_cons]
      omega

/-- What is removed lies between the pieces. -/
theorem separate_carve {removed : List Span}
    (hnonempty : ∀ span ∈ removed, span.start < span.stop) (start stop : Int) :
    Separate (carve start stop removed) := by
  refine ⟨fun span hspan => (carve_within start stop removed span hspan).2.1, ?_⟩
  induction removed generalizing start with
  | nil =>
      rw [carve]
      split
      · exact List.pairwise_singleton _ _
      · exact .nil
  | cons first rest ih =>
      have hfirst := hnonempty first (.head _)
      have hrest := ih (fun span hspan => hnonempty span (.tail _ hspan)) (max start first.stop)
      rw [carve]
      split
      · split
        · refine List.pairwise_cons.mpr ⟨fun span hspan => ?_, hrest⟩
          have hbehind := (carve_within _ _ _ span hspan).1
          dsimp only
          omega
        · exact hrest
      · split
        · exact List.pairwise_singleton _ _
        · exact .nil

theorem separate_gaps {window : Span} {spans : List Span} (hordered : Ordered spans)
    (hoverlaps : ∀ span ∈ spans, span.overlaps window) : Separate (gaps window spans) := by
  have hmerged := separate_merge (ordered_map_clip hordered hoverlaps)
  exact separate_carve (fun span hspan =>
    hmerged.nonempty span ((List.dropWhile_sublist _).subset hspan)) _ _

end Availability

/-- The minutes of a day that may be booked. -/
theorem Day.window_length (day : Day) : day.window.stop - day.window.start = 1439 := by
  cases day <;> rfl

theorem Ledger.length_freeSpans_le {ledger : Ledger} {facility : String}
    (htidy : Timetable.Tidy (ledger.slotsOf facility)) (day : Day) :
    (Availability.freeSpans ledger.timetables[facility]? day).length ≤ 720 := by
  have hseparate := Availability.separate_gaps (ordered_spansOn htidy day)
    (fun _ hspan => overlaps_of_mem_spansOn hspan)
  rw [← freeSpans_eq_gaps htidy] at hseparate
  have hlength := day.window_length
  have hcount := hseparate.two_mul_length_le day.window.start day.window.stop (by omega)
    fun span hspan =>
      have hwithin := Availability.freeSpans_within _ day span hspan
      ⟨hwithin.1, hwithin.2.2⟩
  omega

/-- A day has at most 720 free intervals. -/
theorem Desk.length_freeOn_le {desk : Desk} {facility : String} {day : Day}
    {free : List Interval} (hconsistent : desk.ledger.Consistent)
    (hfree : desk.freeOn facility day = .ok free) : free.length ≤ 720 := by
  rw [← List.length_map Interval.toSpan, (spans_of_freeOn hfree).1]
  exact Ledger.length_freeSpans_le (hconsistent.tidy facility) day

end FacilityBooking
