import FacilityBooking.Proofs.Desk.Bookable
import FacilityBooking.Proofs.Desk.Obstacles
import FacilityBooking.Proofs.Desk.Pieces

/-!
# The free time of a day

The free intervals of a facility and its bookings share out the minutes of a day: each
minute is either booked or lies in a free interval. The free intervals are as long as they
can be, since there are booked minutes between any two of them.
-/

namespace FacilityBooking

/-- A span overlaps a single minute exactly if it contains it. -/
theorem Span.overlaps_minute_iff {span : Span} {minute : Int} :
    span.overlaps ⟨minute, minute + 1⟩ ↔ span.Contains minute := by
  rw [overlaps_iff, Contains]
  dsimp only
  omega

theorem Span.minute_within_iff {outer : Span} {minute : Int} :
    Within ⟨minute, minute + 1⟩ outer ↔ outer.Contains minute :=
  and_congr_right fun _ => Int.add_one_le_iff

theorem Day.window_contains_iff {day : Day} {minute : Int} :
    day.window.Contains minute ↔
      day.number * 1440 ≤ minute ∧ minute < day.number * 1440 + 1439 := by
  have hday : minutesPerDay = 1440 := rfl
  rw [Span.Contains, window, hday]
  dsimp only
  omega

namespace Desk

/-- Intervals that share out the minutes of a day with the bookings of a facility, in
order and without two of them next to each other. -/
structure Tiling (desk : Desk) (facility : String) (day : Day) (free : List Interval) :
    Prop where
  valid : ∀ interval ∈ free, interval.Valid
  inside : ∀ interval ∈ free, day.number * 1440 ≤ interval.start.toMinute ∧
    interval.start.toMinute < interval.stop.toMinute ∧
    interval.stop.toMinute ≤ day.number * 1440 + 1439
  apart : free.Pairwise fun earlier later => earlier.stop.toMinute < later.start.toMinute
  free_iff : ∀ minute : Int, day.number * 1440 ≤ minute → minute < day.number * 1440 + 1439 →
    ((∃ interval ∈ free, interval.toSpan.Contains minute) ↔
      ∀ (id : BookingId) (booking : Booking), desk.ledger.bookings[id]? = some booking →
        booking.facility = facility → ¬ booking.span.Contains minute)

variable {desk : Desk} {facility : String} {day : Day}

/-- The free intervals of a day and the bookings tile it. -/
theorem tiling_of_freeOn (hconsistent : desk.ledger.Consistent) {free : List Interval}
    (hfree : desk.freeOn facility day = .ok free) : desk.Tiling facility day free := by
  obtain ⟨hspans, hvalid⟩ := spans_of_freeOn hfree
  have htidy := hconsistent.tidy facility
  have hseparate : Availability.Separate (free.map Interval.toSpan) := by
    rw [hspans, Ledger.freeSpans_eq_gaps htidy]
    exact Availability.separate_gaps (Ledger.ordered_spansOn htidy day)
      fun _ hspan => Ledger.overlaps_of_mem_spansOn hspan
  have hapart := List.pairwise_map.mp hseparate.apart
  exact {
    valid := hvalid
    inside := fun interval hinterval => by
      have hwithin := within_of_freeOn hfree interval hinterval
      have hday : minutesPerDay = 1440 := rfl
      simp only [Day.window, hday] at hwithin
      omega
    apart := hapart
    free_iff := fun minute hfirst hlast => by
      have hlies := exists_mem_freeOn_iff hconsistent hfree ⟨minute, minute + 1⟩
        (Int.lt_add_one_of_le (Int.le_refl _))
      simp only [Span.minute_within_iff, Span.overlaps_minute_iff,
        Day.window_contains_iff.mpr ⟨hfirst, hlast⟩, true_and] at hlies
      rw [hlies]
      constructor
      · rintro hnone id booking hbooking rfl
        exact hnone _ (hconsistent.slot_mem hbooking)
      · intro hnone slot hslot
        obtain ⟨booking, hbooking, hspan, hfacility⟩ := (hconsistent.listed facility slot).mp hslot
        exact hspan ▸ hnone slot.booking booking hbooking hfacility }

/-- A query of a facility whose name is accepted tells its free time as it was before. -/
theorem queryDay_cases_freeOn (hconsistent : desk.ledger.Consistent) (facility : String)
    (day : Day) :
    (∃ refusal, desk.ledger.ensure facility = .error refusal ∧
        (desk.queryDay facility day).1 = .error refusal) ∨
      ∃ opened, desk.ledger.ensure facility = .ok opened ∧
        (desk.queryDay facility day).1 = desk.freeOn facility day := by
  unfold queryDay
  cases hensure : desk.ledger.ensure facility with
  | error refusal => exact .inl ⟨refusal, rfl, rfl⟩
  | ok opened =>
      refine .inr ⟨opened, rfl, ?_⟩
      exact freeOn_congr hconsistent (hconsistent.ensure hensure) fun id booking _ _ => by
        rw [Ledger.bookings_ensure hensure]

/-- In every state that a desk can reach, for any name and day, the free intervals can be
told, and with the bookings they tile the day. A query of the day tells the same intervals,
if the name is accepted: if it has 1 to 256 bytes, and the facility is open or there is room
for one more. -/
theorem free_time_tiles (actions : List Action) (facility : String) (day : Day) :
    ∃ free, (empty.run actions).freeOn facility day = .ok free ∧
      (empty.run actions).Tiling facility day free ∧
      (1 ≤ facility.utf8ByteSize ∧ facility.utf8ByteSize ≤ 256 ∧
          (facility ∈ (empty.run actions).ledger.timetables ∨
            (empty.run actions).ledger.timetables.size < 10000) →
        ((empty.run actions).queryDay facility day).1 = .ok free) ∧
      ∀ found, ((empty.run actions).queryDay facility day).1 = .ok found → found = free := by
  have hconsistent : (empty.run actions).ledger.Consistent :=
    run_consistent Ledger.consistent_empty actions
  generalize empty.run actions = desk at *
  obtain ⟨free, hfree, -⟩ := desk.freeOn_eq_ok facility day
  refine ⟨free, hfree, tiling_of_freeOn hconsistent hfree, ?_⟩
  rcases queryDay_cases_freeOn hconsistent facility day with
    ⟨refusal, hensure, hquery⟩ | ⟨opened, -, hquery⟩
  · rw [hquery]
    refine ⟨fun haccepted => ?_, nofun⟩
    obtain ⟨opened, hopened⟩ := desk.ledger.exists_ensure_iff.mpr haccepted
    cases hensure.symm.trans hopened
  · rw [hquery, hfree]
    exact ⟨fun _ => rfl, fun found hfound => (Except.ok.inj hfound).symm⟩

/-- Bookings that touch and one that lasts into the next day leave the rest of a day. -/
example : (empty.run [.book "LabA" "ann" ⟨.monday, 9, 0⟩ ⟨.monday, 10, 0⟩,
    .book "LabA" "bob" ⟨.monday, 10, 0⟩ ⟨.monday, 10, 30⟩,
    .book "LabA" "cid" ⟨.monday, 22, 0⟩ ⟨.tuesday, 1, 0⟩]).freeOn "LabA" .monday =
      .ok [⟨⟨.monday, 0, 0⟩, ⟨.monday, 9, 0⟩⟩, ⟨⟨.monday, 10, 30⟩, ⟨.monday, 22, 0⟩⟩] := rfl

end Desk

end FacilityBooking
