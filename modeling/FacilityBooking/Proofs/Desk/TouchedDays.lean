import FacilityBooking.Proofs.Calendar.Days
import FacilityBooking.Proofs.Desk.Gaps
import FacilityBooking.Proofs.Desk.Runs

/-!
# Days with bookings

The days with bookings of a facility are found from the two ends of each booking, and they
are the days of all the minutes in between. On every other day the whole window is free.
-/

namespace FacilityBooking

theorem Interval.ofSpan_window (day : Day) :
    Interval.ofSpan day.window = .ok ⟨⟨day, 0, 0⟩, ⟨day, 23, 59⟩⟩ := by
  cases day <;> rfl

namespace Desk

variable {desk : Desk} {facility : String} {day : Day}

/-- The days with bookings are those that a booking of the facility touches. -/
theorem mem_daysWithBookings_iff (hconsistent : desk.ledger.Consistent) :
    day ∈ desk.daysWithBookings facility ↔
      ∃ (id : BookingId) (booking : Booking), desk.ledger.bookings[id]? = some booking ∧
        booking.facility = facility ∧ booking.span.Touches day := by
  simp only [daysWithBookings, List.mem_filter, Day.mem_all, true_and, List.any_eq_true,
    List.contains_iff_mem]
  constructor
  · rintro ⟨slot, hslot, hday⟩
    obtain ⟨booking, hbooking, hspan, hfacility⟩ := (hconsistent.listed _ slot).mp hslot
    rw [← hspan, Span.mem_days_iff (hconsistent.span_inWeek hbooking)] at hday
    exact ⟨slot.booking, booking, hbooking, hfacility, hday⟩
  · rintro ⟨id, booking, hbooking, hfacility, htouches⟩
    refine ⟨_, hfacility ▸ hconsistent.slot_mem hbooking, ?_⟩
    exact (Span.mem_days_iff (hconsistent.span_inWeek hbooking)).mpr htouches

theorem pairwise_daysWithBookings (desk : Desk) (facility : String) :
    (desk.daysWithBookings facility).Pairwise fun earlier later =>
      earlier.number < later.number :=
  Day.pairwise_all.sublist List.filter_sublist

/-- A slot that reaches into the window of a day belongs to a booking that touches it. -/
theorem spansOn_of_untouched (hconsistent : desk.ledger.Consistent)
    (huntouched : day ∉ desk.daysWithBookings facility) :
    desk.ledger.spansOn facility day = [] := by
  refine List.eq_nil_iff_forall_not_mem.mpr fun span hspan => huntouched ?_
  obtain ⟨slot, hslot, hoverlaps, -⟩ := Ledger.mem_spansOn_iff.mp hspan
  obtain ⟨booking, hbooking, hsame, hfacility⟩ := (hconsistent.listed facility slot).mp hslot
  refine (mem_daysWithBookings_iff hconsistent).mpr ⟨_, booking, hbooking, hfacility, ?_⟩
  exact Span.touches_of_overlaps_window (hsame ▸ hoverlaps)

/-- A day that no booking touches is free from 00:00 up to 23:59. -/
theorem freeOn_of_untouched (hconsistent : desk.ledger.Consistent)
    (huntouched : day ∉ desk.daysWithBookings facility) :
    desk.freeOn facility day = .ok [⟨⟨day, 0, 0⟩, ⟨day, 23, 59⟩⟩] := by
  have hwindow := day.window_inside.2.1
  rw [freeOn, Ledger.freeSpans_eq_gaps (hconsistent.tidy facility),
    spansOn_of_untouched hconsistent huntouched, Availability.gaps_nil hwindow, List.mapM_cons,
    Interval.ofSpan_window]
  rfl

/-- In every state that a desk can reach, the days with bookings of a facility go from
Monday to Sunday, and a day is among them exactly if some minute of some booking of the
facility belongs to it. So a booking that ends at midnight leaves the next day alone, and
one of several days is on all of them. On a day that is not among them the whole window is
free. -/
theorem touched_days_exact (actions : List Action) (facility : String) :
    ((empty.run actions).daysWithBookings facility).Pairwise
      (fun earlier later => earlier.number < later.number) ∧
    (∀ day, day ∈ (empty.run actions).daysWithBookings facility ↔
      ∃ (id : BookingId) (booking : Booking),
        (empty.run actions).ledger.bookings[id]? = some booking ∧
          booking.facility = facility ∧
          ∃ minute, booking.span.Contains minute ∧ minute / 1440 = day.number) ∧
    ∀ day, day ∉ (empty.run actions).daysWithBookings facility →
      (empty.run actions).freeOn facility day = .ok [⟨⟨day, 0, 0⟩, ⟨day, 23, 59⟩⟩] := by
  have hconsistent : (empty.run actions).ledger.Consistent :=
    run_consistent Ledger.consistent_empty actions
  refine ⟨pairwise_daysWithBookings _ facility, fun day => ?_, fun day huntouched => ?_⟩
  · rw [mem_daysWithBookings_iff hconsistent]
    simp only [Span.Touches, Day.ofMinute?_eq_some_iff_div]
  · exact freeOn_of_untouched hconsistent huntouched

/-- A booking over midnight is on two days and one that ends at midnight on one, so that
Sunday is free. -/
theorem sunday_untouched :
    let desk := empty.run [.book "LabA" "ann" ⟨.monday, 23, 0⟩ ⟨.tuesday, 1, 0⟩,
      .book "LabA" "cid" ⟨.saturday, 22, 0⟩ ⟨.sunday, 0, 0⟩]
    desk.daysWithBookings "LabA" = [.monday, .tuesday, .saturday] ∧
      .sunday ∉ desk.daysWithBookings "LabA" ∧
      desk.freeOn "LabA" .sunday = .ok [⟨⟨.sunday, 0, 0⟩, ⟨.sunday, 23, 59⟩⟩] := by
  intro desk
  have hdays : desk.daysWithBookings "LabA" = [.monday, .tuesday, .saturday] := rfl
  have huntouched : Day.sunday ∉ desk.daysWithBookings "LabA" := by
    rw [hdays]
    decide
  exact ⟨hdays, huntouched, (touched_days_exact _ _).2.2 _ huntouched⟩

end Desk

end FacilityBooking
