import FacilityBooking.Proofs.Desk.Names

/-!
# Room for facilities

A desk that has no room for one more facility never has room again, since no facility is
ever closed: it is crowded for each name that is not open. Nothing else is refused for the
number of facilities.
-/

namespace FacilityBooking

/-- A facility that is not open, at a desk with as many facilities as it may have. -/
structure Desk.Crowded (desk : Desk) (facility : String) : Prop where
  closed : facility ∉ desk.ledger.timetables
  full : desk.ledger.timetables.size = 10000

namespace Ledger

variable {ledger opened : Ledger} {facility : String}

/-- Of the reasons not to open a facility, only one is the number of facilities. -/
theorem no_room_of_ensure
    (hensure : ledger.ensure facility = .error (.limitExceeded .facilities)) :
    facility ∉ ledger.timetables ∧ 10000 ≤ ledger.timetables.size := by
  rcases ledger.ensure_cases facility with
    ⟨-, herror⟩ | ⟨-, herror⟩ | ⟨-, ⟨hnew, hfull, -⟩ | ⟨-, opened, hopened⟩⟩
  · cases herror.symm.trans hensure
  · cases herror.symm.trans hensure
  · exact ⟨hnew, hfull⟩
  · cases hopened.symm.trans hensure

theorem ensure_eq_self_of_full (hensure : ledger.ensure facility = .ok opened)
    (hfull : ledger.timetables.size = 10000) : opened = ledger := by
  obtain ⟨-, ⟨-, rfl⟩ | ⟨-, hroom, -⟩⟩ := ensure_eq_ok_iff.mp hensure
  · rfl
  · rw [hfull] at hroom
    exact absurd hroom (by decide)

end Ledger

namespace Desk

variable {desk : Desk} {action : Action} {facility : String}

/-! ## One action -/

/-- No booking stays where it is for the number of facilities. -/
theorem change_ne_no_room (id : BookingId) (offset : Int) :
    (desk.change id offset).1 ≠ .error (.limitExceeded .facilities) := by
  unfold change
  cases hbooking : desk.ledger.bookings[id]? with
  | none => nofun
  | some booking =>
      dsimp only
      split
      · nofun
      · cases htimetable : desk.ledger.timetables[booking.facility]? with
        | none => nofun
        | some timetable =>
            dsimp only
            split
            · nofun
            · rw [Ledger.move_eq hbooking htimetable]
              nofun

/-- An action is refused for the number of facilities only if it names one that is not
open, and there is no room for it. -/
theorem crowded_of_step (hconsistent : desk.ledger.Consistent) (horderly : desk.Orderly)
    (hrefused : (desk.step action).1 = some (.limitExceeded .facilities)) :
    ∃ facility, action.facility? = some facility ∧ desk.Crowded facility := by
  have hcrowded {facility : String} (hclosed : facility ∉ desk.ledger.timetables)
      (hfull : 10000 ≤ desk.ledger.timetables.size) : desk.Crowded facility :=
    ⟨hclosed, Nat.le_antisymm horderly.few hfull⟩
  have hensured {facility : String} {refusal : Refusal}
      (hensure : desk.ledger.ensure facility = .error refusal)
      (hlimit : some refusal = some (.limitExceeded .facilities)) : desk.Crowded facility := by
    cases hlimit
    obtain ⟨hclosed, hfull⟩ := Ledger.no_room_of_ensure hensure
    exact hcrowded hclosed hfull
  cases action with
  | book facility user start stop =>
      rcases book_or_obstacle hconsistent facility user start stop with
        ⟨refusal, ⟨place, hobstacle, -⟩, hbooked⟩ | ⟨-, ledger, -, hbooked⟩
      · rw [step, hbooked] at hrefused
        cases hrefused
        cases hobstacle with
        | noRoom hclosed hfull => exact ⟨facility, rfl, hcrowded hclosed hfull⟩
      · rw [step, hbooked] at hrefused
        cases hrefused
  | change id offset =>
      exact absurd (refusal?_eq_some_iff.mp hrefused) (change_ne_no_room id offset)
  | resetDay facility day =>
      cases hensure : desk.ledger.ensure facility with
      | error refusal =>
          rw [step, resetDay, hensure] at hrefused
          exact ⟨facility, rfl, hensured hensure hrefused⟩
      | ok ledger =>
          obtain ⟨removed, left, hreset, -⟩ := resetDay_of_ensure hconsistent hensure day
          rw [step, hreset] at hrefused
          cases hrefused
  | queryDay facility day =>
      rw [step, queryDay] at hrefused
      cases hensure : desk.ledger.ensure facility with
      | error refusal =>
          rw [hensure] at hrefused
          exact ⟨facility, rfl, hensured hensure hrefused⟩
      | ok ledger =>
          obtain ⟨free, hfree, -⟩ := freeOn_eq_ok { desk with ledger } facility day
          rw [hensure] at hrefused
          dsimp only at hrefused
          rw [hfree] at hrefused
          cases hrefused
  | incrementUsage facility =>
      rw [step, incrementUsage] at hrefused
      cases hensure : desk.ledger.ensure facility with
      | error refusal =>
          rw [hensure] at hrefused
          exact ⟨facility, rfl, hensured hensure hrefused⟩
      | ok ledger =>
          rw [hensure] at hrefused
          cases hrefused

/-- A desk without room stays without room, and has the same facilities. -/
theorem step_refilled_of_full (hconsistent : desk.ledger.Consistent)
    (hfull : desk.ledger.timetables.size = 10000) (action : Action) :
    desk.ledger.Refilled (desk.step action).2.ledger := by
  rcases step_cases hconsistent action with ⟨refusal, -, hrefused⟩ | ⟨hdone, -⟩
  · rw [hrefused]
    exact .refl desk.ledger
  · obtain ⟨opened, hrefilled, hopened⟩ := step_opens hconsistent hdone
    cases hnamed : action.facility? with
    | none =>
        rw [hnamed] at hopened
        exact hopened ▸ hrefilled
    | some facility =>
        rw [hnamed] at hopened
        exact Ledger.ensure_eq_self_of_full hopened hfull ▸ hrefilled

/-! ## Runs -/

theorem run_refilled_of_full (hconsistent : desk.ledger.Consistent)
    (hfull : desk.ledger.timetables.size = 10000) (actions : List Action) :
    desk.ledger.Refilled (desk.run actions).ledger := by
  induction actions generalizing desk with
  | nil => exact .refl desk.ledger
  | cons action rest ih =>
      have hstep := step_refilled_of_full hconsistent hfull action
      exact hstep.trans (ih (step_consistent hconsistent action) (hstep.size_eq.trans hfull))

/-- There is never room again for a facility for which there is none. -/
theorem Crowded.run (hcrowded : desk.Crowded facility) (hconsistent : desk.ledger.Consistent)
    (actions : List Action) : (desk.run actions).Crowded facility := by
  have hrefilled := run_refilled_of_full hconsistent hcrowded.full actions
  exact ⟨fun hopen => hcrowded.closed ((hrefilled.mem_iff facility).mp hopen),
    hrefilled.size_eq.trans hcrowded.full⟩

end Desk

end FacilityBooking
