import FacilityBooking.Proofs.Desk.Runs

/-!
# Facilities of a desk

An action that is carried out opens the facility that it names and touches the timetables
of no others than facilities that are open. So a facility is never closed again, there are
never too many of them, and uses are counted of open facilities only.
-/

namespace FacilityBooking

namespace Ledger

/-- The same facilities are open in both ledgers, whatever stands on their timetables. -/
structure Refilled (before after : Ledger) : Prop where
  mem_iff : ∀ facility, facility ∈ after.timetables ↔ facility ∈ before.timetables
  size_eq : after.timetables.size = before.timetables.size

namespace Refilled

variable {before middle after : Ledger} {facility : String}

theorem refl (ledger : Ledger) : Refilled ledger ledger :=
  ⟨fun _ => Iff.rfl, rfl⟩

theorem trans (hfirst : Refilled before middle) (hsecond : Refilled middle after) :
    Refilled before after :=
  ⟨fun facility => (hsecond.mem_iff facility).trans (hfirst.mem_iff facility),
    hsecond.size_eq.trans hfirst.size_eq⟩

/-- A timetable takes the place of the one that the facility has. -/
theorem of_insert (hopen : facility ∈ before.timetables) (timetable : Timetable)
    (bookings : Std.ExtTreeMap BookingId Booking) (nextId : BookingId) :
    Refilled before ⟨before.timetables.insert facility timetable, bookings, nextId⟩ where
  mem_iff other := by
    rw [Std.ExtTreeMap.mem_insert, Std.LawfulEqCmp.compare_eq_iff_eq]
    exact or_iff_right_of_imp fun hsame => hsame ▸ hopen
  size_eq := by
    rw [Std.ExtTreeMap.size_insert, if_pos (Std.ExtTreeMap.contains_iff_mem.mpr hopen)]

theorem of_remove? {id : BookingId} {booking : Booking}
    (hremoved : before.remove? id = some (booking, after)) : Refilled before after := by
  unfold remove? at hremoved
  split at hremoved
  · cases hremoved
  · cases hremoved
    split
    · next timetable htimetable =>
        exact of_insert (Std.ExtTreeMap.mem_iff_isSome_getElem?.mpr (htimetable ▸ rfl)) _ _ _
    · exact ⟨fun _ => Iff.rfl, rfl⟩

theorem of_removeAll (ledger : Ledger) (ids : List BookingId) :
    Refilled ledger (ledger.removeAll ids).2 := by
  induction ids generalizing ledger with
  | nil => exact refl ledger
  | cons id rest ih =>
      rw [removeAll]
      cases hremoved : ledger.remove? id with
      | none => exact refl ledger
      | some found => exact (of_remove? hremoved).trans (ih found.2)

end Refilled

variable {ledger opened : Ledger} {facility : String}

theorem mem_ensure_iff (hensure : ledger.ensure facility = .ok opened) {other : String} :
    other ∈ opened.timetables ↔ other = facility ∨ other ∈ ledger.timetables := by
  obtain ⟨-, ⟨hopen, rfl⟩ | ⟨-, -, rfl⟩⟩ := ensure_eq_ok_iff.mp hensure
  · exact (or_iff_right_of_imp fun hsame => hsame ▸ hopen).symm
  · rw [Ledger.opened, Std.ExtTreeMap.mem_insert, Std.LawfulEqCmp.compare_eq_iff_eq, eq_comm]

theorem size_ensure_le (hensure : ledger.ensure facility = .ok opened)
    (hfew : ledger.timetables.size ≤ Limits.facilities) :
    opened.timetables.size ≤ Limits.facilities := by
  obtain ⟨-, ⟨-, rfl⟩ | ⟨-, hroom, rfl⟩⟩ := ensure_eq_ok_iff.mp hensure
  · exact hfew
  · exact Nat.le_trans Std.ExtTreeMap.size_insert_le hroom

end Ledger

/-- The facility that an action names. -/
def Action.facility? : Action → Option String
  | .book facility .. => some facility
  | .change .. => none
  | .resetDay facility _ => some facility
  | .queryDay facility _ => some facility
  | .incrementUsage facility => some facility

namespace Desk

variable {desk : Desk} {action : Action} {facility : String}

/-! ## One action -/

/-- An action that is carried out opens the facility that it names, if it names one, and
leaves all other facilities open or not as they are. -/
theorem step_opens (hconsistent : desk.ledger.Consistent)
    (hdone : (desk.step action).1 = none) :
    ∃ opened : Ledger, opened.Refilled (desk.step action).2.ledger ∧
      match action.facility? with
      | some facility => desk.ledger.ensure facility = .ok opened
      | none => opened = desk.ledger := by
  cases action with
  | book facility user start stop =>
      rcases book_cases hconsistent facility user start stop with
        ⟨refusal, -, hrefused⟩ | ⟨ledger, hensure, -, -, hbooked⟩
      · rw [step, hrefused] at hdone
        cases hdone
      · rw [step, hbooked]
        exact ⟨ledger, .of_insert (Ledger.mem_of_ensure hensure) _ _ _, hensure⟩
  | change id offset =>
      rcases change_cases hconsistent id offset with
        ⟨refusal, -, hrefused⟩ | ⟨booking, timetable, -, htimetable, -, -, hchanged⟩
      · rw [step, hrefused] at hdone
        cases hdone
      · rw [step, hchanged]
        have hopen : booking.facility ∈ desk.ledger.timetables :=
          Std.ExtTreeMap.mem_iff_isSome_getElem?.mpr (htimetable ▸ rfl)
        exact ⟨desk.ledger, .of_insert hopen _ _ _, rfl⟩
  | resetDay facility day =>
      rw [step, resetDay] at hdone ⊢
      cases hensure : desk.ledger.ensure facility with
      | error refusal =>
          rw [hensure] at hdone
          cases hdone
      | ok ledger => exact ⟨ledger, .of_removeAll ledger _, hensure⟩
  | queryDay facility day =>
      rcases queryDay_cases desk facility day with
        ⟨refusal, -, hrefused⟩ | ⟨ledger, free, hensure, -, hqueried⟩
      · rw [step, hrefused] at hdone
        cases hdone
      · rw [step, hqueried]
        exact ⟨ledger, .refl ledger, hensure⟩
  | incrementUsage facility =>
      rcases incrementUsage_cases desk facility with
        ⟨refusal, -, hrefused⟩ | ⟨ledger, hensure, hcounted⟩
      · rw [step, hrefused] at hdone
        cases hdone
      · rw [step, hcounted]
        exact ⟨ledger, .refl ledger, hensure⟩

/-- The facility that an action names is open after the action is carried out. -/
theorem mem_of_step (hconsistent : desk.ledger.Consistent)
    (hnamed : action.facility? = some facility) (hdone : (desk.step action).1 = none) :
    facility ∈ (desk.step action).2.ledger.timetables := by
  obtain ⟨opened, hrefilled, hopened⟩ := step_opens hconsistent hdone
  rw [hnamed] at hopened
  exact (hrefilled.mem_iff facility).mpr (Ledger.mem_of_ensure hopened)

/-- The count of uses of a facility goes up by one as a use of it is counted, and stays as it
is in every other case. -/
theorem usage_step (hconsistent : desk.ledger.Consistent) (action : Action)
    (facility : String) :
    (desk.step action).2.usage[facility]? =
      if action = .incrementUsage facility ∧ (desk.step action).1 = none then
        some (desk.usageOf facility + 1)
      else desk.usage[facility]? := by
  cases action with
  | book name user start stop =>
      rcases book_cases hconsistent name user start stop with
        ⟨refusal, -, hrefused⟩ | ⟨ledger, -, -, -, hbooked⟩
      · simp [step, hrefused]
      · simp [step, hbooked]
  | change id offset =>
      rcases change_cases hconsistent id offset with
        ⟨refusal, -, hrefused⟩ | ⟨booking, timetable, -, -, -, -, hchanged⟩
      · simp [step, hrefused]
      · simp [step, hchanged]
  | resetDay name day =>
      rcases resetDay_cases hconsistent name day with
        ⟨refusal, -, hrefused⟩ | ⟨removed, ledger, hreset, -⟩
      · simp [step, hrefused]
      · simp [step, hreset]
  | queryDay name day =>
      rcases queryDay_cases desk name day with
        ⟨refusal, -, hrefused⟩ | ⟨ledger, free, -, -, hqueried⟩
      · simp [step, hrefused]
      · simp [step, hqueried]
  | incrementUsage name =>
      rcases incrementUsage_cases desk name with
        ⟨refusal, -, hrefused⟩ | ⟨ledger, -, hcounted⟩
      · simp [step, hrefused, refusal?]
      · simp only [step, hcounted, refusal?, Action.incrementUsage.injEq, and_true,
          Std.ExtTreeMap.getElem?_insert, Std.LawfulEqCmp.compare_eq_iff_eq]
        split
        · next hsame => rw [hsame]
        · rfl

/-! ## Runs -/

/-- Only so many facilities are open, each under a name that a facility may have, and uses
are counted of open facilities only. -/
structure Orderly (desk : Desk) : Prop where
  nameable : ∀ facility ∈ desk.ledger.timetables, Ledger.Nameable facility
  few : desk.ledger.timetables.size ≤ Limits.facilities
  counted : ∀ facility ∈ desk.usage, facility ∈ desk.ledger.timetables

theorem orderly_empty : empty.Orderly where
  nameable facility hopen := by simp [empty, Ledger.empty] at hopen
  few := by simp [empty, Ledger.empty]
  counted facility hcounted := by simp [empty] at hcounted

/-- An open facility stays open. -/
theorem mem_step_of_mem (hconsistent : desk.ledger.Consistent)
    (hopen : facility ∈ desk.ledger.timetables) (action : Action) :
    facility ∈ (desk.step action).2.ledger.timetables := by
  rcases step_cases hconsistent action with ⟨refusal, -, hrefused⟩ | ⟨hdone, -⟩
  · rw [hrefused]
    exact hopen
  · obtain ⟨opened, hrefilled, hopened⟩ := step_opens hconsistent hdone
    rw [hrefilled.mem_iff]
    cases hnamed : action.facility? with
    | none =>
        rw [hnamed] at hopened
        exact hopened ▸ hopen
    | some name =>
        rw [hnamed] at hopened
        exact (Ledger.mem_ensure_iff hopened).mpr (.inr hopen)

theorem step_orderly (hconsistent : desk.ledger.Consistent) (horderly : desk.Orderly)
    (action : Action) : (desk.step action).2.Orderly := by
  rcases step_cases hconsistent action with ⟨refusal, -, hrefused⟩ | ⟨hdone, -⟩
  · rw [hrefused]
    exact horderly
  obtain ⟨opened, hrefilled, hopened⟩ := step_opens hconsistent hdone
  refine ⟨fun facility hfacility => ?_, ?_, fun facility hcounted => ?_⟩
  · rw [hrefilled.mem_iff] at hfacility
    cases hnamed : action.facility? with
    | none =>
        rw [hnamed] at hopened
        exact horderly.nameable facility (hopened ▸ hfacility)
    | some name =>
        rw [hnamed] at hopened
        rcases (Ledger.mem_ensure_iff hopened).mp hfacility with rfl | hbefore
        · exact (Ledger.ensure_eq_ok_iff.mp hopened).1
        · exact horderly.nameable facility hbefore
  · rw [hrefilled.size_eq]
    cases hnamed : action.facility? with
    | none =>
        rw [hnamed] at hopened
        exact hopened ▸ horderly.few
    | some name =>
        rw [hnamed] at hopened
        exact Ledger.size_ensure_le hopened horderly.few
  · rw [Std.ExtTreeMap.mem_iff_isSome_getElem?, usage_step hconsistent] at hcounted
    split at hcounted
    · next hcount => exact mem_of_step hconsistent (congrArg Action.facility? hcount.1) hcount.2
    · rw [← Std.ExtTreeMap.mem_iff_isSome_getElem?] at hcounted
      exact mem_step_of_mem hconsistent (horderly.counted facility hcounted) action

theorem run_orderly (actions : List Action) : (empty.run actions).Orderly := by
  -- Consistency comes along, as each step needs it.
  suffices h : ∀ desk : Desk, desk.ledger.Consistent → desk.Orderly →
      (desk.run actions).Orderly from h empty Ledger.consistent_empty orderly_empty
  induction actions with
  | nil => exact fun _ _ horderly => horderly
  | cons action rest ih =>
      exact fun desk hconsistent horderly =>
        ih _ (step_consistent hconsistent action) (step_orderly hconsistent horderly action)

theorem mem_run_of_mem (hconsistent : desk.ledger.Consistent)
    (hopen : facility ∈ desk.ledger.timetables) (actions : List Action) :
    facility ∈ (desk.run actions).ledger.timetables := by
  induction actions generalizing desk with
  | nil => exact hopen
  | cons action rest ih =>
      exact ih (step_consistent hconsistent action) (mem_step_of_mem hconsistent hopen action)

end Desk

end FacilityBooking
