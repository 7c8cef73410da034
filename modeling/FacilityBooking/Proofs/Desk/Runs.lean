import FacilityBooking.Proofs.Desk.Operations
import Mathlib.Data.List.Nodup

/-!
# Runs of the desk

Whatever is asked of a desk that starts empty, its ledger stays consistent: the
bookings lie inside the week, those of one facility stand apart and in order, and
the timetables and the numbered bookings tell the same.
-/

namespace FacilityBooking

/-- What can be asked of the desk. -/
inductive Action where
  | book (facility user : String) (start stop : WeekTime)
  | change (booking : BookingId) (offset : Int)
  | resetDay (facility : String) (day : Day)
  | queryDay (facility : String) (day : Day)
  | incrementUsage (facility : String)
  deriving DecidableEq, Repr

namespace Desk

/-- Why an operation was refused, if it was. -/
def refusal? {α : Type} : Except Refusal α → Option Refusal
  | .error refusal => some refusal
  | .ok _ => none

theorem refusal?_eq_some_iff {α : Type} {outcome : Except Refusal α} {refusal : Refusal} :
    refusal? outcome = some refusal ↔ outcome = .error refusal := by
  cases outcome <;> simp [refusal?]

theorem refusal?_eq_none_iff {α : Type} {outcome : Except Refusal α} :
    refusal? outcome = none ↔ ∃ result, outcome = .ok result := by
  cases outcome <;> simp [refusal?]

/-- Why an action is refused, if it is, and the desk afterwards. -/
def step (desk : Desk) : Action → Option Refusal × Desk
  | .book facility user start stop =>
      let (outcome, desk) := desk.book facility user start stop
      (refusal? outcome, desk)
  | .change booking offset =>
      let (outcome, desk) := desk.change booking offset
      (refusal? outcome, desk)
  | .resetDay facility day =>
      let (outcome, desk) := desk.resetDay facility day
      (refusal? outcome, desk)
  | .queryDay facility day =>
      let (outcome, desk) := desk.queryDay facility day
      (refusal? outcome, desk)
  | .incrementUsage facility =>
      let (outcome, desk) := desk.incrementUsage facility
      (refusal? outcome, desk)

/-- The desk after some actions, whether they were refused or not. -/
def run (desk : Desk) (actions : List Action) : Desk :=
  actions.foldl (fun desk action => (desk.step action).2) desk

variable {desk : Desk}

/-- A refused action is refused for an ordinary reason and changes nothing, and every other
one keeps the ledger consistent. -/
theorem step_cases (hconsistent : desk.ledger.Consistent) (action : Action) :
    (∃ refusal, refusal.Ordinary ∧ desk.step action = (some refusal, desk)) ∨
      (desk.step action).1 = none ∧ (desk.step action).2.ledger.Consistent := by
  cases action with
  | book facility user start stop =>
      rcases book_cases hconsistent facility user start stop with
        ⟨refusal, hordinary, hrefused⟩ | ⟨ledger, hensure, hinside, hfree, hbooked⟩
      · exact .inl ⟨refusal, hordinary, by rw [step, hrefused]; rfl⟩
      · apply Or.inr
        rw [step, hbooked]
        refine ⟨rfl, (hconsistent.ensure hensure).added ?_ (Ledger.getD_slots _ _) hinside ?_⟩
        · exact (Ledger.nextId_ensure hensure).symm
        · rw [Ledger.slotsOf_ensure hensure]
          exact hfree
  | change booking offset =>
      rcases change_cases hconsistent booking offset with
        ⟨refusal, hordinary, hrefused⟩ |
        ⟨found, timetable, hfound, htimetable, hinside, hfree, hchanged⟩
      · exact .inl ⟨refusal, hordinary, by rw [step, hrefused]; rfl⟩
      · apply Or.inr
        rw [step, hchanged]
        exact ⟨rfl, hconsistent.moved hfound htimetable hinside hfree⟩
  | resetDay facility day =>
      rcases resetDay_cases hconsistent facility day with
        ⟨refusal, hordinary, hrefused⟩ | ⟨removed, ledger, hreset, hledger⟩
      · exact .inl ⟨refusal, hordinary, by rw [step, hrefused]; rfl⟩
      · apply Or.inr
        rw [step, hreset]
        exact ⟨rfl, hledger⟩
  | queryDay facility day =>
      rcases queryDay_cases desk facility day with
        ⟨refusal, hordinary, hrefused⟩ | ⟨ledger, free, hensure, -, hqueried⟩
      · exact .inl ⟨refusal, hordinary, by rw [step, hrefused]; rfl⟩
      · apply Or.inr
        rw [step, hqueried]
        exact ⟨rfl, hconsistent.ensure hensure⟩
  | incrementUsage facility =>
      rcases incrementUsage_cases desk facility with
        ⟨refusal, hordinary, hrefused⟩ | ⟨ledger, hensure, hcounted⟩
      · exact .inl ⟨refusal, hordinary, by rw [step, hrefused]; rfl⟩
      · apply Or.inr
        rw [step, hcounted]
        exact ⟨rfl, hconsistent.ensure hensure⟩

theorem step_consistent (hconsistent : desk.ledger.Consistent) (action : Action) :
    (desk.step action).2.ledger.Consistent := by
  rcases step_cases hconsistent action with ⟨refusal, -, hrefused⟩ | ⟨-, hstep⟩
  · rw [hrefused]
    exact hconsistent
  · exact hstep

theorem run_consistent (hconsistent : desk.ledger.Consistent) (actions : List Action) :
    (desk.run actions).ledger.Consistent := by
  induction actions generalizing desk with
  | nil => exact hconsistent
  | cons action rest ih => exact ih (step_consistent hconsistent action)

/-- After any actions on an empty desk all bookings lie inside the week; the slots of a
facility start one after the other, and no two of them overlap; and a slot stands on
the timetable of a facility, once, exactly if the booking of its number has its span
and that facility. -/
theorem bookings_match_timetables (actions : List Action) :
    (∀ (id : BookingId) (booking : Booking),
      (empty.run actions).ledger.bookings[id]? = some booking →
        0 ≤ booking.span.start ∧ booking.span.start < booking.span.stop ∧
          booking.span.stop ≤ 10079) ∧
    (∀ facility, ((empty.run actions).ledger.slotsOf facility).Pairwise fun earlier later =>
      earlier.span.start < later.span.start ∧
        min earlier.span.stop later.span.stop ≤ max earlier.span.start later.span.start) ∧
    (∀ facility span id,
      (⟨span, id⟩ ∈ (empty.run actions).ledger.slotsOf facility ↔
        ((empty.run actions).ledger.slotsOf facility).count ⟨span, id⟩ = 1) ∧
      (⟨span, id⟩ ∈ (empty.run actions).ledger.slotsOf facility ↔
        ∃ booking, (empty.run actions).ledger.bookings[id]? = some booking ∧
          booking.id = id ∧ booking.span = span ∧ booking.facility = facility)) ∧
    (∀ facility, ((empty.run actions).ledger.slotsOf facility).Pairwise fun first second =>
      first.booking ≠ second.booking) := by
  have hconsistent : (empty.run actions).ledger.Consistent :=
    run_consistent Ledger.consistent_empty actions
  refine ⟨?_, ?_, ?_, hconsistent.bookings_distinct⟩
  · intro id booking hbooking
    obtain ⟨hstart, hlt, hstop⟩ := hconsistent.span_inWeek hbooking
    exact ⟨hstart, hlt, Int.le_of_lt_add_one hstop⟩
  · intro facility
    have htidy := hconsistent.tidy facility
    apply (htidy.increasing.and htidy.disjoint).imp
    rintro earlier later ⟨hlt, hdisjoint⟩
    refine ⟨hlt, ?_⟩
    simp only [Span.overlaps, decide_eq_true_eq] at hdisjoint
    omega
  · intro facility span id
    have hnodup := (hconsistent.tidy facility).nodup
    refine ⟨⟨List.nodup_iff_count_eq_one.mp hnodup _, fun hcount => ?_⟩, ?_⟩
    · exact List.count_pos_iff.mp (hcount ▸ Nat.one_pos)
    · rw [hconsistent.listed facility ⟨span, id⟩]
      constructor
      · rintro ⟨booking, hbooking, hspan, hfacility⟩
        exact ⟨booking, hbooking, hconsistent.numbered id booking hbooking, hspan, hfacility⟩
      · rintro ⟨booking, hbooking, -, hspan, hfacility⟩
        exact ⟨booking, hbooking, hspan, hfacility⟩

end Desk

end FacilityBooking
