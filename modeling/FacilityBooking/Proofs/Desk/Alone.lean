import FacilityBooking.Proofs.Desk.Excerpt
import FacilityBooking.Proofs.Desk.Turns

/-!
# A desk of one facility

Of two desks the second one knows one facility only, and that as the first one does but for
the numbers of its bookings. An action that concerns the facility comes to the same at both
and keeps them so.
-/

namespace FacilityBooking

/-! ## Other numbers -/

def Shift.renumbered (rank : BookingId → BookingId) (shift : Shift) : Shift :=
  { shift with booking := rank shift.booking }

def Report.renumbered (rank : BookingId → BookingId) : Report → Report
  | booked id => booked (rank id)
  | moved shift => moved (shift.renumbered rank)
  | removed bookings => removed (bookings.map (Booking.renumbered rank))
  | report => report

def Action.renumbered (rank : BookingId → BookingId) : Action → Action
  | change booking offset => change (rank booking) offset
  | action => action

/-- A result with other numbers, whether it is a report or a refusal. -/
def renumberedResult (rank : BookingId → BookingId) :
    Except Refusal Report → Except Refusal Report
  | .ok report => .ok (report.renumbered rank)
  | .error refusal => .error (refusal.renumbered rank)

namespace Desk

/-- The checks of a booking do not depend on the desk, and their refusals name no booking. -/
theorem book_checked (rank : BookingId → BookingId) (facility user : String)
    (start stop : WeekTime) :
    (checkUser user = .ok () ∧ checkSpan ⟨start.toMinute, stop.toMinute⟩ = .ok ()) ∨
      ∃ refusal : Refusal, refusal.renumbered rank = refusal ∧
        ∀ desk : Desk, desk.book facility user start stop = (.error refusal, desk) := by
  rcases checkUser_cases user with ⟨-, huser⟩ | ⟨-, huser⟩ | ⟨-, huser⟩
  · exact .inr ⟨_, rfl, fun desk => by rw [book, huser]; rfl⟩
  · exact .inr ⟨_, rfl, fun desk => by rw [book, huser]; rfl⟩
  rcases checkSpan_cases ⟨start.toMinute, stop.toMinute⟩ with
    ⟨-, hspan⟩ | ⟨-, -, hspan⟩ | ⟨-, hspan⟩
  · exact .inr ⟨_, rfl, fun desk => by simp only [book, huser, hspan]; rfl⟩
  · exact .inr ⟨_, rfl, fun desk => by simp only [book, huser, hspan]; rfl⟩
  · exact .inl ⟨huser, hspan⟩

/-- Two desks of which the second one knows one facility only, and that as the first one
does but for the numbers of its bookings. -/
structure Alone (rank : BookingId → BookingId) (facility : String) (full alone : Desk) :
    Prop where
  excerpt : full.ledger.Excerpt rank facility alone.ledger
  full_consistent : full.ledger.Consistent
  consistent : alone.ledger.Consistent
  usage : alone.usageOf facility = full.usageOf facility

/-- An action comes to the same at both desks and leaves them what they are to each other. -/
structure Alike (rank : BookingId → BookingId) (facility : String) (full alone : Desk)
    (action : Action) : Prop where
  result : alone.result (action.renumbered rank) = renumberedResult rank (full.result action)
  excerpt : (full.step action).2.ledger.Excerpt rank facility
    (alone.step (action.renumbered rank)).2.ledger
  usage : (alone.step (action.renumbered rank)).2.usageOf facility =
    (full.step action).2.usageOf facility

namespace Alone

variable {rank : BookingId → BookingId} {facility : String} {full alone : Desk}

/-- An action that both desks refuse for the same reason. -/
theorem refused (halone : Alone rank facility full alone) {action : Action} {refusal : Refusal}
    (hresult : full.result action = .error refusal)
    (hresultAlone : alone.result (action.renumbered rank) = .error (refusal.renumbered rank)) :
    Alike rank facility full alone action where
  result := by rw [hresult, hresultAlone]; rfl
  excerpt := by
    rw [step_of_refused halone.full_consistent hresult,
      step_of_refused halone.consistent hresultAlone]
    exact halone.excerpt
  usage := by
    rw [step_of_refused halone.full_consistent hresult,
      step_of_refused halone.consistent hresultAlone]
    exact halone.usage

/-- An action that names the facility: unless both desks refuse to open the facility for the
same reason, both open it. -/
theorem opened (halone : Alone rank facility full alone) {action : Action}
    (hsame : action.renumbered rank = action)
    (hunopened : ∀ (desk : Desk) (refusal : Refusal),
      desk.ledger.ensure facility = .error refusal → desk.result action = .error refusal)
    (hroom : full.result action ≠ .error (.limitExceeded .facilities)) :
    Alike rank facility full alone action ∨
      ∃ opened openedAlone, full.ledger.ensure facility = .ok opened ∧
        alone.ledger.ensure facility = .ok openedAlone ∧
        Ledger.Excerpt rank facility opened openedAlone := by
  rcases halone.excerpt.ensure with hfull | ⟨refusal, hensure, hensureAlone⟩ | hopened
  · exact absurd (hunopened full _ hfull) hroom
  · refine .inl (halone.refused (hunopened full refusal hensure) ?_)
    rw [hsame]
    exact hunopened alone _ hensureAlone
  · exact .inr hopened

theorem incrementUsage (halone : Alone rank facility full alone)
    (hroom : full.result (.incrementUsage facility) ≠ .error (.limitExceeded .facilities)) :
    Alike rank facility full alone (.incrementUsage facility) := by
  rcases halone.opened rfl (fun desk refusal hensure => by
      simp only [result, Desk.incrementUsage, hensure, Except.map]) hroom with
    halike | ⟨opened, openedAlone, hensure, hensureAlone, hopened⟩
  · exact halike
  constructor
  · simp only [Action.renumbered, result, Desk.incrementUsage, hensure, hensureAlone, halone.usage]
    rfl
  · simp only [Action.renumbered, step, Desk.incrementUsage, hensure, hensureAlone]
    exact hopened
  · simp only [Action.renumbered, step, Desk.incrementUsage, hensure, hensureAlone, halone.usage]
    simp only [usageOf, Std.ExtTreeMap.getD_insert_self]

theorem queryDay (halone : Alone rank facility full alone) (day : Day)
    (hroom : full.result (.queryDay facility day) ≠ .error (.limitExceeded .facilities)) :
    Alike rank facility full alone (.queryDay facility day) := by
  rcases halone.opened rfl (fun desk refusal hensure => by
      simp only [result, Desk.queryDay, hensure, Except.map]) hroom with
    halike | ⟨opened, openedAlone, hensure, hensureAlone, hopened⟩
  · exact halike
  have hfree : freeOn { alone with ledger := openedAlone } facility day =
      freeOn { full with ledger := opened } facility day := by
    simp only [freeOn, hopened.timetable, Availability.freeSpans_renumbered]
  obtain ⟨free, hfreeOn, -⟩ := freeOn_eq_ok { full with ledger := opened } facility day
  constructor
  · simp only [Action.renumbered, result, Desk.queryDay, hensure, hensureAlone, hfree, hfreeOn]
    rfl
  · simp only [Action.renumbered, step, Desk.queryDay, hensure, hensureAlone]
    exact hopened
  · simp only [Action.renumbered, step, Desk.queryDay, hensure, hensureAlone]
    exact halone.usage

theorem resetDay (halone : Alone rank facility full alone) (day : Day)
    (hroom : full.result (.resetDay facility day) ≠ .error (.limitExceeded .facilities)) :
    Alike rank facility full alone (.resetDay facility day) := by
  rcases halone.opened rfl (fun desk refusal hensure => by
      simp only [result, Desk.resetDay, hensure, Except.map]) hroom with
    halike | ⟨opened, openedAlone, hensure, hensureAlone, hopened⟩
  · exact halike
  have hconsistent := halone.full_consistent.ensure hensure
  have hdoomed : ((opened.slotsOf facility).filter fun slot =>
      decide (Day.ofMinute? slot.span.start = some day)).Sublist (opened.slotsOf facility) :=
    List.filter_sublist
  -- Other numbers leave the spans as they are, so the same slots go on both sides.
  have hids : ((openedAlone.slotsOf facility).filter fun slot =>
        decide (Day.ofMinute? slot.span.start = some day)).map (·.booking) =
      (((opened.slotsOf facility).filter fun slot =>
        decide (Day.ofMinute? slot.span.start = some day)).map (·.booking)).map rank := by
    rw [hopened.slotsOf_eq, List.filter_map, List.map_map, List.map_map]
    rfl
  obtain ⟨removed, after, afterAlone, hremoved, hremovedAlone, hafter⟩ :=
    hopened.removeAll hconsistent
      (List.pairwise_map.mpr ((hconsistent.bookings_distinct facility).sublist hdoomed))
      fun id hid => by
        obtain ⟨slot, hslot, rfl⟩ := List.mem_map.mp hid
        obtain ⟨booking, hbooking, -, hfacility⟩ :=
          (hconsistent.listed facility slot).mp (hdoomed.subset hslot)
        exact ⟨booking, hbooking, hfacility⟩
  constructor
  · simp only [Action.renumbered, result, Desk.resetDay, hensure, hensureAlone, hids, hremoved,
      hremovedAlone]
    rfl
  · simp only [Action.renumbered, step, Desk.resetDay, hensure, hensureAlone, hids, hremoved,
      hremovedAlone]
    exact hafter
  · simp only [Action.renumbered, step, Desk.resetDay, hensure, hensureAlone]
    exact halone.usage

/-- A booking on the facility gets the number that the next number of the first desk stands
for. -/
theorem book (halone : Alone rank facility full alone) (user : String) (start stop : WeekTime)
    (hroom : full.result (.book facility user start stop) ≠
      .error (.limitExceeded .facilities))
    (hrank : ∀ id, full.issued? (.book facility user start stop) = some id →
      rank id = alone.ledger.nextId) :
    Alike rank facility full alone (.book facility user start stop) := by
  rcases book_checked rank facility user start stop with ⟨huser, hspan⟩ |
    ⟨refusal, hsame, hchecked⟩
  · rcases halone.opened rfl (fun desk refusal hensure => by
        simp only [result, Desk.book, huser, hspan, hensure]; rfl) hroom with
      halike | ⟨opened, openedAlone, hensure, hensureAlone, hopened⟩
    · exact halike
    have hbook := book_of_ensure halone.full_consistent huser hspan hensure
    have hbookAlone := book_of_ensure halone.consistent huser hspan hensureAlone
    have hconflicts := @Timetable.firstConflict?_renumbered rank
      (opened.timetables.getD facility ⟨facility, []⟩) ⟨start.toMinute, stop.toMinute⟩ none
      fun _ _ id hid => absurd hid.symm (Option.some_ne_none id)
    rw [← hopened.getD_eq, Option.map_none] at hconflicts
    rw [hconflicts] at hbookAlone
    cases hconflict : (opened.timetables.getD facility ⟨facility, []⟩).firstConflict?
        ⟨start.toMinute, stop.toMinute⟩ none with
    | some other =>
        rw [hconflict] at hbook hbookAlone
        apply halone.refused
        · rw [result, hbook]
          rfl
        · simp only [Action.renumbered, result, hbookAlone]
          rfl
    | none =>
        rw [hconflict] at hbook hbookAlone
        have hnext : rank opened.nextId = openedAlone.nextId := by
          rw [Ledger.nextId_ensure hensureAlone]
          exact hrank _ (by rw [issued?, hbook]; rfl)
        constructor
        · simp only [Action.renumbered, result, hbook, hbookAlone]
          exact congrArg (fun id => Except.ok (Report.booked id)) hnext.symm
        · simp only [Action.renumbered, step, hbook, hbookAlone]
          exact hopened.added (halone.consistent.ensure hensureAlone) hnext
        · simp only [Action.renumbered, step, hbook, hbookAlone]
          exact halone.usage
  · apply halone.refused
    · rw [result, hchecked]
      rfl
    · simp only [Action.renumbered, result, hchecked, hsame]
      rfl

/-- A change of a booking of the facility. -/
theorem change (halone : Alone rank facility full alone) {id : BookingId} {booking : Booking}
    (hbooking : full.ledger.bookings[id]? = some booking) (hfacility : booking.facility = facility)
    (offset : Int) : Alike rank facility full alone (.change id offset) := by
  subst hfacility
  obtain ⟨timetable, htimetable⟩ := halone.full_consistent.timetable_of_booking hbooking
  have hbookingAlone := halone.excerpt.booked id booking hbooking rfl
  have htimetableAlone : alone.ledger.timetables[(booking.renumbered rank).facility]? =
      some (timetable.renumbered rank) := by
    rw [Booking.renumbered, halone.excerpt.timetable, htimetable]
    rfl
  have hapart := halone.excerpt.apart halone.full_consistent hbooking rfl
  rw [Ledger.slotsOf_of_getElem? htimetable] at hapart
  have hconflicts (span : Span) : (timetable.renumbered rank).firstConflict? span (some (rank id)) =
      (timetable.firstConflict? span (some id)).map rank :=
    @Timetable.firstConflict?_renumbered rank timetable span (some id)
      fun slot hslot other hother => Option.some.inj hother ▸ hapart slot hslot
  have hchange := change_of_booking hbooking htimetable offset
  have hchangeAlone := change_of_booking hbookingAlone htimetableAlone offset
  simp only [Booking.renumbered, hconflicts] at hchangeAlone
  by_cases houtside : booking.span.start + offset < 0 ∨
      minutesPerWeek ≤ booking.span.stop + offset
  · rw [if_pos houtside] at hchange hchangeAlone
    apply halone.refused
    · rw [result, hchange]
      rfl
    · rw [Action.renumbered, result, hchangeAlone]
      rfl
  rw [if_neg houtside] at hchange hchangeAlone
  cases hconflict : timetable.firstConflict?
      ⟨booking.span.start + offset, booking.span.stop + offset⟩ (some id) with
  | some other =>
      rw [hconflict] at hchange hchangeAlone
      apply halone.refused
      · rw [result, hchange]
        rfl
      · rw [Action.renumbered, result, hchangeAlone]
        rfl
  | none =>
      rw [hconflict] at hchange hchangeAlone
      constructor
      · rw [Action.renumbered, result, result, hchange, hchangeAlone]
        rfl
      · simp only [Action.renumbered, step, hchange, hchangeAlone]
        exact halone.excerpt.moved halone.full_consistent hbooking rfl htimetable _
      · simp only [Action.renumbered, step, hchange, hchangeAlone]
        exact halone.usage

/-- Whatever concerns the facility comes to the same at both desks. -/
theorem own (halone : Alone rank facility full alone) {action : Action}
    (hconcerns : Turn.concerns ⟨full, action⟩ facility = true)
    (hroom : full.result action ≠ .error (.limitExceeded .facilities))
    (hrank : ∀ id, full.issued? action = some id → rank id = alone.ledger.nextId) :
    Alike rank facility full alone action := by
  cases action with
  | book name user start stop =>
      obtain rfl : name = facility := of_decide_eq_true hconcerns
      exact halone.book user start stop hroom hrank
  | change id offset =>
      obtain ⟨booking, hbooking, hfacility⟩ := (Option.any_eq_true _ _).mp hconcerns
      exact halone.change hbooking (of_decide_eq_true hfacility) offset
  | resetDay name day =>
      obtain rfl : name = facility := of_decide_eq_true hconcerns
      exact halone.resetDay day hroom
  | queryDay name day =>
      obtain rfl : name = facility := of_decide_eq_true hconcerns
      exact halone.queryDay day hroom
  | incrementUsage name =>
      obtain rfl : name = facility := of_decide_eq_true hconcerns
      exact halone.incrementUsage hroom

end Alone

end Desk

end FacilityBooking
