import FacilityBooking.Proofs.Desk.Numbers

/-!
# Turns at the desk

In its turn an action comes to a report or a refusal. A turn concerns the facility that
the action names, or that has the booking it names; and a facility gets some of the numbers
that are given out, in their order.
-/

namespace FacilityBooking

/-- What is reported of an action that is carried out. -/
inductive Report where
  | booked (id : BookingId)
  | moved (shift : Shift)
  | removed (bookings : List Booking)
  | free (intervals : List Interval)
  | counted (count : Nat)
  deriving DecidableEq, Repr

/-- What an action comes to at a desk. -/
def Desk.result (desk : Desk) : Action → Except Refusal Report
  | .book facility user start stop => (desk.book facility user start stop).1.map .booked
  | .change booking offset => (desk.change booking offset).1.map .moved
  | .resetDay facility day => (desk.resetDay facility day).1.map .removed
  | .queryDay facility day => (desk.queryDay facility day).1.map .free
  | .incrementUsage facility => (desk.incrementUsage facility).1.map .counted

/-- An action, and the desk as it is when the action is asked of it. -/
structure Turn where
  desk : Desk
  action : Action

namespace Turn

def result (turn : Turn) : Except Refusal Report :=
  turn.desk.result turn.action

/-- The number of the booking that is made in the turn. -/
def issued? (turn : Turn) : Option BookingId :=
  turn.desk.issued? turn.action

/-- The action names the facility, or a booking that the facility has. -/
def concerns (turn : Turn) (facility : String) : Bool :=
  match turn.action with
  | .book name .. => name = facility
  | .change id _ => turn.desk.ledger.bookings[id]?.any fun booking => booking.facility = facility
  | .resetDay name _ => name = facility
  | .queryDay name _ => name = facility
  | .incrementUsage name => name = facility

end Turn

namespace Desk

def turns (desk : Desk) : List Action → List Turn
  | [] => []
  | action :: rest => ⟨desk, action⟩ :: (desk.step action).2.turns rest

/-- The turns that concern a facility. -/
def turnsOf (desk : Desk) (facility : String) (actions : List Action) : List Turn :=
  (desk.turns actions).filter fun turn => turn.concerns facility

/-- The numbers of the bookings that are made on a facility, in order. -/
def numbersOf (desk : Desk) (facility : String) (actions : List Action) : List BookingId :=
  (desk.turnsOf facility actions).filterMap Turn.issued?

/-! ## Results -/

theorem step_refusal (desk : Desk) (action : Action) :
    (desk.step action).1 = refusal? (desk.result action) := by
  have hmap {α : Type} (outcome : Except Refusal α) (named : α → Report) :
      refusal? outcome = refusal? (outcome.map named) := by
    cases outcome <;> rfl
  cases action <;> exact hmap ..

theorem issued?_eq_result (desk : Desk) (action : Action) :
    desk.issued? action = match desk.result action with
      | .ok (.booked id) => some id
      | _ => none := by
  unfold issued? result
  cases action with
  | book facility user start stop =>
      dsimp only
      cases (desk.book facility user start stop).1 <;> rfl
  | change id offset =>
      dsimp only
      cases (desk.change id offset).1 <;> rfl
  | resetDay facility day =>
      dsimp only
      cases (desk.resetDay facility day).1 <;> rfl
  | queryDay facility day =>
      dsimp only
      cases (desk.queryDay facility day).1 <;> rfl
  | incrementUsage facility =>
      dsimp only
      cases (desk.incrementUsage facility).1 <;> rfl

/-- A refused action leaves the desk as it is. -/
theorem step_of_refused {desk : Desk} {action : Action} {refusal : Refusal}
    (hconsistent : desk.ledger.Consistent) (hresult : desk.result action = .error refusal) :
    (desk.step action).2 = desk := by
  rcases step_cases hconsistent action with ⟨cause, -, hrefused⟩ | ⟨hdone, -⟩
  · rw [hrefused]
  · rw [step_refusal, hresult] at hdone
    cases hdone

/-! ## Operations, one equation each -/

/-- A booking that passes the checks on a facility that is open is refused for a conflict,
or it gets the next number. -/
theorem book_of_ensure {desk : Desk} {ledger : Ledger} {facility user : String}
    {start stop : WeekTime} (hconsistent : desk.ledger.Consistent)
    (huser : checkUser user = .ok ())
    (hspan : checkSpan ⟨start.toMinute, stop.toMinute⟩ = .ok ())
    (hensure : desk.ledger.ensure facility = .ok ledger) :
    desk.book facility user start stop =
      match (ledger.timetables.getD facility ⟨facility, []⟩).firstConflict?
          ⟨start.toMinute, stop.toMinute⟩ none with
      | some other => (.error (.conflict other), { desk with ledger })
      | none => (.ok ledger.nextId, { desk with
          ledger := ledger.added (ledger.timetables.getD facility ⟨facility, []⟩)
            ⟨ledger.nextId, facility, user, ⟨start.toMinute, stop.toMinute⟩⟩ }) := by
  have hroom : (ledger.slotsOf facility).length < Limits.bookingsPerFacility :=
    ((hconsistent.ensure hensure).tidy facility).length_lt
  have hinsert : ledger.allocate.2.insert
      ⟨ledger.nextId, facility, user, ⟨start.toMinute, stop.toMinute⟩⟩ = _ :=
    Ledger.insert_allocated hensure hroom
  simp only [book, huser, hspan, hensure, SeqRight.seqRight, Except.bind]
  cases hconflict : (ledger.timetables.getD facility ⟨facility, []⟩).firstConflict?
      ⟨start.toMinute, stop.toMinute⟩ none with
  | some other => rfl
  | none =>
      dsimp only [Ledger.allocate] at hinsert ⊢
      rw [hinsert]

/-- A booking that is there leaves the week, or meets a conflict, or moves. -/
theorem change_of_booking {desk : Desk} {id : BookingId} {booking : Booking}
    {timetable : Timetable} (hbooking : desk.ledger.bookings[id]? = some booking)
    (htimetable : desk.ledger.timetables[booking.facility]? = some timetable) (offset : Int) :
    desk.change id offset =
      if booking.span.start + offset < 0 ∨ minutesPerWeek ≤ booking.span.stop + offset then
        (.error (.outsideWeek (clampMinute (booking.span.start + offset))
          (clampMinute (booking.span.stop + offset))), desk)
      else
        match timetable.firstConflict? ⟨booking.span.start + offset, booking.span.stop + offset⟩
            (some id) with
        | some other => (.error (.conflict other), desk)
        | none => (.ok ⟨id, booking.facility, booking.span,
            ⟨booking.span.start + offset, booking.span.stop + offset⟩⟩, { desk with
          ledger := desk.ledger.moved timetable booking id
            ⟨booking.span.start + offset, booking.span.stop + offset⟩ }) := by
  rw [change, hbooking]
  dsimp only
  split
  · rfl
  · rw [htimetable]
    dsimp only
    cases timetable.firstConflict? _ (some id) with
    | some other => rfl
    | none => simp only [Ledger.move_eq hbooking htimetable]

/-! ## The turns of one facility -/

theorem turnsOf_own {desk : Desk} {facility : String} {action : Action}
    (hconcerns : Turn.concerns ⟨desk, action⟩ facility = true) (rest : List Action) :
    desk.turnsOf facility (action :: rest) =
      ⟨desk, action⟩ :: (desk.step action).2.turnsOf facility rest :=
  List.filter_cons_of_pos hconcerns

theorem turnsOf_other {desk : Desk} {facility : String} {action : Action}
    (hother : ¬ Turn.concerns ⟨desk, action⟩ facility = true) (rest : List Action) :
    desk.turnsOf facility (action :: rest) = (desk.step action).2.turnsOf facility rest :=
  List.filter_cons_of_neg hother

theorem numbersOf_own {desk : Desk} {facility : String} {action : Action}
    (hconcerns : Turn.concerns ⟨desk, action⟩ facility = true) (rest : List Action) :
    desk.numbersOf facility (action :: rest) =
      (desk.issued? action).toList ++ (desk.step action).2.numbersOf facility rest := by
  rw [numbersOf, turnsOf_own hconcerns, List.filterMap_cons, Turn.issued?]
  cases desk.issued? action <;> rfl

/-! ## The numbers of one facility -/

theorem issued_eq_filterMap (desk : Desk) (actions : List Action) :
    desk.issued actions = (desk.turns actions).filterMap Turn.issued? := by
  induction actions generalizing desk with
  | nil => rfl
  | cons action rest ih =>
      rw [issued, ih, turns, List.filterMap_cons, Turn.issued?]
      cases desk.issued? action <;> rfl

/-- The numbers that a facility gets are some of those that are given out, in their order. -/
theorem numbersOf_increasing {desk : Desk} (hconsistent : desk.ledger.Consistent)
    (facility : String) (actions : List Action) :
    (desk.numbersOf facility actions).Pairwise (· < ·) := by
  have hsublist : (desk.numbersOf facility actions).Sublist (desk.issued actions) := by
    rw [issued_eq_filterMap]
    exact List.filter_sublist.filterMap _
  refine List.Pairwise.sublist hsublist (List.pairwise_iff_getElem.mpr ?_)
  intro first second hfirst hsecond hlt
  have horder := (numbered_run hconsistent actions).inOrder
  rw [horder first _ (List.getElem?_eq_getElem hfirst),
    horder second _ (List.getElem?_eq_getElem hsecond)]
  dsimp only [BookingId]
  omega

end Desk

end FacilityBooking
