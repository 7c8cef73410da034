import FacilityBooking.Proofs.Desk.Bookings
import FacilityBooking.Proofs.Desk.Runs

/-!
# Numbers of bookings

Bookings are numbered from 1 in the order in which they are made, over all facilities. A
refused booking uses up no number, and the number of a booking that was removed is never
given out again.
-/

namespace FacilityBooking

namespace Ledger

variable {ledger after : Ledger}

theorem nextId_remove? {id : BookingId} {booking : Booking}
    (hremoved : ledger.remove? id = some (booking, after)) : after.nextId = ledger.nextId := by
  unfold remove? at hremoved
  split at hremoved
  · cases hremoved
  · cases hremoved
    rfl

theorem nextId_removeAll (ledger : Ledger) (ids : List BookingId) :
    (ledger.removeAll ids).2.nextId = ledger.nextId := by
  induction ids generalizing ledger with
  | nil => rfl
  | cons id rest ih =>
      rw [removeAll]
      cases hremoved : ledger.remove? id with
      | none => rfl
      | some found => exact (ih found.2).trans (nextId_remove? hremoved)

/-- From one ledger to another some bookings got the numbers given, and no number that was
given out before has come back. -/
structure Numbered (before after : Ledger) (issued : List BookingId) : Prop where
  inOrder : ∀ (place : Nat) id, issued[place]? = some id → id = before.nextId + place
  next : after.nextId = before.nextId + issued.length
  gone : ∀ id : BookingId, id < before.nextId → before.bookings[id]? = none →
    after.bookings[id]? = none

namespace Numbered

variable {before middle : Ledger} {first second : List BookingId}

theorem trans (hfirst : Numbered before middle first) (hsecond : Numbered middle after second) :
    Numbered before after (first ++ second) where
  inOrder place id hid := by
    rw [List.getElem?_append] at hid
    split at hid
    · exact hfirst.inOrder place id hid
    · have hplace := hsecond.inOrder _ id hid
      rw [hfirst.next] at hplace
      dsimp only [BookingId] at hplace ⊢
      omega
  next := by
    rw [hsecond.next, hfirst.next, List.length_append, Int.natCast_add, Int.add_assoc]
  gone id hlt hnone := by
    refine hsecond.gone id ?_ (hfirst.gone id hlt hnone)
    rw [hfirst.next]
    exact Int.lt_of_lt_of_le hlt (Int.le_add_of_nonneg_right (Int.natCast_nonneg _))

/-- A ledger whose next number is the same and that has no new booking. -/
theorem of_none (hnext : after.nextId = before.nextId)
    (hgone : ∀ id : BookingId, before.bookings[id]? = none → after.bookings[id]? = none) :
    Numbered before after [] where
  inOrder _ _ hid := nomatch hid
  next := hnext.trans (Int.add_zero _).symm
  gone id _ hnone := hgone id hnone

theorem refl (ledger : Ledger) : Numbered ledger ledger [] :=
  of_none rfl fun _ hnone => hnone

theorem of_ensure {facility : String} (hensure : before.ensure facility = .ok after) :
    Numbered before after [] := by
  refine of_none (nextId_ensure hensure) fun id hnone => ?_
  rw [bookings_ensure hensure, hnone]

/-- The numbers given out go from the next number before up to the next number afterwards. -/
theorem mem_iff (hnumbered : Numbered before after first) {id : BookingId} :
    id ∈ first ↔ before.nextId ≤ id ∧ id < after.nextId := by
  have hnext := hnumbered.next
  constructor
  · intro hid
    obtain ⟨place, hplace, rfl⟩ := List.mem_iff_getElem.mp hid
    rw [hnumbered.inOrder place _ (List.getElem?_eq_getElem hplace), hnext]
    dsimp only [BookingId]
    omega
  · rintro ⟨hfirst, hlast⟩
    rw [hnext] at hlast
    have hplace : (id - before.nextId).toNat < first.length := by
      dsimp only [BookingId] at hfirst hlast
      omega
    have horder := hnumbered.inOrder _ _ (List.getElem?_eq_getElem hplace)
    rw [Int.toNat_of_nonneg (Int.sub_nonneg_of_le hfirst), Int.add_comm, Int.sub_add_cancel]
      at horder
    exact horder ▸ List.getElem_mem hplace

end Numbered

end Ledger

namespace Desk

variable {desk after : Desk}

/-- The number that an action gives out: that of the booking it makes, if it makes one. -/
def issued? (desk : Desk) : Action → Option BookingId
  | .book facility user start stop => (desk.book facility user start stop).1.toOption
  | _ => none

/-- The numbers of the bookings that some actions make, in the order in which they are made. -/
def issued (desk : Desk) : List Action → List BookingId
  | [] => []
  | action :: rest => (desk.issued? action).toList ++ (desk.step action).2.issued rest

/-- No booking has the number or will ever get it. -/
def Spent (desk : Desk) (id : BookingId) : Prop :=
  ∀ later, id ∉ desk.issued later ∧
    ∀ offset, ((desk.run later).change id offset).1 = .error (.notFound id)

/-! ## One action -/

theorem issued?_of_refused {action : Action} {refusal : Refusal}
    (hrefused : (desk.step action).1 = some refusal) : desk.issued? action = none := by
  cases action with
  | book facility user start stop =>
      rcases hbook : desk.book facility user start stop with ⟨cause | id, after⟩
      · rw [issued?, hbook]
        rfl
      · rw [step, hbook] at hrefused
        cases hrefused
  | _ => rfl

/-- A booking takes the next number. -/
theorem numbered_book (hconsistent : desk.ledger.Consistent) {facility user : String}
    {start stop : WeekTime} {id : BookingId}
    (hbook : desk.book facility user start stop = (.ok id, after)) :
    desk.ledger.Numbered after.ledger [id] := by
  obtain ⟨rfl, hbookings⟩ := book_eq_ok hconsistent hbook
  refine ⟨?_, ?_, ?_⟩
  · intro place id hid
    rw [List.getElem?_singleton] at hid
    split at hid
    · next hplace =>
        cases hid
        rw [hplace]
        exact (Int.add_zero _).symm
    · cases hid
  · rcases book_cases hconsistent facility user start stop with
      ⟨refusal, -, hrefused⟩ | ⟨ledger, hensure, -, -, hbooked⟩
    · rw [hrefused] at hbook
      cases hbook
    · rw [hbooked] at hbook
      cases hbook
      rw [← Ledger.nextId_ensure hensure]
      rfl
  · intro other hlt hnone
    rw [hbookings, if_neg (Int.ne_of_gt hlt), hnone]

theorem nextId_change (hconsistent : desk.ledger.Consistent) (id : BookingId) (offset : Int) :
    (desk.change id offset).2.ledger.nextId = desk.ledger.nextId := by
  rcases change_cases hconsistent id offset with
    ⟨refusal, -, hrefused⟩ | ⟨booking, timetable, -, -, -, -, hchanged⟩
  · rw [hrefused]
  · rw [hchanged]
    rfl

theorem nextId_resetDay (desk : Desk) (facility : String) (day : Day) :
    (desk.resetDay facility day).2.ledger.nextId = desk.ledger.nextId := by
  unfold resetDay
  cases hensure : desk.ledger.ensure facility with
  | error refusal => rfl
  | ok ledger => exact (Ledger.nextId_removeAll ledger _).trans (Ledger.nextId_ensure hensure)

/-- An action gives out the next number or none, and brings back no booking. -/
theorem numbered_step (hconsistent : desk.ledger.Consistent) (action : Action) :
    desk.ledger.Numbered (desk.step action).2.ledger (desk.issued? action).toList := by
  rcases step_cases hconsistent action with ⟨refusal, -, hrefused⟩ | ⟨hdone, -⟩
  · rw [issued?_of_refused (congrArg Prod.fst hrefused), hrefused]
    exact .refl desk.ledger
  cases action with
  | book facility user start stop =>
      rcases hbook : desk.book facility user start stop with ⟨refusal | id, after⟩
      · rw [step, hbook] at hdone
        cases hdone
      · rw [step, issued?, hbook]
        exact numbered_book hconsistent hbook
  | change id offset =>
      have hnext := nextId_change hconsistent id offset
      rcases hchange : desk.change id offset with ⟨refusal | shift, after⟩
      · rw [step, hchange] at hdone
        cases hdone
      · rw [hchange] at hnext
        rw [step, hchange]
        obtain ⟨booking, hbooking, -, -, -, hafter⟩ := change_eq_ok hconsistent hchange
        refine .of_none hnext fun other hnone => ?_
        have hother : id ≠ other := by
          rintro rfl
          rw [hbooking] at hnone
          cases hnone
        rw [hafter, if_neg hother, hnone]
  | resetDay facility day =>
      have hnext := nextId_resetDay desk facility day
      rcases hreset : desk.resetDay facility day with ⟨refusal | removed, after⟩
      · rw [step, hreset] at hdone
        cases hdone
      · rw [hreset] at hnext
        rw [step, hreset]
        refine .of_none hnext fun id hnone => ?_
        rw [(resetDay_eq_ok hconsistent hreset).2, hnone, ite_self]
  | queryDay facility day =>
      rcases queryDay_cases desk facility day with
        ⟨refusal, -, hrefused⟩ | ⟨ledger, free, hensure, -, hqueried⟩
      · rw [step, hrefused] at hdone
        cases hdone
      · rw [step, hqueried]
        exact .of_ensure hensure
  | incrementUsage facility =>
      rcases incrementUsage_cases desk facility with
        ⟨refusal, -, hrefused⟩ | ⟨ledger, hensure, hcounted⟩
      · rw [step, hrefused] at hdone
        cases hdone
      · rw [step, hcounted]
        exact .of_ensure hensure

/-! ## Runs -/

theorem numbered_run (hconsistent : desk.ledger.Consistent) (actions : List Action) :
    desk.ledger.Numbered (desk.run actions).ledger (desk.issued actions) := by
  induction actions generalizing desk with
  | nil => exact .refl desk.ledger
  | cons action rest ih =>
      exact (numbered_step hconsistent action).trans (ih (step_consistent hconsistent action))

/-- A number that was given out and belongs to no booking is spent. -/
theorem spent_of_none (hconsistent : desk.ledger.Consistent) {id : BookingId}
    (hlt : id < desk.ledger.nextId) (hnone : desk.ledger.bookings[id]? = none) :
    desk.Spent id := by
  intro later
  have hnumbered := numbered_run hconsistent later
  constructor
  · intro hissued
    exact absurd hlt (Int.not_lt.mpr (hnumbered.mem_iff.mp hissued).1)
  · intro offset
    rw [change, hnumbered.gone id hlt hnone]

/-- The bookings of a run on an empty desk get the numbers 1, 2, 3 and so on, whatever
their facilities, and as long as they are fewer than 2^63 each number fits into the 64 bits
that it travels in. A refused action changes nothing and is never refused for a full
timetable, since no facility ever has more than 10079 bookings. A number that belongs to
no booking any more, such as that of a booking removed by a reset, is never given out
again, and from then on no booking is found under it. -/
theorem bookings_numbered_in_order (actions : List Action) :
    (∀ (place : Nat) id, (empty.issued actions)[place]? = some id → id = place + 1) ∧
    (empty.run actions).ledger.nextId = (empty.issued actions).length + 1 ∧
    ((empty.issued actions).length < 0x8000000000000000 →
      ∀ id ∈ empty.issued actions, (Int64.ofInt id).toInt = id) ∧
    (∀ action refusal, ((empty.run actions).step action).1 = some refusal →
      ((empty.run actions).step action).2 = empty.run actions ∧
        refusal ≠ .limitExceeded .bookings) ∧
    (∀ facility, ((empty.run actions).ledger.slotsOf facility).length ≤ 10079) ∧
    (∀ id ∈ empty.issued actions, (empty.run actions).ledger.bookings[id]? = none →
      (empty.run actions).Spent id) ∧
    ∀ facility day removed after,
      (empty.run actions).resetDay facility day = (.ok removed, after) →
      ∀ booking ∈ removed, booking.id ∈ empty.issued actions ∧ after.Spent booking.id := by
  have hconsistent : (empty.run actions).ledger.Consistent :=
    run_consistent Ledger.consistent_empty actions
  have hnumbered := @numbered_run empty Ledger.consistent_empty actions
  have horder (place : Nat) (id : BookingId) (hid : (empty.issued actions)[place]? = some id) :
      id = place + 1 := (hnumbered.inOrder place id hid).trans (Int.add_comm ..)
  refine ⟨horder, hnumbered.next.trans (Int.add_comm ..), ?_, ?_, ?_, ?_, ?_⟩
  · intro hfew id hid
    obtain ⟨place, hplace, rfl⟩ := List.mem_iff_getElem.mp hid
    have hid := horder place _ (List.getElem?_eq_getElem hplace)
    rw [hid]
    exact Int64.toInt_ofInt_of_le (by omega) (by omega)
  · intro action refusal hrefusal
    rcases step_cases hconsistent action with ⟨cause, hordinary, hrefused⟩ | ⟨hdone, -⟩
    · rw [hrefused] at hrefusal ⊢
      cases hrefusal
      refine ⟨rfl, ?_⟩
      rintro rfl
      exact hordinary
    · rw [hdone] at hrefusal
      cases hrefusal
  · intro facility
    exact Nat.le_of_lt_succ (hconsistent.tidy facility).length_lt
  · intro id hid hnone
    exact spent_of_none hconsistent (hnumbered.mem_iff.mp hid).2 hnone
  · intro facility day removed after hreset booking hbooking
    obtain ⟨hremoved, hafter⟩ := resetDay_eq_ok hconsistent hreset
    have hthere : booking ∈ (empty.run actions).ledger.bookingsOf facility := by
      rw [hremoved] at hbooking
      exact (List.mem_filter.mp hbooking).1
    have hfound := ((Ledger.mem_bookingsOf_iff hconsistent).mp hthere).1
    have hissued := hconsistent.issued booking.id booking hfound
    have hconsistentAfter : after.ledger.Consistent := by
      have hstep := step_consistent hconsistent (.resetDay facility day)
      rwa [step, hreset] at hstep
    have hnext := nextId_resetDay (empty.run actions) facility day
    rw [hreset] at hnext
    refine ⟨hnumbered.mem_iff.mpr hissued, spent_of_none hconsistentAfter ?_ ?_⟩
    · rw [hnext]
      exact hissued.2
    · rw [hafter, if_pos ⟨booking, hbooking, rfl⟩]

/-- Neither the refused booking of bob nor the removal of the first one changes the count. -/
example :
    empty.issued [.book "LabA" "ann" ⟨.monday, 9, 0⟩ ⟨.monday, 10, 0⟩,
      .book "LabA" "bob" ⟨.monday, 9, 0⟩ ⟨.monday, 10, 0⟩, .resetDay "LabA" .monday,
      .book "LabB" "bob" ⟨.monday, 9, 0⟩ ⟨.monday, 10, 0⟩] = [1, 2] := by
  decide +kernel

end Desk

end FacilityBooking
