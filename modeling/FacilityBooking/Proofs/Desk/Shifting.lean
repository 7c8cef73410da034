import FacilityBooking.Proofs.Desk.Clearing
import FacilityBooking.Proofs.Desk.Moving

/-!
# Shifts of a booking

A desk is known by its bookings, its open facilities and its counts. So a booking is shifted
from one desk to another exactly if the two differ in nothing but where the booking stands,
and shifts can be undone and added up.
-/

namespace FacilityBooking

@[simp]
theorem Span.shifted_zero (span : Span) : span.shifted 0 = span := by
  simp only [shifted, Int.add_zero]

@[simp]
theorem Span.shifted_shifted (span : Span) (first second : Int) :
    (span.shifted first).shifted second = span.shifted (first + second) := by
  simp only [shifted, Int.add_assoc]

/-- Between two places in the week lies less than a week. -/
theorem Span.InWeek.natAbs_lt {span : Span} {offset : Int} (hbefore : span.InWeek)
    (hafter : (span.shifted offset).InWeek) : offset.natAbs < 10080 := by
  have hweek : minutesPerWeek = 10080 := rfl
  simp only [InWeek, shifted, hweek] at hbefore hafter
  omega

namespace Ledger

variable {first second : Ledger} {facility : String}

/-- The timetables list the bookings, and nothing else. -/
theorem slotsOf_eq_of_bookings (hfirst : first.Consistent) (hsecond : second.Consistent)
    (hbookings : ∀ id : BookingId, first.bookings[id]? = second.bookings[id]?)
    (facility : String) : first.slotsOf facility = second.slotsOf facility := by
  refine @eq_of_increasing _ (·.span.start) _ _ (hfirst.tidy facility).increasing
    (hsecond.tidy facility).increasing fun slot => ?_
  rw [hfirst.listed, hsecond.listed, hbookings]

theorem timetable_eq_of_slots (hfirst : first.WellNamed) (hsecond : second.WellNamed)
    (hopen : facility ∈ first.timetables ↔ facility ∈ second.timetables)
    (hslots : first.slotsOf facility = second.slotsOf facility) :
    first.timetables[facility]? = second.timetables[facility]? := by
  by_cases hmem : facility ∈ first.timetables
  · rw [hfirst.getElem?_of_mem hmem, hsecond.getElem?_of_mem (hopen.mp hmem), hslots]
  · rw [Std.ExtTreeMap.getElem?_eq_none hmem,
      Std.ExtTreeMap.getElem?_eq_none (hopen.not.mp hmem)]

end Ledger

namespace Desk

theorem eq_of_bookings {first second : Desk} (hfirst : first.WellKept)
    (hsecond : second.WellKept)
    (hbookings : ∀ id : BookingId, first.ledger.bookings[id]? = second.ledger.bookings[id]?)
    (hopen : ∀ facility, facility ∈ first.ledger.timetables ↔
      facility ∈ second.ledger.timetables)
    (hnext : first.ledger.nextId = second.ledger.nextId) (husage : first.usage = second.usage) :
    first = second := by
  refine eq_of_lookUps (fun facility => ?_) hbookings hnext husage
  exact Ledger.timetable_eq_of_slots hfirst.named hsecond.named (hopen facility)
    (Ledger.slotsOf_eq_of_bookings hfirst.consistent hsecond.consistent hbookings facility)

/-- A booking stands some minutes later, or earlier, and nothing else is different. -/
structure Shifted (before after : Desk) (booking : Booking) (offset : Int) : Prop where
  there : before.ledger.bookings[booking.id]? = some booking
  bookings : ∀ id : BookingId, after.ledger.bookings[id]? =
    if booking.id = id then some { booking with span := booking.span.shifted offset }
    else before.ledger.bookings[id]?
  facilities : ∀ facility, facility ∈ after.ledger.timetables ↔
    facility ∈ before.ledger.timetables
  next : after.ledger.nextId = before.ledger.nextId
  usage : after.usage = before.usage

theorem Moved.shifted {before after : Desk} {booking : Booking} {offset : Int} {shift : Shift}
    (hmoved : Moved before after booking offset shift) : Shifted before after booking offset :=
  ⟨hmoved.there, hmoved.bookings, hmoved.facilities.mem_iff, hmoved.next, hmoved.usage⟩

variable {desk before middle after : Desk} {id : BookingId} {booking : Booking} {offset : Int}

/-- A booking that is moved is shifted. -/
theorem shifted_of_change (hkept : desk.WellKept) {shift : Shift}
    (hchange : (desk.change id offset).1 = .ok shift) :
    ∃ booking, booking.id = id ∧
      shift = ⟨id, booking.facility, booking.span, booking.span.shifted offset⟩ ∧
      Shifted desk (desk.change id offset).2 booking offset := by
  have hafter := hkept.step (.change id offset)
  rcases change_or_hindrance hkept.consistent id offset with
    ⟨refusal, -, hrefused⟩ | ⟨-, booking, timetable, hbooking, htimetable, hinside, hmoved⟩
  · rw [hrefused] at hchange
    cases hchange
  · simp only [step, hmoved] at hafter
    rw [hmoved] at hchange ⊢
    cases hchange
    exact ⟨booking, hkept.consistent.numbered id booking hbooking, rfl,
      (moved_of_ledger hkept.consistent hkept.named hbooking htimetable hinside
        hafter.consistent).shifted⟩

namespace Shifted

theorem moved (hshifted : Shifted before after booking offset) :
    after.ledger.bookings[booking.id]? =
      some { booking with span := booking.span.shifted offset } := by
  rw [hshifted.bookings, if_pos rfl]

/-- Back again. -/
theorem symm (hshifted : Shifted before after booking offset) :
    Shifted after before { booking with span := booking.span.shifted offset } (-offset) where
  there := hshifted.moved
  bookings id := by
    rw [Span.shifted_shifted, Int.add_right_neg, Span.shifted_zero, hshifted.bookings]
    split
    · next hsame => exact hsame ▸ hshifted.there
    · rfl
  facilities facility := (hshifted.facilities facility).symm
  next := hshifted.next.symm
  usage := hshifted.usage.symm

theorem trans {later : Int} (hfirst : Shifted before middle booking offset)
    (hsecond : Shifted middle after { booking with span := booking.span.shifted offset } later) :
    Shifted before after booking (offset + later) where
  there := hfirst.there
  bookings id := by
    rw [hsecond.bookings, Span.shifted_shifted, hfirst.bookings]
    split <;> rfl
  facilities facility := (hsecond.facilities facility).trans (hfirst.facilities facility)
  next := hsecond.next.trans hfirst.next
  usage := hsecond.usage.trans hfirst.usage

/-- A shift leads to one desk only. -/
theorem unique {other : Desk} (hfirst : Shifted before after booking offset)
    (hsecond : Shifted before other booking offset) (hafter : after.WellKept)
    (hother : other.WellKept) : after = other := by
  refine eq_of_bookings hafter hother (fun id => ?_) (fun facility => ?_)
    (hfirst.next.trans hsecond.next.symm) (hfirst.usage.trans hsecond.usage.symm)
  · rw [hfirst.bookings, hsecond.bookings]
  · rw [hfirst.facilities, hsecond.facilities]

/-- Nothing is in the way of a booking where it stands on another desk. -/
theorem unhindered (hshifted : Shifted before after booking offset)
    (hbefore : before.ledger.Consistent) (hafter : after.ledger.Consistent) (refusal : Refusal) :
    ¬ before.Hindrance booking.id offset refusal := by
  obtain ⟨hstart, -, hstop⟩ := hafter.span_inWeek hshifted.moved
  refine unhindered_of_free hbefore hshifted.there ⟨hstart, hstop⟩ (fun slot hslot hother => ?_)
    refusal
  -- The slot stands there as well, next to that of the booking.
  obtain ⟨found, hfound, hspan, hfacility⟩ := (hbefore.listed _ slot).mp hslot
  have hthere : slot ∈ after.ledger.slotsOf booking.facility := by
    refine (hafter.listed _ slot).mpr ⟨found, ?_, hspan, hfacility⟩
    rw [hshifted.bookings, if_neg (Ne.symm hother), hfound]
  have hown := hafter.slot_mem hshifted.moved
  refine (hafter.tidy booking.facility).not_overlaps hthere hown ?_
  rintro rfl
  exact hother rfl

/-- Whatever desk differs from this one in the place of a booking alone, to shift the booking
there leads to that desk. -/
theorem change_eq (hshifted : Shifted before after booking offset) (hbefore : before.WellKept)
    (hafter : after.WellKept) :
    before.change booking.id offset =
      (.ok ⟨booking.id, booking.facility, booking.span, booking.span.shifted offset⟩, after) := by
  rcases change_or_hindrance hbefore.consistent booking.id offset with
    ⟨refusal, hhindrance, -⟩ | ⟨-, found, timetable, -, -, -, hmoved⟩
  · exact absurd hhindrance
      (hshifted.unhindered hbefore.consistent hafter.consistent refusal)
  · have hchange : (before.change booking.id offset).1 =
        .ok ⟨booking.id, found.facility, found.span, found.span.shifted offset⟩ := by
      rw [hmoved]
    have hkept := hbefore.step (.change booking.id offset)
    obtain ⟨other, hid, hshift, hother⟩ := shifted_of_change hbefore hchange
    have hthere := hother.there
    rw [hid, hshifted.there] at hthere
    cases hthere
    exact Prod.ext (hchange.trans (congrArg Except.ok hshift)) (hother.unique hshifted hkept hafter)

theorem natAbs_lt (hshifted : Shifted before after booking offset)
    (hbefore : before.WellKept) (hafter : after.WellKept) : offset.natAbs < 10080 :=
  (hbefore.consistent.span_inWeek hshifted.there).natAbs_lt
    (hafter.consistent.span_inWeek hshifted.moved)

end Shifted

theorem WellKept.change (hkept : desk.WellKept) (id : BookingId) (offset : Int) :
    (desk.change id offset).2.WellKept :=
  hkept.step (.change id offset)

/-- In every state that a desk can reach, a shift of a booking by some minutes can be undone
right afterwards by a shift as far in the other direction, which leads back to the very same
desk, with the slots of all facilities in the same order. Two shifts of a booking, one right
after the other, are as good as one shift by the sum: it is accepted and leads to the same
desk. All these are by less than a week. -/
theorem shifts_add_up (actions : List Action) (id : BookingId) :
    (∀ offset shift, ((empty.run actions).change id offset).1 = .ok shift →
      offset.natAbs < 10080 ∧
      ((empty.run actions).change id offset).2.change id (-offset) =
        (.ok ⟨id, shift.facility, shift.target, shift.source⟩, empty.run actions)) ∧
    ∀ offset later shift next, ((empty.run actions).change id offset).1 = .ok shift →
      (((empty.run actions).change id offset).2.change id later).1 = .ok next →
      (offset + later).natAbs < 10080 ∧
      (empty.run actions).change id (offset + later) =
        (.ok ⟨id, shift.facility, shift.source, next.target⟩,
          (((empty.run actions).change id offset).2.change id later).2) := by
  have hkept := run_wellKept actions
  generalize empty.run actions = desk at *
  constructor
  · intro offset shift hshift
    obtain ⟨booking, rfl, rfl, hshifted⟩ := shifted_of_change hkept hshift
    have hafter := hkept.change booking.id offset
    have hback := hshifted.symm.change_eq hafter hkept
    rw [Span.shifted_shifted, Int.add_right_neg, Span.shifted_zero] at hback
    exact ⟨hshifted.natAbs_lt hkept hafter, hback⟩
  · intro offset later shift next hshift hnext
    obtain ⟨booking, rfl, rfl, hfirst⟩ := shifted_of_change hkept hshift
    have hmiddle := hkept.change booking.id offset
    have hafter := hmiddle.change booking.id later
    obtain ⟨other, hid, rfl, hsecond⟩ := shifted_of_change hmiddle hnext
    -- The booking that is shifted again is the same one where it stands now.
    have hthere := hsecond.there
    rw [hid, hfirst.moved] at hthere
    cases hthere
    have hboth := hfirst.trans hsecond
    refine ⟨hboth.natAbs_lt hkept hafter, ?_⟩
    rw [Span.shifted_shifted]
    exact hboth.change_eq hkept hafter

/-- A booking that was moved over the one behind it comes back to its place before it. -/
theorem moved_over_and_back :
    ∃ desk, desk = empty.run [.book "LabA" "ann" ⟨.monday, 9, 0⟩ ⟨.monday, 10, 0⟩,
        .book "LabA" "bob" ⟨.monday, 10, 0⟩ ⟨.monday, 11, 0⟩] ∧
      (desk.change 1 120).1 = .ok ⟨1, "LabA", ⟨540, 600⟩, ⟨660, 720⟩⟩ ∧
      ((desk.change 1 120).2.ledger.slotsOf "LabA").map Slot.booking = [2, 1] ∧
      (desk.change 1 120).2.change 1 (-120) =
        (.ok ⟨1, "LabA", ⟨660, 720⟩, ⟨540, 600⟩⟩, desk) := by
  have hmoved : ((empty.run [.book "LabA" "ann" ⟨.monday, 9, 0⟩ ⟨.monday, 10, 0⟩,
      .book "LabA" "bob" ⟨.monday, 10, 0⟩ ⟨.monday, 11, 0⟩]).change 1 120).1 =
        .ok ⟨1, "LabA", ⟨540, 600⟩, ⟨660, 720⟩⟩ := by
    decide +kernel
  exact ⟨_, rfl, hmoved, by decide +kernel, ((shifts_add_up _ 1).1 120 _ hmoved).2⟩

end Desk

end FacilityBooking
