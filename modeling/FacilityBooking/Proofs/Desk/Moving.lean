import FacilityBooking.Proofs.Desk.NewBooking

/-!
# What a change of a booking does

A booking that is moved keeps everything but its span, and nothing else at the desk changes.
It is not moved if it does not exist, if it would leave the week, or if another booking of its
facility stands in its way; its own old place does not.
-/

namespace FacilityBooking

/-- The span that starts and ends some minutes later, or earlier if their number is negative. -/
def Span.shifted (span : Span) (offset : Int) : Span :=
  ⟨span.start + offset, span.stop + offset⟩

namespace Desk

/-- What keeps a booking from being moved by some minutes, with the refusal that it gives rise
to. No two of these hold at once. -/
inductive Hindrance (desk : Desk) (id : BookingId) (offset : Int) : Refusal → Prop where
  | unknown (hunknown : desk.ledger.bookings[id]? = none) :
      Hindrance desk id offset (.notFound id)
  | leavesWeek {booking : Booking} (hbooking : desk.ledger.bookings[id]? = some booking)
      (hleaves : booking.span.start + offset < 0 ∨ 10080 ≤ booking.span.stop + offset) :
      Hindrance desk id offset (.outsideWeek (clampMinute (booking.span.start + offset))
        (clampMinute (booking.span.stop + offset)))
  /-- Of the other bookings of the facility that overlap the new span, this one starts
  earliest. -/
  | conflict {booking found : Booking} {other : BookingId}
      (hbooking : desk.ledger.bookings[id]? = some booking)
      (hstays : 0 ≤ booking.span.start + offset ∧ booking.span.stop + offset < 10080)
      (hother : other ≠ id) (hfound : desk.ledger.bookings[other]? = some found)
      (hfacility : found.facility = booking.facility)
      (hoverlaps : found.span.overlaps (booking.span.shifted offset))
      (hearliest : ∀ (third : BookingId) (rival : Booking), third ≠ id →
        desk.ledger.bookings[third]? = some rival → rival.facility = booking.facility →
        rival.span.overlaps (booking.span.shifted offset) →
        found.span.start ≤ rival.span.start) :
      Hindrance desk id offset (.conflict other)

/-- A booking has moved by some minutes, and nothing else has changed. -/
structure Moved (before after : Desk) (booking : Booking) (offset : Int) (shift : Shift) :
    Prop where
  there : before.ledger.bookings[booking.id]? = some booking
  told : shift = ⟨booking.id, booking.facility, booking.span, booking.span.shifted offset⟩
  interval : ∃ interval, shift.interval = .ok interval ∧
    interval.toSpan = booking.span.shifted offset
  bookings : ∀ id : BookingId, after.ledger.bookings[id]? =
    if booking.id = id then some { booking with span := booking.span.shifted offset }
    else before.ledger.bookings[id]?
  /-- The timetable of the facility has the slots of all other bookings as before, and that of
  the booking at its new place. -/
  placed : ∃ earlier later,
    ((before.ledger.slotsOf booking.facility).filter fun slot => slot.booking ≠ booking.id) =
      earlier ++ later ∧
    after.ledger.timetables[booking.facility]? = some ⟨booking.facility,
      earlier ++ ⟨booking.span.shifted offset, booking.id⟩ :: later⟩ ∧
    (∀ slot ∈ earlier, slot.span.start < booking.span.start + offset) ∧
    ∀ slot ∈ later, booking.span.start + offset < slot.span.start
  elsewhere : ∀ facility, facility ≠ booking.facility →
    after.ledger.timetables[facility]? = before.ledger.timetables[facility]?
  facilities : before.ledger.Refilled after.ledger
  next : after.ledger.nextId = before.ledger.nextId
  usage : after.usage = before.usage

variable {desk : Desk} {id : BookingId} {offset : Int} {booking : Booking} {timetable : Timetable}

/-- The slots that are in the way of a booking are other bookings of its facility. -/
theorem hindrance_of_slot (hconsistent : desk.ledger.Consistent)
    (hbooking : desk.ledger.bookings[id]? = some booking)
    (hstays : 0 ≤ booking.span.start + offset ∧ booking.span.stop + offset < 10080)
    {slot : Slot} (hslot : slot ∈ desk.ledger.slotsOf booking.facility)
    (hother : slot.booking ≠ id) (hoverlaps : slot.span.overlaps (booking.span.shifted offset))
    (hleast : ∀ rival ∈ desk.ledger.slotsOf booking.facility, rival.booking ≠ id →
      rival.span.overlaps (booking.span.shifted offset) →
      slot.span.start ≤ rival.span.start) :
    desk.Hindrance id offset (.conflict slot.booking) := by
  obtain ⟨found, hfound, hspan, hfacility⟩ := (hconsistent.listed _ slot).mp hslot
  refine .conflict hbooking hstays hother hfound hfacility (hspan ▸ hoverlaps) ?_
  intro third rival hthird hrival hsame hreaches
  rw [hspan]
  exact hleast ⟨rival.span, third⟩ (hsame ▸ hconsistent.slot_mem hrival) hthird hreaches

/-- Nothing hinders a booking that stays inside the week and overlaps no other one of its
facility. -/
theorem unhindered_of_free (hconsistent : desk.ledger.Consistent)
    (hbooking : desk.ledger.bookings[id]? = some booking)
    (hstays : 0 ≤ booking.span.start + offset ∧ booking.span.stop + offset < 10080)
    (hfree : ∀ slot ∈ desk.ledger.slotsOf booking.facility, slot.booking ≠ id →
      ¬ slot.span.overlaps (booking.span.shifted offset)) (refusal : Refusal) :
    ¬ desk.Hindrance id offset refusal := by
  intro hhindrance
  cases hhindrance with
  | unknown hunknown => cases hunknown.symm.trans hbooking
  | leavesWeek hfound hleaves =>
      cases hbooking.symm.trans hfound
      omega
  | conflict hthere _ hother hfound hfacility hoverlaps _ =>
      cases hbooking.symm.trans hthere
      exact hfree _ (hfacility ▸ hconsistent.slot_mem hfound) hother hoverlaps

/-- A booking is not moved for a hindrance, which changes nothing, or there is none and the
booking moves. -/
theorem change_or_hindrance (hconsistent : desk.ledger.Consistent) (id : BookingId)
    (offset : Int) :
    (∃ refusal, desk.Hindrance id offset refusal ∧
        desk.change id offset = (.error refusal, desk)) ∨
      (∀ refusal, ¬ desk.Hindrance id offset refusal) ∧
        ∃ booking timetable, desk.ledger.bookings[id]? = some booking ∧
          desk.ledger.timetables[booking.facility]? = some timetable ∧
          (booking.span.shifted offset).InWeek ∧
          desk.change id offset =
            (.ok ⟨id, booking.facility, booking.span, booking.span.shifted offset⟩,
              { desk with
                ledger := desk.ledger.moved timetable booking id
                  (booking.span.shifted offset) }) := by
  cases hbooking : desk.ledger.bookings[id]? with
  | none => exact .inl ⟨_, .unknown hbooking, by rw [change, hbooking]⟩
  | some booking =>
      obtain ⟨timetable, htimetable⟩ := hconsistent.timetable_of_booking hbooking
      have hweek : minutesPerWeek = 10080 := rfl
      have hspan := hconsistent.span_inWeek hbooking
      have hslots := Ledger.slotsOf_of_getElem? htimetable
      have hsorted : Timetable.Sorted timetable.slots :=
        hslots ▸ (hconsistent.tidy booking.facility).sorted
      rw [change_of_booking hbooking htimetable, hweek]
      split
      · next hleaves => exact .inl ⟨_, .leavesWeek hbooking hleaves, rfl⟩
      · next hinside =>
          obtain ⟨hstart, hstop⟩ := not_or.mp hinside
          have hstays : 0 ≤ booking.span.start + offset ∧
              booking.span.stop + offset < 10080 :=
            ⟨Int.not_lt.mp hstart, Int.not_le.mp hstop⟩
          cases hconflict : timetable.firstConflict?
              ⟨booking.span.start + offset, booking.span.stop + offset⟩ (some id) with
          | some other =>
              obtain ⟨slot, hslot, rfl, hother, hoverlaps, hleast⟩ :=
                Timetable.firstConflict?_least hsorted hconflict
              rw [← hslots] at hslot hleast
              refine .inl ⟨_, hindrance_of_slot hconsistent hbooking hstays hslot
                (fun hsame => hother (congrArg some hsame)) hoverlaps ?_, rfl⟩
              intro rival hrival hdiffers
              exact hleast rival hrival fun hsame => hdiffers (Option.some.inj hsame)
          | none =>
              rw [Timetable.firstConflict?_eq_none_iff hsorted, ← hslots] at hconflict
              refine .inr ⟨unhindered_of_free hconsistent hbooking hstays fun slot hslot hother =>
                  hconflict slot hslot fun hsame => hother (Option.some.inj hsame),
                booking, timetable, rfl, htimetable, ?_, rfl⟩
              exact ⟨hstays.1, Int.add_lt_add_right hspan.2.1 offset, hstays.2⟩

/-- There is at most one hindrance: of two bookings of a facility that start at the same
minute, one is the other. -/
theorem Hindrance.unique (hconsistent : desk.ledger.Consistent) {first second : Refusal}
    (hfirst : desk.Hindrance id offset first) (hsecond : desk.Hindrance id offset second) :
    first = second := by
  cases hfirst with
  | unknown hunknown =>
      cases hsecond with
      | unknown => rfl
      | leavesWeek hfound => cases hunknown.symm.trans hfound
      | conflict hfound => cases hunknown.symm.trans hfound
  | leavesWeek hbooking hleaves =>
      cases hsecond with
      | unknown hunknown => cases hunknown.symm.trans hbooking
      | leavesWeek hfound =>
          cases hbooking.symm.trans hfound
          rfl
      | conflict hfound hstays =>
          cases hbooking.symm.trans hfound
          omega
  | @conflict booking found other hbooking hstays hother hfound hfacility hoverlaps hearliest =>
      cases hsecond with
      | unknown hunknown => cases hunknown.symm.trans hbooking
      | leavesWeek hthere hleaves =>
          cases hbooking.symm.trans hthere
          omega
      | @conflict _ rival third hthere _ hthird hrival hsame hreaches hrivalEarliest =>
          cases hbooking.symm.trans hthere
          have hstart : found.span.start = rival.span.start :=
            Int.le_antisymm (hearliest _ _ hthird hrival hsame hreaches)
              (hrivalEarliest _ _ hother hfound hfacility hoverlaps)
          have hslot := hconsistent.slot_mem hfound
          have hrivalSlot := hconsistent.slot_mem hrival
          rw [hfacility] at hslot
          rw [hsame] at hrivalSlot
          have hslots :=
            (hconsistent.tidy booking.facility).eq_of_start_eq hslot hrivalSlot hstart
          rw [(Slot.mk.inj hslots).2]

/-- A booking that is moved in both places has moved, and nothing else. -/
theorem moved_of_ledger (hconsistent : desk.ledger.Consistent) (hnamed : desk.ledger.WellNamed)
    (hbooking : desk.ledger.bookings[id]? = some booking)
    (htimetable : desk.ledger.timetables[booking.facility]? = some timetable)
    (hinside : (booking.span.shifted offset).InWeek)
    (hafter : (desk.ledger.moved timetable booking id (booking.span.shifted offset)).Consistent) :
    Moved desk
      { desk with ledger := desk.ledger.moved timetable booking id (booking.span.shifted offset) }
      booking offset ⟨id, booking.facility, booking.span, booking.span.shifted offset⟩ := by
  obtain rfl : booking.id = id := hconsistent.numbered id booking hbooking
  have hheaded : (timetable.erase booking.id).facility = booking.facility :=
    hnamed.headed _ timetable htimetable
  have herased := hconsistent.erase_slots htimetable booking.id
  have htidy := hafter.tidy booking.facility
  obtain ⟨earlier, later, hsplit, hplaced⟩ := Timetable.exists_place_eq
    ⟨booking.span.shifted offset, booking.id⟩ (timetable.erase booking.id).slots
  simp only [Ledger.moved, Ledger.slotsOf_insert, if_true, Timetable.insert, hplaced] at htidy
  exact {
    there := hbooking
    told := rfl
    interval := by
      obtain ⟨interval, hinterval, -, hspan⟩ :=
        Interval.ofSpan_of_inside hinside.1 (Int.le_of_lt hinside.2.1) hinside.2.2
      refine ⟨interval, ?_, hspan⟩
      rw [Shift.interval, hinterval]
      rfl
    bookings := fun other => by
      simp only [Ledger.moved, Std.ExtTreeMap.getElem?_insert,
        Std.LawfulEqCmp.compare_eq_iff_eq]
    placed := by
      refine ⟨earlier, later, herased.symm.trans hsplit, ?_, htidy.around⟩
      simp only [Ledger.moved, Std.ExtTreeMap.getElem?_insert_self, Timetable.insert, hplaced,
        hheaded]
    elsewhere := fun facility hfacility => by
      simp only [Ledger.moved, Std.ExtTreeMap.getElem?_insert,
        Std.LawfulEqCmp.compare_eq_iff_eq, if_neg (Ne.symm hfacility)]
    facilities := .of_insert (Std.ExtTreeMap.mem_iff_isSome_getElem?.mpr (htimetable ▸ rfl)) _ _ _
    next := rfl
    usage := rfl }

/-- In every state that a desk can reach, for any number and any offset: a booking is not
moved exactly for a hindrance, and then nothing changes; it moves exactly if there is no
hindrance; and then it has moved by the offset, and nothing else has changed. -/
theorem moves_unless_hindered (actions : List Action) (id : BookingId) (offset : Int) :
    (∀ refusal, ((empty.run actions).change id offset).1 = .error refusal ↔
      (empty.run actions).Hindrance id offset refusal) ∧
    (∀ refusal, ((empty.run actions).change id offset).1 = .error refusal →
      ((empty.run actions).change id offset).2 = empty.run actions) ∧
    ((∃ shift, ((empty.run actions).change id offset).1 = .ok shift) ↔
      ∀ refusal, ¬ (empty.run actions).Hindrance id offset refusal) ∧
    ∀ shift, ((empty.run actions).change id offset).1 = .ok shift →
      ∃ booking, booking.id = id ∧
        Moved (empty.run actions) ((empty.run actions).change id offset).2 booking offset
          shift := by
  have hconsistent : (empty.run actions).ledger.Consistent :=
    run_consistent Ledger.consistent_empty actions
  have hnamed := run_wellNamed actions
  generalize empty.run actions = desk at *
  have hafter := step_consistent hconsistent (.change id offset)
  rcases change_or_hindrance hconsistent id offset with
    ⟨found, hhindrance, hrefused⟩ |
    ⟨hnone, booking, timetable, hbooking, htimetable, hinside, hmoved⟩
  · rw [hrefused]
    refine ⟨fun refusal => ⟨?_, fun hother => ?_⟩, fun _ _ => rfl, iff_of_false ?_ ?_, ?_⟩
    · rintro ⟨⟩
      exact hhindrance
    · rw [hhindrance.unique hconsistent hother]
    · rintro ⟨shift, ⟨⟩⟩
    · exact fun hnone => hnone found hhindrance
    · rintro shift ⟨⟩
  · simp only [step, hmoved] at hafter
    rw [hmoved]
    refine ⟨fun refusal => iff_of_false ?_ (hnone refusal), ?_, iff_of_true ⟨_, rfl⟩ hnone, ?_⟩
    · rintro ⟨⟩
    · rintro refusal ⟨⟩
    rintro _ ⟨⟩
    exact ⟨booking, hconsistent.numbered id booking hbooking,
      moved_of_ledger hconsistent hnamed hbooking htimetable hinside hafter⟩

end Desk

end FacilityBooking
