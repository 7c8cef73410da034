import FacilityBooking.Proofs.Desk.Names

/-!
# What a new booking changes

A booking that meets no obstacle joins the bookings of its facility at the place where its
start belongs. Nothing else at the desk changes, but that the facility may be new.
-/

namespace FacilityBooking

/-- A slot is placed between two parts of the slots. -/
theorem Timetable.exists_place_eq (slot : Slot) (slots : List Slot) :
    ∃ earlier later, slots = earlier ++ later ∧ place slot slots = earlier ++ slot :: later := by
  induction slots with
  | nil => exact ⟨[], [], rfl, rfl⟩
  | cons first rest ih =>
      obtain ⟨earlier, later, hrest, hplaced⟩ := ih
      unfold place
      split
      · exact ⟨first :: earlier, later, by rw [hrest]; rfl, by rw [hplaced]; rfl⟩
      · split
        · exact ⟨[first], rest, rfl, rfl⟩
        · exact ⟨[], first :: rest, rfl, rfl⟩

/-- In tidy slots everything before a slot starts earlier, and everything behind it later. -/
theorem Timetable.Tidy.around {slot : Slot} {earlier later : List Slot}
    (htidy : Tidy (earlier ++ slot :: later)) :
    (∀ other ∈ earlier, other.span.start < slot.span.start) ∧
      ∀ other ∈ later, slot.span.start < other.span.start := by
  obtain ⟨-, hlater, hacross⟩ := List.pairwise_append.mp htidy.increasing
  exact ⟨fun other hother => hacross other hother slot (.head _),
    (List.pairwise_cons.mp hlater).1⟩

theorem Ledger.getElem?_ensure_of_ne {ledger opened : Ledger} {facility other : String}
    (hensure : ledger.ensure facility = .ok opened) (hother : other ≠ facility) :
    opened.timetables[other]? = ledger.timetables[other]? := by
  obtain ⟨-, ⟨-, rfl⟩ | ⟨-, -, rfl⟩⟩ := ensure_eq_ok_iff.mp hensure
  · rfl
  · simp only [Ledger.opened, Std.ExtTreeMap.getElem?_insert, Std.LawfulEqCmp.compare_eq_iff_eq,
      if_neg hother.symm]

namespace Desk

/-- A booking has joined a desk, and nothing else has changed. -/
structure Joined (before after : Desk) (booking : Booking) : Prop where
  unused : before.ledger.bookings[booking.id]? = none
  number : booking.id = before.ledger.nextId
  next : after.ledger.nextId = before.ledger.nextId + 1
  bookings : ∀ id : BookingId, after.ledger.bookings[id]? =
    if booking.id = id then some booking else before.ledger.bookings[id]?
  /-- The timetable of the facility, which may be new, has one more slot at its place. -/
  placed : ∃ earlier later, before.ledger.slotsOf booking.facility = earlier ++ later ∧
    after.ledger.timetables[booking.facility]? =
      some ⟨booking.facility, earlier ++ ⟨booking.span, booking.id⟩ :: later⟩ ∧
    (∀ slot ∈ earlier, slot.span.start < booking.span.start) ∧
    ∀ slot ∈ later, booking.span.start < slot.span.start
  elsewhere : ∀ facility, facility ≠ booking.facility →
    after.ledger.timetables[facility]? = before.ledger.timetables[facility]?
  usage : after.usage = before.usage

variable {desk : Desk} {facility user : String} {start stop : WeekTime}

/-- What is booked joins the desk. -/
theorem joined_of_book (hconsistent : desk.ledger.Consistent) (hnamed : desk.ledger.WellNamed)
    {id : BookingId} (hbook : (desk.book facility user start stop).1 = .ok id) :
    Joined desk (desk.book facility user start stop).2
      ⟨id, facility, user, ⟨start.toMinute, stop.toMinute⟩⟩ := by
  have hafter := step_consistent hconsistent (.book facility user start stop)
  rcases book_or_obstacle hconsistent facility user start stop with
    ⟨refusal, -, hrefused⟩ | ⟨-, ledger, hensure, hbooked⟩
  · rw [hrefused] at hbook
    cases hbook
  simp only [step, hbooked] at hafter
  rw [hbooked] at hbook ⊢
  cases hbook
  have hslots := (Ledger.getD_slots ledger facility).trans (Ledger.slotsOf_ensure hensure facility)
  have hheaded := (hnamed.ensure hensure).facility_getD facility
  have htidy := hafter.tidy facility
  simp only [Ledger.added, Ledger.slotsOf_insert, if_true] at htidy
  generalize ledger.timetables.getD facility ⟨facility, []⟩ = timetable at *
  obtain ⟨name, slots⟩ := timetable
  obtain rfl : name = facility := hheaded
  obtain ⟨earlier, later, hsplit, hplaced⟩ :=
    Timetable.exists_place_eq ⟨⟨start.toMinute, stop.toMinute⟩, desk.ledger.nextId⟩ slots
  exact {
    unused := hconsistent.next_unused
    number := rfl
    next := by rw [Ledger.added, Ledger.nextId_ensure hensure]
    bookings := fun other => by
      simp only [Ledger.added, Std.ExtTreeMap.getElem?_insert, Std.LawfulEqCmp.compare_eq_iff_eq,
        Ledger.bookings_ensure hensure]
    placed := by
      refine ⟨earlier, later, hslots.symm.trans hsplit, ?_, ?_⟩
      · simp only [Ledger.added, Std.ExtTreeMap.getElem?_insert_self, Timetable.insert, hplaced]
      · simp only [Timetable.insert, hplaced] at htidy
        exact htidy.around
    elsewhere := fun other hother => by
      simp only [Ledger.added, Std.ExtTreeMap.getElem?_insert, Std.LawfulEqCmp.compare_eq_iff_eq,
        if_neg (Ne.symm hother), Ledger.getElem?_ensure_of_ne hensure hother]
    usage := rfl }

/-- In every state that a desk can reach, and for any names and times: a booking is refused
exactly for the first obstacle, which changes nothing; it is made exactly if there is no
obstacle; and then one booking joins the desk, with the number that is returned, and nothing
else changes. -/
theorem joins_unless_obstructed (actions : List Action) (facility user : String)
    (start stop : WeekTime) :
    (∀ refusal, ((empty.run actions).book facility user start stop).1 = .error refusal ↔
      (empty.run actions).FirstObstacle facility user ⟨start.toMinute, stop.toMinute⟩ refusal) ∧
    (∀ refusal, ((empty.run actions).book facility user start stop).1 = .error refusal →
      ((empty.run actions).book facility user start stop).2 = empty.run actions) ∧
    ((∃ id, ((empty.run actions).book facility user start stop).1 = .ok id) ↔
      ∀ place refusal, ¬ (empty.run actions).Obstacle facility user
        ⟨start.toMinute, stop.toMinute⟩ place refusal) ∧
    ∀ id, ((empty.run actions).book facility user start stop).1 = .ok id →
      Joined (empty.run actions) ((empty.run actions).book facility user start stop).2
        ⟨id, facility, user, ⟨start.toMinute, stop.toMinute⟩⟩ := by
  have hconsistent : (empty.run actions).ledger.Consistent :=
    run_consistent Ledger.consistent_empty actions
  have hnamed := run_wellNamed actions
  generalize empty.run actions = desk at *
  refine ⟨book_refused_iff hconsistent facility user start stop, ?_, ?_,
    fun id => joined_of_book hconsistent hnamed⟩
  · intro refusal hrefusal
    rcases book_or_obstacle hconsistent facility user start stop with
      ⟨found, -, hrefused⟩ | ⟨-, ledger, -, hbooked⟩
    · rw [hrefused]
    · rw [hbooked] at hrefusal
      cases hrefusal
  · rcases book_or_obstacle hconsistent facility user start stop with
      ⟨found, ⟨place, hobstacle, -⟩, hrefused⟩ | ⟨hnone, ledger, -, hbooked⟩
    · rw [hrefused]
      exact iff_of_false nofun fun hnone => hnone place found hobstacle
    · rw [hbooked]
      exact iff_of_true ⟨_, rfl⟩ hnone

end Desk

end FacilityBooking
