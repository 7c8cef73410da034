import FacilityBooking.Ledger.Basic
import FacilityBooking.Proofs.Ledger.Slots
import Std.Data.ExtTreeMap.Lemmas

/-!
# Consistency of the ledger

A booking stands in the ledger twice, among all bookings and on the timetable of
its facility. The two agree as long as the ledger is only changed through its
operations, and then none of these runs into a state that should not exist.
-/

namespace FacilityBooking

namespace Ledger

/-! ## Operations, one equation each -/

/-- A name that a facility may have. -/
def Nameable (facility : String) : Prop :=
  facility.isEmpty = false ∧ facility.utf8ByteSize ≤ Limits.facilityNameBytes

/-- The ledger with an empty timetable for a facility. -/
def opened (ledger : Ledger) (facility : String) : Ledger :=
  { ledger with timetables := ledger.timetables.insert facility ⟨facility, []⟩ }

/-- The ledger with one more booking in both places, which takes the next number. -/
def added (ledger : Ledger) (timetable : Timetable) (booking : Booking) : Ledger where
  timetables := ledger.timetables.insert booking.facility
    (timetable.insert booking.span booking.id)
  bookings := ledger.bookings.insert booking.id booking
  nextId := ledger.nextId + 1

/-- The ledger with a booking moved to another span in both places. -/
def moved (ledger : Ledger) (timetable : Timetable) (booking : Booking) (id : BookingId)
    (span : Span) : Ledger where
  timetables := ledger.timetables.insert booking.facility
    ((timetable.erase id).insert span id)
  bookings := ledger.bookings.insert id { booking with span := span }
  nextId := ledger.nextId

/-- The ledger with one booking less in both places. -/
def dropped (ledger : Ledger) (timetable : Timetable) (booking : Booking) (id : BookingId) :
    Ledger where
  timetables := ledger.timetables.insert booking.facility (timetable.erase id)
  bookings := ledger.bookings.erase id
  nextId := ledger.nextId

variable {ledger after : Ledger} {facility : String} {timetable : Timetable} {id : BookingId}
  {booking : Booking}

/-- A name is accepted, or it is empty or too long, or there is no room for its facility. -/
theorem ensure_cases (ledger : Ledger) (facility : String) :
    facility.utf8ByteSize = 0 ∧ ledger.ensure facility = .error (.emptyName .facility) ∨
      256 < facility.utf8ByteSize ∧
        ledger.ensure facility = .error (.limitExceeded .facilityName) ∨
      (1 ≤ facility.utf8ByteSize ∧ facility.utf8ByteSize ≤ 256) ∧
        (facility ∉ ledger.timetables ∧ 10000 ≤ ledger.timetables.size ∧
            ledger.ensure facility = .error (.limitExceeded .facilities) ∨
          (facility ∈ ledger.timetables ∨ ledger.timetables.size < 10000) ∧
            ∃ opened, ledger.ensure facility = .ok opened) := by
  unfold ensure
  split
  · next hname => exact .inl ⟨String.isEmpty_iff_utf8ByteSize_eq_zero.mp hname, rfl⟩
  · next hname =>
      rw [String.isEmpty_iff_utf8ByteSize_eq_zero] at hname
      split
      · next hlong => exact .inr (.inl ⟨hlong, rfl⟩)
      · next hshort =>
          refine .inr (.inr ⟨⟨Nat.one_le_iff_ne_zero.mpr hname, Nat.not_lt.mp hshort⟩, ?_⟩)
          split
          · next hopen => exact .inr ⟨.inl hopen, _, rfl⟩
          · next hnew =>
              split
              · next hfull => exact .inl ⟨hnew, hfull, rfl⟩
              · next hroom => exact .inr ⟨.inr (Nat.not_le.mp hroom), _, rfl⟩

theorem ensure_eq_ok_iff :
    ledger.ensure facility = .ok after ↔
      Nameable facility ∧
        (facility ∈ ledger.timetables ∧ after = ledger ∨
          facility ∉ ledger.timetables ∧ ledger.timetables.size < Limits.facilities ∧
            after = ledger.opened facility) := by
  unfold ensure Nameable opened
  cases hempty : facility.isEmpty with
  | true => simp
  | false =>
      by_cases hlong : Limits.facilityNameBytes < facility.utf8ByteSize
      · simp [hlong, Nat.not_le_of_lt hlong]
      · by_cases hmem : facility ∈ ledger.timetables
        · simp [hlong, hmem, eq_comm, Nat.le_of_not_lt]
        · by_cases hfull : Limits.facilities ≤ ledger.timetables.size
          · simp [hlong, hmem, hfull, Nat.not_lt_of_le hfull]
          · simp [hlong, hmem, hfull, eq_comm, Nat.le_of_not_lt, Nat.lt_of_not_le]

theorem mem_of_ensure (hensure : ledger.ensure facility = .ok after) :
    facility ∈ after.timetables := by
  obtain ⟨-, ⟨hmem, rfl⟩ | ⟨-, -, rfl⟩⟩ := ensure_eq_ok_iff.mp hensure
  · exact hmem
  · exact Std.ExtTreeMap.mem_insert_self

@[simp]
theorem getD_slots (ledger : Ledger) (facility : String) :
    (ledger.timetables.getD facility ⟨facility, []⟩).slots = ledger.slotsOf facility := by
  rw [slotsOf, Std.ExtTreeMap.getD_eq_getD_getElem?]
  cases ledger.timetables[facility]? <;> rfl

theorem slotsOf_of_getElem? (htimetable : ledger.timetables[facility]? = some timetable) :
    ledger.slotsOf facility = timetable.slots := by
  rw [slotsOf, htimetable]

theorem slotsOf_insert (ledger : Ledger) (facility : String) (timetable : Timetable)
    (bookings : Std.ExtTreeMap BookingId Booking) (nextId : BookingId) (other : String) :
    slotsOf ⟨ledger.timetables.insert facility timetable, bookings, nextId⟩ other =
      if facility = other then timetable.slots else ledger.slotsOf other := by
  unfold slotsOf
  simp only [Std.ExtTreeMap.getElem?_insert, Std.LawfulEqCmp.compare_eq_iff_eq]
  by_cases hsame : facility = other
  · simp only [if_pos hsame]
  · simp only [if_neg hsame]

/-- A facility that is opened has no slots, as it had none before. -/
theorem slotsOf_ensure (hensure : ledger.ensure facility = .ok after) (other : String) :
    after.slotsOf other = ledger.slotsOf other := by
  obtain ⟨-, ⟨-, rfl⟩ | ⟨hnew, -, rfl⟩⟩ := ensure_eq_ok_iff.mp hensure
  · rfl
  · rw [opened, slotsOf_insert]
    split
    · next hsame =>
        subst hsame
        rw [slotsOf, Std.ExtTreeMap.getElem?_eq_none hnew]
    · rfl

/-- A facility with slots is not opened, as it is there. -/
theorem ensure_eq_self (hensure : ledger.ensure facility = .ok after) {slot : Slot}
    (hslot : slot ∈ ledger.slotsOf facility) : after = ledger := by
  obtain ⟨-, ⟨-, rfl⟩ | ⟨hnew, -, -⟩⟩ := ensure_eq_ok_iff.mp hensure
  · rfl
  · rw [slotsOf, Std.ExtTreeMap.getElem?_eq_none hnew] at hslot
    cases hslot

theorem bookings_ensure (hensure : ledger.ensure facility = .ok after) :
    after.bookings = ledger.bookings := by
  obtain ⟨-, ⟨-, rfl⟩ | ⟨-, -, rfl⟩⟩ := ensure_eq_ok_iff.mp hensure <;> rfl

theorem nextId_ensure (hensure : ledger.ensure facility = .ok after) :
    after.nextId = ledger.nextId := by
  obtain ⟨-, ⟨-, rfl⟩ | ⟨-, -, rfl⟩⟩ := ensure_eq_ok_iff.mp hensure <;> rfl

/-- Once opened, a facility is there for good: opening it again changes nothing. -/
theorem ensure_again (hensure : ledger.ensure facility = .ok after) (nextId : BookingId) :
    ensure { after with nextId } facility = .ok { after with nextId } := by
  have hmem := mem_of_ensure hensure
  exact ensure_eq_ok_iff.mpr ⟨(ensure_eq_ok_iff.mp hensure).1, .inl ⟨hmem, rfl⟩⟩

/-- A booking with a number of its own enters both places if its facility has room. -/
theorem insert_allocated (hensure : ledger.ensure booking.facility = .ok after)
    (hroom : (after.slotsOf booking.facility).length < Limits.bookingsPerFacility) :
    after.allocate.2.insert booking =
      .ok (after.added (after.timetables.getD booking.facility ⟨booking.facility, []⟩)
        booking) := by
  rw [insert, allocate, ensure_again hensure]
  simp only [bind, Except.bind, getD_slots, if_neg (Nat.not_le_of_lt hroom), pure, Except.pure]
  rfl

theorem move_eq (hbooking : ledger.bookings[id]? = some booking)
    (htimetable : ledger.timetables[booking.facility]? = some timetable) (span : Span) :
    ledger.move id span = .ok (booking.span, ledger.moved timetable booking id span) := by
  rw [move, hbooking]
  dsimp only
  rw [htimetable]
  rfl

theorem remove?_eq (hbooking : ledger.bookings[id]? = some booking)
    (htimetable : ledger.timetables[booking.facility]? = some timetable) :
    ledger.remove? id = some (booking, ledger.dropped timetable booking id) := by
  rw [remove?, hbooking]
  dsimp only
  rw [htimetable]
  rfl

/-! ## Consistency -/

/-- The timetables are tidy and list exactly the bookings of the ledger, each under
its own number, which was given out before. -/
structure Consistent (ledger : Ledger) : Prop where
  tidy : ∀ facility, Timetable.Tidy (ledger.slotsOf facility)
  listed : ∀ facility slot, slot ∈ ledger.slotsOf facility ↔
    ∃ booking, ledger.bookings[slot.booking]? = some booking ∧
      booking.span = slot.span ∧ booking.facility = facility
  numbered : ∀ id (booking : Booking), ledger.bookings[id]? = some booking → booking.id = id
  issued : ∀ id booking, ledger.bookings[id]? = some booking → 1 ≤ id ∧ id < ledger.nextId
  next_pos : 1 ≤ ledger.nextId

theorem consistent_empty : empty.Consistent where
  tidy _ := Timetable.tidy_nil
  listed facility slot := by
    simp [slotsOf, empty]
  numbered id booking hbooking := by
    simp [empty] at hbooking
  issued id booking hbooking := by
    simp [empty] at hbooking
  next_pos := Int.le_refl 1

namespace Consistent

/-- Consistency depends on the slots, the bookings and the next number alone. -/
theorem congr (hconsistent : ledger.Consistent)
    (hslots : ∀ facility, after.slotsOf facility = ledger.slotsOf facility)
    (hbookings : ∀ id : BookingId, after.bookings[id]? = ledger.bookings[id]?)
    (hnextId : after.nextId = ledger.nextId) : after.Consistent where
  tidy facility := by
    rw [hslots]
    exact hconsistent.tidy facility
  listed facility slot := by
    rw [hslots, hbookings]
    exact hconsistent.listed facility slot
  numbered id booking hbooking := by
    rw [hbookings] at hbooking
    exact hconsistent.numbered id booking hbooking
  issued id booking hbooking := by
    rw [hbookings] at hbooking
    rw [hnextId]
    exact hconsistent.issued id booking hbooking
  next_pos := by
    rw [hnextId]
    exact hconsistent.next_pos

theorem ensure (hconsistent : ledger.Consistent) (hensure : ledger.ensure facility = .ok after) :
    after.Consistent := by
  apply hconsistent.congr (slotsOf_ensure hensure) ?_ (nextId_ensure hensure)
  intro id
  rw [bookings_ensure hensure]

/-- The slot of a booking stands on the timetable of its facility. -/
theorem slot_mem (hconsistent : ledger.Consistent)
    (hbooking : ledger.bookings[id]? = some booking) :
    ⟨booking.span, id⟩ ∈ ledger.slotsOf booking.facility :=
  (hconsistent.listed booking.facility ⟨booking.span, id⟩).mpr ⟨booking, hbooking, rfl, rfl⟩

/-- The facility of a booking has a timetable. -/
theorem timetable_of_booking (hconsistent : ledger.Consistent)
    (hbooking : ledger.bookings[id]? = some booking) :
    ∃ timetable, ledger.timetables[booking.facility]? = some timetable := by
  have hslot := hconsistent.slot_mem hbooking
  unfold slotsOf at hslot
  split at hslot
  · next timetable htimetable => exact ⟨timetable, htimetable⟩
  · cases hslot

theorem span_inWeek (hconsistent : ledger.Consistent)
    (hbooking : ledger.bookings[id]? = some booking) : booking.span.InWeek :=
  (hconsistent.tidy booking.facility).inside _ (hconsistent.slot_mem hbooking)

/-- Slots of one booking are one slot, as the booking has one span and one facility. -/
theorem eq_of_booking_eq (hconsistent : ledger.Consistent) {first second : Slot}
    {firstFacility secondFacility : String} (hfirst : first ∈ ledger.slotsOf firstFacility)
    (hsecond : second ∈ ledger.slotsOf secondFacility)
    (hsame : first.booking = second.booking) :
    first = second ∧ firstFacility = secondFacility := by
  obtain ⟨booking, hbooking, hspan, hfacility⟩ := (hconsistent.listed _ _).mp hfirst
  obtain ⟨other, hother, hotherSpan, hotherFacility⟩ := (hconsistent.listed _ _).mp hsecond
  rw [hsame, hother] at hbooking
  cases hbooking
  refine ⟨?_, hfacility.symm.trans hotherFacility⟩
  cases first
  cases second
  exact (Slot.mk.injEq ..).mpr ⟨hspan.symm.trans hotherSpan, hsame⟩

theorem bookings_distinct (hconsistent : ledger.Consistent) (facility : String) :
    (ledger.slotsOf facility).Pairwise fun first second => first.booking ≠ second.booking := by
  apply (hconsistent.tidy facility).nodup.imp_of_mem
  intro first second hfirst hsecond hne hsame
  exact hne (hconsistent.eq_of_booking_eq hfirst hsecond hsame).1

theorem erase_slots (hconsistent : ledger.Consistent)
    (htimetable : ledger.timetables[facility]? = some timetable) (id : BookingId) :
    (timetable.erase id).slots =
      (ledger.slotsOf facility).filter fun slot => slot.booking ≠ id := by
  rw [slotsOf_of_getElem? htimetable]
  apply Timetable.erase_slots_eq_filter id
  rw [← slotsOf_of_getElem? htimetable]
  exact hconsistent.bookings_distinct facility

/-- The next number belongs to no booking yet. -/
theorem next_unused (hconsistent : ledger.Consistent) : ledger.bookings[ledger.nextId]? = none := by
  cases hbooking : ledger.bookings[ledger.nextId]? with
  | none => rfl
  | some booking => exact absurd (hconsistent.issued _ _ hbooking).2 (Int.lt_irrefl _)

theorem not_mem_of_unused (hconsistent : ledger.Consistent) (hunused : ledger.bookings[id]? = none)
    {slot : Slot} (hslot : slot.booking = id) : slot ∉ ledger.slotsOf facility := by
  intro hmem
  obtain ⟨booking, hbooking, -⟩ := (hconsistent.listed facility slot).mp hmem
  rw [hslot, hunused] at hbooking
  cases hbooking

/-- A booking that overlaps none of its facility may join it under an unused number. -/
theorem joined (hconsistent : ledger.Consistent) (hunused : ledger.bookings[booking.id]? = none)
    (htimetable : timetable.slots = ledger.slotsOf booking.facility)
    (hinside : booking.span.InWeek)
    (hfree : ∀ slot ∈ ledger.slotsOf booking.facility, ¬ slot.span.overlaps booking.span)
    (hpos : 1 ≤ booking.id) {nextId : BookingId} (hlt : booking.id < nextId)
    (hnext : ledger.nextId ≤ nextId) :
    Consistent ⟨ledger.timetables.insert booking.facility
        (timetable.insert booking.span booking.id),
      ledger.bookings.insert booking.id booking, nextId⟩ where
  tidy facility := by
    rw [slotsOf_insert]
    split
    · refine Timetable.Tidy.place ?_ hinside ?_ <;> rw [htimetable]
      · exact hconsistent.tidy booking.facility
      · exact hfree
    · exact hconsistent.tidy facility
  listed facility slot := by
    rw [slotsOf_insert]
    simp only [Std.ExtTreeMap.getElem?_insert, Std.LawfulEqCmp.compare_eq_iff_eq]
    by_cases hnew : booking.id = slot.booking
    · -- Only the new slot carries the new number.
      have hold (other : String) : slot ∉ ledger.slotsOf other :=
        hconsistent.not_mem_of_unused hunused hnew.symm
      rw [if_pos hnew]
      constructor
      · intro hslot
        split at hslot
        · next hfacility =>
            rcases Timetable.mem_place.mp hslot with rfl | hslot
            · exact ⟨booking, rfl, rfl, hfacility⟩
            · rw [htimetable] at hslot
              exact absurd hslot (hold _)
        · exact absurd hslot (hold _)
      · rintro ⟨other, hother, hspan, hfacility⟩
        cases hother
        rw [if_pos hfacility]
        refine Timetable.mem_place.mpr (.inl ?_)
        cases slot
        exact (Slot.mk.injEq ..).mpr ⟨hspan.symm, hnew.symm⟩
    · rw [if_neg hnew, ← hconsistent.listed facility slot]
      split
      · next hfacility =>
          subst hfacility
          apply Timetable.mem_place.trans
          rw [htimetable]
          apply or_iff_right
          rintro rfl
          exact hnew rfl
      · rfl
  numbered id other hother := by
    simp only [Std.ExtTreeMap.getElem?_insert, Std.LawfulEqCmp.compare_eq_iff_eq] at hother
    split at hother
    · next hsame =>
        cases hother
        exact hsame
    · exact hconsistent.numbered id other hother
  issued id other hother := by
    simp only [Std.ExtTreeMap.getElem?_insert, Std.LawfulEqCmp.compare_eq_iff_eq] at hother
    split at hother
    · next hsame =>
        rw [← hsame]
        exact ⟨hpos, hlt⟩
    · obtain ⟨hotherPos, hotherLt⟩ := hconsistent.issued id other hother
      exact ⟨hotherPos, Int.lt_of_lt_of_le hotherLt hnext⟩
  next_pos := Int.le_trans hconsistent.next_pos hnext

/-- A booking that overlaps none of its facility may be added under the next number. -/
theorem added (hconsistent : ledger.Consistent) (hid : booking.id = ledger.nextId)
    (htimetable : timetable.slots = ledger.slotsOf booking.facility)
    (hinside : booking.span.InWeek)
    (hfree : ∀ slot ∈ ledger.slotsOf booking.facility, ¬ slot.span.overlaps booking.span) :
    (ledger.added timetable booking).Consistent := by
  have hunused : ledger.bookings[booking.id]? = none := hid ▸ hconsistent.next_unused
  have hpos : 1 ≤ booking.id := hid ▸ hconsistent.next_pos
  have hlt : booking.id < ledger.nextId + 1 := hid ▸ Int.lt_succ _
  exact hconsistent.joined hunused htimetable hinside hfree hpos hlt (Int.le_of_lt (Int.lt_succ _))

/-- Any booking may be dropped. -/
theorem dropped (hconsistent : ledger.Consistent) (hbooking : ledger.bookings[id]? = some booking)
    (htimetable : ledger.timetables[booking.facility]? = some timetable) :
    (ledger.dropped timetable booking id).Consistent where
  tidy facility := by
    rw [Ledger.dropped, slotsOf_insert]
    split
    · rw [hconsistent.erase_slots htimetable]
      exact (hconsistent.tidy _).sublist List.filter_sublist
    · exact hconsistent.tidy facility
  listed facility slot := by
    rw [Ledger.dropped, slotsOf_insert]
    simp only [Std.ExtTreeMap.getElem?_erase, Std.LawfulEqCmp.compare_eq_iff_eq]
    by_cases hdropped : id = slot.booking
    · rw [if_pos hdropped]
      constructor
      · intro hslot
        split at hslot
        · rw [hconsistent.erase_slots htimetable] at hslot
          exact absurd hdropped.symm (of_decide_eq_true (List.mem_filter.mp hslot).2)
        · next hfacility =>
            have hsame :=
              hconsistent.eq_of_booking_eq (hconsistent.slot_mem hbooking) hslot hdropped
            exact absurd hsame.2 hfacility
      · rintro ⟨found, hfound, -⟩
        cases hfound
    · rw [if_neg hdropped, ← hconsistent.listed facility slot]
      split
      · next hfacility =>
          subst hfacility
          rw [hconsistent.erase_slots htimetable, List.mem_filter]
          exact and_iff_left (decide_eq_true fun hsame => hdropped hsame.symm)
      · rfl
  numbered other found hfound := by
    simp only [Ledger.dropped, Std.ExtTreeMap.getElem?_erase, Std.LawfulEqCmp.compare_eq_iff_eq]
      at hfound
    split at hfound
    · cases hfound
    · exact hconsistent.numbered other found hfound
  issued other found hfound := by
    simp only [Ledger.dropped, Std.ExtTreeMap.getElem?_erase, Std.LawfulEqCmp.compare_eq_iff_eq]
      at hfound
    split at hfound
    · cases hfound
    · exact hconsistent.issued other found hfound
  next_pos := hconsistent.next_pos

/-- A booking may be moved to where it overlaps no other one of its facility. -/
theorem moved (hconsistent : ledger.Consistent) (hbooking : ledger.bookings[id]? = some booking)
    (htimetable : ledger.timetables[booking.facility]? = some timetable) {span : Span}
    (hinside : span.InWeek)
    (hfree : ∀ slot ∈ ledger.slotsOf booking.facility,
      slot.booking ≠ id → ¬ slot.span.overlaps span) :
    (ledger.moved timetable booking id span).Consistent := by
  -- A booking that moves is dropped and joins its facility again.
  obtain rfl : booking.id = id := hconsistent.numbered id booking hbooking
  obtain ⟨hpos, hlt⟩ := hconsistent.issued booking.id booking hbooking
  have hdropped := hconsistent.dropped hbooking htimetable
  have hslots : (timetable.erase booking.id).slots =
      (ledger.dropped timetable booking booking.id).slotsOf booking.facility := by
    rw [Ledger.dropped, slotsOf_insert, if_pos rfl]
  have hunused : (ledger.dropped timetable booking booking.id).bookings[booking.id]? = none :=
    Std.ExtTreeMap.getElem?_erase_self
  have hnone : ∀ slot ∈ (ledger.dropped timetable booking booking.id).slotsOf booking.facility,
      ¬ slot.span.overlaps span := by
    intro slot hslot
    rw [← hslots, hconsistent.erase_slots htimetable] at hslot
    obtain ⟨hmem, hother⟩ := List.mem_filter.mp hslot
    exact hfree slot hmem (of_decide_eq_true hother)
  have hjoined := @joined _ _ { booking with span } hdropped hunused hslots hinside hnone hpos _
    hlt (Int.le_refl _)
  refine hjoined.congr ?_ ?_ rfl
  · intro facility
    rw [Ledger.moved, slotsOf_insert, slotsOf_insert, Ledger.dropped, slotsOf_insert]
    split <;> rfl
  · intro id
    simp only [Ledger.moved, Ledger.dropped, Std.ExtTreeMap.getElem?_insert,
      Std.ExtTreeMap.getElem?_erase]
    split <;> rfl

/-- Removal of different bookings that are all there succeeds, takes exactly these,
and leaves a consistent ledger. -/
theorem removeAll (hconsistent : ledger.Consistent) {ids : List BookingId} (hnodup : ids.Nodup)
    (hthere : ∀ id ∈ ids, ∃ booking, ledger.bookings[id]? = some booking) :
    ∃ removed after, ledger.removeAll ids = (.ok removed, after) ∧
      removed.map some = ids.map (ledger.bookings[·]?) ∧ after.Consistent := by
  induction ids generalizing ledger with
  | nil => exact ⟨[], ledger, rfl, rfl, hconsistent⟩
  | cons id rest ih =>
      obtain ⟨hnew, hrest⟩ := List.nodup_cons.mp hnodup
      obtain ⟨booking, hbooking⟩ := hthere id (.head _)
      obtain ⟨timetable, htimetable⟩ := hconsistent.timetable_of_booking hbooking
      have hleft (other : BookingId) (hother : other ∈ rest) :
          (ledger.dropped timetable booking id).bookings[other]? = ledger.bookings[other]? := by
        simp only [Ledger.dropped, Std.ExtTreeMap.getElem?_erase,
          Std.LawfulEqCmp.compare_eq_iff_eq]
        exact if_neg fun (hsame : id = other) => hnew (hsame ▸ hother)
      obtain ⟨removed, after, hremoved, hsame, hafter⟩ :=
        ih (hconsistent.dropped hbooking htimetable) hrest fun other hother => by
          rw [hleft other hother]
          exact hthere other (.tail _ hother)
      refine ⟨booking :: removed, after, ?_, ?_, hafter⟩
      · rw [Ledger.removeAll, remove?_eq hbooking htimetable]
        dsimp only
        rw [hremoved]
        rfl
      · rw [List.map_cons, List.map_cons, hbooking, hsame, List.map_congr_left hleft]

/-- The bookings of any slots of a facility are there to be removed. -/
theorem removeAll_slots (hconsistent : ledger.Consistent) {slots : List Slot}
    (hsublist : slots.Sublist (ledger.slotsOf facility)) :
    ∃ removed after, ledger.removeAll (slots.map (·.booking)) = (.ok removed, after) ∧
      removed.map some = slots.map (fun slot => ledger.bookings[slot.booking]?) ∧
      after.Consistent := by
  have hdistinct := (hconsistent.bookings_distinct facility).sublist hsublist
  obtain ⟨removed, after, hremoved, hsame, hafter⟩ :=
    hconsistent.removeAll (List.pairwise_map.mpr hdistinct) fun id hid => by
      obtain ⟨slot, hslot, rfl⟩ := List.mem_map.mp hid
      obtain ⟨booking, hbooking, -⟩ :=
        (hconsistent.listed facility slot).mp (hsublist.subset hslot)
      exact ⟨booking, hbooking⟩
  rw [List.map_map] at hsame
  exact ⟨removed, after, hremoved, hsame, hafter⟩

end Consistent

end Ledger

end FacilityBooking
