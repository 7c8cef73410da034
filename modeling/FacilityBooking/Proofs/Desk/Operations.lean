import FacilityBooking.Proofs.Desk.FreeTime
import FacilityBooking.Proofs.Ledger.Consistency
import FacilityBooking.Proofs.Message.Wording

/-!
# Operations of the desk

An operation on a consistent ledger is either refused, and then the desk is as it
was, or it changes the ledger in one known way.
-/

namespace FacilityBooking

namespace Desk

variable {desk : Desk}

/-! ## The checks of a booking -/

theorem checkUser_cases (user : String) :
    user.utf8ByteSize = 0 ∧ checkUser user = .error (.emptyName .user) ∨
      256 < user.utf8ByteSize ∧ checkUser user = .error (.limitExceeded .userName) ∨
      (1 ≤ user.utf8ByteSize ∧ user.utf8ByteSize ≤ 256) ∧ checkUser user = .ok () := by
  unfold checkUser
  split
  · next hname => exact .inl ⟨String.isEmpty_iff_utf8ByteSize_eq_zero.mp hname, rfl⟩
  · next hname =>
      rw [String.isEmpty_iff_utf8ByteSize_eq_zero] at hname
      split
      · next hlong => exact .inr (.inl ⟨hlong, rfl⟩)
      · next hshort =>
          exact .inr (.inr ⟨⟨Nat.one_le_iff_ne_zero.mpr hname, Nat.not_lt.mp hshort⟩, rfl⟩)

theorem checkSpan_cases (span : Span) :
    span.stop ≤ span.start ∧ checkSpan span = .error (.emptySpan span) ∨
      span.start < span.stop ∧ (span.start < 0 ∨ minutesPerWeek ≤ span.stop) ∧
        checkSpan span = .error (.outsideWeek span.start span.stop) ∨
      span.InWeek ∧ checkSpan span = .ok () := by
  unfold checkSpan
  split
  · next hempty => exact .inl ⟨hempty, rfl⟩
  · next hlt =>
      split
      · next houtside => exact .inr (.inl ⟨Int.not_le.mp hlt, houtside, rfl⟩)
      · next hinside =>
          refine .inr (.inr ⟨⟨?_, Int.not_le.mp hlt, ?_⟩, rfl⟩) <;> omega

theorem checkSpan_eq_ok_iff {span : Span} : checkSpan span = .ok () ↔ span.InWeek := by
  rcases checkSpan_cases span with
    ⟨hempty, hspan⟩ | ⟨hlt, houtside, hspan⟩ | ⟨hinside, hspan⟩ <;> rw [hspan]
  · exact iff_of_false nofun fun hinside => Int.not_lt.mpr hempty hinside.2.1
  · refine iff_of_false nofun fun hinside => ?_
    rcases houtside with hbefore | hlate
    · exact Int.not_lt.mpr hinside.1 hbefore
    · exact Int.not_lt.mpr hlate hinside.2.2
  · exact iff_of_true rfl hinside

/-! ## Ordinary refusals -/

theorem brief_toMinute (time : WeekTime) : FacilityBooking.Brief time.toMinute := by
  have hday := time.day.number_lt
  have hhour := time.hour.toNat_lt
  have hminute := time.minute.toNat_lt
  have hdayMinutes : minutesPerDay = 1440 := rfl
  have hhourMinutes : minutesPerHour = 60 := rfl
  rw [FacilityBooking.Brief, WeekTime.toMinute, hdayMinutes, hhourMinutes]
  change _ < 10000000000
  omega

theorem brief_clampMinute (minute : Int) : FacilityBooking.Brief (clampMinute minute) := by
  unfold FacilityBooking.Brief clampMinute
  change _ < 10000000000
  omega

theorem ordinary_of_ensure {ledger : Ledger} {facility : String} {refusal : Refusal}
    (hensure : ledger.ensure facility = .error refusal) : refusal.Ordinary := by
  rcases ledger.ensure_cases facility with
    ⟨-, herror⟩ | ⟨-, herror⟩ | ⟨-, ⟨-, -, herror⟩ | ⟨-, opened, hopened⟩⟩
  · cases herror.symm.trans hensure
    trivial
  · cases herror.symm.trans hensure
    trivial
  · cases herror.symm.trans hensure
    trivial
  · cases hopened.symm.trans hensure

theorem ordinary_of_checkUser {user : String} {refusal : Refusal}
    (hcheck : checkUser user = .error refusal) : refusal.Ordinary := by
  rcases checkUser_cases user with ⟨-, huser⟩ | ⟨-, huser⟩ | ⟨-, huser⟩ <;>
    cases huser.symm.trans hcheck
  · trivial
  · trivial

theorem ordinary_of_checkSpan {span : Span} {refusal : Refusal}
    (hcheck : checkSpan span = .error refusal) (hstart : FacilityBooking.Brief span.start)
    (hstop : FacilityBooking.Brief span.stop) : refusal.Ordinary := by
  rcases checkSpan_cases span with ⟨-, hspan⟩ | ⟨-, -, hspan⟩ | ⟨-, hspan⟩ <;>
    cases hspan.symm.trans hcheck
  · exact ⟨hstart, hstop⟩
  · exact ⟨hstart, hstop⟩

/-! ## One operation -/

/-- A booking is refused, or it joins the ledger under the next number at a place
where it overlaps nothing. -/
theorem book_cases (hconsistent : desk.ledger.Consistent) (facility user : String)
    (start stop : WeekTime) :
    (∃ refusal, refusal.Ordinary ∧ desk.book facility user start stop = (.error refusal, desk)) ∨
      ∃ ledger, desk.ledger.ensure facility = .ok ledger ∧
        Span.InWeek ⟨start.toMinute, stop.toMinute⟩ ∧
        (∀ slot ∈ desk.ledger.slotsOf facility,
          ¬ slot.span.overlaps ⟨start.toMinute, stop.toMinute⟩) ∧
        desk.book facility user start stop = (.ok desk.ledger.nextId, { desk with
          ledger := ledger.added (ledger.timetables.getD facility ⟨facility, []⟩)
            ⟨desk.ledger.nextId, facility, user, ⟨start.toMinute, stop.toMinute⟩⟩ }) := by
  unfold book
  cases huser : checkUser user with
  | error refusal => exact .inl ⟨refusal, ordinary_of_checkUser huser, rfl⟩
  | ok =>
      dsimp only
      cases hspan : checkSpan ⟨start.toMinute, stop.toMinute⟩ with
      | error refusal =>
          have hordinary := ordinary_of_checkSpan hspan (brief_toMinute start) (brief_toMinute stop)
          exact .inl ⟨refusal, hordinary, rfl⟩
      | ok =>
          cases hensure : desk.ledger.ensure facility with
          | error refusal => exact .inl ⟨refusal, ordinary_of_ensure hensure, rfl⟩
          | ok ledger =>
              have hslots := Ledger.slotsOf_ensure hensure facility
              have htidy := hconsistent.tidy facility
              have hsorted : Timetable.Sorted
                  (ledger.timetables.getD facility ⟨facility, []⟩).slots := by
                rw [Ledger.getD_slots, hslots]
                exact htidy.sorted
              dsimp only [SeqRight.seqRight, Except.bind, bind]
              cases hconflict : (ledger.timetables.getD facility ⟨facility, []⟩).firstConflict?
                  ⟨start.toMinute, stop.toMinute⟩ none with
              | some other =>
                  -- A facility with a conflict was there before.
                  obtain ⟨slot, hslot, -⟩ := Timetable.firstConflict?_eq_some hsorted hconflict
                  rw [Ledger.getD_slots, hslots] at hslot
                  refine .inl ⟨.conflict other, trivial, ?_⟩
                  rw [Ledger.ensure_eq_self hensure hslot]
              | none =>
                  rw [Timetable.firstConflict?_eq_none_iff hsorted, Ledger.getD_slots,
                    hslots] at hconflict
                  have hroom : (ledger.slotsOf facility).length < Limits.bookingsPerFacility := by
                    rw [hslots]
                    exact htidy.length_lt
                  have hinsert : ledger.allocate.2.insert
                      ⟨ledger.nextId, facility, user, ⟨start.toMinute, stop.toMinute⟩⟩ = _ :=
                    Ledger.insert_allocated hensure hroom
                  refine .inr ⟨ledger, rfl, checkSpan_eq_ok_iff.mp hspan, ?_, ?_⟩
                  · intro slot hslot
                    exact hconflict slot hslot (Option.some_ne_none _)
                  · rw [← Ledger.nextId_ensure hensure]
                    dsimp only [Ledger.allocate] at hinsert ⊢
                    rw [hinsert]

/-- A booking is not moved, or it moves to a place where it overlaps no other one. -/
theorem change_cases (hconsistent : desk.ledger.Consistent) (id : BookingId) (offset : Int) :
    (∃ refusal, refusal.Ordinary ∧ desk.change id offset = (.error refusal, desk)) ∨
      ∃ booking timetable, desk.ledger.bookings[id]? = some booking ∧
        desk.ledger.timetables[booking.facility]? = some timetable ∧
        Span.InWeek ⟨booking.span.start + offset, booking.span.stop + offset⟩ ∧
        (∀ slot ∈ desk.ledger.slotsOf booking.facility, slot.booking ≠ id →
          ¬ slot.span.overlaps ⟨booking.span.start + offset, booking.span.stop + offset⟩) ∧
        desk.change id offset =
          (.ok ⟨id, booking.facility, booking.span,
            ⟨booking.span.start + offset, booking.span.stop + offset⟩⟩, { desk with
          ledger := desk.ledger.moved timetable booking id
            ⟨booking.span.start + offset, booking.span.stop + offset⟩ }) := by
  unfold change
  cases hbooking : desk.ledger.bookings[id]? with
  | none => exact .inl ⟨.notFound id, trivial, rfl⟩
  | some booking =>
      obtain ⟨timetable, htimetable⟩ := hconsistent.timetable_of_booking hbooking
      dsimp only
      split
      · exact .inl ⟨.outsideWeek _ _, ⟨brief_clampMinute _, brief_clampMinute _⟩, rfl⟩
      · next hinside =>
          have hspan := hconsistent.span_inWeek hbooking
          have hslots := Ledger.slotsOf_of_getElem? htimetable
          have hsorted : Timetable.Sorted timetable.slots :=
            hslots ▸ (hconsistent.tidy booking.facility).sorted
          rw [htimetable]
          dsimp only at hinside ⊢
          cases hconflict : timetable.firstConflict?
              ⟨booking.span.start + offset, booking.span.stop + offset⟩ (some id) with
          | some other => exact .inl ⟨.conflict other, trivial, rfl⟩
          | none =>
              rw [Timetable.firstConflict?_eq_none_iff hsorted, ← hslots] at hconflict
              rw [Ledger.move_eq hbooking htimetable]
              refine .inr ⟨booking, timetable, rfl, htimetable, ?_, ?_, rfl⟩
              · unfold Span.InWeek at hspan ⊢
                dsimp only
                omega
              · intro slot hslot hne
                exact hconflict slot hslot fun hsame => hne (Option.some.inj hsame)

/-- A facility that can be opened can be reset: the bookings of the day's slots are all there
to be removed. -/
theorem resetDay_of_ensure {facility : String} {opened : Ledger}
    (hconsistent : desk.ledger.Consistent) (hensure : desk.ledger.ensure facility = .ok opened)
    (day : Day) :
    ∃ removed ledger, desk.resetDay facility day = (.ok removed, { desk with ledger }) ∧
      opened.removeAll (((opened.slotsOf facility).filter fun slot =>
        Day.ofMinute? slot.span.start = some day).map (·.booking)) = (.ok removed, ledger) ∧
      removed.map some = ((opened.slotsOf facility).filter fun slot =>
        Day.ofMinute? slot.span.start = some day).map
          (fun slot => opened.bookings[slot.booking]?) ∧
      ledger.Consistent := by
  obtain ⟨removed, ledger, hremoved, hsame, hledger⟩ :=
    (hconsistent.ensure hensure).removeAll_slots (List.filter_sublist (p := fun slot : Slot =>
      decide (Day.ofMinute? slot.span.start = some day)))
  refine ⟨removed, ledger, ?_, hremoved, hsame, hledger⟩
  rw [resetDay, hensure]
  dsimp only
  rw [hremoved]

/-- A reset is refused because the facility has no timetable and cannot have one, or it
removes bookings. -/
theorem resetDay_cases (hconsistent : desk.ledger.Consistent) (facility : String) (day : Day) :
    (∃ refusal, refusal.Ordinary ∧ desk.resetDay facility day = (.error refusal, desk)) ∨
      ∃ removed ledger, desk.resetDay facility day = (.ok removed, { desk with ledger }) ∧
        ledger.Consistent := by
  cases hensure : desk.ledger.ensure facility with
  | error refusal => exact .inl ⟨refusal, ordinary_of_ensure hensure, by rw [resetDay, hensure]⟩
  | ok opened =>
      obtain ⟨removed, ledger, hreset, -, -, hledger⟩ := resetDay_of_ensure hconsistent hensure day
      exact .inr ⟨removed, ledger, hreset, hledger⟩

theorem incrementUsage_cases (desk : Desk) (facility : String) :
    (∃ refusal, refusal.Ordinary ∧ desk.incrementUsage facility = (.error refusal, desk)) ∨
      ∃ ledger, desk.ledger.ensure facility = .ok ledger ∧
        desk.incrementUsage facility = (.ok (desk.usageOf facility + 1),
          ⟨ledger, desk.usage.insert facility (desk.usageOf facility + 1)⟩) := by
  unfold incrementUsage
  cases hensure : desk.ledger.ensure facility with
  | error refusal => exact .inl ⟨refusal, ordinary_of_ensure hensure, rfl⟩
  | ok ledger => exact .inr ⟨ledger, rfl, rfl⟩

/-- A query opens the facility, and then always has an answer. -/
theorem queryDay_cases (desk : Desk) (facility : String) (day : Day) :
    (∃ refusal, refusal.Ordinary ∧ desk.queryDay facility day = (.error refusal, desk)) ∨
      ∃ ledger free, desk.ledger.ensure facility = .ok ledger ∧
        { desk with ledger }.freeOn facility day = .ok free ∧
        desk.queryDay facility day = (.ok free, { desk with ledger }) := by
  unfold queryDay
  cases hensure : desk.ledger.ensure facility with
  | error refusal => exact .inl ⟨refusal, ordinary_of_ensure hensure, rfl⟩
  | ok ledger =>
      obtain ⟨free, hfree, -⟩ := freeOn_eq_ok { desk with ledger } facility day
      refine .inr ⟨ledger, free, rfl, hfree, ?_⟩
      dsimp only
      rw [hfree]

end Desk

end FacilityBooking
