import FacilityBooking.Proofs.Desk.Operations
import Mathlib.Data.List.Basic

/-!
# Bookings before and after an operation

An operation that succeeds changes few bookings: booking adds one, a change moves one, and
a reset removes those of the facility that start on the day. All others stay as they are.
-/

namespace FacilityBooking

namespace Ledger

variable {ledger after : Ledger} {facility : String}

/-- The bookings of a facility are those that name it. -/
theorem mem_bookingsOf_iff (hconsistent : ledger.Consistent) {booking : Booking} :
    booking ∈ ledger.bookingsOf facility ↔
      ledger.bookings[booking.id]? = some booking ∧ booking.facility = facility := by
  simp only [bookingsOf, List.mem_filterMap]
  constructor
  · rintro ⟨slot, hslot, hbooking⟩
    obtain ⟨found, hfound, -, hfacility⟩ := (hconsistent.listed facility slot).mp hslot
    rw [hbooking] at hfound
    cases hfound
    rw [hconsistent.numbered _ booking hbooking]
    exact ⟨hbooking, hfacility⟩
  · rintro ⟨hbooking, rfl⟩
    exact ⟨_, hconsistent.slot_mem hbooking, hbooking⟩

theorem bookings_remove? {id : BookingId} {booking : Booking}
    (hremoved : ledger.remove? id = some (booking, after)) (other : BookingId) :
    after.bookings[other]? = if id = other then none else ledger.bookings[other]? := by
  unfold remove? at hremoved
  split at hremoved
  · cases hremoved
  · cases hremoved
    simp only [Std.ExtTreeMap.getElem?_erase, Std.LawfulEqCmp.compare_eq_iff_eq]

/-- Removal takes away the bookings of the given numbers, and no others. -/
theorem bookings_removeAll {ids : List BookingId} {removed : List Booking}
    (hremoved : ledger.removeAll ids = (.ok removed, after)) (id : BookingId) :
    after.bookings[id]? = if id ∈ ids then none else ledger.bookings[id]? := by
  induction ids generalizing ledger removed with
  | nil =>
      cases hremoved
      rfl
  | cons first rest ih =>
      rw [removeAll] at hremoved
      cases hfirst : ledger.remove? first with
      | none =>
          rw [hfirst] at hremoved
          cases hremoved
      | some found =>
          obtain ⟨booking, dropped⟩ := found
          rw [hfirst] at hremoved
          dsimp only at hremoved
          cases hrest : dropped.removeAll rest with
          | mk outcome last =>
              rw [hrest] at hremoved
              cases outcome with
              | error refusal => cases hremoved
              | ok others =>
                  cases hremoved
                  rw [ih hrest, bookings_remove? hfirst]
                  by_cases hsame : first = id
                  · rw [if_pos hsame, ite_self, if_pos (List.mem_cons.mpr (.inl hsame.symm))]
                  · rw [if_neg hsame]
                    simp only [List.mem_cons, Ne.symm hsame, false_or]

end Ledger

/-- Looking up the elements with a property gives the values with that property, if a
value has it whenever its element has. -/
theorem filter_filterMap_eq {α β : Type} {list : List α} {lookUp : α → Option β}
    {wanted : α → Bool} {property : β → Bool}
    (hfound : ∀ element ∈ list, ∃ value, lookUp element = some value ∧
      property value = wanted element) :
    ((list.filterMap lookUp).filter property).map some = (list.filter wanted).map lookUp := by
  induction list with
  | nil => rfl
  | cons first rest ih =>
      obtain ⟨value, hvalue, hsame⟩ := hfound first (.head _)
      have hrest := ih fun element helement => hfound element (.tail _ helement)
      rw [List.filterMap_cons_some hvalue, List.filter_cons, List.filter_cons, hsame]
      split
      · rw [List.map_cons, List.map_cons, hrest, hvalue]
      · exact hrest

namespace Desk

variable {desk after : Desk} {facility user : String}

theorem book_eq_ok (hconsistent : desk.ledger.Consistent) {start stop : WeekTime}
    {id : BookingId} (hbook : desk.book facility user start stop = (.ok id, after)) :
    id = desk.ledger.nextId ∧ ∀ other : BookingId, after.ledger.bookings[other]? =
      if id = other then some ⟨id, facility, user, ⟨start.toMinute, stop.toMinute⟩⟩
      else desk.ledger.bookings[other]? := by
  rcases book_cases hconsistent facility user start stop with
    ⟨refusal, -, hrefused⟩ | ⟨ledger, hensure, -, -, hbooked⟩
  · rw [hrefused] at hbook
    cases hbook
  · rw [hbooked] at hbook
    cases hbook
    refine ⟨rfl, fun other => ?_⟩
    simp only [Ledger.added, Ledger.bookings_ensure hensure, Std.ExtTreeMap.getElem?_insert,
      Std.LawfulEqCmp.compare_eq_iff_eq]

theorem change_eq_ok (hconsistent : desk.ledger.Consistent) {id : BookingId} {offset : Int}
    {shift : Shift} (hchange : desk.change id offset = (.ok shift, after)) :
    ∃ booking, desk.ledger.bookings[id]? = some booking ∧ shift.facility = booking.facility ∧
      shift.source = booking.span ∧ shift.target.InWeek ∧
      ∀ other : BookingId, after.ledger.bookings[other]? =
        if id = other then some { booking with span := shift.target }
        else desk.ledger.bookings[other]? := by
  rcases change_cases hconsistent id offset with
    ⟨refusal, -, hrefused⟩ | ⟨booking, timetable, hbooking, -, hinside, -, hchanged⟩
  · rw [hrefused] at hchange
    cases hchange
  · rw [hchanged] at hchange
    cases hchange
    refine ⟨booking, hbooking, rfl, rfl, hinside, fun other => ?_⟩
    simp only [Ledger.moved, Std.ExtTreeMap.getElem?_insert, Std.LawfulEqCmp.compare_eq_iff_eq]

/-- A reset returns the bookings of the facility that start on the day, in the order of
their starts, and these are gone afterwards. -/
theorem resetDay_eq_ok (hconsistent : desk.ledger.Consistent) {day : Day}
    {removed : List Booking} (hreset : desk.resetDay facility day = (.ok removed, after)) :
    removed = (desk.ledger.bookingsOf facility).filter (fun booking =>
        Day.ofMinute? booking.span.start = some day) ∧
      ∀ id : BookingId, after.ledger.bookings[id]? =
        if ∃ booking ∈ removed, booking.id = id then none else desk.ledger.bookings[id]? := by
  cases hensure : desk.ledger.ensure facility with
  | error refusal =>
      rw [resetDay, hensure] at hreset
      cases hreset
  | ok opened =>
      have hbookings := Ledger.bookings_ensure hensure
      obtain ⟨found, ledger, hdone, hfound, hsame, -⟩ := resetDay_of_ensure hconsistent hensure day
      cases hdone.symm.trans hreset
      rw [hbookings] at hsame
      rw [Ledger.slotsOf_ensure hensure] at hsame hfound
      refine ⟨?_, fun id => ?_⟩
      · apply List.map_injective_iff.mpr fun _ _ => Option.some.inj
        rw [hsame]
        refine (filter_filterMap_eq fun slot hslot => ?_).symm
        obtain ⟨booking, hbooking, hspan, -⟩ := (hconsistent.listed facility slot).mp hslot
        exact ⟨booking, hbooking, by rw [hspan]⟩
      · rw [Ledger.bookings_removeAll hfound, hbookings]
        congr 1
        rw [List.mem_map, eq_iff_iff]
        constructor
        · rintro ⟨slot, hslot, rfl⟩
          have hmem : desk.ledger.bookings[slot.booking]? ∈ removed.map some := by
            rw [hsame]
            exact List.mem_map_of_mem hslot
          obtain ⟨booking, hbooking, hlookUp⟩ := List.mem_map.mp hmem
          exact ⟨booking, hbooking, hconsistent.numbered _ booking hlookUp.symm⟩
        · rintro ⟨booking, hbooking, rfl⟩
          have hmem : some booking ∈ removed.map some := List.mem_map_of_mem hbooking
          rw [hsame] at hmem
          obtain ⟨slot, hslot, hlookUp⟩ := List.mem_map.mp hmem
          exact ⟨slot, hslot, (hconsistent.numbered _ booking hlookUp).symm⟩

end Desk

end FacilityBooking
