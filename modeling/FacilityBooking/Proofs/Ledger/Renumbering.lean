import FacilityBooking.Desk.Availability
import FacilityBooking.Ledger.Basic
import Mathlib.Data.List.Find

/-!
# Other numbers for bookings

What a timetable tells about time does not depend on the numbers of the bookings. Under
other numbers it tells the same bookings by these numbers, if no two bookings of it share
one.
-/

namespace FacilityBooking

def Slot.renumbered (rank : BookingId → BookingId) (slot : Slot) : Slot :=
  { slot with booking := rank slot.booking }

def Timetable.renumbered (rank : BookingId → BookingId) (timetable : Timetable) : Timetable :=
  { timetable with slots := timetable.slots.map (Slot.renumbered rank) }

def Booking.renumbered (rank : BookingId → BookingId) (booking : Booking) : Booking :=
  { booking with id := rank booking.id }

def Fault.renumbered (rank : BookingId → BookingId) : Fault → Fault
  | orphan booking => orphan (rank booking)
  | unscheduled cause => unscheduled cause

def Refusal.renumbered (rank : BookingId → BookingId) : Refusal → Refusal
  | notFound booking => notFound (rank booking)
  | conflict booking => conflict (rank booking)
  | internal fault => internal (fault.renumbered rank)
  | refusal => refusal

namespace Timetable

variable {rank : BookingId → BookingId} {timetable : Timetable} {id : BookingId}

theorem place_renumbered (rank : BookingId → BookingId) (slot : Slot) (slots : List Slot) :
    place (slot.renumbered rank) (slots.map (Slot.renumbered rank)) =
      (place slot slots).map (Slot.renumbered rank) := by
  induction slots with
  | nil => rfl
  | cons first rest ih =>
      have hnext : (rest.map (Slot.renumbered rank)).head?.any
          (fun next => next.span.start ≤ (slot.renumbered rank).span.start) =
          rest.head?.any fun next => next.span.start ≤ slot.span.start := by
        cases rest <;> rfl
      rw [List.map_cons, place, place, hnext]
      split
      · rw [ih, List.map_cons]
      · by_cases hstart : first.span.start < slot.span.start
        · rw [if_pos hstart]
          exact if_pos hstart
        · rw [if_neg hstart]
          exact if_neg hstart

theorem insert_renumbered (rank : BookingId → BookingId) (timetable : Timetable) (span : Span)
    (id : BookingId) :
    (timetable.renumbered rank).insert span (rank id) =
      (timetable.insert span id).renumbered rank :=
  congrArg (Timetable.mk timetable.facility) (place_renumbered rank ⟨span, id⟩ timetable.slots)

/-- A slot is taken away under the other number of its booking, if no other slot has it. -/
theorem erase_renumbered (hapart : ∀ slot ∈ timetable.slots,
      rank slot.booking = rank id → slot.booking = id) :
    (timetable.renumbered rank).erase (rank id) = (timetable.erase id).renumbered rank := by
  obtain ⟨facility, slots⟩ := timetable
  refine congrArg (Timetable.mk facility) ?_
  dsimp only [renumbered, erase] at hapart ⊢
  induction slots with
  | nil => rfl
  | cons first rest ih =>
      have hrest := ih fun slot hslot => hapart slot (.tail _ hslot)
      by_cases hsame : first.booking = id
      · rw [List.map_cons, List.eraseP_cons_of_pos, List.eraseP_cons_of_pos]
        · exact decide_eq_true hsame
        · exact decide_eq_true (congrArg rank hsame)
      · have hother : rank first.booking ≠ rank id := fun heq =>
          hsame (hapart first (.head _) heq)
        rw [List.map_cons, List.eraseP_cons_of_neg, List.eraseP_cons_of_neg, hrest,
          List.map_cons]
        · exact fun htrue => hsame (of_decide_eq_true htrue)
        · exact fun htrue => hother (of_decide_eq_true htrue)

theorem overlapping_renumbered (rank : BookingId → BookingId) (timetable : Timetable)
    (query : Span) :
    (timetable.renumbered rank).overlapping query =
      (timetable.overlapping query).map (Slot.renumbered rank) := by
  simp only [overlapping, renumbered, List.takeWhile_map, List.filter_map]
  rfl

theorem mem_of_mem_overlapping {query : Span} {slot : Slot}
    (hslot : slot ∈ timetable.overlapping query) : slot ∈ timetable.slots :=
  (List.takeWhile_sublist _).subset (List.mem_filter.mp hslot).1

/-- A conflict is with the same booking under its other number, if that of the exception
is not shared. -/
theorem firstConflict?_renumbered (span : Span) {except : Option BookingId}
    (hapart : ∀ slot ∈ timetable.slots, ∀ id, except = some id →
      rank slot.booking = rank id → slot.booking = id) :
    (timetable.renumbered rank).firstConflict? span (except.map rank) =
      (timetable.firstConflict? span except).map rank := by
  rw [firstConflict?, overlapping_renumbered, List.find?_map, firstConflict?, Option.map_map,
    Option.map_map]
  have hsame : ∀ slot ∈ timetable.overlapping span,
      ((fun slot : Slot => decide (some slot.booking ≠ except.map rank) &&
        slot.span.overlaps span) ∘ Slot.renumbered rank) slot =
      (decide (some slot.booking ≠ except) && slot.span.overlaps span) := by
    intro slot hslot
    have hexcept : some (rank slot.booking) = except.map rank ↔ some slot.booking = except := by
      cases except with
      | none => simp
      | some id =>
          simp only [Option.map_some, Option.some.injEq]
          exact ⟨hapart slot (mem_of_mem_overlapping hslot) id rfl, congrArg rank⟩
    simp only [Function.comp_apply, Slot.renumbered, ne_eq, hexcept]
  rw [List.find?_congr hsame]
  rfl

end Timetable

/-- The free time does not depend on the numbers of the bookings. -/
theorem Availability.freeSpans_renumbered (rank : BookingId → BookingId)
    (timetable : Option Timetable) (day : Day) :
    freeSpans (timetable.map (Timetable.renumbered rank)) day = freeSpans timetable day := by
  cases timetable with
  | none => rfl
  | some timetable =>
      simp only [freeSpans, Option.map_some, Timetable.overlapping_renumbered]
      cases timetable.overlapping day.window with
      | nil => rfl
      | cons first rest => simp only [List.map_cons, List.map_map]; rfl

end FacilityBooking
