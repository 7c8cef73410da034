import FacilityBooking.Ledger.Refusal

/-!
# Timetables

The bookings of one facility as slots in the order of their starts. Insertion
keeps the order, and a look-up of overlapping slots stops at the first slot that
starts too late.
-/

namespace FacilityBooking

/-- The span of a booking on a timetable. -/
structure Slot where
  span : Span
  booking : BookingId
  deriving DecidableEq, Repr

structure Timetable where
  facility : String
  slots : List Slot := []
  deriving DecidableEq, Repr

namespace Timetable

/-- The slots with one more at its place: behind every slot that starts earlier,
and before the last of those that start at the same minute. -/
def place (slot : Slot) : List Slot → List Slot
  | [] => [slot]
  | first :: rest =>
      if rest.head?.any fun next => next.span.start ≤ slot.span.start then
        first :: place slot rest
      else if first.span.start < slot.span.start then first :: slot :: rest
      else slot :: first :: rest

def insert (timetable : Timetable) (span : Span) (booking : BookingId) : Timetable :=
  { timetable with slots := place ⟨span, booking⟩ timetable.slots }

/-- The span of the first slot of a booking. -/
def spanOf? (timetable : Timetable) (booking : BookingId) : Option Span :=
  (timetable.slots.find? fun slot => slot.booking = booking).map (·.span)

/-- The timetable without the first slot of a booking. -/
def erase (timetable : Timetable) (booking : BookingId) : Timetable :=
  { timetable with slots := timetable.slots.eraseP fun slot => slot.booking = booking }

/-- The slots that start before the query ends and end after it starts. -/
def overlapping (timetable : Timetable) (query : Span) : List Slot :=
  (timetable.slots.takeWhile fun slot => slot.span.start < query.stop).filter
    fun slot => query.start < slot.span.stop

/-- The first booking whose slot overlaps a span; the booking `except` does not count. -/
def firstConflict? (timetable : Timetable) (span : Span) (except : Option BookingId) :
    Option BookingId :=
  ((timetable.overlapping span).find? fun slot =>
    some slot.booking ≠ except && slot.span.overlaps span).map (·.booking)

/-- The slots stand in the order of their starts. -/
def Sorted (slots : List Slot) : Prop :=
  slots.Pairwise fun earlier later => earlier.span.start ≤ later.span.start

theorem place_perm (slot : Slot) (slots : List Slot) :
    (place slot slots).Perm (slot :: slots) := by
  induction slots with
  | nil => exact .refl _
  | cons first rest ih =>
      unfold place
      split
      · exact (ih.cons first).trans (.swap slot first rest)
      · split
        · exact .swap slot first rest
        · exact .refl _

theorem mem_place {slot other : Slot} {slots : List Slot} :
    other ∈ place slot slots ↔ other = slot ∨ other ∈ slots := by
  rw [(place_perm slot slots).mem_iff, List.mem_cons]

theorem place_sorted {slot : Slot} {slots : List Slot} (hsorted : Sorted slots) :
    Sorted (place slot slots) := by
  induction slots with
  | nil => exact List.pairwise_singleton _ _
  | cons first rest ih =>
      obtain ⟨hfirst, hrest⟩ := List.pairwise_cons.mp hsorted
      unfold place
      split
      · next hnext =>
          refine List.pairwise_cons.mpr ⟨?_, ih hrest⟩
          intro other hother
          rcases mem_place.mp hother with rfl | hother
          · cases rest with
            | nil => simp at hnext
            | cons next tail =>
                exact Int.le_trans (hfirst next (.head _)) (by simpa using hnext)
          · exact hfirst other hother
      · next hnext =>
          have hlater : ∀ other ∈ rest, slot.span.start < other.span.start := by
            intro other hother
            cases rest with
            | nil => cases hother
            | cons next tail =>
                have hnext' : slot.span.start < next.span.start := by
                  simpa using hnext
                rcases List.mem_cons.mp hother with rfl | htail
                · exact hnext'
                · exact Int.lt_of_lt_of_le hnext'
                    ((List.pairwise_cons.mp hrest).1 other htail)
          split
          · next hlt =>
              refine List.pairwise_cons.mpr ⟨?_, List.pairwise_cons.mpr
                ⟨fun other hother => Int.le_of_lt (hlater other hother), hrest⟩⟩
              intro other hother
              rcases List.mem_cons.mp hother with rfl | hother
              · exact Int.le_of_lt hlt
              · exact hfirst other hother
          · next hlt =>
              refine List.pairwise_cons.mpr ⟨?_, hsorted⟩
              intro other hother
              rcases List.mem_cons.mp hother with rfl | hother
              · omega
              · exact Int.le_of_lt (hlater other hother)

end Timetable

end FacilityBooking
