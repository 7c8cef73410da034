import FacilityBooking.Proofs.Desk.Turns
import Mathlib.Data.List.Nodup

/-!
# Obstacles to a booking

What can stand in the way of a booking, and in which order it is looked for. A booking is
refused for the first obstacle, and made if there is none: nothing else stops it, neither a
start before the week nor a facility that holds too many bookings.
-/

namespace FacilityBooking

namespace Timetable

/-- Of the slots that count and overlap a span, the first conflict is the one that starts
earliest. -/
theorem firstConflict?_least {timetable : Timetable} (hsorted : Sorted timetable.slots)
    {span : Span} {except : Option BookingId} {booking : BookingId}
    (hfound : timetable.firstConflict? span except = some booking) :
    ∃ slot ∈ timetable.slots, slot.booking = booking ∧ some slot.booking ≠ except ∧
      slot.span.overlaps span ∧ ∀ other ∈ timetable.slots, some other.booking ≠ except →
        other.span.overlaps span → slot.span.start ≤ other.span.start := by
  obtain ⟨earlier, slot, later, hslots, hbooking, hcounts, hoverlaps, hnone⟩ :=
    (firstConflict?_eq_some_iff hsorted).mp hfound
  rw [hslots] at hsorted ⊢
  refine ⟨slot, List.mem_append_right _ (.head _), hbooking, hcounts, hoverlaps, ?_⟩
  intro other hother hotherCounts hreaches
  rcases List.mem_append.mp hother with hother | hother
  · exact absurd hreaches (hnone other hother hotherCounts)
  · rcases List.mem_cons.mp hother with rfl | hother
    · exact Int.le_refl _
    · exact (List.pairwise_cons.mp (List.pairwise_append.mp hsorted).2.1).1 other hother

/-- Of the slots that overlap a span, the first conflict is the one that starts earliest. -/
theorem firstConflict?_earliest {timetable : Timetable} (hsorted : Sorted timetable.slots)
    {span : Span} {booking : BookingId}
    (hfound : timetable.firstConflict? span none = some booking) :
    ∃ slot ∈ timetable.slots, slot.booking = booking ∧ slot.span.overlaps span ∧
      ∀ other ∈ timetable.slots, other.span.overlaps span →
        slot.span.start ≤ other.span.start := by
  obtain ⟨slot, hslot, hbooking, -, hoverlaps, hleast⟩ := firstConflict?_least hsorted hfound
  exact ⟨slot, hslot, hbooking, hoverlaps, fun other hother =>
    hleast other hother (Option.some_ne_none _)⟩

theorem Tidy.eq_of_start_eq {slots : List Slot} (htidy : Tidy slots) {first second : Slot}
    (hfirst : first ∈ slots) (hsecond : second ∈ slots)
    (hsame : first.span.start = second.span.start) : first = second := by
  have hnodup : (slots.map (·.span.start)).Nodup :=
    List.pairwise_map.mpr (htidy.increasing.imp Int.ne_of_lt)
  exact List.inj_on_of_nodup_map hnodup hfirst hsecond hsame

end Timetable

namespace Desk

/-- What stands in the way of booking a span, with its place in the order in which obstacles
are looked for and with the refusal that it gives rise to. -/
inductive Obstacle (desk : Desk) (facility user : String) (span : Span) :
    Nat → Refusal → Prop where
  | unnamedUser (hempty : user.utf8ByteSize = 0) :
      Obstacle desk facility user span 0 (.emptyName .user)
  | longUser (hlong : 256 < user.utf8ByteSize) :
      Obstacle desk facility user span 1 (.limitExceeded .userName)
  | emptySpan (hempty : span.stop ≤ span.start) :
      Obstacle desk facility user span 2 (.emptySpan span)
  | outsideWeek (hlate : 10080 ≤ span.stop) :
      Obstacle desk facility user span 3 (.outsideWeek span.start span.stop)
  | unnamedFacility (hempty : facility.utf8ByteSize = 0) :
      Obstacle desk facility user span 4 (.emptyName .facility)
  | longFacility (hlong : 256 < facility.utf8ByteSize) :
      Obstacle desk facility user span 5 (.limitExceeded .facilityName)
  | noRoom (hnew : facility ∉ desk.ledger.timetables)
      (hfull : 10000 ≤ desk.ledger.timetables.size) :
      Obstacle desk facility user span 6 (.limitExceeded .facilities)
  /-- Of the bookings of the facility that overlap the span, this one starts earliest. -/
  | conflict {id : BookingId} {booking : Booking}
      (hbooking : desk.ledger.bookings[id]? = some booking)
      (hfacility : booking.facility = facility) (hoverlaps : booking.span.overlaps span)
      (hearliest : ∀ (other : BookingId) (found : Booking),
        desk.ledger.bookings[other]? = some found → found.facility = facility →
        found.span.overlaps span → booking.span.start ≤ found.span.start) :
      Obstacle desk facility user span 7 (.conflict id)

/-- The obstacle that is found first, by its refusal. -/
def FirstObstacle (desk : Desk) (facility user : String) (span : Span) (refusal : Refusal) :
    Prop :=
  ∃ place, desk.Obstacle facility user span place refusal ∧
    ∀ earlier other, desk.Obstacle facility user span earlier other → place ≤ earlier

end Desk

namespace Ledger

theorem exists_ensure_iff (ledger : Ledger) {facility : String} :
    (∃ opened, ledger.ensure facility = .ok opened) ↔
      1 ≤ facility.utf8ByteSize ∧ facility.utf8ByteSize ≤ 256 ∧
        (facility ∈ ledger.timetables ∨ ledger.timetables.size < 10000) := by
  rcases ledger.ensure_cases facility with
    ⟨hempty, herror⟩ | ⟨hlong, herror⟩ |
      ⟨⟨hname, hshort⟩, ⟨hnew, hfull, herror⟩ | ⟨hroom, hopened⟩⟩
  · rw [herror]
    exact iff_of_false nofun fun haccepted => by omega
  · rw [herror]
    exact iff_of_false nofun fun haccepted => by omega
  · rw [herror]
    exact iff_of_false nofun fun haccepted =>
      haccepted.2.2.elim hnew (Nat.not_lt_of_le hfull)
  · exact iff_of_true hopened ⟨hname, hshort, hroom⟩

end Ledger

namespace Desk

variable {desk : Desk} {facility user : String} {span : Span} {start stop : WeekTime}

theorem toMinute_nonneg (time : WeekTime) : 0 ≤ time.toMinute := by
  have hday : minutesPerDay = 1440 := rfl
  have hhour : minutesPerHour = 60 := rfl
  rw [WeekTime.toMinute, hday, hhour]
  omega

/-- The slots of a facility that overlap a span are its bookings that do. -/
theorem conflict_of_slot (hconsistent : desk.ledger.Consistent) {slot : Slot}
    (hslot : slot ∈ desk.ledger.slotsOf facility) (hoverlaps : slot.span.overlaps span)
    (hearliest : ∀ other ∈ desk.ledger.slotsOf facility, other.span.overlaps span →
      slot.span.start ≤ other.span.start) :
    desk.Obstacle facility user span 7 (.conflict slot.booking) := by
  obtain ⟨booking, hbooking, hspan, hfacility⟩ := (hconsistent.listed facility slot).mp hslot
  refine .conflict hbooking hfacility (hspan ▸ hoverlaps) ?_
  rintro other found hfound rfl hreaches
  rw [hspan]
  exact hearliest _ (hconsistent.slot_mem hfound) hreaches

/-- The checks of a booking find the first obstacle, or they leave nothing but a conflict to
stand in its way. -/
theorem checks_cases (desk : Desk) (facility user : String) (hstart : 0 ≤ span.start) :
    (∃ refusal, (checkUser user *> checkSpan span *> desk.ledger.ensure facility) =
        .error refusal ∧ desk.FirstObstacle facility user span refusal) ∨
      checkUser user = .ok () ∧ checkSpan span = .ok () ∧
        (∃ ledger, desk.ledger.ensure facility = .ok ledger) ∧
        ∀ place refusal, desk.Obstacle facility user span place refusal → 7 ≤ place := by
  rcases checkUser_cases user with
    ⟨hempty, huser⟩ | ⟨hlong, huser⟩ | ⟨⟨hnamed, hshort⟩, huser⟩ <;> rw [huser]
  · exact .inl ⟨_, rfl, 0, .unnamedUser hempty, fun _ _ _ => Nat.zero_le _⟩
  · exact .inl ⟨_, rfl, 1, .longUser hlong, fun _ _ hother => by cases hother <;> omega⟩
  have hweek : minutesPerWeek = 10080 := rfl
  rcases checkSpan_cases span with
    ⟨hempty, hspan⟩ | ⟨hlt, houtside, hspan⟩ | ⟨⟨-, hlt, hinside⟩, hspan⟩ <;> rw [hspan]
  · exact .inl ⟨_, rfl, 2, .emptySpan hempty, fun _ _ hother => by cases hother <;> omega⟩
  · -- A span that does not start before the week can only leave it at its end.
    have hlate := houtside.resolve_left (Int.not_lt.mpr hstart)
    exact .inl ⟨_, rfl, 3, .outsideWeek hlate, fun _ _ hother => by cases hother <;> omega⟩
  rcases desk.ledger.ensure_cases facility with
    ⟨hempty, hensure⟩ | ⟨hlong, hensure⟩ |
    ⟨⟨hnameable, hbrief⟩, ⟨hnew, hfull, hensure⟩ | ⟨hroom, ledger, hensure⟩⟩ <;> rw [hensure]
  · exact .inl ⟨_, rfl, 4, .unnamedFacility hempty, fun _ _ hother => by cases hother <;> omega⟩
  · exact .inl ⟨_, rfl, 5, .longFacility hlong, fun _ _ hother => by cases hother <;> omega⟩
  · exact .inl ⟨_, rfl, 6, .noRoom hnew hfull, fun _ _ hother => by cases hother <;> omega⟩
  · refine .inr ⟨rfl, rfl, ⟨ledger, rfl⟩, fun _ _ hother => ?_⟩
    cases hother with
    | noRoom hnew hfull => exact absurd hfull (Nat.not_le.mpr (hroom.resolve_left hnew))
    | _ => omega

/-- A booking is refused for the first obstacle, which changes nothing, or there is none and
the booking joins the ledger. -/
theorem book_or_obstacle (hconsistent : desk.ledger.Consistent) (facility user : String)
    (start stop : WeekTime) :
    (∃ refusal, desk.FirstObstacle facility user ⟨start.toMinute, stop.toMinute⟩ refusal ∧
        desk.book facility user start stop = (.error refusal, desk)) ∨
      (∀ place refusal,
        ¬ desk.Obstacle facility user ⟨start.toMinute, stop.toMinute⟩ place refusal) ∧
        ∃ ledger, desk.ledger.ensure facility = .ok ledger ∧
          desk.book facility user start stop = (.ok desk.ledger.nextId, { desk with
            ledger := ledger.added (ledger.timetables.getD facility ⟨facility, []⟩)
              ⟨desk.ledger.nextId, facility, user, ⟨start.toMinute, stop.toMinute⟩⟩ }) := by
  rcases @checks_cases ⟨start.toMinute, stop.toMinute⟩ desk facility user
      (toMinute_nonneg start) with
    ⟨refusal, hcheck, hfirst⟩ | ⟨huser, hspan, ⟨ledger, hensure⟩, hlast⟩
  · exact .inl ⟨refusal, hfirst, by rw [book, hcheck]⟩
  have hslots := Ledger.slotsOf_ensure hensure facility
  have hsorted : Timetable.Sorted (ledger.timetables.getD facility ⟨facility, []⟩).slots := by
    rw [Ledger.getD_slots, hslots]
    exact (hconsistent.tidy facility).sorted
  rw [book_of_ensure hconsistent huser hspan hensure]
  cases hconflict : (ledger.timetables.getD facility ⟨facility, []⟩).firstConflict?
      ⟨start.toMinute, stop.toMinute⟩ none with
  | some id =>
      obtain ⟨slot, hslot, rfl, hoverlaps, hearliest⟩ :=
        Timetable.firstConflict?_earliest hsorted hconflict
      rw [Ledger.getD_slots, hslots] at hslot hearliest
      have hobstacle : desk.Obstacle facility user ⟨start.toMinute, stop.toMinute⟩ 7
          (.conflict slot.booking) := conflict_of_slot hconsistent hslot hoverlaps hearliest
      exact .inl ⟨_, ⟨7, hobstacle, hlast⟩, by rw [Ledger.ensure_eq_self hensure hslot]⟩
  | none =>
      rw [Timetable.firstConflict?_eq_none_iff hsorted, Ledger.getD_slots, hslots] at hconflict
      refine .inr ⟨fun place refusal hother => ?_, ledger, hensure, ?_⟩
      · have hplace := hlast place refusal hother
        cases hother with
        | conflict hbooking hfacility hoverlaps hearliest =>
            exact hconflict _ (hfacility ▸ hconsistent.slot_mem hbooking)
              (Option.some_ne_none _) hoverlaps
        | _ => omega
      · rw [Ledger.nextId_ensure hensure]

/-- There is only one first obstacle: of two bookings that start at the same minute, at most
one is a booking of the facility. -/
theorem FirstObstacle.unique (hconsistent : desk.ledger.Consistent) {first second : Refusal}
    (hfirst : desk.FirstObstacle facility user span first)
    (hsecond : desk.FirstObstacle facility user span second) : first = second := by
  obtain ⟨place, hobstacle, hleast⟩ := hfirst
  obtain ⟨other, hother, hotherLeast⟩ := hsecond
  obtain rfl : place = other :=
    Nat.le_antisymm (hleast _ _ hother) (hotherLeast _ _ hobstacle)
  cases hobstacle with
  | @conflict id booking hbooking hfacility hoverlaps hearliest =>
      cases hother with
      | @conflict otherId found hfound hfoundFacility hreaches hfoundEarliest =>
          have hstart : booking.span.start = found.span.start :=
            Int.le_antisymm (hearliest _ _ hfound hfoundFacility hreaches)
              (hfoundEarliest _ _ hbooking hfacility hoverlaps)
          have hslot := hconsistent.slot_mem hbooking
          have hfoundSlot := hconsistent.slot_mem hfound
          rw [hfacility] at hslot
          rw [hfoundFacility] at hfoundSlot
          have hsame := (hconsistent.tidy facility).eq_of_start_eq hslot hfoundSlot hstart
          rw [(Slot.mk.inj hsame).2]
  | _ => cases hother; rfl

/-- A booking is refused exactly for the first obstacle. -/
theorem book_refused_iff (hconsistent : desk.ledger.Consistent) (facility user : String)
    (start stop : WeekTime) (refusal : Refusal) :
    (desk.book facility user start stop).1 = .error refusal ↔
      desk.FirstObstacle facility user ⟨start.toMinute, stop.toMinute⟩ refusal := by
  rcases book_or_obstacle hconsistent facility user start stop with
    ⟨found, hfirst, hrefused⟩ | ⟨hnone, ledger, -, hbooked⟩
  · rw [hrefused]
    constructor
    · intro hsame
      cases hsame
      exact hfirst
    · intro hother
      rw [hfirst.unique hconsistent hother]
  · rw [hbooked]
    refine iff_of_false nofun ?_
    rintro ⟨place, hobstacle, -⟩
    exact hnone place refusal hobstacle

end Desk

end FacilityBooking
