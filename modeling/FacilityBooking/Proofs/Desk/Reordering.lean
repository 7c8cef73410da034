import FacilityBooking.Proofs.Desk.Alone
import FacilityBooking.Proofs.Desk.Facilities
import FacilityBooking.Proofs.Desk.Gaps

/-!
# Bookings in another order

Bookings of one facility that do not get in each other's way may come in any order: each of
them comes to what it would come to alone, and the facility is booked alike in the end, but
for the numbers of the bookings.
-/

namespace FacilityBooking

namespace Timetable

variable {slot : Slot} {slots : List Slot}

/-- A slot that is not looked for hides no other one, wherever it is placed. -/
theorem find?_place {wanted : Slot → Bool} (hslot : wanted slot = false) :
    (place slot slots).find? wanted = slots.find? wanted := by
  induction slots with
  | nil => exact List.find?_cons_of_neg (Bool.eq_false_iff.mp hslot)
  | cons first rest ih =>
      unfold place
      split
      · rw [List.find?_cons, List.find?_cons, ih]
      · split
        · rw [List.find?_cons, List.find?_cons, List.find?_cons, hslot]
        · rw [List.find?_cons, hslot]

end Timetable

namespace Ledger

variable {ledger after : Ledger} {facility : String}

/-- When a facility is booked and by whom, in the order of the starts. -/
def entries (ledger : Ledger) (facility : String) : List (Span × String) :=
  (ledger.bookingsOf facility).map fun booking => (booking.span, booking.user)

/-- The spans of the bookings are those of the slots. -/
theorem map_fst_entries (hconsistent : ledger.Consistent) (facility : String) :
    (ledger.entries facility).map Prod.fst = (ledger.slotsOf facility).map (·.span) := by
  have hlisted (slot : Slot) (hslot : slot ∈ ledger.slotsOf facility) :
      ∃ booking, ledger.bookings[slot.booking]? = some booking ∧ booking.span = slot.span := by
    obtain ⟨booking, hbooking, hspan, -⟩ := (hconsistent.listed facility slot).mp hslot
    exact ⟨booking, hbooking, hspan⟩
  rw [entries, bookingsOf, List.map_map]
  revert hlisted
  induction ledger.slotsOf facility with
  | nil => exact fun _ => rfl
  | cons first rest ih =>
      intro hlisted
      obtain ⟨booking, hbooking, hspan⟩ := hlisted first (.head _)
      have hrest := ih fun slot hslot => hlisted slot (.tail _ hslot)
      simp only [List.filterMap_cons, hbooking, List.map_cons, hrest, List.cons.injEq, and_true]
      exact hspan

theorem pairwise_entries (hconsistent : ledger.Consistent) (facility : String) :
    (ledger.entries facility).Pairwise fun earlier later =>
      earlier.1.start < later.1.start := by
  have hspans : ((ledger.entries facility).map Prod.fst).Pairwise fun earlier later =>
      earlier.start < later.start := by
    rw [map_fst_entries hconsistent, List.pairwise_map]
    exact (hconsistent.tidy facility).increasing
  rwa [List.pairwise_map] at hspans

/-- The order of the entries is that of their starts. -/
theorem entries_eq_of_perm (hconsistent : ledger.Consistent) (hafter : after.Consistent)
    (hperm : (after.entries facility).Perm (ledger.entries facility)) :
    after.entries facility = ledger.entries facility := by
  refine hperm.eq_of_pairwise ?_ (pairwise_entries hafter facility)
    (pairwise_entries hconsistent facility)
  intro first second _ _ hlt hgt
  exact absurd hlt (Int.lt_asymm hgt)

/-- The free time of a facility follows from its entries. -/
theorem freeSpans_eq_of_entries (hconsistent : ledger.Consistent) (hafter : after.Consistent)
    (hsame : after.entries facility = ledger.entries facility) (day : Day) :
    Availability.freeSpans after.timetables[facility]? day =
      Availability.freeSpans ledger.timetables[facility]? day := by
  have hspans : (after.slotsOf facility).map (·.span) = (ledger.slotsOf facility).map (·.span) := by
    rw [← map_fst_entries hafter, ← map_fst_entries hconsistent, hsame]
  have hon : after.spansOn facility day = ledger.spansOn facility day := by
    have hfilter (slots : List Slot) :
        (slots.filter fun slot => slot.span.overlaps day.window).map (·.span) =
          (slots.map (·.span)).filter fun span => span.overlaps day.window := by
      simp only [List.filter_map, Function.comp_def]
    rw [spansOn, spansOn, hfilter, hfilter, hspans]
  rw [freeSpans_eq_gaps (hafter.tidy facility), freeSpans_eq_gaps (hconsistent.tidy facility), hon]

/-- A booking under a new number leaves those of old slots to be looked up. -/
theorem filterMap_added {slots : List Slot} {bookings : Std.ExtTreeMap BookingId Booking}
    {booking : Booking} {id : BookingId} (hold : ∀ slot ∈ slots, slot.booking ≠ id) :
    (slots.filterMap fun slot => (bookings.insert id booking)[slot.booking]?) =
      slots.filterMap fun slot => bookings[slot.booking]? := by
  apply List.filterMap_congr
  intro slot hslot
  simp only [Std.ExtTreeMap.getElem?_insert, Std.LawfulEqCmp.compare_eq_iff_eq,
    if_neg (hold slot hslot).symm]

variable {timetable : Timetable} {booking : Booking}

theorem slotsOf_added (ledger : Ledger) (timetable : Timetable) (booking : Booking)
    (facility : String) :
    (ledger.added timetable booking).slotsOf facility =
      if booking.facility = facility then
        Timetable.place ⟨booking.span, booking.id⟩ timetable.slots
      else ledger.slotsOf facility :=
  slotsOf_insert ..

/-- No slot has the number that a booking gets next. -/
theorem ne_of_next (hconsistent : ledger.Consistent) (hid : booking.id = ledger.nextId)
    (facility : String) : ∀ slot ∈ ledger.slotsOf facility, slot.booking ≠ booking.id :=
  fun _ hslot hsame =>
    hconsistent.not_mem_of_unused (hid ▸ hconsistent.next_unused) hsame hslot

/-- A booking that is added joins those of its facility. -/
theorem bookingsOf_added_own (hconsistent : ledger.Consistent)
    (hid : booking.id = ledger.nextId)
    (htimetable : timetable.slots = ledger.slotsOf booking.facility) :
    ((ledger.added timetable booking).bookingsOf booking.facility).Perm
      (ledger.bookingsOf booking.facility ++ [booking]) := by
  have hnew : (ledger.added timetable booking).bookings[booking.id]? = some booking :=
    Std.ExtTreeMap.getElem?_insert_self
  rw [bookingsOf, slotsOf_added, if_pos rfl, htimetable]
  refine ((Timetable.place_perm ..).filterMap _).trans ?_
  simp only [List.filterMap_cons, hnew]
  refine .trans (.cons booking ?_) (List.perm_append_singleton ..).symm
  exact .of_eq (filterMap_added (ne_of_next hconsistent hid booking.facility))

theorem bookingsOf_added_other (hconsistent : ledger.Consistent)
    (hid : booking.id = ledger.nextId) (hother : booking.facility ≠ facility) :
    (ledger.added timetable booking).bookingsOf facility = ledger.bookingsOf facility := by
  rw [bookingsOf, slotsOf_added, if_neg hother]
  exact filterMap_added (ne_of_next hconsistent hid facility)

end Ledger

/-! ## What a desk gains -/

/-- A desk has got some more entries of a facility, and nothing else has changed but the
number that is next. -/
structure Gains (facility : String) (before after : Desk) (gained : List (Span × String)) :
    Prop where
  entries_perm : (after.ledger.entries facility).Perm (before.ledger.entries facility ++ gained)
  elsewhere : ∀ other, facility ≠ other →
    after.ledger.bookingsOf other = before.ledger.bookingsOf other
  mem_iff : ∀ other, other ∈ after.ledger.timetables ↔ other ∈ before.ledger.timetables
  nextId_eq : after.ledger.nextId = before.ledger.nextId + gained.length
  usage_eq : after.usage = before.usage

namespace Gains

variable {facility : String} {before middle after : Desk} {first second : List (Span × String)}

theorem refl (facility : String) (desk : Desk) : Gains facility desk desk [] where
  entries_perm := .of_eq (List.append_nil _).symm
  elsewhere _ _ := rfl
  mem_iff _ := Iff.rfl
  nextId_eq := (Int.add_zero _).symm
  usage_eq := rfl

theorem trans (hfirst : Gains facility before middle first)
    (hsecond : Gains facility middle after second) :
    Gains facility before after (first ++ second) where
  entries_perm := by
    rw [← List.append_assoc]
    exact hsecond.entries_perm.trans (hfirst.entries_perm.append_right second)
  elsewhere other hother := (hsecond.elsewhere other hother).trans (hfirst.elsewhere other hother)
  mem_iff other := (hsecond.mem_iff other).trans (hfirst.mem_iff other)
  nextId_eq := by
    rw [hsecond.nextId_eq, hfirst.nextId_eq, List.length_append, Int.natCast_add, Int.add_assoc]
  usage_eq := hsecond.usage_eq.trans hfirst.usage_eq

/-- A booking that is added is one more entry of its facility. -/
theorem added {desk : Desk} {timetable : Timetable} (hconsistent : desk.ledger.Consistent)
    (hopen : facility ∈ desk.ledger.timetables)
    (htimetable : timetable.slots = desk.ledger.slotsOf facility) (user : String) (span : Span) :
    Gains facility desk { desk with
        ledger := desk.ledger.added timetable ⟨desk.ledger.nextId, facility, user, span⟩ }
      [(span, user)] where
  entries_perm := by
    have hid : Booking.id ⟨desk.ledger.nextId, facility, user, span⟩ = desk.ledger.nextId := rfl
    have hbookings := Ledger.bookingsOf_added_own hconsistent hid htimetable
    rw [Ledger.entries, Ledger.entries]
    refine (hbookings.map _).trans (.of_eq ?_)
    rw [List.map_append]
    rfl
  elsewhere _ hother := Ledger.bookingsOf_added_other hconsistent rfl hother
  mem_iff other := (Ledger.Refilled.of_insert hopen ..).mem_iff other
  nextId_eq := rfl
  usage_eq := rfl

/-- The order in which entries are gained does not show in the end. -/
theorem entries_eq {other : Desk} (hfirst : Gains facility before after first)
    (hsecond : Gains facility before other second) (hperm : first.Perm second)
    (hafter : after.ledger.Consistent) (hother : other.ledger.Consistent) :
    after.ledger.entries facility = other.ledger.entries facility :=
  Ledger.entries_eq_of_perm hother hafter <|
    hfirst.entries_perm.trans <| (hperm.append_left _).trans hsecond.entries_perm.symm

end Gains

/-! ## Wishes -/

/-- What somebody would like to book. -/
structure Wish where
  user : String
  start : WeekTime
  stop : WeekTime
  deriving DecidableEq, Repr

namespace Wish

def span (wish : Wish) : Span :=
  ⟨wish.start.toMinute, wish.stop.toMinute⟩

def action (facility : String) (wish : Wish) : Action :=
  .book facility wish.user wish.start wish.stop

def entry (wish : Wish) : Span × String :=
  (wish.span, wish.user)

/-- Two wishes do not overlap, unless one of them ends before it starts or as it does. -/
def Compatible (wish other : Wish) : Prop :=
  wish.span.start < wish.span.stop → other.span.start < other.span.stop →
    ¬ wish.span.overlaps other.span

instance : DecidableRel Compatible :=
  fun _ _ => inferInstanceAs (Decidable (_ → _ → ¬ _))

theorem Compatible.symm {wish other : Wish} (hcompatible : wish.Compatible other) :
    other.Compatible wish := by
  intro hother hwish
  rw [Span.overlaps_comm]
  exact hcompatible hwish hother

end Wish

namespace Desk

variable {desk : Desk} {facility : String} {wish other : Wish}

/-- A wish for a facility that is open is refused, or it is booked. -/
theorem step_wish_cases (hconsistent : desk.ledger.Consistent)
    (hopen : desk.ledger.ensure facility = .ok desk.ledger) (wish : Wish) :
    (∃ refusal, desk.step (wish.action facility) = (some refusal, desk)) ∨
      wish.span.InWeek ∧ desk.step (wish.action facility) = (none, { desk with
        ledger := desk.ledger.added (desk.ledger.timetables.getD facility ⟨facility, []⟩)
          ⟨desk.ledger.nextId, facility, wish.user, wish.span⟩ }) := by
  rcases book_cases hconsistent facility wish.user wish.start wish.stop with
    ⟨refusal, -, hrefused⟩ | ⟨ledger, hensure, hinside, -, hbooked⟩
  · exact .inl ⟨refusal, by rw [Wish.action, step, hrefused]; rfl⟩
  · rw [hopen] at hensure
    cases hensure
    exact .inr ⟨hinside, by rw [Wish.action, step, hbooked]; rfl⟩

/-- A wish that passes the checks is refused for the first slot that it overlaps, if any. -/
theorem step_wish_of_checked (hconsistent : desk.ledger.Consistent)
    (hopen : desk.ledger.ensure facility = .ok desk.ledger)
    (huser : checkUser wish.user = .ok ()) (hspan : checkSpan wish.span = .ok ()) :
    (desk.step (wish.action facility)).1 =
      ((desk.ledger.slotsOf facility).find? fun slot => slot.span.overlaps wish.span).map
        fun slot => .conflict slot.booking := by
  have hsorted : Timetable.Sorted
      (desk.ledger.timetables.getD facility ⟨facility, []⟩).slots := by
    rw [Ledger.getD_slots]
    exact (hconsistent.tidy facility).sorted
  have hconflict := Timetable.firstConflict?_eq_find? hsorted
    ⟨wish.start.toMinute, wish.stop.toMinute⟩ none
  simp only [ne_eq, reduceCtorEq, not_false_eq_true, decide_true, Bool.true_and,
    Ledger.getD_slots] at hconflict
  rw [Wish.action, step, book_of_ensure hconsistent huser hspan hopen, hconflict, Wish.span]
  cases (desk.ledger.slotsOf facility).find? fun slot =>
    slot.span.overlaps ⟨wish.start.toMinute, wish.stop.toMinute⟩ <;> rfl

/-- An open facility is still open after any action. -/
theorem ensure_step (hconsistent : desk.ledger.Consistent)
    (hopen : desk.ledger.ensure facility = .ok desk.ledger) (action : Action) :
    (desk.step action).2.ledger.ensure facility = .ok (desk.step action).2.ledger :=
  Ledger.ensure_eq_ok_iff.mpr ⟨(Ledger.ensure_eq_ok_iff.mp hopen).1,
    .inl ⟨mem_step_of_mem hconsistent (Ledger.mem_of_ensure hopen) action, rfl⟩⟩

/-- A wish comes to the same whether a compatible one came before it or not. -/
theorem step_wish_after (hconsistent : desk.ledger.Consistent)
    (hopen : desk.ledger.ensure facility = .ok desk.ledger)
    (hcompatible : wish.Compatible other) :
    ((desk.step (wish.action facility)).2.step (other.action facility)).1 =
      (desk.step (other.action facility)).1 := by
  rcases step_wish_cases hconsistent hopen wish with ⟨refusal, hrefused⟩ | ⟨hinside, hbooked⟩
  · rw [hrefused]
  rcases book_checked id facility other.user other.start other.stop with
    ⟨huser, hspan⟩ | ⟨refusal, -, hrefused⟩
  · have hconsistentAfter := step_consistent hconsistent (wish.action facility)
    rw [step_wish_of_checked hconsistentAfter (ensure_step hconsistent hopen _) huser hspan,
      step_wish_of_checked hconsistent hopen huser hspan, hbooked]
    have hapart : wish.span.overlaps other.span = false :=
      Bool.eq_false_iff.mpr (hcompatible hinside.2.1 (checkSpan_eq_ok_iff.mp hspan).2.1)
    rw [Ledger.slotsOf_added, if_pos rfl, Ledger.getD_slots, Timetable.find?_place hapart]
  · have hrefuses (desk : Desk) : (desk.step (other.action facility)).1 = some refusal := by
      rw [Wish.action, step, hrefused]
      rfl
    rw [hrefuses, hrefuses]

/-- A wish that is booked is one more entry, and one that is refused is none. -/
theorem step_wish_gains (hconsistent : desk.ledger.Consistent)
    (hopen : desk.ledger.ensure facility = .ok desk.ledger) (wish : Wish) :
    Gains facility desk (desk.step (wish.action facility)).2
      (if (desk.step (wish.action facility)).1 = none then [wish.entry] else []) := by
  rcases step_wish_cases hconsistent hopen wish with ⟨refusal, hrefused⟩ | ⟨-, hbooked⟩
  · rw [hrefused, if_neg (Option.some_ne_none _)]
    exact .refl facility desk
  · rw [hbooked, if_pos rfl]
    exact .added hconsistent (Ledger.mem_of_ensure hopen) (Ledger.getD_slots ..) ..

/-- Of wishes that are all compatible each one comes to what it would come to at once, and
those that are booked are the entries that the facility gets. -/
theorem run_wishes (hconsistent : desk.ledger.Consistent)
    (hopen : desk.ledger.ensure facility = .ok desk.ledger) {wishes : List Wish}
    (hcompatible : wishes.Pairwise Wish.Compatible) :
    ((desk.turns (wishes.map (Wish.action facility))).map fun turn =>
          (turn.desk.step turn.action).1) =
        wishes.map (fun wish => (desk.step (wish.action facility)).1) ∧
      Gains facility desk (desk.run (wishes.map (Wish.action facility)))
        ((wishes.filter fun wish => (desk.step (wish.action facility)).1 = none).map
          Wish.entry) := by
  induction wishes generalizing desk with
  | nil => exact ⟨rfl, .refl facility desk⟩
  | cons wish rest ih =>
      obtain ⟨hwish, hrest⟩ := List.pairwise_cons.mp hcompatible
      have hsame (other : Wish) (hother : other ∈ rest) :=
        step_wish_after hconsistent hopen (hwish other hother)
      obtain ⟨hresults, hgains⟩ := ih (step_consistent hconsistent (wish.action facility))
        (ensure_step hconsistent hopen _) hrest
      rw [List.map_congr_left hsame] at hresults
      have hbooked : (rest.filter fun other =>
            ((desk.step (wish.action facility)).2.step (other.action facility)).1 = none) =
          rest.filter fun other => (desk.step (other.action facility)).1 = none :=
        List.filter_congr fun other hother => by rw [hsame other hother]
      rw [hbooked] at hgains
      constructor
      · rw [List.map_cons, turns, List.map_cons, hresults, List.map_cons]
      · have hall := (step_wish_gains hconsistent hopen wish).trans hgains
        rw [List.filter_cons]
        by_cases hnone : (desk.step (wish.action facility)).1 = none
        · rw [if_pos hnone] at hall
          rw [if_pos (decide_eq_true hnone)]
          exact hall
        · rw [if_neg hnone] at hall
          rw [if_neg (by simpa using hnone)]
          exact hall

/-- In every state that a desk can reach, wishes for an open facility, all compatible, are
submitted in two orders. Each of them is booked, or refused for the same reason, as it would
be at once; the entries of the facility are the same in the end, and so is its free time on
every day. Nothing else differs but the numbers of the new bookings. -/
theorem order_irrelevant (actions : List Action) (facility : String) (first second : List Wish)
    (hopen : facility ∈ (empty.run actions).ledger.timetables)
    (hcompatible : first.Pairwise Wish.Compatible) (hperm : first.Perm second) :
    (((empty.run actions).turns (first.map (Wish.action facility))).map fun turn =>
        (turn.desk.step turn.action).1) =
      first.map (fun wish => ((empty.run actions).step (wish.action facility)).1) ∧
    (((empty.run actions).turns (second.map (Wish.action facility))).map fun turn =>
        (turn.desk.step turn.action).1) =
      second.map (fun wish => ((empty.run actions).step (wish.action facility)).1) ∧
    ((empty.run actions).run (first.map (Wish.action facility))).ledger.entries facility =
      ((empty.run actions).run (second.map (Wish.action facility))).ledger.entries facility ∧
    (∀ day, ((empty.run actions).run (first.map (Wish.action facility))).freeOn facility day =
      ((empty.run actions).run (second.map (Wish.action facility))).freeOn facility day) ∧
    (∀ other, facility ≠ other →
      ((empty.run actions).run (first.map (Wish.action facility))).ledger.bookingsOf other =
        ((empty.run actions).run (second.map (Wish.action facility))).ledger.bookingsOf other) ∧
    (∀ other,
      other ∈ ((empty.run actions).run
          (first.map (Wish.action facility))).ledger.timetables ↔
        other ∈ ((empty.run actions).run
          (second.map (Wish.action facility))).ledger.timetables) ∧
    ((empty.run actions).run (first.map (Wish.action facility))).ledger.nextId =
      ((empty.run actions).run (second.map (Wish.action facility))).ledger.nextId ∧
    ((empty.run actions).run (first.map (Wish.action facility))).usage =
      ((empty.run actions).run (second.map (Wish.action facility))).usage := by
  have hconsistent : (empty.run actions).ledger.Consistent :=
    run_consistent Ledger.consistent_empty actions
  have hensure : (empty.run actions).ledger.ensure facility = .ok (empty.run actions).ledger :=
    Ledger.ensure_eq_ok_iff.mpr ⟨(run_orderly actions).nameable facility hopen, .inl ⟨hopen, rfl⟩⟩
  generalize empty.run actions = desk at *
  obtain ⟨hfirst, hfirstGains⟩ := run_wishes hconsistent hensure hcompatible
  obtain ⟨hsecond, hsecondGains⟩ := run_wishes hconsistent hensure
    ((hperm.pairwise_iff Wish.Compatible.symm).mp hcompatible)
  have hgained := (hperm.filter fun wish =>
    decide ((desk.step (wish.action facility)).1 = none)).map Wish.entry
  have hfirstAfter := run_consistent hconsistent (first.map (Wish.action facility))
  have hsecondAfter := run_consistent hconsistent (second.map (Wish.action facility))
  have hentries := hfirstGains.entries_eq hsecondGains hgained hfirstAfter hsecondAfter
  refine ⟨hfirst, hsecond, hentries, fun day => ?_, fun other hother => ?_, fun other => ?_, ?_, ?_⟩
  · rw [freeOn, freeOn, Ledger.freeSpans_eq_of_entries hsecondAfter hfirstAfter hentries]
  · rw [hfirstGains.elsewhere other hother, hsecondGains.elsewhere other hother]
  · rw [hfirstGains.mem_iff, hsecondGains.mem_iff]
  · rw [hfirstGains.nextId_eq, hsecondGains.nextId_eq, hgained.length_eq]
  · rw [hfirstGains.usage_eq, hsecondGains.usage_eq]

/-- Three wishes of which the second one meets a booking that is there, in two orders. -/
theorem laboratory_booked_in_two_orders :
    ((empty.run [.book "Lab" "ann" ⟨.monday, 9, 0⟩ ⟨.monday, 10, 0⟩]).run
      ([⟨"bob", ⟨.monday, 8, 0⟩, ⟨.monday, 9, 0⟩⟩, ⟨"cid", ⟨.monday, 9, 30⟩, ⟨.monday, 11, 0⟩⟩,
        ⟨"dan", ⟨.monday, 11, 0⟩, ⟨.monday, 12, 0⟩⟩].map
          (Wish.action "Lab"))).ledger.entries "Lab" =
    ((empty.run [.book "Lab" "ann" ⟨.monday, 9, 0⟩ ⟨.monday, 10, 0⟩]).run
      ([⟨"dan", ⟨.monday, 11, 0⟩, ⟨.monday, 12, 0⟩⟩, ⟨"cid", ⟨.monday, 9, 30⟩, ⟨.monday, 11, 0⟩⟩,
        ⟨"bob", ⟨.monday, 8, 0⟩, ⟨.monday, 9, 0⟩⟩].map
          (Wish.action "Lab"))).ledger.entries "Lab" :=
  (order_irrelevant _ "Lab" _ _ (by decide +kernel) (by decide)
    (List.reverse_perm _).symm).2.2.1

end Desk

end FacilityBooking
