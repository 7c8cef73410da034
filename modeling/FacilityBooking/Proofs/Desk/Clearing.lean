import FacilityBooking.Proofs.Calendar.Days
import FacilityBooking.Proofs.Desk.Isolation
import FacilityBooking.Proofs.Desk.Names
import Mathlib.Data.List.Sort

/-!
# What a reset of a day does

A reset takes away the bookings of a facility that start on the day, and no others, in the
order of their starts. To reset the same day again does nothing, and two resets do the same
in either order.
-/

namespace FacilityBooking

/-- The first minute of the span belongs to the day. -/
def Span.StartsOn (span : Span) (day : Day) : Prop :=
  span.start / 1440 = day.number

instance (span : Span) (day : Day) : Decidable (span.StartsOn day) :=
  inferInstanceAs (Decidable (_ = _))

theorem Span.startsOn_iff {span : Span} {day : Day} :
    span.StartsOn day ↔ Day.ofMinute? span.start = some day := by
  have hminutes : minutesPerDay = 1440 := rfl
  rw [StartsOn, Day.ofMinute?_eq_some_iff, hminutes]
  omega

theorem Span.StartsOn.unique {span : Span} {first second : Day} (hfirst : span.StartsOn first)
    (hsecond : span.StartsOn second) : first = second :=
  Day.eq_of_number_eq (Int.ofNat_inj.mp (Eq.trans (Eq.symm hfirst) hsecond))

/-- Lists in the increasing order of a key are equal if they have the same members. -/
theorem eq_of_increasing {α : Type} {key : α → Int} {first second : List α}
    (hfirst : first.Pairwise fun earlier later => key earlier < key later)
    (hsecond : second.Pairwise fun earlier later => key earlier < key later)
    (hmem : ∀ element, element ∈ first ↔ element ∈ second) : first = second := by
  have : Std.Antisymm fun earlier later : α => key earlier < key later :=
    ⟨fun _ _ hlt hgt => absurd hlt (Int.lt_asymm hgt)⟩
  have : Std.Irrefl fun earlier later : α => key earlier < key later :=
    ⟨fun _ => Int.lt_irrefl _⟩
  exact hfirst.eq_of_mem_iff hsecond hmem

namespace Ledger

variable {ledger : Ledger}

/-- The bookings of a facility are in the order of their starts. -/
theorem bookingsOf_increasing (hconsistent : ledger.Consistent) (facility : String) :
    (ledger.bookingsOf facility).Pairwise fun earlier later =>
      earlier.span.start < later.span.start := by
  refine List.pairwise_filterMap.mpr ((hconsistent.tidy facility).increasing.imp_of_mem ?_)
  intro earlier later hearlier hlater hlt first hfirst second hsecond
  obtain ⟨found, hfound, hspan, -⟩ := (hconsistent.listed facility earlier).mp hearlier
  obtain ⟨other, hother, hotherSpan, -⟩ := (hconsistent.listed facility later).mp hlater
  cases hfirst.symm.trans hfound
  cases hsecond.symm.trans hother
  rw [hspan, hotherSpan]
  exact hlt

end Ledger

namespace Desk

/-- The invariants of a desk, kept by every action. -/
structure WellKept (desk : Desk) : Prop where
  consistent : desk.ledger.Consistent
  named : desk.ledger.WellNamed
  orderly : desk.Orderly

theorem WellKept.step {desk : Desk} (hkept : desk.WellKept) (action : Action) :
    (desk.step action).2.WellKept where
  consistent := step_consistent hkept.consistent action
  named := step_wellNamed hkept.consistent hkept.named action
  orderly := step_orderly hkept.consistent hkept.orderly action

theorem run_wellKept (actions : List Action) : (empty.run actions).WellKept where
  consistent := run_consistent Ledger.consistent_empty actions
  named := run_wellNamed actions
  orderly := run_orderly actions

/-- A day of a facility has been reset, and nothing else has changed, but that the facility
is open now. -/
structure Cleared (before after : Desk) (facility : String) (day : Day)
    (removed : List Booking) : Prop where
  ordered : removed.Pairwise fun earlier later => earlier.span.start < later.span.start
  mem_iff : ∀ booking, booking ∈ removed ↔
    before.ledger.bookings[booking.id]? = some booking ∧ booking.facility = facility ∧
      booking.span.StartsOn day
  bookings : ∀ id : BookingId, after.ledger.bookings[id]? =
    (before.ledger.bookings[id]?).filter fun booking =>
      ¬ (booking.facility = facility ∧ booking.span.StartsOn day)
  timetable : after.ledger.timetables[facility]? = some ⟨facility,
    (before.ledger.slotsOf facility).filter fun slot => ¬ slot.span.StartsOn day⟩
  elsewhere : ∀ other, other ≠ facility →
    after.ledger.timetables[other]? = before.ledger.timetables[other]?
  next : after.ledger.nextId = before.ledger.nextId
  usage : after.usage = before.usage

variable {desk : Desk} {facility : String} {day : Day} {removed : List Booking}

/-! ## One reset -/

/-- What is removed is found by the number of the booking. -/
theorem bookings_resetDay (hconsistent : desk.ledger.Consistent)
    (hmem : ∀ booking, booking ∈ removed ↔ desk.ledger.bookings[booking.id]? = some booking ∧
      booking.facility = facility ∧ booking.span.StartsOn day) (id : BookingId) :
    (if ∃ booking ∈ removed, booking.id = id then none else desk.ledger.bookings[id]?) =
      (desk.ledger.bookings[id]?).filter fun booking =>
        ¬ (booking.facility = facility ∧ booking.span.StartsOn day) := by
  cases hbooking : desk.ledger.bookings[id]? with
  | none => exact ite_self none
  | some booking =>
      obtain rfl := hconsistent.numbered id booking hbooking
      have hremoved : (∃ other ∈ removed, other.id = booking.id) ↔
          booking.facility = facility ∧ booking.span.StartsOn day := by
        constructor
        · rintro ⟨other, hother, hsame⟩
          obtain ⟨hfound, hdoomed⟩ := (hmem other).mp hother
          rw [hsame, hbooking] at hfound
          cases hfound
          exact hdoomed
        · exact fun hdoomed => ⟨booking, (hmem booking).mpr ⟨hbooking, hdoomed⟩, rfl⟩
      rw [Option.filter_some]
      by_cases hdoomed : booking.facility = facility ∧ booking.span.StartsOn day
      · rw [if_pos (hremoved.mpr hdoomed), if_neg fun hleft => absurd hdoomed (of_decide_eq_true hleft)]
      · rw [if_neg (hremoved.not.mpr hdoomed), if_pos (decide_eq_true hdoomed)]

/-- The slots of a facility that are left are those of the bookings that are left. -/
theorem slotsOf_of_bookings {before after : Ledger} (hbefore : before.Consistent)
    (hafter : after.Consistent)
    (hbookings : ∀ id : BookingId, after.bookings[id]? =
      (before.bookings[id]?).filter fun booking =>
        ¬ (booking.facility = facility ∧ booking.span.StartsOn day)) :
    after.slotsOf facility =
      (before.slotsOf facility).filter fun slot => ¬ slot.span.StartsOn day := by
  refine @eq_of_increasing _ (·.span.start) _ _ (hafter.tidy facility).increasing
    ((hbefore.tidy facility).increasing.filter _) fun slot => ?_
  rw [hafter.listed, List.mem_filter, hbefore.listed, hbookings]
  constructor
  · rintro ⟨booking, hbooking, hspan, hfacility⟩
    obtain ⟨hthere, hleft⟩ := Option.filter_eq_some_iff.mp hbooking
    refine ⟨⟨booking, hthere, hspan, hfacility⟩, decide_eq_true fun hstarts => ?_⟩
    exact of_decide_eq_true hleft ⟨hfacility, hspan ▸ hstarts⟩
  · rintro ⟨⟨booking, hthere, hspan, hfacility⟩, hleft⟩
    refine ⟨booking, Option.filter_eq_some_iff.mpr ⟨hthere, decide_eq_true ?_⟩, hspan,
      hfacility⟩
    rintro ⟨-, hstarts⟩
    exact of_decide_eq_true hleft (hspan ▸ hstarts)

/-- What a reset returns is what it takes away. -/
theorem cleared_of_resetDay (hkept : desk.WellKept)
    (hreset : (desk.resetDay facility day).1 = .ok removed) :
    Cleared desk (desk.resetDay facility day).2 facility day removed := by
  have hpair : desk.resetDay facility day = (.ok removed, (desk.resetDay facility day).2) :=
    Prod.ext hreset rfl
  have hstep : desk.step (.resetDay facility day) =
      (none, (desk.resetDay facility day).2) := by
    rw [step, hpair]
    rfl
  have hafter := hkept.step (.resetDay facility day)
  have hdone : (desk.step (.resetDay facility day)).1 = none := congrArg Prod.fst hstep
  have hopen : facility ∈ (desk.step (.resetDay facility day)).2.ledger.timetables :=
    mem_of_step hkept.consistent rfl hdone
  have helsewhere (other : String) (hother : other ≠ facility) :
      desk.ledger.Elsewhere other (desk.step (.resetDay facility day)).2.ledger := by
    have hapart : Turn.concerns ⟨desk, .resetDay facility day⟩ other = false :=
      decide_eq_false hother.symm
    exact (step_elsewhere hkept.consistent hapart).1
  rw [hstep] at hafter hopen
  obtain ⟨hfiltered, hgone⟩ := resetDay_eq_ok hkept.consistent hpair
  have hmem : ∀ booking, booking ∈ removed ↔
      desk.ledger.bookings[booking.id]? = some booking ∧ booking.facility = facility ∧
        booking.span.StartsOn day := by
    intro booking
    rw [hfiltered, List.mem_filter, Ledger.mem_bookingsOf_iff hkept.consistent, decide_eq_true_iff,
      Span.startsOn_iff, and_assoc]
  have hbookings (id : BookingId) := (hgone id).trans (bookings_resetDay hkept.consistent hmem id)
  have htimetable := hafter.named.getElem?_of_mem hopen
  rw [slotsOf_of_bookings hkept.consistent hafter.consistent hbookings] at htimetable
  exact {
    ordered := by
      rw [hfiltered]
      exact (Ledger.bookingsOf_increasing hkept.consistent facility).filter _
    mem_iff := hmem
    bookings := hbookings
    timetable := htimetable
    elsewhere := fun other hother => by
      have htimetable := (helsewhere other hother).timetable
      rwa [hstep] at htimetable
    next := nextId_resetDay desk facility day
    usage := by
      rcases resetDay_cases hkept.consistent facility day with
        ⟨refusal, -, hrefused⟩ | ⟨found, ledger, hfound, -⟩
      · rw [hrefused]
      · rw [hfound] }

/-! ## Two resets -/

/-- A desk is known by what can be looked up at it. -/
theorem eq_of_lookUps {first second : Desk}
    (htimetables : ∀ facility : String,
      first.ledger.timetables[facility]? = second.ledger.timetables[facility]?)
    (hbookings : ∀ id : BookingId, first.ledger.bookings[id]? = second.ledger.bookings[id]?)
    (hnext : first.ledger.nextId = second.ledger.nextId) (husage : first.usage = second.usage) :
    first = second := by
  obtain ⟨⟨timetables, bookings, nextId⟩, usage⟩ := first
  obtain ⟨⟨otherTimetables, otherBookings, otherNextId⟩, otherUsage⟩ := second
  obtain rfl : timetables = otherTimetables := Std.ExtTreeMap.ext_getElem? htimetables
  obtain rfl : bookings = otherBookings := Std.ExtTreeMap.ext_getElem? hbookings
  obtain rfl : nextId = otherNextId := hnext
  obtain rfl : usage = otherUsage := husage
  rfl

namespace Cleared

variable {before after : Desk}

theorem getElem?_timetables (hcleared : Cleared before after facility day removed)
    (other : String) :
    after.ledger.timetables[other]? =
      if other = facility then some ⟨facility,
        (before.ledger.slotsOf facility).filter fun slot => ¬ slot.span.StartsOn day⟩
      else before.ledger.timetables[other]? := by
  split
  · next hsame =>
      rw [hsame]
      exact hcleared.timetable
  · next hother => exact hcleared.elsewhere other hother

theorem slotsOf_eq (hcleared : Cleared before after facility day removed) (other : String) :
    after.ledger.slotsOf other =
      if other = facility then
        (before.ledger.slotsOf facility).filter fun slot => ¬ slot.span.StartsOn day
      else before.ledger.slotsOf other := by
  rw [Ledger.slotsOf, hcleared.getElem?_timetables]
  by_cases hsame : other = facility
  · rw [if_pos hsame, if_pos hsame]
  · rw [if_neg hsame, if_neg hsame, Ledger.slotsOf]

/-- A day that was just reset has nothing to be taken away. -/
theorem again (hcleared : Cleared before after facility day removed) {later : Desk}
    {rest : List Booking} (hagain : Cleared after later facility day rest) :
    rest = [] ∧ later = after := by
  constructor
  · refine List.eq_nil_iff_forall_not_mem.mpr fun booking hbooking => ?_
    obtain ⟨hthere, hdoomed⟩ := (hagain.mem_iff booking).mp hbooking
    rw [hcleared.bookings] at hthere
    exact of_decide_eq_true (Option.filter_eq_some_iff.mp hthere).2 hdoomed
  · refine eq_of_lookUps (fun other => ?_) (fun id => ?_) hagain.next hagain.usage
    · rw [hagain.getElem?_timetables, hcleared.slotsOf_eq, if_pos rfl, List.filter_filter]
      simp only [Bool.and_self]
      split
      · next hsame => rw [hsame, hcleared.timetable]
      · rfl
    · rw [hagain.bookings, hcleared.bookings, Option.filter_filter]
      simp only [Bool.and_self]

variable {other : String} {otherDay : Day} {first second firstBoth secondBoth : Desk}
  {taken takenThen others othersThen : List Booking}

/-- Two resets lead to the same desk in either order. -/
theorem commute (hfirst : Cleared before first facility day taken)
    (hfirstThen : Cleared first firstBoth other otherDay othersThen)
    (hsecond : Cleared before second other otherDay others)
    (hsecondThen : Cleared second secondBoth facility day takenThen) :
    firstBoth = secondBoth := by
  refine eq_of_lookUps (fun name => ?_) (fun id => ?_) ?_ ?_
  · rw [hfirstThen.getElem?_timetables, hsecondThen.getElem?_timetables,
      hfirst.getElem?_timetables, hsecond.getElem?_timetables, hfirst.slotsOf_eq,
      hsecond.slotsOf_eq]
    by_cases hsame : other = facility
    · subst hsame
      simp only [if_true, List.filter_filter, Bool.and_comm]
      split <;> rfl
    · simp only [if_neg hsame, if_neg (Ne.symm hsame)]
      by_cases hname : name = facility
      · rw [if_pos hname, if_pos hname, if_neg fun heq => hsame (heq.symm.trans hname)]
      · rw [if_neg hname, if_neg hname]
  · rw [hfirstThen.bookings, hsecondThen.bookings, hfirst.bookings, hsecond.bookings,
      Option.filter_filter, Option.filter_filter]
    simp only [Bool.and_comm]
  · rw [hfirstThen.next, hfirst.next, hsecondThen.next, hsecond.next]
  · rw [hfirstThen.usage, hfirst.usage, hsecondThen.usage, hsecond.usage]

/-- A reset takes away the same bookings after a reset of another day or another facility. -/
theorem same_after (hother : (facility, day) ≠ (other, otherDay))
    (hfirst : Cleared before first facility day taken)
    (hsecond : Cleared before second other otherDay others)
    (hsecondThen : Cleared second secondBoth facility day takenThen) : taken = takenThen := by
  refine @eq_of_increasing _ (·.span.start) _ _ hfirst.ordered hsecondThen.ordered fun booking => ?_
  rw [hfirst.mem_iff, hsecondThen.mem_iff, hsecond.bookings]
  constructor
  · rintro ⟨hthere, hfacility, hstarts⟩
    refine ⟨Option.filter_eq_some_iff.mpr ⟨hthere, decide_eq_true ?_⟩, hfacility, hstarts⟩
    rintro ⟨hotherFacility, hotherStarts⟩
    rw [hfacility.symm.trans hotherFacility, hstarts.unique hotherStarts] at hother
    exact hother rfl
  · rintro ⟨hthere, hdoomed⟩
    exact ⟨(Option.filter_eq_some_iff.mp hthere).1, hdoomed⟩

end Cleared

/-- A reset that is accepted takes away what it returns. -/
theorem exists_cleared {opened : Ledger} (hkept : desk.WellKept)
    (hensure : desk.ledger.ensure facility = .ok opened) (day : Day) :
    ∃ removed, (desk.resetDay facility day).1 = .ok removed ∧
      Cleared desk (desk.resetDay facility day).2 facility day removed := by
  obtain ⟨removed, ledger, hreset, -⟩ := resetDay_of_ensure hkept.consistent hensure day
  have hremoved : (desk.resetDay facility day).1 = .ok removed := congrArg Prod.fst hreset
  exact ⟨removed, hremoved, cleared_of_resetDay hkept hremoved⟩

/-- A facility that is open is accepted as it is. -/
theorem ensure_of_mem (hkept : desk.WellKept) (hopen : facility ∈ desk.ledger.timetables) :
    desk.ledger.ensure facility = .ok desk.ledger :=
  Ledger.ensure_eq_ok_iff.mpr ⟨hkept.orderly.nameable facility hopen, .inl ⟨hopen, rfl⟩⟩

theorem WellKept.resetDay (hkept : desk.WellKept) (facility : String) (day : Day) :
    (desk.resetDay facility day).2.WellKept :=
  hkept.step (.resetDay facility day)

/-- After a reset a facility is accepted if it was open. -/
theorem ensure_after_resetDay (hkept : desk.WellKept)
    (hopen : facility ∈ desk.ledger.timetables) (other : String) (day : Day) :
    (desk.resetDay other day).2.ledger.ensure facility =
      .ok (desk.resetDay other day).2.ledger :=
  ensure_of_mem (hkept.resetDay other day)
    (mem_step_of_mem hkept.consistent hopen (.resetDay other day))

/-- In every state that a desk can reach, the reset of a day of a facility that is accepted
returns the bookings of the facility that start on the day, in the order of their starts, and
takes away these, and nothing else changes, but that the facility may be new; to reset the day
again takes nothing away and changes nothing. A facility that is not accepted is refused, and
nothing changes. Of two facilities that are open, any days can be reset in either order: this
leads to the same desk and takes away the same lists, and of two different days, or days of
two facilities, each list is that of the same day of the same facility. -/
theorem reset_takes_starts (actions : List Action) (facility : String) (day : Day) :
    (∀ opened, (empty.run actions).ledger.ensure facility = .ok opened →
      ∃ removed, ((empty.run actions).resetDay facility day).1 = .ok removed ∧
        Cleared (empty.run actions) ((empty.run actions).resetDay facility day).2 facility day
          removed ∧
        ((empty.run actions).resetDay facility day).2.resetDay facility day =
          (.ok [], ((empty.run actions).resetDay facility day).2)) ∧
    (∀ refusal, (empty.run actions).ledger.ensure facility = .error refusal →
      (empty.run actions).resetDay facility day = (.error refusal, empty.run actions)) ∧
    ∀ (other : String) (otherDay : Day), facility ∈ (empty.run actions).ledger.timetables →
      other ∈ (empty.run actions).ledger.timetables →
      (((empty.run actions).resetDay facility day).2.resetDay other otherDay).2 =
          (((empty.run actions).resetDay other otherDay).2.resetDay facility day).2 ∧
        [((empty.run actions).resetDay facility day).1,
            (((empty.run actions).resetDay facility day).2.resetDay other otherDay).1].Perm
          [((empty.run actions).resetDay other otherDay).1,
            (((empty.run actions).resetDay other otherDay).2.resetDay facility day).1] ∧
        ((facility, day) ≠ (other, otherDay) →
          ((empty.run actions).resetDay facility day).1 =
              (((empty.run actions).resetDay other otherDay).2.resetDay facility day).1 ∧
            ((empty.run actions).resetDay other otherDay).1 =
              (((empty.run actions).resetDay facility day).2.resetDay other otherDay).1) := by
  have hkept := run_wellKept actions
  generalize empty.run actions = desk at *
  refine ⟨fun opened hensure => ?_, fun refusal hensure => ?_,
    fun other otherDay hopen hotherOpen => ?_⟩
  · obtain ⟨removed, hreset, hcleared⟩ := exists_cleared hkept hensure day
    have hopen : facility ∈ (desk.resetDay facility day).2.ledger.timetables :=
      Std.ExtTreeMap.mem_iff_isSome_getElem?.mpr (hcleared.timetable ▸ rfl)
    have hafter := hkept.resetDay facility day
    obtain ⟨rest, hagain, hrest⟩ := exists_cleared hafter (ensure_of_mem hafter hopen) day
    obtain ⟨rfl, hsame⟩ := hcleared.again hrest
    exact ⟨removed, hreset, hcleared, Prod.ext hagain hsame⟩
  · rw [resetDay, hensure]
  · obtain ⟨taken, htaken, hfirst⟩ := exists_cleared hkept (ensure_of_mem hkept hopen) day
    obtain ⟨others, hothers, hsecond⟩ :=
      exists_cleared hkept (ensure_of_mem hkept hotherOpen) otherDay
    obtain ⟨othersThen, hothersThen, hfirstThen⟩ :=
      exists_cleared (hkept.resetDay facility day)
        (ensure_after_resetDay hkept hotherOpen facility day) otherDay
    obtain ⟨takenThen, htakenThen, hsecondThen⟩ :=
      exists_cleared (hkept.resetDay other otherDay)
        (ensure_after_resetDay hkept hopen other otherDay) day
    have hapart : (facility, day) ≠ (other, otherDay) → taken = takenThen ∧ others = othersThen :=
      fun hother => ⟨hfirst.same_after hother hsecond hsecondThen,
        hsecond.same_after hother.symm hfirst hfirstThen⟩
    rw [htaken, hothers, hothersThen, htakenThen]
    refine ⟨hfirst.commute hfirstThen hsecond hsecondThen, ?_, fun hother => ?_⟩
    · by_cases hsame : (facility, day) = (other, otherDay)
      · cases hsame
        rw [← htaken, ← hothers, ← hothersThen, ← htakenThen]
      · obtain ⟨rfl, rfl⟩ := hapart hsame
        exact .swap _ _ []
    · obtain ⟨rfl, rfl⟩ := hapart hother
      exact ⟨rfl, rfl⟩

end Desk

end FacilityBooking
