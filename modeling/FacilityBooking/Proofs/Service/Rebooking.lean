import FacilityBooking.Proofs.Calendar.Days
import FacilityBooking.Proofs.Desk.Bookings
import FacilityBooking.Proofs.Desk.Gaps
import FacilityBooking.Proofs.Service.Outcomes

/-!
# Rebooking

The requests that change bookings, the facility whose bookings they change, and the days
that they concern whether anything is still booked on them or not. What the service notes
as touched is just that, and no booking of another facility changes.
-/

namespace FacilityBooking

/-- A request took a desk to another one by changing bookings of a facility. The days of
the predicate are concerned even if nothing is booked on them any more: those of the old
span of a moved booking, or the day that was reset and those of all removed bookings. -/
inductive Rebooking (before after : Desk) : Request → String → (Day → Prop) → Prop where
  | booked {facility user : String} {start stop : WeekTime} {id : BookingId}
      (hbook : before.book facility user start stop = (.ok id, after)) :
      Rebooking before after (.book facility user start stop) facility fun _ => False
  | moved {id : Int64} {offset : Int32} {booking : Booking} {shift : Shift}
      (hbooking : before.ledger.bookings[id.toInt]? = some booking)
      (hchange : before.change id.toInt offset.toInt = (.ok shift, after)) :
      Rebooking before after (.changeBooking id offset) booking.facility booking.span.Touches
  | cleared {facility : String} {day : Day} {removed : List Booking}
      (hreset : before.resetDay facility day = (.ok removed, after)) :
      Rebooking before after (.resetDay facility day) facility fun other =>
        other = day ∨ ∃ (id : BookingId) (booking : Booking),
          before.ledger.bookings[id]? = some booking ∧ after.ledger.bookings[id]? = none ∧
            booking.span.Touches other

namespace Rebooking

variable {before after : Desk} {request : Request} {facility : String} {extra : Day → Prop}
  {id : BookingId} {booking : Booking}

/-- A booking stays as it was, or it is one of the facility and all of its days are told. -/
theorem kept_or_told (hrebooking : Rebooking before after request facility extra)
    (hconsistent : before.ledger.Consistent)
    (hbooking : before.ledger.bookings[id]? = some booking) :
    after.ledger.bookings[id]? = some booking ∨
      booking.facility = facility ∧ ∀ day, booking.span.Touches day → extra day := by
  cases hrebooking with
  | booked hbook =>
      obtain ⟨rfl, hafter⟩ := Desk.book_eq_ok hconsistent hbook
      have hother : before.ledger.nextId ≠ id := by
        rintro rfl
        rw [hconsistent.next_unused] at hbooking
        cases hbooking
      exact .inl (by rw [hafter, if_neg hother, hbooking])
  | @moved moving _ found _ hfound hchange =>
      obtain ⟨other, hother, -, -, -, hafter⟩ := Desk.change_eq_ok hconsistent hchange
      rw [hfound] at hother
      cases hother
      by_cases hsame : moving.toInt = id
      · rw [← hsame, hfound] at hbooking
        cases hbooking
        exact .inr ⟨rfl, fun day htouches => htouches⟩
      · exact .inl (by rw [hafter, if_neg hsame, hbooking])
  | @cleared _ _ removed hreset =>
      obtain ⟨hremoved, hafter⟩ := Desk.resetDay_eq_ok hconsistent hreset
      by_cases hgone : ∃ other ∈ removed, other.id = id
      · have hnone := (hafter id).trans (if_pos hgone)
        obtain ⟨other, hother, rfl⟩ := hgone
        rw [hremoved] at hother
        obtain ⟨hfound, hfacility⟩ :=
          (Ledger.mem_bookingsOf_iff hconsistent).mp (List.mem_filter.mp hother).1
        rw [hbooking] at hfound
        cases hfound
        exact .inr ⟨hfacility, fun day htouches => .inr ⟨_, _, hbooking, hnone, htouches⟩⟩
      · exact .inl (by rw [hafter, if_neg hgone, hbooking])

/-- A booking that is there afterwards was there before, or it is one of the facility. -/
theorem there_or_own (hrebooking : Rebooking before after request facility extra)
    (hconsistent : before.ledger.Consistent)
    (hbooking : after.ledger.bookings[id]? = some booking) :
    before.ledger.bookings[id]? = some booking ∨ booking.facility = facility := by
  cases hrebooking with
  | booked hbook =>
      obtain ⟨-, hafter⟩ := Desk.book_eq_ok hconsistent hbook
      rw [hafter] at hbooking
      split at hbooking
      · cases hbooking
        exact .inr rfl
      · exact .inl hbooking
  | moved hfound hchange =>
      obtain ⟨other, hother, -, -, -, hafter⟩ := Desk.change_eq_ok hconsistent hchange
      rw [hfound] at hother
      cases hother
      rw [hafter] at hbooking
      split at hbooking
      · cases hbooking
        exact .inr rfl
      · exact .inl hbooking
  | cleared hreset =>
      obtain ⟨-, hafter⟩ := Desk.resetDay_eq_ok hconsistent hreset
      rw [hafter] at hbooking
      split at hbooking
      · cases hbooking
      · exact .inl hbooking

/-- The free time of a day changes only if the day is concerned, or if a booking of the
facility touches it afterwards. -/
theorem freeOn_eq (hrebooking : Rebooking before after request facility extra)
    (hconsistent : before.ledger.Consistent) (hafter : after.ledger.Consistent)
    {other : String} {day : Day}
    (huntold : other = facility → ¬ extra day ∧
      ∀ (id : BookingId) (booking : Booking), after.ledger.bookings[id]? = some booking →
        booking.facility = facility → ¬ booking.span.Touches day) :
    after.freeOn other day = before.freeOn other day := by
  apply Desk.freeOn_congr hconsistent hafter
  rintro id booking rfl hoverlaps
  have htouches := Span.touches_of_overlaps_window hoverlaps
  constructor
  · intro hbooking
    rcases hrebooking.there_or_own hconsistent hbooking with hthere | hown
    · exact hthere
    · exact absurd htouches ((huntold hown).2 id booking hbooking hown)
  · intro hbooking
    rcases hrebooking.kept_or_told hconsistent hbooking with hkept | ⟨hown, hextra⟩
    · exact hkept
    · exact absurd (hextra day htouches) (huntold hown).1

/-- The service notes the facility as touched, and the days that are concerned. -/
theorem perform {service : Service}
    (hrebooking : Rebooking service.desk after request facility extra)
    (hconsistent : service.desk.ledger.Consistent) (peer : Address) (now : Nat) :
    ∃ execution touched,
      service.perform request peer now = (.ok execution, { service with desk := after }) ∧
        execution.touched = some touched ∧ touched.facility = facility ∧
        ∀ day, day ∈ touched.extraDays ↔ extra day := by
  cases hrebooking with
  | booked hbook =>
      simp only [Service.perform, hbook]
      exact ⟨_, _, rfl, rfl, rfl, fun day => iff_of_false List.not_mem_nil id⟩
  | @moved moving _ found shift hfound hchange =>
      obtain ⟨other, hother, hfacility, hsource, hinside, -⟩ :=
        Desk.change_eq_ok hconsistent hchange
      rw [hfound] at hother
      cases hother
      obtain ⟨hstart, hlt, hstop⟩ := hinside
      obtain ⟨interval, hinterval, -⟩ :=
        Interval.ofSpan_of_inside hstart (Int.le_of_lt hlt) hstop
      simp only [Service.perform, hchange, Shift.interval, hinterval]
      refine ⟨_, _, rfl, rfl, hfacility, fun day => ?_⟩
      rw [hsource, Span.mem_days_iff (hconsistent.span_inWeek hfound)]
  | @cleared _ _ removed hreset =>
      obtain ⟨hremoved, hafter⟩ := Desk.resetDay_eq_ok hconsistent hreset
      have hmem : ∀ other ∈ removed, service.desk.ledger.bookings[other.id]? = some other := by
        intro other hother
        rw [hremoved] at hother
        exact ((Ledger.mem_bookingsOf_iff hconsistent).mp (List.mem_filter.mp hother).1).1
      simp only [Service.perform, hreset]
      refine ⟨_, _, rfl, rfl, rfl, fun day => ?_⟩
      rw [List.mem_cons, List.mem_flatMap]
      apply or_congr_right
      constructor
      · rintro ⟨other, hother, hday⟩
        refine ⟨other.id, other, hmem other hother, ?_, ?_⟩
        · rw [hafter, if_pos ⟨other, hother, rfl⟩]
        · exact (Span.mem_days_iff (hconsistent.span_inWeek (hmem other hother))).mp hday
      · rintro ⟨id, booking, hbooking, hgone, hday⟩
        rw [hafter] at hgone
        split at hgone
        · next hfound =>
            obtain ⟨other, hother, rfl⟩ := hfound
            have hsame := hmem other hother
            rw [hbooking] at hsame
            cases hsame
            have hinside := hconsistent.span_inWeek hbooking
            exact ⟨_, hother, (Span.mem_days_iff hinside).mpr hday⟩
        · rw [hbooking] at hgone
          cases hgone

end Rebooking

/-- A request changes the bookings of one facility, or it changes no booking, and then the
service notes no facility as touched. -/
theorem Service.rebooking_or_untouched {service : Service}
    (hconsistent : service.desk.ledger.Consistent) (request : Request) (peer : Address)
    (now : Nat) :
    (∃ facility extra after, Rebooking service.desk after request facility extra) ∨
      (∀ id : BookingId, (service.perform request peer now).2.desk.ledger.bookings[id]? =
        service.desk.ledger.bookings[id]?) ∧
      ∀ execution, (service.perform request peer now).1 = .ok execution →
        execution.touched = none := by
  rcases perform_cases hconsistent request peer now with
    ⟨rejection, -, hrejected⟩ | ⟨execution, after, hperformed, -⟩
  · rw [hrejected]
    exact .inr ⟨fun _ => rfl, by rintro _ ⟨⟩⟩
  cases request with
  | queryAvailability facility day =>
      simp only [perform]
      rcases Desk.queryDay_cases service.desk facility day with
        ⟨refusal, -, hrefused⟩ | ⟨ledger, free, hensure, -, hqueried⟩
      · rw [hrefused]
        exact .inr ⟨fun _ => rfl, by rintro _ ⟨⟩⟩
      · rw [hqueried]
        refine .inr ⟨fun id => by rw [Ledger.bookings_ensure hensure], ?_⟩
        rintro _ ⟨⟩
        rfl
  | book facility user start stop =>
      rcases hbook : service.desk.book facility user start stop with ⟨refusal | id, after⟩
      · rw [perform, hbook] at hperformed
        cases hperformed
      · exact .inl ⟨facility, _, after, .booked hbook⟩
  | changeBooking id offset =>
      rcases hchange : service.desk.change id.toInt offset.toInt with ⟨refusal | shift, after⟩
      · rw [perform, hchange] at hperformed
        cases hperformed
      · obtain ⟨booking, hbooking, -⟩ := Desk.change_eq_ok hconsistent hchange
        exact .inl ⟨booking.facility, _, after, .moved hbooking hchange⟩
  | monitor facility seconds port =>
      simp only [perform]
      rcases watch_cases service facility seconds port peer now with
        ⟨rejection, -, hrejected⟩ | ⟨watches, -, hwatched⟩
      · rw [hrejected]
        exact .inr ⟨fun _ => rfl, by rintro _ ⟨⟩⟩
      · rw [hwatched]
        refine .inr ⟨fun _ => rfl, ?_⟩
        rintro _ ⟨⟩
        rfl
  | resetDay facility day =>
      rcases hreset : service.desk.resetDay facility day with ⟨refusal | removed, after⟩
      · rw [perform, hreset] at hperformed
        cases hperformed
      · exact .inl ⟨facility, _, after, .cleared hreset⟩
  | incrementUsage facility =>
      simp only [perform]
      rcases Desk.incrementUsage_cases service.desk facility with
        ⟨refusal, -, hrefused⟩ | ⟨ledger, hensure, hcounted⟩
      · rw [hrefused]
        exact .inr ⟨fun _ => rfl, by rintro _ ⟨⟩⟩
      · rw [hcounted]
        refine .inr ⟨fun id => by rw [Ledger.bookings_ensure hensure], ?_⟩
        rintro _ ⟨⟩
        rfl

end FacilityBooking
