import FacilityBooking.Proofs.Desk.Facilities
import FacilityBooking.Proofs.Desk.Obstacles

/-!
# Names on a desk

A timetable bears the name of the facility that it is kept under, and a booking the name of
a user that was checked when the booking was made. No operation gives either another name.
-/

namespace FacilityBooking

namespace Ledger

/-- A name that a user may have. -/
def UserName (user : String) : Prop :=
  1 ≤ user.utf8ByteSize ∧ user.utf8ByteSize ≤ 256

/-- Timetables bear the names of their facilities, and bookings those of users. -/
structure WellNamed (ledger : Ledger) : Prop where
  headed : ∀ (facility : String) (timetable : Timetable),
    ledger.timetables[facility]? = some timetable → timetable.facility = facility
  users : ∀ (id : BookingId) (booking : Booking), ledger.bookings[id]? = some booking →
    UserName booking.user

theorem wellNamed_empty : empty.WellNamed where
  headed facility timetable htimetable := by simp [empty] at htimetable
  users id booking hbooking := by simp [empty] at hbooking

namespace WellNamed

variable {ledger after : Ledger} {facility : String} {timetable : Timetable} {id : BookingId}
  {booking : Booking}

/-- A timetable that bears the name of a facility takes the place of the one before. -/
theorem of_insert (hnamed : ledger.WellNamed) (timetable : Timetable)
    (hheaded : timetable.facility = facility) {bookings : Std.ExtTreeMap BookingId Booking}
    (husers : ∀ (id : BookingId) (booking : Booking), bookings[id]? = some booking →
      UserName booking.user) (nextId : BookingId) :
    WellNamed ⟨ledger.timetables.insert facility timetable, bookings, nextId⟩ where
  headed other found hfound := by
    simp only [Std.ExtTreeMap.getElem?_insert, Std.LawfulEqCmp.compare_eq_iff_eq] at hfound
    split at hfound
    · next hsame =>
        cases hfound
        exact hheaded.trans hsame
    · exact hnamed.headed other found hfound
  users := husers

/-- A booking of a user takes a place among the bookings. -/
theorem users_insert (hnamed : ledger.WellNamed) (id : BookingId) (booking : Booking)
    (huser : UserName booking.user) :
    ∀ (other : BookingId) (found : Booking),
      (ledger.bookings.insert id booking)[other]? = some found → UserName found.user := by
  intro other found hfound
  simp only [Std.ExtTreeMap.getElem?_insert, Std.LawfulEqCmp.compare_eq_iff_eq] at hfound
  split at hfound
  · cases hfound
    exact huser
  · exact hnamed.users other found hfound

theorem ensure (hnamed : ledger.WellNamed) (hensure : ledger.ensure facility = .ok after) :
    after.WellNamed := by
  obtain ⟨-, ⟨-, rfl⟩ | ⟨-, -, rfl⟩⟩ := ensure_eq_ok_iff.mp hensure
  · exact hnamed
  · exact hnamed.of_insert ⟨facility, []⟩ rfl hnamed.users ledger.nextId

theorem facility_getD (hnamed : ledger.WellNamed) (facility : String) :
    (ledger.timetables.getD facility ⟨facility, []⟩).facility = facility := by
  rw [Std.ExtTreeMap.getD_eq_getD_getElem?]
  cases htimetable : ledger.timetables[facility]? with
  | none => rfl
  | some timetable => exact hnamed.headed facility timetable htimetable

/-- A facility that is open has its slots under its own name. -/
theorem getElem?_of_mem (hnamed : ledger.WellNamed) (hopen : facility ∈ ledger.timetables) :
    ledger.timetables[facility]? = some ⟨facility, ledger.slotsOf facility⟩ := by
  obtain ⟨timetable, htimetable⟩ := Option.isSome_iff_exists.mp
    (Std.ExtTreeMap.mem_iff_isSome_getElem?.mp hopen)
  rw [slotsOf_of_getElem? htimetable, htimetable,
    ← hnamed.headed facility timetable htimetable]

theorem added (hnamed : ledger.WellNamed) (hheaded : timetable.facility = booking.facility)
    (huser : UserName booking.user) : (ledger.added timetable booking).WellNamed :=
  hnamed.of_insert (timetable.insert booking.span booking.id) hheaded
    (hnamed.users_insert booking.id booking huser) _

theorem moved (hnamed : ledger.WellNamed) (hbooking : ledger.bookings[id]? = some booking)
    (htimetable : ledger.timetables[booking.facility]? = some timetable) (span : Span) :
    (ledger.moved timetable booking id span).WellNamed :=
  hnamed.of_insert ((timetable.erase id).insert span id)
    (hnamed.headed _ timetable htimetable)
    (hnamed.users_insert id { booking with span } (hnamed.users id booking hbooking)) _

theorem remove? (hnamed : ledger.WellNamed)
    (hremoved : ledger.remove? id = some (booking, after)) : after.WellNamed := by
  have husers : ∀ (other : BookingId) (found : Booking),
      (ledger.bookings.erase id)[other]? = some found → UserName found.user := by
    intro other found hfound
    simp only [Std.ExtTreeMap.getElem?_erase, Std.LawfulEqCmp.compare_eq_iff_eq] at hfound
    split at hfound
    · cases hfound
    · exact hnamed.users other found hfound
  unfold Ledger.remove? at hremoved
  split at hremoved
  · cases hremoved
  · cases hremoved
    split
    · next timetable htimetable =>
        exact hnamed.of_insert (timetable.erase id) (hnamed.headed _ timetable htimetable)
          husers _
    · exact ⟨hnamed.headed, husers⟩

theorem removeAll (hnamed : ledger.WellNamed) (ids : List BookingId) :
    (ledger.removeAll ids).2.WellNamed := by
  induction ids generalizing ledger with
  | nil => exact hnamed
  | cons id rest ih =>
      rw [Ledger.removeAll]
      cases hremoved : ledger.remove? id with
      | none => exact hnamed
      | some found => exact ih (hnamed.remove? hremoved)

end WellNamed

end Ledger

namespace Desk

variable {desk : Desk}

theorem step_wellNamed (hconsistent : desk.ledger.Consistent) (hnamed : desk.ledger.WellNamed)
    (action : Action) : (desk.step action).2.ledger.WellNamed := by
  cases action with
  | book facility user start stop =>
      rcases book_or_obstacle hconsistent facility user start stop with
        ⟨refusal, -, hrefused⟩ | ⟨hnone, ledger, hensure, hbooked⟩
      · rw [step, hrefused]
        exact hnamed
      · have hnonempty : user.utf8ByteSize ≠ 0 := fun hempty =>
          hnone _ _ (.unnamedUser hempty)
        have hshort : ¬ 256 < user.utf8ByteSize := fun hlong => hnone _ _ (.longUser hlong)
        rw [step, hbooked]
        have hopened := hnamed.ensure hensure
        exact hopened.added (hopened.facility_getD facility)
          ⟨Nat.one_le_iff_ne_zero.mpr hnonempty, Nat.not_lt.mp hshort⟩
  | change id offset =>
      rcases change_cases hconsistent id offset with
        ⟨refusal, -, hrefused⟩ | ⟨booking, timetable, hbooking, htimetable, -, -, hchanged⟩
      · rw [step, hrefused]
        exact hnamed
      · rw [step, hchanged]
        exact hnamed.moved hbooking htimetable _
  | resetDay facility day =>
      rw [step, resetDay]
      cases hensure : desk.ledger.ensure facility with
      | error refusal => exact hnamed
      | ok ledger => exact (hnamed.ensure hensure).removeAll _
  | queryDay facility day =>
      rcases queryDay_cases desk facility day with
        ⟨refusal, -, hrefused⟩ | ⟨ledger, free, hensure, -, hqueried⟩
      · rw [step, hrefused]
        exact hnamed
      · rw [step, hqueried]
        exact hnamed.ensure hensure
  | incrementUsage facility =>
      rcases incrementUsage_cases desk facility with
        ⟨refusal, -, hrefused⟩ | ⟨ledger, hensure, hcounted⟩
      · rw [step, hrefused]
        exact hnamed
      · rw [step, hcounted]
        exact hnamed.ensure hensure

theorem run_wellNamed (actions : List Action) : (empty.run actions).ledger.WellNamed := by
  suffices h : ∀ desk : Desk, desk.ledger.Consistent → desk.ledger.WellNamed →
      (desk.run actions).ledger.WellNamed from
    h empty Ledger.consistent_empty Ledger.wellNamed_empty
  induction actions with
  | nil => exact fun _ _ hnamed => hnamed
  | cons action rest ih =>
      exact fun desk hconsistent hnamed =>
        ih _ (step_consistent hconsistent action) (step_wellNamed hconsistent hnamed action)

end Desk

end FacilityBooking
