import FacilityBooking.Proofs.Desk.Bookings
import FacilityBooking.Proofs.Ledger.Renumbering

/-!
# The ledger of one facility

An excerpt of a ledger holds what the ledger has on one facility, with other numbers for
its bookings, and no other facility. Whatever happens to the facility keeps the excerpt
true if it happens to both ledgers, and whatever happens elsewhere does so anyway.
-/

namespace FacilityBooking

/-- Slots inside the week of which no two overlap have different spans. -/
theorem Timetable.Tidy.eq_of_span_eq {slots : List Slot} (htidy : Timetable.Tidy slots)
    {first second : Slot} (hfirst : first ∈ slots) (hsecond : second ∈ slots)
    (hspan : first.span = second.span) : first = second := by
  by_contra hne
  apply htidy.not_overlaps hfirst hsecond hne
  obtain ⟨-, hlt, -⟩ := htidy.inside first hfirst
  rw [← hspan, Span.overlaps_iff]
  omega

namespace Ledger

/-- The second ledger holds what the first one has on a facility, with other numbers for
the bookings, and no other facility. -/
structure Excerpt (rank : BookingId → BookingId) (facility : String) (full alone : Ledger) :
    Prop where
  timetable : alone.timetables[facility]? =
    full.timetables[facility]?.map (Timetable.renumbered rank)
  booked : ∀ (id : BookingId) (booking : Booking), full.bookings[id]? = some booking →
    booking.facility = facility → alone.bookings[rank id]? = some (booking.renumbered rank)
  only : facility ∈ alone.timetables ∨ alone.timetables.size = 0

namespace Excerpt

variable {rank : BookingId → BookingId} {facility : String} {full alone : Ledger}
  {id other : BookingId} {booking : Booking} {timetable : Timetable}

theorem empty (rank : BookingId → BookingId) (facility : String) :
    Excerpt rank facility Ledger.empty Ledger.empty where
  timetable := by simp [Ledger.empty]
  booked id booking hbooking := by simp [Ledger.empty] at hbooking
  only := .inr (by simp [Ledger.empty])

theorem slotsOf_eq (hexcerpt : Excerpt rank facility full alone) :
    alone.slotsOf facility = (full.slotsOf facility).map (Slot.renumbered rank) := by
  rw [slotsOf, hexcerpt.timetable, slotsOf]
  cases full.timetables[facility]? <;> rfl

theorem getD_eq (hexcerpt : Excerpt rank facility full alone) :
    alone.timetables.getD facility ⟨facility, []⟩ =
      (full.timetables.getD facility ⟨facility, []⟩).renumbered rank := by
  rw [Std.ExtTreeMap.getD_eq_getD_getElem?, Std.ExtTreeMap.getD_eq_getD_getElem?,
    hexcerpt.timetable]
  cases full.timetables[facility]? <;> rfl

/-- Two bookings of the facility have different numbers in the excerpt, or their slots would
share a span. -/
theorem rank_inj (hexcerpt : Excerpt rank facility full alone) (hfull : full.Consistent)
    {second : Booking} (hfirst : full.bookings[id]? = some booking)
    (hsecond : full.bookings[other]? = some second) (hfacility : booking.facility = facility)
    (hsecondFacility : second.facility = facility) (hrank : rank id = rank other) :
    id = other := by
  have hfirstAlone := hexcerpt.booked id booking hfirst hfacility
  have hsecondAlone := hexcerpt.booked other second hsecond hsecondFacility
  rw [hrank, hsecondAlone] at hfirstAlone
  have hspan : (second.renumbered rank).span = (booking.renumbered rank).span :=
    congrArg Booking.span (Option.some.inj hfirstAlone)
  change second.span = booking.span at hspan
  have hfirstSlot := hfull.slot_mem hfirst
  have hsecondSlot := hfull.slot_mem hsecond
  rw [hfacility] at hfirstSlot
  rw [hsecondFacility] at hsecondSlot
  have hslots := (hfull.tidy facility).eq_of_span_eq hfirstSlot hsecondSlot hspan.symm
  exact congrArg Slot.booking hslots

/-- No slot of the facility shares its number in the excerpt with another booking. -/
theorem apart (hexcerpt : Excerpt rank facility full alone) (hfull : full.Consistent)
    (hbooking : full.bookings[id]? = some booking) (hfacility : booking.facility = facility) :
    ∀ slot ∈ full.slotsOf facility, rank slot.booking = rank id → slot.booking = id := by
  intro slot hslot hrank
  obtain ⟨found, hfound, -, hfoundFacility⟩ := (hfull.listed facility slot).mp hslot
  exact hexcerpt.rank_inj hfull hfound hbooking hfoundFacility hfacility hrank

/-! ## What happens to the facility -/

/-- Unless there is no room for another facility, both ledgers open the facility, or they
refuse it for the same reason. -/
theorem ensure (hexcerpt : Excerpt rank facility full alone) :
    full.ensure facility = .error (.limitExceeded .facilities) ∨
      (∃ refusal, full.ensure facility = .error refusal ∧
        alone.ensure facility = .error (refusal.renumbered rank)) ∨
      ∃ opened openedAlone, full.ensure facility = .ok opened ∧
        alone.ensure facility = .ok openedAlone ∧ Excerpt rank facility opened openedAlone := by
  unfold Ledger.ensure
  cases facility.isEmpty with
  | true => exact .inr (.inl ⟨_, rfl, rfl⟩)
  | false =>
      by_cases hlong : Limits.facilityNameBytes < facility.utf8ByteSize
      · simp only [if_pos hlong]
        exact .inr (.inl ⟨_, rfl, rfl⟩)
      · have hmem : facility ∈ alone.timetables ↔ facility ∈ full.timetables := by
          rw [Std.ExtTreeMap.mem_iff_isSome_getElem?, Std.ExtTreeMap.mem_iff_isSome_getElem?,
            hexcerpt.timetable, Option.isSome_map]
        by_cases hopen : facility ∈ full.timetables
        · simp only [if_neg hlong, if_pos hopen, if_pos (hmem.mpr hopen)]
          exact .inr (.inr ⟨_, _, rfl, rfl, hexcerpt⟩)
        · have hnone : ¬ Limits.facilities ≤ alone.timetables.size := by
            rw [hexcerpt.only.resolve_left fun hthere => hopen (hmem.mp hthere)]
            decide
          by_cases hfull : Limits.facilities ≤ full.timetables.size
          · simp only [if_neg hlong, if_neg hopen, if_pos hfull]
            exact .inl rfl
          · simp only [if_neg hlong, if_neg hopen, if_neg hfull, if_neg (mt hmem.mp hopen),
              if_neg hnone]
            refine .inr (.inr ⟨_, _, rfl, rfl, ?_, hexcerpt.booked, ?_⟩)
            · simp only [Std.ExtTreeMap.getElem?_insert_self]
              rfl
            · exact .inl Std.ExtTreeMap.mem_insert_self

/-- A booking that joins the facility under the next number joins both ledgers. -/
theorem added (hexcerpt : Excerpt rank facility full alone) (halone : alone.Consistent)
    {user : String} {span : Span} (hrank : rank full.nextId = alone.nextId) :
    Excerpt rank facility
      (full.added (full.timetables.getD facility ⟨facility, []⟩)
        ⟨full.nextId, facility, user, span⟩)
      (alone.added (alone.timetables.getD facility ⟨facility, []⟩)
        ⟨alone.nextId, facility, user, span⟩) where
  timetable := by
    simp only [Ledger.added, Std.ExtTreeMap.getElem?_insert_self, Option.map_some,
      hexcerpt.getD_eq, ← hrank, Timetable.insert_renumbered]
  booked id booking hbooking hfacility := by
    simp only [Ledger.added, Std.ExtTreeMap.getElem?_insert, Std.LawfulEqCmp.compare_eq_iff_eq]
      at hbooking ⊢
    by_cases hnew : full.nextId = id
    · rw [if_pos hnew] at hbooking
      cases hbooking
      rw [if_pos (hrank.symm.trans (congrArg rank hnew)), ← hrank]
      rfl
    · rw [if_neg hnew] at hbooking
      have hold := hexcerpt.booked id booking hbooking hfacility
      have hne : alone.nextId ≠ rank id := by
        intro hsame
        rw [← hsame, halone.next_unused] at hold
        cases hold
      rw [if_neg hne, hold]
  only := .inl Std.ExtTreeMap.mem_insert_self

/-- A booking of the facility that moves moves in both ledgers. -/
theorem moved (hexcerpt : Excerpt rank facility full alone) (hfull : full.Consistent)
    (hbooking : full.bookings[id]? = some booking) (hfacility : booking.facility = facility)
    (htimetable : full.timetables[facility]? = some timetable) (span : Span) :
    Excerpt rank facility (full.moved timetable booking id span)
      (alone.moved (timetable.renumbered rank) (booking.renumbered rank) (rank id) span) where
  timetable := by
    subst hfacility
    have hapart := hexcerpt.apart hfull hbooking rfl
    rw [slotsOf_of_getElem? htimetable] at hapart
    simp only [Ledger.moved, Booking.renumbered, Std.ExtTreeMap.getElem?_insert_self,
      Option.map_some, Timetable.erase_renumbered hapart, Timetable.insert_renumbered]
  booked other found hfound hfoundFacility := by
    simp only [Ledger.moved, Std.ExtTreeMap.getElem?_insert, Std.LawfulEqCmp.compare_eq_iff_eq]
      at hfound ⊢
    by_cases hsame : id = other
    · rw [if_pos hsame] at hfound
      cases hfound
      rw [if_pos (congrArg rank hsame)]
      rfl
    · rw [if_neg hsame] at hfound
      have hne : rank id ≠ rank other := fun hrank =>
        hsame (hexcerpt.rank_inj hfull hbooking hfound hfacility hfoundFacility hrank)
      rw [if_neg hne]
      exact hexcerpt.booked other found hfound hfoundFacility
  only := by
    subst hfacility
    exact .inl Std.ExtTreeMap.mem_insert_self

/-- A booking of the facility that goes goes from both ledgers. -/
theorem dropped (hexcerpt : Excerpt rank facility full alone) (hfull : full.Consistent)
    (hbooking : full.bookings[id]? = some booking) (hfacility : booking.facility = facility)
    (htimetable : full.timetables[facility]? = some timetable) :
    Excerpt rank facility (full.dropped timetable booking id)
      (alone.dropped (timetable.renumbered rank) (booking.renumbered rank) (rank id)) where
  timetable := by
    subst hfacility
    have hapart := hexcerpt.apart hfull hbooking rfl
    rw [slotsOf_of_getElem? htimetable] at hapart
    simp only [Ledger.dropped, Booking.renumbered, Std.ExtTreeMap.getElem?_insert_self,
      Option.map_some, Timetable.erase_renumbered hapart]
  booked other found hfound hfoundFacility := by
    simp only [Ledger.dropped, Std.ExtTreeMap.getElem?_erase, Std.LawfulEqCmp.compare_eq_iff_eq]
      at hfound ⊢
    by_cases hsame : id = other
    · rw [if_pos hsame] at hfound
      cases hfound
    · rw [if_neg hsame] at hfound
      have hne : rank id ≠ rank other := fun hrank =>
        hsame (hexcerpt.rank_inj hfull hbooking hfound hfacility hfoundFacility hrank)
      rw [if_neg hne]
      exact hexcerpt.booked other found hfound hfoundFacility
  only := by
    subst hfacility
    exact .inl Std.ExtTreeMap.mem_insert_self

/-- Different bookings of the facility that go one by one go from both ledgers. -/
theorem removeAll (hexcerpt : Excerpt rank facility full alone) (hfull : full.Consistent)
    {ids : List BookingId} (hnodup : ids.Nodup)
    (hthere : ∀ id ∈ ids, ∃ booking, full.bookings[id]? = some booking ∧
      booking.facility = facility) :
    ∃ removed after afterAlone, full.removeAll ids = (.ok removed, after) ∧
      alone.removeAll (ids.map rank) = (.ok (removed.map (Booking.renumbered rank)), afterAlone) ∧
      Excerpt rank facility after afterAlone := by
  induction ids generalizing full alone with
  | nil => exact ⟨[], full, alone, rfl, rfl, hexcerpt⟩
  | cons id rest ih =>
      obtain ⟨hnew, hrest⟩ := List.nodup_cons.mp hnodup
      obtain ⟨booking, hbooking, rfl⟩ := hthere id (.head _)
      obtain ⟨timetable, htimetable⟩ := hfull.timetable_of_booking hbooking
      have hbookingAlone := hexcerpt.booked id booking hbooking rfl
      have htimetableAlone : alone.timetables[(booking.renumbered rank).facility]? =
          some (timetable.renumbered rank) := by
        rw [Booking.renumbered, hexcerpt.timetable, htimetable]
        rfl
      obtain ⟨removed, after, afterAlone, hremoved, hremovedAlone, hafter⟩ :=
        ih (hexcerpt.dropped hfull hbooking rfl htimetable) (hfull.dropped hbooking htimetable)
          hrest fun other hother => by
            obtain ⟨found, hfound, hfacility⟩ := hthere other (.tail _ hother)
            refine ⟨found, ?_, hfacility⟩
            simp only [Ledger.dropped, Std.ExtTreeMap.getElem?_erase,
              Std.LawfulEqCmp.compare_eq_iff_eq]
            rw [if_neg fun (hsame : id = other) => hnew (hsame ▸ hother), hfound]
      refine ⟨booking :: removed, after, afterAlone, ?_, ?_, hafter⟩
      · rw [Ledger.removeAll, remove?_eq hbooking htimetable]
        dsimp only
        rw [hremoved]
        rfl
      · rw [List.map_cons, Ledger.removeAll, remove?_eq hbookingAlone htimetableAlone]
        dsimp only
        rw [hremovedAlone]
        rfl

/-! ## What can be read off -/

/-- The excerpt lists the bookings of the facility under their other numbers. -/
theorem bookingsOf_eq (hexcerpt : Excerpt rank facility full alone) (hfull : full.Consistent) :
    alone.bookingsOf facility = (full.bookingsOf facility).map (Booking.renumbered rank) := by
  rw [bookingsOf, hexcerpt.slotsOf_eq, List.filterMap_map, bookingsOf, List.map_filterMap]
  apply List.filterMap_congr
  intro slot hslot
  obtain ⟨booking, hbooking, -, hfacility⟩ := (hfull.listed facility slot).mp hslot
  rw [hbooking]
  exact hexcerpt.booked slot.booking booking hbooking hfacility

end Excerpt

/-! ## What happens elsewhere -/

theorem bookings_of_remove? {ledger after : Ledger} {id : BookingId} {booking : Booking}
    (hremoved : ledger.remove? id = some (booking, after)) :
    ledger.bookings[id]? = some booking := by
  unfold remove? at hremoved
  split at hremoved
  · cases hremoved
  · next hbooking =>
      cases hremoved
      exact hbooking

/-- From one ledger to another the timetable of a facility stayed, and no booking of it is
new. -/
structure Elsewhere (facility : String) (before after : Ledger) : Prop where
  timetable : after.timetables[facility]? = before.timetables[facility]?
  booked : ∀ (id : BookingId) (booking : Booking), after.bookings[id]? = some booking →
    booking.facility = facility → before.bookings[id]? = some booking

/-- What happens elsewhere leaves an excerpt true. -/
theorem Excerpt.elsewhere {rank : BookingId → BookingId} {facility : String}
    {full after alone : Ledger} (hexcerpt : Excerpt rank facility full alone)
    (helsewhere : Elsewhere facility full after) : Excerpt rank facility after alone where
  timetable := by rw [hexcerpt.timetable, helsewhere.timetable]
  booked id booking hbooking hfacility :=
    hexcerpt.booked id booking (helsewhere.booked id booking hbooking hfacility) hfacility
  only := hexcerpt.only

namespace Elsewhere

variable {facility other : String} {before middle after : Ledger} {booking : Booking}
  {timetable : Timetable} {id : BookingId}

theorem refl (facility : String) (ledger : Ledger) : Elsewhere facility ledger ledger :=
  ⟨rfl, fun _ _ hbooking _ => hbooking⟩

theorem trans (hfirst : Elsewhere facility before middle)
    (hsecond : Elsewhere facility middle after) : Elsewhere facility before after where
  timetable := hsecond.timetable.trans hfirst.timetable
  booked id booking hbooking hfacility :=
    hfirst.booked id booking (hsecond.booked id booking hbooking hfacility) hfacility

/-- The timetable of another facility is written, and bookings of it. -/
theorem of_insert (hother : other ≠ facility) (timetable : Timetable)
    {bookings : Std.ExtTreeMap BookingId Booking} (nextId : BookingId)
    (hbooked : ∀ (id : BookingId) (booking : Booking), bookings[id]? = some booking →
      booking.facility = facility → before.bookings[id]? = some booking) :
    Elsewhere facility before ⟨before.timetables.insert other timetable, bookings, nextId⟩ where
  timetable := by
    simp only [Std.ExtTreeMap.getElem?_insert, Std.LawfulEqCmp.compare_eq_iff_eq]
    exact if_neg hother
  booked := hbooked

theorem of_ensure (hensure : before.ensure other = .ok after) (hother : other ≠ facility) :
    Elsewhere facility before after := by
  obtain ⟨-, ⟨-, rfl⟩ | ⟨-, -, rfl⟩⟩ := ensure_eq_ok_iff.mp hensure
  · exact refl facility after
  · exact of_insert hother _ _ fun _ _ hbooking _ => hbooking

/-- A booking of another facility is written. -/
theorem of_book (hother : booking.facility ≠ facility) (timetable : Timetable)
    (id nextId : BookingId) :
    Elsewhere facility before
      ⟨before.timetables.insert booking.facility timetable, before.bookings.insert id booking,
        nextId⟩ := by
  refine of_insert hother timetable nextId fun key found hfound hfacility => ?_
  simp only [Std.ExtTreeMap.getElem?_insert, Std.LawfulEqCmp.compare_eq_iff_eq] at hfound
  split at hfound
  · cases hfound
    exact absurd hfacility hother
  · exact hfound

theorem of_added (hother : booking.facility ≠ facility) (timetable : Timetable) :
    Elsewhere facility before (before.added timetable booking) :=
  of_book hother _ _ _

theorem of_moved (hother : booking.facility ≠ facility) (timetable : Timetable)
    (id : BookingId) (span : Span) :
    Elsewhere facility before (before.moved timetable booking id span) :=
  @of_book _ _ { booking with span } hother _ _ _

/-- A booking of another facility is removed. -/
theorem of_remove? (hremoved : before.remove? id = some (booking, after))
    (hother : booking.facility ≠ facility) : Elsewhere facility before after := by
  have hbooked : ∀ (key : BookingId) (found : Booking), (before.bookings.erase id)[key]? =
      some found → found.facility = facility → before.bookings[key]? = some found := by
    intro key found hfound _
    simp only [Std.ExtTreeMap.getElem?_erase, Std.LawfulEqCmp.compare_eq_iff_eq] at hfound
    split at hfound
    · cases hfound
    · exact hfound
  unfold remove? at hremoved
  split at hremoved
  · cases hremoved
  · cases hremoved
    split
    · exact of_insert hother _ _ hbooked
    · exact ⟨rfl, hbooked⟩

/-- Bookings of other facilities are removed one by one. -/
theorem of_removeAll {ids : List BookingId}
    (hothers : ∀ id ∈ ids, ∀ booking : Booking, before.bookings[id]? = some booking →
      booking.facility ≠ facility) :
    Elsewhere facility before (before.removeAll ids).2 := by
  induction ids generalizing before with
  | nil => exact refl facility before
  | cons id rest ih =>
      rw [removeAll]
      cases hremoved : before.remove? id with
      | none => exact refl facility before
      | some found =>
          obtain ⟨booking, dropped⟩ := found
          have hbooking : before.bookings[id]? = some booking := bookings_of_remove? hremoved
          refine (of_remove? hremoved (hothers id (.head _) booking hbooking)).trans (ih ?_)
          intro later hlater found hfound
          rw [bookings_remove? hremoved] at hfound
          split at hfound
          · cases hfound
          · exact hothers later (.tail _ hlater) found hfound

end Elsewhere

end Ledger

end FacilityBooking
