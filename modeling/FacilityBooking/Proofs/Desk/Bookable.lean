import FacilityBooking.Proofs.Desk.Gaps
import FacilityBooking.Proofs.Desk.Runs

/-!
# What can be booked

A query tells exactly what can be booked: a span of the day can be booked right after it
if and only if the span lies within one of the intervals that the query returned.
-/

namespace FacilityBooking

namespace Desk

variable {desk : Desk} {facility user : String}

theorem checkUser_eq_ok_iff :
    checkUser user = .ok () ↔
      1 ≤ user.utf8ByteSize ∧ user.utf8ByteSize ≤ Limits.userNameBytes := by
  rcases checkUser_cases user with
    ⟨hempty, huser⟩ | ⟨hlong, huser⟩ | ⟨haccepted, huser⟩ <;> rw [huser]
  · exact iff_of_false nofun fun haccepted => by omega
  · exact iff_of_false nofun fun haccepted => Nat.not_lt_of_le haccepted.2 hlong
  · exact iff_of_true rfl haccepted

/-- The free intervals stand for the free pieces of the day. -/
theorem exists_mem_freeOn_iff (hconsistent : desk.ledger.Consistent) {day : Day}
    {free : List Interval} (hfree : desk.freeOn facility day = .ok free) (span : Span)
    (hspan : span.start < span.stop) :
    (∃ interval ∈ free, span.Within interval.toSpan) ↔
      span.Within day.window ∧
        ∀ slot ∈ desk.ledger.slotsOf facility, ¬ slot.span.overlaps span := by
  rw [← Ledger.exists_mem_freeSpans_iff (hconsistent.tidy facility) hspan,
    ← (spans_of_freeOn hfree).1]
  simp only [List.mem_map, exists_exists_and_eq_and]

/-- After a query that has an answer the facility is open, and the answer is its free time. -/
theorem queryDay_eq_ok (hconsistent : desk.ledger.Consistent) {day : Day} {free : List Interval}
    {asked : Desk} (hquery : desk.queryDay facility day = (.ok free, asked)) :
    asked.ledger.Consistent ∧ asked.ledger.ensure facility = .ok asked.ledger ∧
      asked.freeOn facility day = .ok free := by
  rcases queryDay_cases desk facility day with
    ⟨refusal, -, hrefused⟩ | ⟨ledger, found, hensure, hfree, hqueried⟩
  · rw [hrefused] at hquery
    cases hquery
  · rw [hqueried] at hquery
    cases hquery
    exact ⟨hconsistent.ensure hensure, Ledger.ensure_again hensure ledger.nextId, hfree⟩

/-- At a facility that is open, a valid user books a span of the week unless a booking of
the facility overlaps it. -/
theorem book_of_valid (hconsistent : desk.ledger.Consistent)
    (hensure : desk.ledger.ensure facility = .ok desk.ledger) (huser : checkUser user = .ok ())
    {start stop : WeekTime} (hinside : Span.InWeek ⟨start.toMinute, stop.toMinute⟩) :
    (∃ slot ∈ desk.ledger.slotsOf facility,
        slot.span.overlaps ⟨start.toMinute, stop.toMinute⟩ ∧
        (desk.book facility user start stop).1 = .error (.conflict slot.booking)) ∨
      (∀ slot ∈ desk.ledger.slotsOf facility,
        ¬ slot.span.overlaps ⟨start.toMinute, stop.toMinute⟩) ∧
        (desk.book facility user start stop).1 = .ok desk.ledger.nextId := by
  have hslots := Ledger.getD_slots desk.ledger facility
  have hsorted : Timetable.Sorted (desk.ledger.timetables.getD facility ⟨facility, []⟩).slots :=
    hslots ▸ (hconsistent.tidy facility).sorted
  have hspan := checkSpan_eq_ok_iff.mpr hinside
  simp only [book, huser, hspan, hensure, SeqRight.seqRight, Except.bind]
  cases hconflict : (desk.ledger.timetables.getD facility ⟨facility, []⟩).firstConflict?
      ⟨start.toMinute, stop.toMinute⟩ none with
  | some other =>
      obtain ⟨slot, hslot, rfl, -, hoverlaps⟩ :=
        Timetable.firstConflict?_eq_some hsorted hconflict
      rw [hslots] at hslot
      exact .inl ⟨slot, hslot, hoverlaps, rfl⟩
  | none =>
      rw [Timetable.firstConflict?_eq_none_iff hsorted, hslots] at hconflict
      have hinsert : desk.ledger.allocate.2.insert
          ⟨desk.ledger.nextId, facility, user, ⟨start.toMinute, stop.toMinute⟩⟩ = _ :=
        Ledger.insert_allocated hensure (hconsistent.tidy facility).length_lt
      refine .inr ⟨fun slot hslot => hconflict slot hslot (Option.some_ne_none _), ?_⟩
      dsimp only [Ledger.allocate] at hinsert ⊢
      rw [hinsert]

/-- Right after a query of a day, a span in the window of that day can be booked if and
only if it lies within one of the intervals that the query returned; if not, it is refused
for a booking that overlaps it. -/
theorem bookable_iff_free (actions : List Action) {day : Day} {free : List Interval}
    {asked : Desk} (hquery : (empty.run actions).queryDay facility day = (.ok free, asked))
    (hname : 1 ≤ user.utf8ByteSize) (hsize : user.utf8ByteSize ≤ 256) {start stop : WeekTime}
    (hstart : day.number * 1440 ≤ start.toMinute) (hlt : start.toMinute < stop.toMinute)
    (hstop : stop.toMinute ≤ day.number * 1440 + 1439) :
    ((∃ id, (asked.book facility user start stop).1 = .ok id) ↔
      ∃ interval ∈ free, interval.start.toMinute ≤ start.toMinute ∧
        stop.toMinute ≤ interval.stop.toMinute) ∧
    ∀ refusal, (asked.book facility user start stop).1 = .error refusal →
      ∃ id booking, refusal = .conflict id ∧ asked.ledger.bookings[id]? = some booking ∧
        booking.facility = facility ∧
        booking.span.overlaps ⟨start.toMinute, stop.toMinute⟩ := by
  obtain ⟨hconsistent, hensure, hfree⟩ :=
    queryDay_eq_ok (run_consistent Ledger.consistent_empty actions) hquery
  have hday := day.number_lt
  have hweek : minutesPerWeek = 10080 := rfl
  have hinside : Span.InWeek ⟨start.toMinute, stop.toMinute⟩ := by
    simp only [Span.InWeek]
    omega
  have hwindow : Span.Within ⟨start.toMinute, stop.toMinute⟩ day.window := by
    have hminutes : minutesPerDay = 1440 := rfl
    simp only [Span.Within, Day.window, hminutes]
    omega
  have hlies := exists_mem_freeOn_iff hconsistent hfree ⟨start.toMinute, stop.toMinute⟩ hlt
  rw [and_iff_right hwindow] at hlies
  have huser := checkUser_eq_ok_iff.mpr ⟨hname, hsize⟩
  rcases book_of_valid hconsistent hensure huser hinside with
    ⟨slot, hslot, hoverlaps, hrefused⟩ | ⟨hnone, hbooked⟩
  · rw [hrefused]
    refine ⟨iff_of_false ?_ fun hinterval => hlies.mp hinterval slot hslot hoverlaps, ?_⟩
    · rintro ⟨id, hid⟩
      cases hid
    intro refusal hrefusal
    cases hrefusal
    obtain ⟨booking, hbooking, hspan, hfacility⟩ := (hconsistent.listed facility slot).mp hslot
    exact ⟨slot.booking, booking, rfl, hbooking, hfacility, hspan ▸ hoverlaps⟩
  · rw [hbooked]
    refine ⟨iff_of_true ⟨_, rfl⟩ (hlies.mpr hnone), ?_⟩
    intro refusal hrefusal
    cases hrefusal

/-- With an hour booked, the hour before it can be booked, and a span that reaches into it
by a minute is refused for it. -/
theorem booked_up_to_next :
    ∃ asked, (empty.run [.book "LabA" "ann" ⟨.monday, 9, 0⟩ ⟨.monday, 10, 0⟩]).queryDay "LabA"
        .monday = (.ok [⟨⟨.monday, 0, 0⟩, ⟨.monday, 9, 0⟩⟩, ⟨⟨.monday, 10, 0⟩, ⟨.monday, 23, 59⟩⟩],
          asked) ∧
      (∃ id, (asked.book "LabA" "bob" ⟨.monday, 8, 0⟩ ⟨.monday, 9, 0⟩).1 = .ok id) ∧
      ¬ ∃ id, (asked.book "LabA" "bob" ⟨.monday, 8, 0⟩ ⟨.monday, 9, 1⟩).1 = .ok id := by
  obtain ⟨asked, hquery⟩ : ∃ asked, (empty.run [.book "LabA" "ann" ⟨.monday, 9, 0⟩
      ⟨.monday, 10, 0⟩]).queryDay "LabA" .monday = (.ok [⟨⟨.monday, 0, 0⟩, ⟨.monday, 9, 0⟩⟩,
        ⟨⟨.monday, 10, 0⟩, ⟨.monday, 23, 59⟩⟩], asked) := ⟨_, rfl⟩
  refine ⟨asked, hquery, ?_, ?_⟩
  · refine (bookable_iff_free _ hquery ?_ ?_ ?_ ?_ ?_).1.mpr ⟨_, .head _, ?_, ?_⟩ <;> decide
  · refine (bookable_iff_free _ hquery ?_ ?_ ?_ ?_ ?_).1.not.mpr ?_ <;> decide

end Desk

end FacilityBooking
