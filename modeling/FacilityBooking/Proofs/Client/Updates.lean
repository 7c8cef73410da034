import FacilityBooking.Client.Update
import FacilityBooking.Proofs.Calendar.Days
import FacilityBooking.Proofs.Service.Notices

/-!
# Updates

A watcher takes every datagram whole and never fails at it. It reads an update from the
notices of availability whose payload begins with a list of valid intervals, and from nothing
else. So it reads from each notice of the service the free time that the service had then.
-/

namespace FacilityBooking

/-! ## Reading updates -/

/-- A payload tells of free intervals if it begins with the list of them. -/
theorem Response.decode_availability_iff {payload : Bytes} {intervals : List Interval} :
    decode .queryAvailability payload = .ok (.availability intervals) ↔
      intervals.length < 65536 ∧ (∀ interval ∈ intervals, interval.Valid) ∧
        Field.intervalsBytes intervals <+: payload := by
  have hlisted : Operation.queryAvailability ≠ .monitor := by decide
  rw [decode, FieldReader.value?_eq_ok_iff]
  simp only [reader_eq_ok_iff hlisted]
  constructor
  · rintro ⟨rest, -, ⟨hlength, hvalid⟩, rfl⟩
    exact ⟨hlength, hvalid, List.prefix_append _ rest⟩
  · rintro ⟨hlength, hvalid, rest, hpayload⟩
    exact ⟨rest, rfl, ⟨hlength, hvalid⟩, hpayload.symm⟩

namespace Update

variable {datagram : Bytes} {update : Update}

/-- An update is read from a notice of availability whose payload tells of its intervals. -/
theorem ofDatagram?_eq_some_iff :
    ofDatagram? datagram = some update ↔
      ∃ header payload, Datagram.split datagram = .ok (header, payload) ∧
        header.isNotice = true ∧ header.operation = Operation.queryAvailability.code ∧
        Response.decode .queryAvailability payload = .ok (.availability update.intervals) := by
  constructor
  · intro hupdate
    unfold ofDatagram? at hupdate
    split at hupdate
    · cases hupdate
    · next header payload hsplit =>
        split at hupdate
        · next hnotice =>
            split at hupdate
            · next intervals hdecode =>
                cases hupdate
                exact ⟨header, payload, hsplit, hnotice.1, hnotice.2, hdecode⟩
            · cases hupdate
        · cases hupdate
  · rintro ⟨header, payload, hsplit, hnotice, hoperation, hdecode⟩
    rw [ofDatagram?, hsplit]
    dsimp only
    rw [if_pos ⟨hnotice, hoperation⟩, hdecode]

-- A notice of a day without free time, and the same with the bit of an error reply.
example : ofDatagram? (Datagram.frame ⟨1, 0x0001, 0, 2, 0⟩ [0, 0]) = some ⟨[]⟩ ∧
    ofDatagram? (Datagram.frame ⟨1, 0x8001, 0, 2, 0⟩ [0, 0]) = none := by
  decide

/-- The free time in a notice is read as it was written. -/
theorem ofDatagram?_frame {free : List Interval} (hfits : (Response.availability free).Fits) :
    ofDatagram? (Datagram.frame
      { operation := Operation.queryAvailability.code, requestId := 0, flags := noticeFlag }
      (Response.availability free).payload) = some ⟨free⟩ := by
  have hnotice : (noticeFlag &&& noticeFlag != 0) = true := by decide
  exact ofDatagram?_eq_some_iff.mpr ⟨_, _,
    (Datagram.complete_frame rfl hfits.length_payload_le).split_eq, hnotice, rfl,
    Response.decode_payload hfits.sendable⟩

end Update

/-! ## The day of an update -/

namespace Desk

variable {desk : Desk} {facility : String} {day : Day} {free : List Interval}

/-- The free intervals of a day start on that day. -/
theorem start_day_of_freeOn (hfree : desk.freeOn facility day = .ok free) :
    ∀ interval ∈ free, interval.start.day = day := by
  intro interval hinterval
  have hwithin := within_of_freeOn hfree interval hinterval
  have hvalid := (spans_of_freeOn hfree).2 interval hinterval
  have hday : Day.ofMinute? interval.start.toMinute = some day := by
    rw [Day.ofMinute?_eq_some_iff]
    simp only [Day.window] at hwithin
    omega
  exact Option.some.inj (hvalid.1.ofMinute?_toMinute.symm.trans hday)

theorem day?_of_freeOn (hfree : desk.freeOn facility day = .ok free) :
    Update.day? ⟨free⟩ = if free = [] then none else some day := by
  cases free with
  | nil => rfl
  | cons first rest => exact congrArg some (start_day_of_freeOn hfree first (.head rest))

end Desk

/-! ## Updates from the service -/

namespace Service

/-- There is a notice about every day of every facility, and the free time of that day is
read from it. -/
theorem take_noticeDatagram? {service : Service} (hconsistent : service.desk.ledger.Consistent)
    (facility : String) (day : Day) :
    ∃ free datagram, service.desk.freeOn facility day = .ok free ∧
      service.noticeDatagram? facility day = some datagram ∧
      Update.take datagram = (some ⟨free⟩, []) ∧
      Update.day? ⟨free⟩ = if free = [] then none else some day := by
  obtain ⟨free, hfree, -⟩ := service.desk.freeOn_eq_ok facility day
  refine ⟨free, _, hfree, by rw [noticeDatagram?, hfree], ?_, Desk.day?_of_freeOn hfree⟩
  rw [Update.take, Update.ofDatagram?_frame (Desk.fits_of_freeOn hconsistent hfree)]

/-- Whatever bytes are in its buffer, a watcher takes all of them and gives an update exactly
if they are a datagram with the notice flag, with the code of a query for availability and
without the error bit, whose payload begins with the complete list of its intervals, all of
them valid. In every state that a service can reach, the watcher reads from the notice about
any day of any facility the free time of that day, and learns the day from it unless no time
is free. Every notice that the service gives out when it handles a datagram is such a notice,
about a day that is reported of the facility whose bookings changed, and for a live watch of
that facility; and it tells of the free time right after the datagram. -/
theorem updates_tell_free_time :
    (∀ buffer, (Update.take buffer).2 = [] ∧
      ∀ update, (Update.take buffer).1 = some update ↔
        ∃ header payload, Datagram.split buffer = .ok (header, payload) ∧
          header.isNotice = true ∧ header.operation = 0x0001 ∧
          update.intervals.length < 65536 ∧ (∀ interval ∈ update.intervals, interval.Valid) ∧
          Field.intervalsBytes update.intervals <+: payload) ∧
    ∀ (lifetime : Nat) (switch : Bool) (events : List Event),
      (∀ facility day, ∃ free datagram,
        ((new lifetime switch).after events).desk.freeOn facility day = .ok free ∧
        ((new lifetime switch).after events).noticeDatagram? facility day = some datagram ∧
        Update.take datagram = (some ⟨free⟩, []) ∧
        Update.day? ⟨free⟩ = if free = [] then none else some day) ∧
      ∀ (datagram : Bytes) (peer : Address) (now : Nat),
        ∀ notice ∈ (((new lifetime switch).after events).handle datagram peer now).1.notices,
          ∃ touched day free,
            ((new lifetime switch).after events).touched? datagram peer now = some touched ∧
            (∃ watch ∈ (((new lifetime switch).after events).handle datagram peer
              now).2.watches.activeFor touched.facility now, watch.target = notice.target) ∧
            day ∈ (((new lifetime switch).after events).handle datagram peer now).2.reportedDays
              touched ∧
            (((new lifetime switch).after events).handle datagram peer now).2.noticeDatagram?
              touched.facility day = some notice.datagram ∧
            (((new lifetime switch).after events).handle datagram peer now).2.desk.freeOn
              touched.facility day = .ok free ∧
            Update.take notice.datagram = (some ⟨free⟩, []) ∧
            Update.day? ⟨free⟩ = if free = [] then none else some day := by
  constructor
  · intro buffer
    refine ⟨rfl, fun update => ?_⟩
    rw [Update.take, Update.ofDatagram?_eq_some_iff]
    simp only [Response.decode_availability_iff]
    rfl
  · intro lifetime switch events
    have hconsistent := after_consistent lifetime switch events
    generalize (new lifetime switch).after events = service at *
    refine ⟨take_noticeDatagram? hconsistent, fun datagram peer now notice hnotice => ?_⟩
    have hafter := step_consistent hconsistent (.arrival datagram peer now)
    rw [step] at hafter
    rw [handle_notices] at hnotice
    cases htouched : service.touched? datagram peer now with
    | none =>
        rw [htouched] at hnotice
        cases hnotice
    | some touched =>
        rw [htouched] at hnotice
        obtain ⟨hwatch, day, hday, hdatagram⟩ := mem_noticesFor_iff.mp hnotice
        obtain ⟨free, told, hfree, htold, htake, hlearned⟩ :=
          take_noticeDatagram? hafter touched.facility day
        obtain rfl : told = notice.datagram := Option.some.inj (htold.symm.trans hdatagram)
        exact ⟨touched, day, free, rfl, hwatch, hday, htold, hfree, htake, hlearned⟩

/-- Whoever watches is told of an hour that is booked, and reads what it leaves of its day. -/
theorem update_of_booked_hour :
    ∃ notice,
      (((new 5 true).after [.arrival (Datagram.frame ⟨1, 4, 1, 0, 0⟩
          [0, 4, 76, 97, 98, 65, 0, 0, 0, 60, 0, 0, 19, 136]) ⟨"10.0.0.9", 4242⟩ 0]).handle
        (Datagram.frame ⟨1, 2, 2, 0, 0⟩
          [0, 4, 76, 97, 98, 65, 0, 3, 97, 110, 110, 0, 9, 0, 0, 10, 0])
        ⟨"10.0.0.8", 4242⟩ 7).1.notices = [notice] ∧
      Update.take notice.datagram = (some ⟨[⟨⟨.monday, 0, 0⟩, ⟨.monday, 9, 0⟩⟩,
        ⟨⟨.monday, 10, 0⟩, ⟨.monday, 23, 59⟩⟩]⟩, []) := by
  refine ⟨⟨⟨"10.0.0.9", 5000⟩, Datagram.frame ⟨1, 1, 0, 2, 0⟩ (Response.availability
    [⟨⟨.monday, 0, 0⟩, ⟨.monday, 9, 0⟩⟩, ⟨⟨.monday, 10, 0⟩, ⟨.monday, 23, 59⟩⟩]).payload⟩,
    by decide +kernel, ?_⟩
  obtain ⟨touched, day, free, htouched, -, hday, -, hfree, htake, -⟩ :=
    (updates_tell_free_time.2 5 true [.arrival (Datagram.frame ⟨1, 4, 1, 0, 0⟩
      [0, 4, 76, 97, 98, 65, 0, 0, 0, 60, 0, 0, 19, 136]) ⟨"10.0.0.9", 4242⟩ 0]).2
      (Datagram.frame ⟨1, 2, 2, 0, 0⟩
        [0, 4, 76, 97, 98, 65, 0, 3, 97, 110, 110, 0, 9, 0, 0, 10, 0]) ⟨"10.0.0.8", 4242⟩ 7
      ⟨⟨"10.0.0.9", 5000⟩, Datagram.frame ⟨1, 1, 0, 2, 0⟩ (Response.availability
        [⟨⟨.monday, 0, 0⟩, ⟨.monday, 9, 0⟩⟩, ⟨⟨.monday, 10, 0⟩, ⟨.monday, 23, 59⟩⟩]).payload⟩
      (by decide +kernel)
  obtain rfl : touched = ⟨"LabA", []⟩ :=
    Option.some.inj (htouched.symm.trans (by decide +kernel))
  obtain rfl : day = .monday := (by decide +kernel : ∀ other ∈ _, other = Day.monday) day hday
  have hnow : free = [⟨⟨.monday, 0, 0⟩, ⟨.monday, 9, 0⟩⟩, ⟨⟨.monday, 10, 0⟩, ⟨.monday, 23, 59⟩⟩] :=
    Except.ok.inj (hfree.symm.trans (by decide +kernel))
  exact hnow ▸ htake

end Service

end FacilityBooking
