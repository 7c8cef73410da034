import FacilityBooking.Proofs.Desk.TouchedDays
import FacilityBooking.Proofs.Service.Effects
import Mathlib.Data.List.Induction
import Mathlib.Tactic.Choose

/-!
# Notices

When a request changed the bookings of a facility, every live watch of that facility is
told the free time of every day that has a booking or is concerned otherwise. Nothing else
gives rise to a notice.
-/

namespace FacilityBooking

/-! ## Registered watches -/

/-- The watch that is registered at a moment. -/
def Moment.registration? (moment : Moment) : Option Watch :=
  match moment.event with
  | .sweep _ => none
  | .arrival datagram peer now => moment.service.registration? datagram peer now

/-- A sweep takes away the watches whose time is over. -/
def Event.spares (event : Event) (watch : Watch) : Bool :=
  match event with
  | .sweep now => watch.isLive now
  | .arrival .. => true

/-- The watches that were registered in a history, in the order of their registration and
without those that were swept away later. -/
def registrations : List Moment → List Watch
  | [] => []
  | moment :: later =>
      (moment.registration?.toList.filter fun watch =>
        later.all fun other => other.event.spares watch) ++ registrations later

theorem registrations_concat (history : List Moment) (moment : Moment) :
    registrations (history ++ [moment]) =
      (registrations history).filter (fun watch => moment.event.spares watch) ++
        moment.registration?.toList := by
  induction history with
  | nil => exact (List.append_nil _).trans (List.filter_eq_self.mpr fun _ _ => rfl)
  | cons first rest ih =>
      simp only [List.cons_append, registrations, ih, List.filter_append, List.filter_filter,
        List.all_append, List.all_cons, List.all_nil, Bool.and_true, List.append_assoc]
      congr 2
      funext watch
      exact Bool.and_comm ..

namespace Service

variable {service : Service} {touched : Touched}

theorem step_watches (service : Service) (event : Event) :
    (service.step event).watches.watches.toList =
      service.watches.watches.toList.filter (fun watch => event.spares watch) ++
        (Moment.registration? ⟨service, event⟩).toList := by
  cases event with
  | sweep now => exact Array.toList_filter.trans (List.append_nil _).symm
  | arrival datagram peer now =>
      have hspared : service.watches.watches.toList.filter (fun watch =>
          (Event.arrival datagram peer now).spares watch) = service.watches.watches.toList :=
        List.filter_eq_self.mpr fun _ _ => rfl
      rw [hspared]
      exact handle_watches service datagram peer now

/-- The watches on the list are those of the history. -/
theorem watches_eq_registrations (lifetime : Nat) (switch : Bool) (events : List Event) :
    ((new lifetime switch).after events).watches.watches.toList =
      registrations ((new lifetime switch).history events) := by
  induction events using List.reverseRecOn with
  | nil => rfl
  | append_singleton events event ih =>
      rw [history_concat, registrations_concat, ← ih, after_append, after_cons, after_nil,
        step_watches]

/-! ## What watchers are told -/

/-- A day is reported if a booking of the facility touches it, and if it is an extra one. -/
theorem mem_reportedDays_iff (hconsistent : service.desk.ledger.Consistent) {day : Day} :
    day ∈ service.reportedDays touched ↔
      (∃ (id : BookingId) (booking : Booking), service.desk.ledger.bookings[id]? = some booking ∧
        booking.facility = touched.facility ∧ booking.span.Touches day) ∨
      day ∈ touched.extraDays := by
  simp only [reportedDays, List.mem_filter, Day.mem_all, true_and, Bool.or_eq_true,
    List.contains_iff_mem, Desk.mem_daysWithBookings_iff hconsistent]

/-- The reported days go from Monday to Sunday. -/
theorem pairwise_reportedDays (service : Service) (touched : Touched) :
    (service.reportedDays touched).Pairwise fun earlier later =>
      earlier.number < later.number :=
  Day.pairwise_all.sublist List.filter_sublist

theorem activeFor_eq_filter (list : WatchList) (facility : String) (now : Nat) :
    list.activeFor facility now = list.watches.toList.filter fun watch =>
      watch.facility = facility ∧ now < watch.expiry := by
  rw [WatchList.activeFor, Array.toList_filter]
  apply List.filter_congr
  intro watch _
  simp only [Watch.isLive, Bool.decide_and, beq_eq_decide]

/-- Each live watch of the facility is told every day that can be told. -/
theorem noticesFor_eq_flatMap (service : Service) (touched : Touched) (now : Nat) :
    service.noticesFor touched now =
      (service.watches.activeFor touched.facility now).flatMap fun watch =>
        ((service.reportedDays touched).filterMap
          (service.noticeDatagram? touched.facility)).map fun datagram =>
            ⟨watch.target, datagram⟩ := by
  unfold noticesFor
  split
  · next hnone => rw [hnone, List.flatMap_nil]
  · rfl

theorem noticeDatagram?_eq_some_iff {facility : String} {day : Day} {datagram : Bytes} :
    service.noticeDatagram? facility day = some datagram ↔
      ∃ free, service.desk.freeOn facility day = .ok free ∧ Datagram.frame
        { operation := Operation.queryAvailability.code, requestId := 0, flags := noticeFlag }
        (Response.availability free).payload = datagram := by
  rw [noticeDatagram?]
  cases service.desk.freeOn facility day with
  | error cause => exact ⟨nofun, nofun⟩
  | ok free => simp only [Option.some.injEq, Except.ok.injEq, exists_eq_left']

/-- A notice goes to a live watch of the facility and is about a reported day. -/
theorem mem_noticesFor_iff {notice : Notice} {now : Nat} :
    notice ∈ service.noticesFor touched now ↔
      (∃ watch ∈ service.watches.activeFor touched.facility now, watch.target = notice.target) ∧
        ∃ day ∈ service.reportedDays touched,
          service.noticeDatagram? touched.facility day = some notice.datagram := by
  obtain ⟨target, datagram⟩ := notice
  simp only [noticesFor_eq_flatMap, List.mem_flatMap, List.mem_map, List.mem_filterMap,
    Notice.mk.injEq]
  constructor
  · rintro ⟨watch, hwatch, _, ⟨day, hday, hdatagram⟩, htarget, rfl⟩
    exact ⟨⟨watch, hwatch, htarget⟩, day, hday, hdatagram⟩
  · rintro ⟨⟨watch, hwatch, htarget⟩, day, hday, hdatagram⟩
    exact ⟨watch, hwatch, datagram, ⟨day, hday, hdatagram⟩, htarget, rfl⟩

theorem noticesFor_eq {free : Day → List Interval}
    (hfree : ∀ day, service.desk.freeOn touched.facility day = .ok (free day)) (now : Nat) :
    service.noticesFor touched now =
      (service.watches.activeFor touched.facility now).flatMap fun watch =>
        (service.reportedDays touched).map fun day => ⟨watch.target, Datagram.frame
          { operation := Operation.queryAvailability.code, requestId := 0, flags := noticeFlag }
          (Response.availability (free day)).payload⟩ := by
  have hdatagram : service.noticeDatagram? touched.facility = fun day => some (Datagram.frame
      { operation := Operation.queryAvailability.code, requestId := 0, flags := noticeFlag }
      (Response.availability (free day)).payload) := by
    funext day
    rw [noticeDatagram?, hfree]
  rw [noticesFor_eq_flatMap, hdatagram, List.filterMap_eq_map']
  simp only [List.map_map, Function.comp_def]

/-- A request that changed bookings of a facility gives rise to one notice for each live
registration of the facility, in the order of registration, and for each day, Monday first,
that is touched by a booking of the facility or concerned otherwise. The notice tells the
free time of the day afterwards. No other datagram gives rise to a notice. -/
theorem notices_exact (lifetime : Nat) (switch : Bool) (events : List Event)
    (datagram : Bytes) (peer : Address) (now : Nat) :
    (∀ request facility extra after,
      ((new lifetime switch).after events).executed? datagram peer now = some request →
      Rebooking ((new lifetime switch).after events).desk after request facility extra →
      ∃ (days : List Day) (free : Day → List Interval),
        days.Pairwise (fun earlier later => earlier.number < later.number) ∧
        (∀ day, day ∈ days ↔
          (∃ (id : BookingId) (booking : Booking), after.ledger.bookings[id]? = some booking ∧
            booking.facility = facility ∧ booking.span.Touches day) ∨ extra day) ∧
        (∀ day, after.freeOn facility day = .ok (free day)) ∧
        (((new lifetime switch).after events).handle datagram peer now).2.desk = after ∧
        (((new lifetime switch).after events).handle datagram peer now).1.notices =
          ((registrations ((new lifetime switch).history events)).filter fun watch =>
            watch.facility = facility ∧ now < watch.expiry).flatMap fun watch =>
              days.map fun day => ⟨watch.target, Datagram.frame
                { version := 1, operation := Operation.queryAvailability.code
                  requestId := 0, flags := noticeFlag }
                (Response.availability (free day)).payload⟩) ∧
    ((∀ request facility extra after,
      ((new lifetime switch).after events).executed? datagram peer now = some request →
      ¬ Rebooking ((new lifetime switch).after events).desk after request facility extra) →
      (((new lifetime switch).after events).handle datagram peer now).1.notices = []) := by
  rw [← watches_eq_registrations]
  have hconsistent := after_consistent lifetime switch events
  generalize (new lifetime switch).after events = service at *
  have hafter := step_consistent hconsistent (.arrival datagram peer now)
  rw [step] at hafter
  rw [handle_notices]
  constructor
  · intro request facility extra after hexecuted hrebooking
    obtain ⟨touched, hnoted, rfl, hextra, hdesk, hwatches⟩ :=
      handle_rebooking hconsistent hexecuted hrebooking
    generalize (service.handle datagram peer now).2 = told at *
    subst hdesk
    choose free hfree using fun day => told.desk.freeOn_eq_ok touched.facility day
    refine ⟨told.reportedDays touched, free, pairwise_reportedDays told touched, fun day => ?_,
      fun day => (hfree day).1, rfl, ?_⟩
    · exact (mem_reportedDays_iff hafter).trans (or_congr_right (hextra day))
    · rw [hnoted, ← hwatches, ← activeFor_eq_filter]
      exact noticesFor_eq (fun day => (hfree day).1) now
  · intro hnone
    rcases rebooked_or_not hconsistent datagram peer now with
      ⟨request, touched, extra, hexecuted, -, hrebooking, -⟩ | ⟨huntouched, -⟩
    · exact absurd hrebooking (hnone request touched.facility extra _ hexecuted)
    · rw [huntouched]

example :
    (((new 5 true).after [.arrival (Datagram.frame ⟨1, 4, 1, 0, 0⟩
        [0, 4, 76, 97, 98, 65, 0, 0, 0, 60, 0, 0, 19, 136]) ⟨"10.0.0.9", 4242⟩ 0]).handle
      (Datagram.frame ⟨1, 2, 2, 0, 0⟩ [0, 4, 76, 97, 98, 65, 0, 3, 97, 110, 110, 0, 9, 0, 0, 10, 0])
      ⟨"10.0.0.8", 4242⟩ 7).1.notices =
    [⟨⟨"10.0.0.9", 5000⟩, Datagram.frame ⟨1, 1, 0, 2, 0⟩ (Response.availability
      [⟨⟨.monday, 0, 0⟩, ⟨.monday, 9, 0⟩⟩, ⟨⟨.monday, 10, 0⟩, ⟨.monday, 23, 59⟩⟩]).payload⟩] := by
  decide +kernel

end Service

end FacilityBooking
