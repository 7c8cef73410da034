import FacilityBooking.Proofs.Client.Updates
import FacilityBooking.Proofs.Service.Notices

/-!
# Views of watchers

A watcher that keeps the last notice of each day has the free time of that day as it is,
and a day without notices has not changed. One step either tells a live watch of a day or
leaves the free time of that day as it was, so this holds after any run.
-/

namespace FacilityBooking

/-- Whoever reads the datagram learns that these intervals are free. -/
def Datagram.Tells (datagram : Bytes) (free : List Interval) : Prop :=
  ∃ header payload, split datagram = .ok (header, payload) ∧ header.isNotice = true ∧
    Response.decode .queryAvailability payload = .ok (.availability free)

theorem Datagram.tells_frame {free : List Interval}
    (hfits : (Response.availability free).Fits) :
    Tells (frame
      { operation := Operation.queryAvailability.code, requestId := 0, flags := noticeFlag }
      (Response.availability free).payload) free := by
  obtain ⟨header, payload, hsplit, hnotice, -, hdecode⟩ :=
    Update.ofDatagram?_eq_some_iff.mp (Update.ofDatagram?_frame hfits)
  exact ⟨header, payload, hsplit, hnotice, hdecode⟩

/-- The time of a watch is not over at a sweep, or when a datagram with a header and a
payload is handled. -/
def Event.FindsLive (event : Event) (watch : Watch) : Prop :=
  match event with
  | .sweep now => now < watch.expiry
  | .arrival datagram _ now => (Datagram.split datagram).isOk → now < watch.expiry

namespace Moment

/-- The notices that a moment gives rise to. -/
def notices (moment : Moment) : List Notice :=
  match moment.event with
  | .sweep _ => []
  | .arrival datagram peer now => (moment.service.handle datagram peer now).1.notices

/-- The datagram by which a watch is told of a day at a moment, if it is. -/
def told? (moment : Moment) (watch : Watch) (day : Day) : Option Bytes :=
  match moment.event with
  | .sweep _ => none
  | .arrival datagram peer now =>
      match moment.service.touched? datagram peer now with
      | none => none
      | some touched =>
          let after := (moment.service.handle datagram peer now).2
          if (watch.facility = touched.facility ∧ now < watch.expiry) ∧
              day ∈ after.reportedDays touched then
            after.noticeDatagram? touched.facility day
          else none

end Moment

namespace Service

variable {service : Service} {touched : Touched}

theorem filterMap_reportedDays {α : Type} (service : Service) (touched : Touched)
    (value? : Day → Option α) :
    (service.reportedDays touched).filterMap value? = Day.all.filterMap fun day =>
      if day ∈ service.reportedDays touched then value? day else none := by
  have hfilter : service.reportedDays touched =
      Day.all.filter fun day => day ∈ service.reportedDays touched := by
    conv_lhs => rw [reportedDays]
    apply List.filter_congr
    intro day _
    simp only [reportedDays, List.mem_filter, Day.mem_all, true_and, Bool.decide_eq_true]
  conv_lhs => rw [hfilter, List.filterMap_filter]
  simp only [decide_eq_true_eq]

end Service

theorem flatMap_filter {α β : Type} (list : List α) (wanted : α → Bool) (part : α → List β) :
    (list.filter wanted).flatMap part =
      list.flatMap fun element => if wanted element then part element else [] := by
  induction list with
  | nil => rfl
  | cons first rest ih =>
      rw [List.filter_cons, List.flatMap_cons, ← ih]
      split
      · rw [List.flatMap_cons]
      · rw [List.nil_append]

namespace Moment

variable {moment : Moment} {watch : Watch} {day : Day}

/-- The notices of a moment are what the watches on the list are told, one watch after the
other and one day after the other. -/
theorem notices_eq_told (moment : Moment) :
    moment.notices = (moment.service.step moment.event).watches.watches.toList.flatMap
      fun watch => (Day.all.filterMap (moment.told? watch)).map fun datagram =>
        ⟨watch.target, datagram⟩ := by
  obtain ⟨service, event⟩ := moment
  cases event with
  | sweep now => simp [notices, told?]
  | arrival datagram peer now =>
      simp only [notices, Service.step, Service.handle_notices]
      cases htouched : service.touched? datagram peer now with
      | none =>
          have hnone (watch : Watch) (day : Day) :
              told? ⟨service, .arrival datagram peer now⟩ watch day = none := by
            simp only [told?, htouched]
          simp [hnone]
      | some touched =>
          dsimp only
          rw [Service.noticesFor_eq_flatMap, Service.activeFor_eq_filter, flatMap_filter]
          congr 1
          funext watch
          have htold : told? ⟨service, .arrival datagram peer now⟩ watch = fun day =>
              if watch.facility = touched.facility ∧ now < watch.expiry then
                if day ∈ (service.handle datagram peer now).2.reportedDays touched then
                  (service.handle datagram peer now).2.noticeDatagram? touched.facility day
                else none
              else none := by
            funext day
            simp only [told?, htouched, ite_and]
          simp only [htold, decide_eq_true_eq]
          split
          · rw [Service.filterMap_reportedDays]
          · simp

/-- A watch that is live is told of a day, and then of its free time as it is now, or the
free time of that day has not changed. -/
theorem told_or_same (hconsistent : moment.service.desk.ledger.Consistent)
    (hlive : moment.event.FindsLive watch) (day : Day) :
    (∃ datagram free, moment.told? watch day = some datagram ∧ Datagram.Tells datagram free ∧
      (moment.service.step moment.event).desk.freeOn watch.facility day = .ok free) ∨
      moment.told? watch day = none ∧
        (moment.service.step moment.event).desk.freeOn watch.facility day =
          moment.service.desk.freeOn watch.facility day := by
  obtain ⟨service, event⟩ := moment
  have hafter := Service.step_consistent hconsistent event
  cases event with
  | sweep now => exact .inr ⟨rfl, rfl⟩
  | arrival datagram peer now =>
      simp only [told?, Service.step] at hafter ⊢
      rcases Service.rebooked_or_not hconsistent datagram peer now with
        ⟨request, touched, extra, hexecuted, htouched, hrebooking, hextra, -⟩ |
        ⟨huntouched, hsame⟩
      · have hnow : now < watch.expiry := hlive (Service.split_of_executed? hexecuted)
        rw [htouched]
        dsimp only
        generalize (service.handle datagram peer now).2 = after at *
        by_cases htold : watch.facility = touched.facility ∧ day ∈ after.reportedDays touched
        · obtain ⟨hfacility, hday⟩ := htold
          obtain ⟨free, hfree, -⟩ := after.desk.freeOn_eq_ok watch.facility day
          have htells := Datagram.tells_frame (Desk.fits_of_freeOn hafter hfree)
          rw [if_pos ⟨⟨hfacility, hnow⟩, hday⟩, ← hfacility, Service.noticeDatagram?, hfree]
          exact .inl ⟨_, free, rfl, htells, rfl⟩
        · rw [if_neg fun hboth => htold ⟨hboth.1.1, hboth.2⟩]
          refine .inr ⟨rfl, hrebooking.freeOn_eq hconsistent hafter fun hfacility => ?_⟩
          have hday : ¬ day ∈ after.reportedDays touched := fun hday => htold ⟨hfacility, hday⟩
          rw [Service.mem_reportedDays_iff hafter, not_or, hextra] at hday
          refine ⟨hday.2, fun id booking hbooking hown htouches => ?_⟩
          exact hday.1 ⟨id, booking, hbooking, hown, htouches⟩
      · rw [huntouched]
        refine .inr ⟨rfl, Desk.freeOn_congr hconsistent hafter fun id booking _ _ => ?_⟩
        rw [hsame]

end Moment

namespace Service

theorem mem_watches_step {service : Service} {event : Event} {watch : Watch}
    (hwatch : watch ∈ service.watches.watches) (hlive : event.FindsLive watch) :
    watch ∈ (service.step event).watches.watches := by
  rw [← Array.mem_toList_iff] at hwatch ⊢
  rw [step_watches]
  refine List.mem_append_left _ (List.mem_filter.mpr ⟨hwatch, ?_⟩)
  cases event with
  | sweep now => exact decide_eq_true hlive
  | arrival datagram peer now => rfl

/-- After any run in which a watch is live, the last datagram about a day tells its free
time, which without any is the one from before the run. -/
theorem last_told_or_same {service : Service} (hconsistent : service.desk.ledger.Consistent)
    {watch : Watch} {between : List Event} (hlive : ∀ event ∈ between, event.FindsLive watch)
    (day : Day) :
    ∃ free, (service.after between).desk.freeOn watch.facility day = .ok free ∧
      match ((service.history between).filterMap fun moment =>
          moment.told? watch day).getLast? with
      | some datagram => Datagram.Tells datagram free
      | none => service.desk.freeOn watch.facility day = .ok free := by
  induction between using List.reverseRecOn with
  | nil =>
      obtain ⟨free, hfree, -⟩ := service.desk.freeOn_eq_ok watch.facility day
      exact ⟨free, hfree, hfree⟩
  | append_singleton between event ih =>
      have hbetween : (service.after between).desk.ledger.Consistent :=
        after_preserves (fun other => other.desk.ledger.Consistent)
          (fun _ event hother => step_consistent hother event) hconsistent
      have hnow := hlive event (List.mem_append_right _ (.head _))
      rw [history_concat, List.filterMap_append, after_append, after_cons, after_nil]
      rcases @Moment.told_or_same ⟨service.after between, event⟩ watch hbetween hnow day with
        ⟨datagram, free, htold, htells, hfree⟩ | ⟨huntold, hsame⟩
      · simp only [List.filterMap_cons, htold, List.filterMap_nil, List.getLast?_concat]
        exact ⟨free, hfree, htells⟩
      · simp only [List.filterMap_cons, huntold, List.filterMap_nil, List.append_nil]
        obtain ⟨free, hfree, hview⟩ := ih fun other hother =>
          hlive other (List.mem_append_left _ hother)
        exact ⟨free, hsame.trans hfree, hview⟩

/-- While a watch is live, its watcher is never left with a view that is out of date: the
last notice about a day tells the free time of that day as it is, and without a notice the
free time is what it was. -/
theorem views_current (lifetime : Nat) (switch : Bool) (earlier between : List Event)
    {watch : Watch} (hwatch : watch ∈ ((new lifetime switch).after earlier).watches.watches)
    (hlive : ∀ event ∈ between, event.FindsLive watch) (day : Day) :
    watch ∈ ((new lifetime switch).after (earlier ++ between)).watches.watches ∧
    (∀ moment ∈ ((new lifetime switch).after earlier).history between,
      moment.notices = (moment.service.step moment.event).watches.watches.toList.flatMap
        fun other => (Day.all.filterMap (moment.told? other)).map fun datagram =>
          ⟨other.target, datagram⟩) ∧
    ∃ free, ((new lifetime switch).after (earlier ++ between)).desk.freeOn watch.facility day =
        .ok free ∧
      match ((((new lifetime switch).after earlier).history between).filterMap fun moment =>
          moment.told? watch day).getLast? with
      | some datagram => Datagram.Tells datagram free
      | none => ((new lifetime switch).after earlier).desk.freeOn watch.facility day =
          .ok free := by
  rw [after_append]
  have hconsistent := after_consistent lifetime switch earlier
  generalize (new lifetime switch).after earlier = service at *
  refine ⟨?_, fun moment _ => moment.notices_eq_told, last_told_or_same hconsistent hlive day⟩
  induction between generalizing service with
  | nil => exact hwatch
  | cons event rest ih =>
      have hevent := hlive event (.head _)
      exact ih (fun other hother => hlive other (.tail _ hother)) _
        (mem_watches_step hwatch hevent) (step_consistent hconsistent event)

/-- Whoever watches for a minute is told what an hour that is booked meanwhile leaves of its
day. -/
theorem told_of_booked_hour :
    ∃ datagram,
      ((((new 5 true).after [.arrival (Datagram.frame ⟨1, 4, 1, 0, 0⟩
            [0, 4, 76, 97, 98, 65, 0, 0, 0, 60, 0, 0, 19, 136]) ⟨"10.0.0.9", 4242⟩ 0]).history
          [.arrival (Datagram.frame ⟨1, 2, 2, 0, 0⟩
            [0, 4, 76, 97, 98, 65, 0, 3, 97, 110, 110, 0, 9, 0, 0, 10, 0])
            ⟨"10.0.0.8", 4242⟩ 7]).filterMap fun moment =>
        moment.told? ⟨"LabA", ⟨"10.0.0.9", 5000⟩, 60000000000⟩ .monday).getLast? =
          some datagram ∧
      Datagram.Tells datagram
        [⟨⟨.monday, 0, 0⟩, ⟨.monday, 9, 0⟩⟩, ⟨⟨.monday, 10, 0⟩, ⟨.monday, 23, 59⟩⟩] := by
  obtain ⟨-, -, free, hfree, hview⟩ := views_current 5 true
    [.arrival (Datagram.frame ⟨1, 4, 1, 0, 0⟩
      [0, 4, 76, 97, 98, 65, 0, 0, 0, 60, 0, 0, 19, 136]) ⟨"10.0.0.9", 4242⟩ 0]
    [.arrival (Datagram.frame ⟨1, 2, 2, 0, 0⟩
      [0, 4, 76, 97, 98, 65, 0, 3, 97, 110, 110, 0, 9, 0, 0, 10, 0]) ⟨"10.0.0.8", 4242⟩ 7]
    (by decide +kernel : ⟨"LabA", ⟨"10.0.0.9", 5000⟩, 60000000000⟩ ∈ _)
    (fun event hevent => by rw [List.mem_singleton.mp hevent]; exact fun _ => by decide) .monday
  split at hview
  · next datagram hlast =>
      have hnow : free = [⟨⟨.monday, 0, 0⟩, ⟨.monday, 9, 0⟩⟩,
          ⟨⟨.monday, 10, 0⟩, ⟨.monday, 23, 59⟩⟩] :=
        Except.ok.inj (hfree.symm.trans (by decide +kernel))
      exact ⟨datagram, hlast, hnow ▸ hview⟩
  · next hnone =>
      exact absurd hnone (by decide +kernel)

end Service

end FacilityBooking
