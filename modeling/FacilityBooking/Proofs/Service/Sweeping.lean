import FacilityBooking.Proofs.Service.Comparison
import FacilityBooking.Proofs.Service.Executions

/-!
# Sweeps that nobody notices

A reply that a sweep takes away is not given out any more, and a watch that it takes away
is not told any more. Such a watch has one effect left: it counts towards the limit of the
list. So as long as no watch is refused for that limit, nobody can tell whether and when
sweeps take place.
-/

namespace FacilityBooking

def Event.IsSweep : Event → Prop
  | .sweep _ => True
  | .arrival .. => False

namespace Moment

/-- What becomes of the datagram that arrives at a moment, and the desk after it. -/
def answer? (moment : Moment) : Option (Verdict × Desk) :=
  match moment.event with
  | .sweep _ => none
  | .arrival datagram peer now =>
      some ((moment.service.handle datagram peer now).1,
        (moment.service.handle datagram peer now).2.desk)

/-- A watch is refused, as there are too many already. -/
def TurnsAway (moment : Moment) : Prop :=
  match moment.event with
  | .sweep _ => False
  | .arrival datagram peer _ =>
      moment.outcome? peer datagram = some (.error (.refused (.limitExceeded .watches)))

instance : DecidablePred TurnsAway := fun moment =>
  match moment with
  | ⟨_, .sweep _⟩ => .isFalse not_false
  | ⟨service, .arrival datagram peer now⟩ =>
      inferInstanceAs (Decidable (Moment.outcome? ⟨service, .arrival datagram peer now⟩
        peer datagram = some (.error (.refused (.limitExceeded .watches)))))

end Moment

/-! ## Replies and watches whose time is not over -/

namespace ReplyCache

variable {now later : Nat}

theorem get?_sweep (cache : ReplyCache) (key : RequestKey) (hlater : now ≤ later) :
    (cache.sweep now).2.get? key later = cache.get? key later := by
  simp only [sweep, get?, Std.ExtTreeMap.getElem?_filter']
  cases cache.entries[key]? with
  | none => rfl
  | some kept =>
      by_cases hlive : later < kept.expiry
      · have hkept : now < kept.expiry := Nat.lt_of_le_of_lt hlater hlive
        simp [Option.filter, hkept]
      · by_cases hkept : now < kept.expiry
        · simp [Option.filter, hkept]
        · simp [Option.filter, hkept, hlive]

theorem get?_insert (cache : ReplyCache) (key other : RequestKey) (reply : Bytes)
    (now later : Nat) :
    (cache.insert key reply now).get? other later =
      if key = other then if later < now + cache.lifetime then some reply else none
      else cache.get? other later := by
  rw [get?, getElem?_insert, get?]
  by_cases hkey : key = other
  · simp only [if_pos hkey]
  · simp only [if_neg hkey]

end ReplyCache

namespace WatchList

variable {now later : Nat}

/-- The watches whose time is not over, in the order of their registration. -/
def live (list : WatchList) (now : Nat) : List Watch :=
  list.watches.toList.filter fun watch => watch.isLive now

/-- A watch whose time is not over at some time is live at all times before. -/
theorem filter_live (list : WatchList) (hlater : now ≤ later) :
    (list.live now).filter (fun watch => watch.isLive later) = list.live later := by
  rw [live, live, List.filter_filter]
  congr 1
  funext watch
  simp only [Watch.isLive, Bool.and_eq_left_iff_imp, decide_eq_true_eq]
  exact Nat.lt_of_le_of_lt hlater

theorem live_sweep (list : WatchList) (now : Nat) :
    (list.sweep now).2.live now = list.live now := by
  simp only [live, sweep, Array.toList_filter, List.filter_filter, Bool.and_self]

theorem size_sweep (list : WatchList) (now : Nat) :
    (list.sweep now).2.size = (list.live now).length := by
  rw [size, live, ← Array.length_toList, sweep, Array.toList_filter]

theorem activeFor_eq_live (list : WatchList) (facility : String) (now : Nat) :
    list.activeFor facility now =
      (list.live now).filter fun watch => watch.facility == facility := by
  rw [activeFor, live, Array.toList_filter, List.filter_filter]

end WatchList

namespace Service

/-- Two services that nobody can tell apart from a given time on: they differ in replies and
watches whose time is over, of which the second one has no more. -/
structure Indistinct (now : Nat) (full swept : Service) : Prop where
  desk : swept.desk = full.desk
  switch : swept.atMostOnce = full.atMostOnce
  lifetime : swept.cache.lifetime = full.cache.lifetime
  given : ∀ key later, now ≤ later → swept.cache.get? key later = full.cache.get? key later
  told : swept.watches.live now = full.watches.live now
  room : swept.watches.size ≤ full.watches.size

namespace Indistinct

variable {now later : Nat} {full swept : Service} {header : Header} {payload datagram : Bytes}
  {peer : Address}

theorem refl (now : Nat) (service : Service) : Indistinct now service service :=
  ⟨rfl, rfl, rfl, fun _ _ _ => rfl, rfl, Nat.le_refl _⟩

theorem mono (hsame : Indistinct now full swept) (hlater : now ≤ later) :
    Indistinct later full swept where
  desk := hsame.desk
  switch := hsame.switch
  lifetime := hsame.lifetime
  given key time htime := hsame.given key time (Nat.le_trans hlater htime)
  told := by rw [← WatchList.filter_live _ hlater, hsame.told, WatchList.filter_live _ hlater]
  room := hsame.room

/-! ## Sweeps -/

/-- One more sweep of the second service goes unnoticed. -/
theorem sweep_added (hsame : Indistinct now full swept) :
    Indistinct now full (swept.sweep now).2 where
  desk := hsame.desk
  switch := hsame.switch
  lifetime := hsame.lifetime
  given key later hlater :=
    (swept.cache.get?_sweep key hlater).trans (hsame.given key later hlater)
  told := (swept.watches.live_sweep now).trans hsame.told
  room := by
    calc (swept.watches.sweep now).2.size
        = (swept.watches.live now).length := swept.watches.size_sweep now
      _ ≤ swept.watches.size := List.length_filter_le ..
      _ ≤ full.watches.size := hsame.room

theorem sweep_shared (hsame : Indistinct now full swept) :
    Indistinct now (full.sweep now).2 (swept.sweep now).2 where
  desk := hsame.desk
  switch := hsame.switch
  lifetime := hsame.lifetime
  given key later hlater := by
    change (swept.cache.sweep now).2.get? key later = (full.cache.sweep now).2.get? key later
    rw [ReplyCache.get?_sweep _ key hlater, ReplyCache.get?_sweep _ key hlater]
    exact hsame.given key later hlater
  told := by
    change (swept.watches.sweep now).2.live now = (full.watches.sweep now).2.live now
    rw [WatchList.live_sweep, WatchList.live_sweep]
    exact hsame.told
  room := by
    change (swept.watches.sweep now).2.size ≤ (full.watches.sweep now).2.size
    exact Nat.le_of_eq (by rw [WatchList.size_sweep, WatchList.size_sweep, hsame.told])

/-! ## Datagrams -/

theorem with_desk (hsame : Indistinct now full swept) (desk : Desk) :
    Indistinct now { full with desk } { swept with desk } :=
  { hsame with desk := rfl }

theorem with_watch (hsame : Indistinct now full swept) (watch : Watch) :
    Indistinct now
      { full with watches := ⟨full.watches.watches.push watch⟩ }
      { swept with watches := ⟨swept.watches.watches.push watch⟩ } :=
  { hsame with
    told := by
      have htold := hsame.told
      simp only [WatchList.live, Array.toList_push, List.filter_append] at htold ⊢
      rw [htold]
    room := by
      have hroom := hsame.room
      simp only [WatchList.size, Array.size_push] at hroom ⊢
      omega }

/-- A request comes to the same, unless it is refused for the number of watches. -/
theorem perform (hsame : Indistinct now full swept) (request : Request) (peer : Address)
    (hroom : (full.perform request peer now).1 ≠
      .error (.refused (.limitExceeded .watches))) :
    (swept.perform request peer now).1 = (full.perform request peer now).1 ∧
      Indistinct now (full.perform request peer now).2 (swept.perform request peer now).2 := by
  by_cases hrequest : request.operation = .monitor
  · cases request with
    | monitor facility seconds port =>
        simp only [Service.perform, watch_eq] at hroom ⊢
        cases hfault : watchFault? facility seconds port with
        | some rejection => exact ⟨rfl, hsame⟩
        | none =>
            simp only [hfault] at hroom ⊢
            by_cases hfull : Limits.watches ≤ full.watches.size
            · rw [if_pos hfull] at hroom
              exact absurd rfl hroom
            · have hswept : ¬ Limits.watches ≤ swept.watches.size := fun hswept =>
                hfull (Nat.le_trans hswept hsame.room)
              rw [if_neg hfull, if_neg hswept]
              exact ⟨rfl, hsame.with_watch _⟩
    | _ => cases hrequest
  · obtain ⟨hfull, hswept⟩ := perform_of_desk hsame.desk hrequest peer now
    rw [hswept]
    refine ⟨rfl, ?_⟩
    rw [hfull]
    exact hsame.with_desk _

theorem execute (hsame : Indistinct now full swept) (header : Header) (payload : Bytes)
    (peer : Address)
    (hroom : (full.execute header payload peer now).1 ≠
      .error (.refused (.limitExceeded .watches))) :
    (swept.execute header payload peer now).1 = (full.execute header payload peer now).1 ∧
      Indistinct now (full.execute header payload peer now).2
        (swept.execute header payload peer now).2 := by
  rcases malformed_or_request header payload with ⟨cause, hmalformed⟩ | ⟨request, -, hrequest⟩
  · rw [hmalformed, hmalformed]
    exact ⟨rfl, hsame⟩
  · rw [hrequest] at hroom
    rw [hrequest, hrequest]
    exact hsame.perform request peer hroom

theorem kept? (hsame : Indistinct now full swept) (header : Header) (peer : Address) :
    swept.kept? header peer now = full.kept? header peer now := by
  rw [Service.kept?, Service.kept?, remembers, remembers, hsame.switch,
    hsame.given _ now (Nat.le_refl now)]

theorem answer (hsame : Indistinct now full swept) (header : Header)
    (outcome : Except Rejection Execution) :
    swept.answer header outcome now = full.answer header outcome now := by
  apply answer_congr hsame.desk
  intro facility
  rw [WatchList.activeFor_eq_live, WatchList.activeFor_eq_live, hsame.told]

theorem insert (hsame : Indistinct now full swept) (key : RequestKey) (reply : Bytes) :
    Indistinct now { full with cache := full.cache.insert key reply now }
      { swept with cache := swept.cache.insert key reply now } :=
  { hsame with
    given := fun other later hlater => by
      rw [ReplyCache.get?_insert, ReplyCache.get?_insert, hsame.lifetime,
        hsame.given other later hlater] }

/-- A datagram is answered alike, unless it is refused for the number of watches. -/
theorem handle (hsame : Indistinct now full swept) (datagram : Bytes) (peer : Address)
    (hroom : ¬ Moment.TurnsAway ⟨full, .arrival datagram peer now⟩) :
    (swept.handle datagram peer now).1 = (full.handle datagram peer now).1 ∧
      Indistinct now (full.handle datagram peer now).2 (swept.handle datagram peer now).2 := by
  rcases full.arrival_cases datagram peer now with
    ⟨cause, hsplit⟩ | ⟨header, payload, reply, hsplit, hkept⟩ | ⟨header, payload, hsplit, hunkept⟩
  · rw [handle_malformed hsplit, handle_malformed hsplit]
    exact ⟨rfl, hsame⟩
  · rw [handle_kept hsplit hkept, handle_kept hsplit ((hsame.kept? header peer).trans hkept)]
    exact ⟨rfl, hsame⟩
  · have hroom : (full.execute header payload peer now).1 ≠
        .error (.refused (.limitExceeded .watches)) := by
      simp only [Moment.TurnsAway, Moment.outcome?, and_self, if_true, hsplit,
        handle_executed hsplit hunkept, Option.some.injEq] at hroom
      exact hroom
    obtain ⟨houtcome, hafter⟩ := hsame.execute header payload peer hroom
    have hanswer : swept.answerTo header payload peer now =
        full.answerTo header payload peer now := by
      rw [answerTo, answerTo, houtcome]
      exact hafter.answer header _
    have hforget : swept.remembers header = full.remembers header := by
      rw [remembers, remembers, hsame.switch]
    rw [handle_executed hsplit hunkept,
      handle_executed hsplit ((hsame.kept? header peer).trans hunkept), hanswer, hforget,
      ← execute_cache full header payload peer now, ← execute_cache swept header payload peer now]
    refine ⟨rfl, ?_⟩
    split
    · exact hafter.insert _ _
    · exact hafter

/-! ## Runs -/

variable {plain events : List Event}

/-- Services that nobody can tell apart answer alike ever after, whatever further sweeps the
second one has. -/
theorem history (hsame : Indistinct now full swept)
    (hevents : Interspersed Eq Event.IsSweep plain events) (hforward : Steady events)
    (hstart : ∀ event ∈ events, now ≤ event.time)
    (hroom : ∀ moment ∈ full.history plain, ¬ moment.TurnsAway) :
    (swept.history events).filterMap Moment.answer? =
        (full.history plain).filterMap Moment.answer? ∧
      (swept.after events).desk = (full.after plain).desk := by
  -- The bound on the times grows along the run: what differs is over at every later time,
  -- but need not have been over before.
  induction hevents generalizing now full swept with
  | nil => exact ⟨rfl, hsame.desk⟩
  | @shared event _ plain events heq hrest ih =>
      subst heq
      obtain ⟨hlater, hrestForward⟩ := List.pairwise_cons.mp hforward
      obtain ⟨hfirst, hrestRoom⟩ := List.forall_mem_cons.mp hroom
      cases event with
      | sweep time =>
          have hnow : Indistinct time full swept := hsame.mono (hstart _ (.head _))
          exact ih hnow.sweep_shared hrestForward hlater hrestRoom
      | arrival datagram peer time =>
          have hnow : Indistinct time full swept := hsame.mono (hstart _ (.head _))
          obtain ⟨hverdict, hafter⟩ := hnow.handle datagram peer hfirst
          obtain ⟨hanswers, hdesk⟩ := ih hafter hrestForward hlater hrestRoom
          refine ⟨?_, hdesk⟩
          simp only [Service.history, List.filterMap_cons, Moment.answer?, hverdict, hafter.desk]
          exact congrArg _ hanswers
  | @added event plain events hsweep hrest ih =>
      obtain ⟨hlater, hrestForward⟩ := List.pairwise_cons.mp hforward
      cases event with
      | sweep time =>
          have hnow : Indistinct time full swept := hsame.mono (hstart _ (.head _))
          exact ih hnow.sweep_added hrestForward hlater hroom
      | arrival datagram peer time => cases hsweep

end Indistinct

/-- Two runs without a step back in time that have the same datagrams but different sweeps
answer every datagram alike, with the same notices in the same order, and have the same
desk after it, unless a watch is refused for the number of watches in a run with only the
sweeps that they share. -/
theorem sweeping_unobservable (service : Service) {plain first second : List Event}
    (hfirst : Interspersed Eq Event.IsSweep plain first)
    (hsecond : Interspersed Eq Event.IsSweep plain second)
    (hforward : Steady first) (hforward' : Steady second)
    (hroom : ∀ moment ∈ service.history plain, ¬ moment.TurnsAway) :
    (service.history first).filterMap Moment.answer? =
        (service.history second).filterMap Moment.answer? ∧
      (service.after first).desk = (service.after second).desk := by
  have hstart (events : List Event) : ∀ event ∈ events, 0 ≤ event.time :=
    fun event _ => Nat.zero_le event.time
  obtain ⟨hanswers, hdesk⟩ :=
    (Indistinct.refl 0 service).history hfirst hforward (hstart first) hroom
  obtain ⟨hanswers', hdesk'⟩ :=
    (Indistinct.refl 0 service).history hsecond hforward' (hstart second) hroom
  exact ⟨hanswers.trans hanswers'.symm, hdesk.trans hdesk'.symm⟩

/-- Whether a watch of a minute is swept away before the next booking is all the same. -/
theorem expired_watch_swept :
    ((new 5 true).history
        [.arrival (Datagram.frame ⟨1, 4, 1, 1, 0⟩
              [0, 4, 76, 97, 98, 65, 0, 0, 0, 60, 0, 0, 19, 136])
            ⟨"10.0.0.9", 4242⟩ 0,
          .arrival (Datagram.frame ⟨1, 2, 2, 1, 0⟩
              [0, 4, 76, 97, 98, 65, 0, 3, 97, 110, 110, 0, 9, 0, 0, 10, 0])
            ⟨"10.0.0.8", 4242⟩ 60000000007]).filterMap Moment.answer? =
      ((new 5 true).history
        [.arrival (Datagram.frame ⟨1, 4, 1, 1, 0⟩
              [0, 4, 76, 97, 98, 65, 0, 0, 0, 60, 0, 0, 19, 136])
            ⟨"10.0.0.9", 4242⟩ 0,
          .sweep 60000000000,
          .arrival (Datagram.frame ⟨1, 2, 2, 1, 0⟩
              [0, 4, 76, 97, 98, 65, 0, 3, 97, 110, 110, 0, 9, 0, 0, 10, 0])
            ⟨"10.0.0.8", 4242⟩ 60000000007]).filterMap Moment.answer? := by
  refine (sweeping_unobservable (new 5 true) (.shared rfl (.shared rfl .nil)) ?_ ?_ ?_ ?_).1
  · exact .shared rfl (.added trivial (.shared rfl .nil))
  · simp [Steady, Event.time]
  · simp [Steady, Event.time]
  · decide +kernel

end Service

end FacilityBooking
