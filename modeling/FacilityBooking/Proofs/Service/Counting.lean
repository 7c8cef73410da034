import FacilityBooking.Proofs.Service.Monitoring
import FacilityBooking.Proofs.Service.Views
import FacilityBooking.Service.Server
import Mathlib.Algebra.Ring.Nat
import Mathlib.Data.List.Nodup

/-!
# What is counted

Each counter has a text of its own, so that a tally keeps apart what it counts. A datagram
raises the counters that fit what becomes of it: it is dropped, or answered again, or
answered as its request ends. So the counters tell how often each of these came about.
-/

namespace FacilityBooking

/-! ## Counters -/

def Status.all : List Status :=
  [ok, replayed, failed .conflict, failed .notFound, failed .badRequest, failed .internal]

theorem Status.mem_all (status : Status) : status ∈ all := by
  cases status with
  | failed category => cases category <;> decide
  | _ => decide

/-- How a request ends that is executed. -/
def Status.ofOutcome : Except Rejection Execution → Status
  | .ok _ => ok
  | .error rejection => failed rejection.reply.category

namespace Counter

def all : List Counter :=
  (none :: Operation.all.map some).flatMap (fun operation => Status.all.map (requests operation)) ++
    [replays, malformed, noticesSent, dropped .simulated, dropped .sendError]

theorem mem_all (counter : Counter) : counter ∈ all := by
  cases counter with
  | requests operation status =>
      refine List.mem_append_left _ (List.mem_flatMap.mpr ⟨operation, ?_, ?_⟩)
      · cases operation with
        | none => exact .head _
        | some operation => cases operation <;> decide
      · exact List.mem_map_of_mem status.mem_all
  | dropped reason => cases reason <;> decide
  | _ => decide

theorem nodup_text : (all.map text).Nodup := by
  decide +kernel

/-- No two counters are shown under one text. -/
theorem text_injective : Function.Injective text := fun first second hsame =>
  List.inj_on_of_nodup_map nodup_text first.mem_all second.mem_all hsame

/-- A counter of requests, whatever their operation and status. -/
def isRequest : Counter → Bool
  | requests .. => true
  | _ => false

/-- A counter of requests that ended in the given way, whatever their operation. -/
def hasStatus (status : Status) : Counter → Bool
  | requests _ other => other = status
  | _ => false

/-- A counter of what became of parcels. -/
def isTraffic : Counter → Bool
  | noticesSent => true
  | dropped _ => true
  | _ => false

end Counter

/-! ## Tallies -/

namespace Tally

/-- The sum of the counters that have a property. -/
def total (tally : Tally) (property : Counter → Bool) : Nat :=
  ((tally.entries.filter fun entry => property entry.1).map (·.2)).sum

/-- A number that is read off a tally: zero at first, and one more with each raise of a
counter that has the property. -/
structure Reading (measure : Tally → Nat) (property : Counter → Bool) : Prop where
  empty : measure .empty = 0
  add : ∀ (tally : Tally) (counter : Counter), measure (tally.add counter) =
    measure tally + if property counter then 1 else 0

theorem reading_count (counter : Counter) :
    Reading (fun tally => tally.count counter) fun other => decide (counter = other) where
  empty := rfl
  add tally other := by
    rw [count, add, lookup_raise]
    simp only [decide_eq_true_eq, count]

theorem reading_total (property : Counter → Bool) :
    Reading (fun tally => tally.total property) property where
  empty := rfl
  add tally counter := by
    obtain ⟨entries⟩ := tally
    simp only [total, add]
    induction entries with
    | nil => cases hproperty : property counter <;> simp [raise, hproperty]
    | cons entry rest ih =>
        obtain ⟨first, number⟩ := entry
        rw [raise]
        split
        · next hsame =>
            subst hsame
            cases hproperty : property counter with
            | false => simp [hproperty]
            | true =>
                simp [hproperty]
                omega
        · cases hproperty : property first <;>
            simp only [List.filter_cons, hproperty, if_true, Bool.false_eq_true, if_false,
              List.map_cons, List.sum_cons, ih, Nat.add_assoc]

theorem Reading.addAll {measure : Tally → Nat} {property : Counter → Bool}
    (hreading : Reading measure property) (tally : Tally) (counters : List Counter) :
    measure (tally.addAll counters) = measure tally + counters.countP property := by
  induction counters generalizing tally with
  | nil => rfl
  | cons first rest ih =>
      rw [Tally.addAll, List.foldl_cons, ← Tally.addAll, ih, hreading.add, List.countP_cons]
      omega

end Tally

/-- If each source raises one counter of a kind or none, the counters of the kind that are
raised are as many as the sources that raise one. -/
theorem countP_raised {α : Type} {raised : α → List Counter} {property : Counter → Bool}
    {happens : α → Bool}
    (heach : ∀ source, (raised source).countP property = if happens source then 1 else 0)
    (sources : List α) : (sources.flatMap raised).countP property = sources.countP happens := by
  induction sources with
  | nil => rfl
  | cons first rest ih =>
      rw [List.flatMap_cons, List.countP_append, heach, ih, List.countP_cons, Nat.add_comm]

/-! ## Moments -/

namespace Moment

/-- A datagram arrives and is too broken to be answered. -/
def isDropped (moment : Moment) : Bool :=
  match moment.event with
  | .sweep _ => false
  | .arrival .. => moment.reply?.isNone

/-- The outcome of the request that is executed at a moment, if one is. -/
def ending? (moment : Moment) : Option (Except Rejection Execution) :=
  match moment.event with
  | .sweep _ => none
  | .arrival datagram peer _ => moment.outcome? peer datagram

/-- The reply to a request is given again. -/
def isRepeated (moment : Moment) : Bool :=
  moment.reply?.isSome && moment.ending?.isNone

/-- The counters that are raised as a datagram is handled. -/
def counters (moment : Moment) : List Counter :=
  match moment.event with
  | .sweep _ => []
  | .arrival datagram peer now => (moment.service.handle datagram peer now).1.counters

/-- What becomes of a datagram, and the counters that it raises. -/
inductive Counted (moment : Moment) : Prop where
  | quiet (hdropped : moment.isDropped = false) (hreply : moment.reply? = none)
      (hending : moment.ending? = none) (hcounters : moment.counters = [])
  | dropped (hdropped : moment.isDropped = true) (hreply : moment.reply? = none)
      (hending : moment.ending? = none) (hcounters : moment.counters = [.malformed])
  | replayed {operation : Option Operation} {reply : Bytes} (hdropped : moment.isDropped = false)
      (hreply : moment.reply? = some reply) (hending : moment.ending? = none)
      (hcounters : moment.counters = [.replays, .requests operation .replayed])
  | executed {operation : Option Operation} {reply : Bytes}
      {outcome : Except Rejection Execution} (hdropped : moment.isDropped = false)
      (hreply : moment.reply? = some reply) (hending : moment.ending? = some outcome)
      (hcounters : moment.counters = [.requests operation (.ofOutcome outcome)])

theorem counted (moment : Moment) : moment.Counted := by
  obtain ⟨service, event⟩ := moment
  cases event with
  | sweep now => exact .quiet rfl rfl rfl rfl
  | arrival datagram peer now =>
      rcases service.arrival_cases datagram peer now with
        ⟨cause, hsplit⟩ | ⟨header, payload, reply, hsplit, hkept⟩ |
        ⟨header, payload, hsplit, hunkept⟩
      · have hhandled := @Service.handle_malformed service datagram peer now cause hsplit
        have hreply : reply? ⟨service, .arrival datagram peer now⟩ = none := by
          simp only [reply?, hhandled, Verdict.reply?]
        have hending : ending? ⟨service, .arrival datagram peer now⟩ = none := by
          simp only [ending?, outcome?, hsplit, and_self, if_true]
        have hcounters : counters ⟨service, .arrival datagram peer now⟩ = [.malformed] := by
          simp only [counters, hhandled, Verdict.counters]
        exact .dropped (congrArg Option.isNone hreply) hreply hending hcounters
      · have hhandled := @Service.handle_kept service datagram header payload peer now reply
          hsplit hkept
        have hreply : reply? ⟨service, .arrival datagram peer now⟩ = some reply := by
          simp only [reply?, hhandled, Verdict.reply?]
        have hending : ending? ⟨service, .arrival datagram peer now⟩ = none := by
          simp only [ending?, outcome?, hsplit, hhandled, and_self, if_true]
        have hcounters : counters ⟨service, .arrival datagram peer now⟩ =
            [.replays, .requests (Operation.ofCode header.operation).toOption .replayed] := by
          simp only [counters, hhandled, Verdict.counters]
        exact .replayed (congrArg Option.isNone hreply) hreply hending hcounters
      · have hhandled := @Service.handle_executed service datagram header payload peer now
          hsplit hunkept
        have hreply : reply? ⟨service, .arrival datagram peer now⟩ =
            some (service.answerTo header payload peer now).2.1 := by
          simp only [reply?, hhandled, Verdict.reply?]
        have hending : ending? ⟨service, .arrival datagram peer now⟩ =
            some (service.execute header payload peer now).1 := by
          simp only [ending?, outcome?, hsplit, hhandled, and_self, if_true]
        have hcounters : counters ⟨service, .arrival datagram peer now⟩ =
            [.requests (Operation.ofCode header.operation).toOption
              (.ofOutcome (service.execute header payload peer now).1)] := by
          simp only [counters, hhandled, Service.answerTo]
          cases (service.execute header payload peer now).1 <;> rfl
        exact .executed (congrArg Option.isNone hreply) hreply hending hcounters

theorem isTraffic_of_mem_counters {moment : Moment} {counter : Counter}
    (hcounter : counter ∈ moment.counters) : counter.isTraffic = false := by
  cases moment.counted with
  | quiet _ _ _ hcounters =>
      rw [hcounters] at hcounter
      cases hcounter
  | dropped _ _ _ hcounters | executed _ _ _ hcounters =>
      rw [hcounters, List.mem_singleton] at hcounter
      rw [hcounter]
      rfl
  | replayed _ _ _ hcounters =>
      rw [hcounters, List.mem_cons, List.mem_singleton] at hcounter
      rcases hcounter with rfl | rfl <;> rfl

/-! ### One kind of counters at a time -/

theorem countP_malformed (moment : Moment) :
    (moment.counters.countP fun counter => decide (.malformed = counter)) =
      if moment.isDropped then 1 else 0 := by
  cases moment.counted with
  | quiet hdropped _ _ hcounters | dropped hdropped _ _ hcounters
  | replayed hdropped _ _ hcounters | executed hdropped _ _ hcounters =>
      rw [hcounters, hdropped]
      rfl

theorem countP_isRequest (moment : Moment) :
    moment.counters.countP Counter.isRequest = if moment.reply?.isSome then 1 else 0 := by
  cases moment.counted with
  | quiet _ hreply _ hcounters | dropped _ hreply _ hcounters
  | replayed _ hreply _ hcounters | executed _ hreply _ hcounters =>
      rw [hcounters, hreply]
      rfl

theorem countP_replays (moment : Moment) :
    (moment.counters.countP fun counter => decide (.replays = counter)) =
      if moment.isRepeated then 1 else 0 := by
  rw [isRepeated]
  cases moment.counted with
  | quiet _ hreply hending hcounters | dropped _ hreply hending hcounters
  | replayed _ hreply hending hcounters | executed _ hreply hending hcounters =>
      rw [hcounters, hreply, hending]
      rfl

theorem countP_replayed (moment : Moment) :
    moment.counters.countP (Counter.hasStatus .replayed) =
      if moment.isRepeated then 1 else 0 := by
  rw [isRepeated]
  cases moment.counted with
  | quiet _ hreply hending hcounters | dropped _ hreply hending hcounters
  | replayed _ hreply hending hcounters =>
      rw [hcounters, hreply, hending]
      rfl
  | @executed _ _ outcome _ hreply hending hcounters =>
      rw [hcounters, hreply, hending]
      cases outcome <;> rfl

theorem countP_ended (moment : Moment) {status : Status} (hended : status ≠ .replayed) :
    moment.counters.countP (Counter.hasStatus status) =
      if moment.ending?.map Status.ofOutcome = some status then 1 else 0 := by
  cases moment.counted with
  | quiet _ _ hending hcounters | dropped _ _ hending hcounters =>
      rw [hcounters, hending]
      rfl
  | replayed _ _ hending hcounters =>
      rw [hcounters, hending]
      simp [Counter.hasStatus, hended.symm]
  | executed _ _ hending hcounters =>
      rw [hcounters, hending]
      simp [Counter.hasStatus, List.countP_cons]

end Moment

/-! ## Histories -/

/-- The counters tell of each datagram once: that it was dropped, or that it was answered,
and then that its reply was repeated or how its request ended. -/
structure Tally.Balanced (tally : Tally) (history : List Moment) : Prop where
  malformed : tally.count .malformed = history.countP Moment.isDropped
  requests : tally.total Counter.isRequest = history.countP fun moment => moment.reply?.isSome
  repeated : tally.total (Counter.hasStatus .replayed) = history.countP Moment.isRepeated
  replays : tally.total (Counter.hasStatus .replayed) = tally.count .replays
  ended : ∀ status, status ≠ .replayed → tally.total (Counter.hasStatus status) =
    history.countP fun moment => decide (moment.ending?.map Status.ofOutcome = some status)

/-- A tally is balanced if its readings, but for those of parcels, are those of the counters
that the history raises. -/
theorem Tally.balanced_of_readings {tally : Tally} {history : List Moment}
    (hread : ∀ {measure : Tally → Nat} {property : Counter → Bool}, Reading measure property →
      (∀ counter, counter.isTraffic = true → property counter = false) →
      measure tally = (history.flatMap Moment.counters).countP property) :
    tally.Balanced history := by
  have htotal (property : Counter → Bool)
      (hignores : ∀ counter, counter.isTraffic = true → property counter = false) :
      tally.total property = (history.flatMap Moment.counters).countP property :=
    hread (reading_total property) hignores
  have hstatus (status : Status) (counter : Counter) (htraffic : counter.isTraffic = true) :
      counter.hasStatus status = false := by
    cases counter with
    | requests | replays | malformed => cases htraffic
    | noticesSent | dropped => rfl
  have hrequests (counter : Counter) (htraffic : counter.isTraffic = true) :
      counter.isRequest = false := by
    cases counter with
    | requests | replays | malformed => cases htraffic
    | noticesSent | dropped => rfl
  have hcount (counter : Counter) (hkind : counter.isTraffic = false) :
      tally.count counter =
        (history.flatMap Moment.counters).countP fun other => decide (counter = other) :=
    hread (reading_count counter) fun other htraffic => decide_eq_false fun hsame => by
      rw [← hsame, hkind] at htraffic
      cases htraffic
  have hrepeated := (htotal _ (hstatus .replayed)).trans
    (countP_raised Moment.countP_replayed history)
  exact {
    malformed := (hcount .malformed rfl).trans (countP_raised Moment.countP_malformed history)
    requests := (htotal _ hrequests).trans (countP_raised Moment.countP_isRequest history)
    repeated := hrepeated
    replays := hrepeated.trans
      ((hcount .replays rfl).trans (countP_raised Moment.countP_replays history)).symm
    ended := fun status hended => (htotal _ (hstatus status)).trans
      (countP_raised (fun moment => by
        simpa only [decide_eq_true_eq] using moment.countP_ended hended) history) }

end FacilityBooking
