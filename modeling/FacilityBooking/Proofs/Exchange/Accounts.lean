import FacilityBooking.Proofs.Exchange.World
import FacilityBooking.Proofs.Service.Counting

/-!
# The accounts of a server

A server that counts from zero can account for every datagram: for those that came in, by
what became of them, and for those that it had to send, as they were sent, or lost on
purpose, or refused by the network.
-/

namespace FacilityBooking

/-- One parcel for the reply, if there is one, and one for each notice. -/
theorem Verdict.length_parcels (verdict : Verdict) (peer : Address) :
    (verdict.parcels peer).length =
      (if verdict.reply?.isSome then 1 else 0) + verdict.notices.length := by
  cases verdict with
  | malformed cause => rfl
  | replayed operation reply => rfl
  | executed operation failure reply notices =>
      simp only [parcels, reply?, Verdict.notices, List.length_cons, List.length_map,
        Option.isSome_some, if_true, Nat.add_comm]

theorem Moment.length_parcels (moment : Moment) :
    moment.parcels.length = (if moment.reply?.isSome then 1 else 0) + moment.notices.length := by
  obtain ⟨service, event⟩ := moment
  cases event with
  | sweep now => rfl
  | arrival datagram peer now => exact Verdict.length_parcels _ peer

theorem length_flatMap_parcels (history : List Moment) :
    (history.flatMap Moment.parcels).length =
      (history.countP fun moment => moment.reply?.isSome) +
        (history.map fun moment => moment.notices.length).sum := by
  induction history with
  | nil => rfl
  | cons moment rest ih =>
      rw [List.flatMap_cons, List.length_append, ih, moment.length_parcels, List.countP_cons,
        List.map_cons, List.sum_cons]
      omega

/-! ## Fates of parcels -/

/-- The network refuses to send a parcel. -/
def Fate.isRefused : Fate → Bool
  | refused _ => true
  | _ => false

/-- The counters that the fates of parcels raise. -/
def trafficOf (fates : List (Parcel × Fate)) : List Counter :=
  fates.flatMap fun (parcel, fate) => parcel.counters fate

theorem trafficOf_append (first second : List (Parcel × Fate)) :
    trafficOf (first ++ second) = trafficOf first ++ trafficOf second :=
  List.flatMap_append

theorem Carrier.map_fst_sendAll {network : Type} (carrier : Carrier network)
    (parcels : List Parcel) (state : network) :
    (carrier.sendAll parcels state).1.map Prod.fst = parcels := by
  induction parcels generalizing state with
  | nil => rfl
  | cons parcel rest ih => exact congrArg (parcel :: ·) (ih _)

theorem Parcel.isTraffic_of_mem_counters {parcel : Parcel} {fate : Fate} {counter : Counter}
    (hcounter : counter ∈ parcel.counters fate) : counter.isTraffic = true := by
  cases fate with
  | sent =>
      rw [counters] at hcounter
      split at hcounter
      · rw [List.mem_singleton.mp hcounter]
        rfl
      · cases hcounter
  | lost | refused =>
      rw [List.mem_singleton.mp hcounter]
      rfl

namespace Parcel

theorem countP_simulated (found : Parcel × Fate) :
    ((found.1.counters found.2).countP fun other => decide (.dropped .simulated = other)) =
      if decide (found.2 = .lost) then 1 else 0 := by
  obtain ⟨⟨target, datagram, _ | _⟩, fate⟩ := found <;> cases fate <;> rfl

theorem countP_sendError (found : Parcel × Fate) :
    ((found.1.counters found.2).countP fun other => decide (.dropped .sendError = other)) =
      if found.2.isRefused then 1 else 0 := by
  obtain ⟨⟨target, datagram, _ | _⟩, fate⟩ := found <;> cases fate <;> rfl

theorem countP_noticesSent (found : Parcel × Fate) :
    ((found.1.counters found.2).countP fun other => decide (.noticesSent = other)) =
      if found.1.isNotice && decide (found.2 = .sent) then 1 else 0 := by
  obtain ⟨⟨target, datagram, _ | _⟩, fate⟩ := found <;> cases fate <;> rfl

end Parcel

theorem countP_trafficOf_eq_zero {property : Counter → Bool}
    (hignores : ∀ counter : Counter, counter.isTraffic = true → property counter = false)
    (fates : List (Parcel × Fate)) : (trafficOf fates).countP property = 0 := by
  rw [List.countP_eq_zero]
  intro counter hcounter hproperty
  obtain ⟨⟨parcel, fate⟩, -, hraised⟩ := List.mem_flatMap.mp hcounter
  rw [hignores counter (Parcel.isTraffic_of_mem_counters hraised)] at hproperty
  cases hproperty

/-- A parcel is sent, lost or refused. -/
theorem Fate.count_kinds (fate : Fate) :
    (if fate = sent then 1 else 0) + (if fate = lost then 1 else 0) +
      (if fate.isRefused then 1 else 0) = 1 := by
  cases fate <;> rfl

theorem countP_fates (fates : List (Parcel × Fate)) :
    (fates.countP fun found => decide (found.2 = .sent)) +
      (fates.countP fun found => decide (found.2 = .lost)) +
      (fates.countP fun found => found.2.isRefused) = fates.length := by
  induction fates with
  | nil => rfl
  | cons first rest ih =>
      have hone := first.2.count_kinds
      simp only [List.countP_cons, List.length_cons, decide_eq_true_eq]
      omega

/-! ## Runs -/

namespace Server

/-- The server after some events, if nothing is sent. -/
def handled : List Event → Server → Server
  | [], server => server
  | .arrival datagram peer now :: rest, server => handled rest (server.handle datagram peer now).2
  | .sweep now :: rest, server => handled rest (server.sweep now)

/-- The fates of all parcels of a run in which each datagram is answered before the next one
is received, and the server and the network after it. -/
def serve {network : Type} (carrier : Carrier network) :
    List Event → Server → network → List (Parcel × Fate) × Server × network
  | [], server, state => ([], server, state)
  | .arrival datagram peer now :: rest, server, state =>
      let (fates, server, state) := server.receive carrier datagram peer now state
      let (later, server, state) := serve carrier rest server state
      (fates ++ later, server, state)
  | .sweep now :: rest, server, state => serve carrier rest (server.sweep now) state

variable {network : Type} {measure : Tally → Nat} {property : Counter → Bool}

theorem handled_reading (hreading : Tally.Reading measure property) (events : List Event)
    (server : Server) :
    measure (handled events server).tally = measure server.tally +
      ((server.service.history events).flatMap Moment.counters).countP property := by
  induction events generalizing server with
  | nil => rfl
  | cons event rest ih =>
      rw [Service.history, List.flatMap_cons, List.countP_append]
      cases event with
      | sweep now =>
          rw [handled, ih]
          exact congrArg _ (Nat.zero_add _).symm
      | arrival datagram peer now =>
          have hadded := hreading.addAll server.tally
            (server.service.handle datagram peer now).1.counters
          rw [handled, ih, ← Nat.add_assoc]
          exact congrArg (· + _) hadded

theorem serve_arrival (carrier : Carrier network) (datagram : Bytes) (peer : Address)
    (now : Nat) (rest : List Event) (server : Server) (state : network) :
    serve carrier (.arrival datagram peer now :: rest) server state =
      let received := server.receive carrier datagram peer now state
      let later := serve carrier rest received.2.1 received.2.2
      (received.1 ++ later.1, later.2) := rfl

theorem receive_reading (hreading : Tally.Reading measure property) (carrier : Carrier network)
    (datagram : Bytes) (peer : Address) (now : Nat) (server : Server) (state : network) :
    measure (server.receive carrier datagram peer now state).2.1.tally = measure server.tally +
      (Moment.counters ⟨server.service, .arrival datagram peer now⟩).countP property +
      (trafficOf (server.receive carrier datagram peer now state).1).countP property := by
  refine (hreading.addAll _ _).trans (congrArg (· + _) ?_)
  exact hreading.addAll _ _

/-- What a tally reads after a run: what was counted as datagrams were handled, and what was
counted as parcels were sent. -/
theorem serve_reading (hreading : Tally.Reading measure property) (carrier : Carrier network)
    (events : List Event) (server : Server) (state : network) :
    measure (serve carrier events server state).2.1.tally = measure server.tally +
      ((server.service.history events).flatMap Moment.counters).countP property +
      (trafficOf (serve carrier events server state).1).countP property := by
  induction events generalizing server state with
  | nil => rfl
  | cons event rest ih =>
      cases event with
      | sweep now => exact ih (server.sweep now) state
      | arrival datagram peer now =>
          have hreceived := receive_reading hreading carrier datagram peer now server state
          have hservice : (server.receive carrier datagram peer now state).2.1.service =
            server.service.step (.arrival datagram peer now) := rfl
          rw [serve_arrival, Service.history, List.flatMap_cons, List.countP_append, ← hservice]
          dsimp only
          rw [ih, hreceived, trafficOf_append, List.countP_append]
          omega

/-- Each parcel of a run has one fate. -/
theorem map_fst_serve (carrier : Carrier network) (events : List Event) (server : Server)
    (state : network) :
    (serve carrier events server state).1.map Prod.fst =
      (server.service.history events).flatMap Moment.parcels := by
  induction events generalizing server state with
  | nil => rfl
  | cons event rest ih =>
      cases event with
      | sweep now => exact ih (server.sweep now) state
      | arrival datagram peer now =>
          rw [serve_arrival, Service.history, List.flatMap_cons, List.map_append, ih]
          exact congrArg (· ++ _) (carrier.map_fst_sendAll _ _)

end Server

/-! ## Balance -/

/-- Each reply and each notice is sent or dropped, and the counters tell which. -/
structure Tally.Settled (tally : Tally) (fates : List (Parcel × Fate)) (history : List Moment) :
    Prop where
  produced : fates.map Prod.fst = history.flatMap Moment.parcels
  accounted : (fates.countP fun found => decide (found.2 = .sent)) +
      tally.count (.dropped .simulated) + tally.count (.dropped .sendError) =
    (history.countP fun moment => moment.reply?.isSome) +
      (history.map fun moment => moment.notices.length).sum
  simulated : tally.count (.dropped .simulated) =
    fates.countP fun found => decide (found.2 = .lost)
  sendError : tally.count (.dropped .sendError) = fates.countP fun found => found.2.isRefused
  noticesSent : tally.count .noticesSent =
    fates.countP fun found => found.1.isNotice && decide (found.2 = .sent)

namespace Server

variable {network : Type}

theorem handled_balanced (service : Service) (events : List Event) :
    (handled events ⟨service, .empty⟩).tally.Balanced (service.history events) :=
  Tally.balanced_of_readings fun hreading _ => by
    rw [handled_reading hreading, hreading.empty, Nat.zero_add]

theorem serve_balanced (service : Service) (events : List Event) (carrier : Carrier network)
    (state : network) :
    (serve carrier events ⟨service, .empty⟩ state).2.1.tally.Balanced (service.history events) :=
  Tally.balanced_of_readings fun hreading hignores => by
    rw [serve_reading hreading, hreading.empty, Nat.zero_add, countP_trafficOf_eq_zero hignores,
      Nat.add_zero]

/-- A counter of what becomes of parcels tells how many parcels have a fate that raises it. -/
theorem count_serve {counter : Counter} (htraffic : counter.isTraffic = true)
    {happens : Parcel × Fate → Bool}
    (heach : ∀ found : Parcel × Fate,
      ((found.1.counters found.2).countP fun other => decide (counter = other)) =
        if happens found then 1 else 0)
    (service : Service) (events : List Event) (carrier : Carrier network) (state : network) :
    (serve carrier events ⟨service, .empty⟩ state).2.1.tally.count counter =
      (serve carrier events ⟨service, .empty⟩ state).1.countP happens := by
  have hreading := Tally.reading_count counter
  have hnone : ((service.history events).flatMap Moment.counters).countP
      (fun other => decide (counter = other)) = 0 := by
    rw [List.countP_eq_zero]
    intro other hother hsame
    obtain ⟨moment, -, hraised⟩ := List.mem_flatMap.mp hother
    rw [← of_decide_eq_true hsame] at hraised
    rw [Moment.isTraffic_of_mem_counters hraised] at htraffic
    cases htraffic
  have hread := serve_reading hreading carrier events ⟨service, .empty⟩ state
  rw [hreading.empty, hnone, Nat.zero_add] at hread
  exact hread.trans (countP_raised heach _)

theorem serve_settled (service : Service) (events : List Event) (carrier : Carrier network)
    (state : network) :
    (serve carrier events ⟨service, .empty⟩ state).2.1.tally.Settled
      (serve carrier events ⟨service, .empty⟩ state).1 (service.history events) := by
  have hproduced := map_fst_serve carrier events ⟨service, .empty⟩ state
  have hsimulated := count_serve rfl Parcel.countP_simulated service events carrier state
  have hsendError := count_serve rfl Parcel.countP_sendError service events carrier state
  exact {
    produced := hproduced
    accounted := by
      rw [hsimulated, hsendError, countP_fates, ← length_flatMap_parcels, ← hproduced,
        List.length_map]
    simulated := hsimulated
    sendError := hsendError
    noticesSent := count_serve rfl Parcel.countP_noticesSent service events carrier state }

/-- Whatever datagrams arrive at a service, and whatever becomes of what it sends: the
counters of a server that starts from zero tell of each datagram what became of it, and of
each reply and notice whether it was sent, and counters are shown under different texts. -/
theorem counters_balance (service : Service) (events : List Event) (carrier : Carrier network)
    (state : network) :
    Function.Injective Counter.text ∧
    (handled events ⟨service, .empty⟩).tally.Balanced (service.history events) ∧
    (serve carrier events ⟨service, .empty⟩ state).2.1.tally.Balanced (service.history events) ∧
    (serve carrier events ⟨service, .empty⟩ state).2.1.tally.Settled
      (serve carrier events ⟨service, .empty⟩ state).1 (service.history events) :=
  ⟨Counter.text_injective, handled_balanced service events,
    serve_balanced service events carrier state, serve_settled service events carrier state⟩

end Server

end FacilityBooking
