import FacilityBooking.Proofs.Service.Replay

/-!
# At most one execution

While the clock never goes back and the copies of a datagram come less than the
lifetime apart, no two datagrams of one key are executed, and whatever is answered
under the key is answered with the reply of the one execution.
-/

namespace FacilityBooking

/-- The clock never goes back. -/
def Steady (events : List Event) : Prop :=
  events.Pairwise fun earlier later => earlier.time ≤ later.time

/-- Every copy of a datagram arrives less than the lifetime after any copy before it. -/
def Timely (lifetime : Nat) (events : List Event) : Prop :=
  events.Pairwise fun earlier later => ∀ datagram peer first again,
    earlier = .arrival datagram peer first → later = .arrival datagram peer again →
      again < first + min lifetime Limits.replyLifetime

/-- All datagrams that arrive under a key are copies of one. -/
def Uniform (events : List Event) (key : RequestKey) : Prop :=
  ∀ datagram other first second header payload otherHeader otherPayload,
    .arrival datagram key.peer first ∈ events → .arrival other key.peer second ∈ events →
    Datagram.split datagram = .ok (header, payload) →
    Datagram.split other = .ok (otherHeader, otherPayload) →
    header.requestId = key.id → otherHeader.requestId = key.id → datagram = other

/-- Among some elements with a property there is a last one. -/
theorem exists_last {α : Type} (property : α → Prop) {list : List α}
    (hsome : ∃ element ∈ list, property element) :
    ∃ before last after, list = before ++ last :: after ∧ property last ∧
      ∀ element ∈ after, ¬ property element := by
  induction list with
  | nil => obtain ⟨element, hmem, -⟩ := hsome; cases hmem
  | cons first rest ih =>
      by_cases hrest : ∃ element ∈ rest, property element
      · obtain ⟨before, last, after, rfl, hlast, hafter⟩ := ih hrest
        exact ⟨first :: before, last, after, rfl, hlast, hafter⟩
      · obtain ⟨element, hmem, helement⟩ := hsome
        rcases List.mem_cons.mp hmem with rfl | hmem
        · exact ⟨[], element, rest, rfl, helement, fun other hother hproperty =>
            hrest ⟨other, hother, hproperty⟩⟩
        · exact absurd ⟨element, hmem, helement⟩ hrest

namespace Moment

variable {moment : Moment} {key : RequestKey} {reply : Bytes} {start : Nat}

/-- An execution under a key is the arrival of a datagram whose reply is not kept. -/
theorem execution?_eq_some (hexecution : moment.execution? key = some (reply, start)) :
    ∃ datagram header payload, moment.event = .arrival datagram key.peer start ∧
      Datagram.split datagram = .ok (header, payload) ∧ header.isAtMostOnce = true ∧
      header.requestId = key.id ∧ moment.service.kept? header key.peer start = none ∧
      (moment.service.answerTo header payload key.peer start).2.1 = reply := by
  obtain ⟨service, event⟩ := moment
  cases event with
  | sweep now => cases hexecution
  | arrival datagram peer now =>
      rcases service.arrival_cases datagram peer now with
        ⟨cause, hsplit⟩ | ⟨header, payload, kept, hsplit, hkept⟩ |
        ⟨header, payload, hsplit, hunkept⟩
      · rw [execution?_malformed hsplit] at hexecution
        cases hexecution
      · rw [execution?_kept hsplit hkept] at hexecution
        cases hexecution
      · rw [execution?_executed hsplit hunkept] at hexecution
        split at hexecution
        · next hboth =>
            obtain ⟨hflag, rfl⟩ := hboth
            cases hexecution
            exact ⟨datagram, header, payload, rfl, hsplit, hflag, rfl, hunkept, rfl⟩
        · cases hexecution

end Moment

namespace Service

variable {lifetime : Nat} {events : List Event} {key : RequestKey}

theorem history_events (service : Service) (events : List Event) :
    (service.history events).map (·.event) = events := by
  induction events generalizing service with
  | nil => rfl
  | cons event rest ih => rw [history, List.map_cons, ih]

theorem event_mem_of_mem_history {service : Service} {moment : Moment}
    (hmoment : moment ∈ service.history events) : moment.event ∈ events := by
  rw [← history_events service events]
  exact List.mem_map_of_mem hmoment

/-- If every execution under a key is younger than the lifetime and no event is later
than now, then one of the executions stands. -/
theorem stands_of_executed {service : Service} {now : Nat}
    (hexecuted : ∃ moment ∈ service.history events, (moment.execution? key).isSome = true)
    (hpast : ∀ event ∈ events, event.time ≤ now)
    (hfresh : ∀ moment ∈ service.history events, ∀ reply start,
      moment.execution? key = some (reply, start) → now < start + lifetime) :
    ∃ reply start, now < start + lifetime ∧
      Standing (service.history events) key lifetime reply start := by
  obtain ⟨before, last, later, hhistory, hlast, hnone⟩ :=
    exists_last (fun moment : Moment => (moment.execution? key).isSome = true) hexecuted
  obtain ⟨⟨reply, start⟩, hreply⟩ := Option.isSome_iff_exists.mp hlast
  have hyoung : now < start + lifetime := by
    refine hfresh last ?_ reply start hreply
    rw [hhistory]
    exact List.mem_append_right _ (.head _)
  refine ⟨reply, start, hyoung, before, last, later, hhistory, hreply, ?_, ?_⟩
  · intro moment hmoment
    exact Option.not_isSome_iff_eq_none.mp (hnone moment hmoment)
  · intro moment hmoment time hsweep
    have hmem : moment.event ∈ events := event_mem_of_mem_history (by
      rw [hhistory]
      exact List.mem_append_right _ (.tail _ hmoment))
    have hle := hpast _ hmem
    rw [hsweep] at hle
    exact Nat.lt_of_le_of_lt hle hyoung

/-- After an execution under a key no other one follows. -/
theorem executed_once (hsteady : Steady events) (htimely : Timely lifetime events)
    (huniform : Uniform events key) :
    ((new lifetime true).history events).Pairwise fun first second =>
      ¬ ((first.execution? key).isSome = true ∧ (second.execution? key).isSome = true) := by
  induction events using List.reverseRecOn with
  | nil => exact .nil
  | append_singleton events event ih =>
      obtain ⟨hsteadyEvents, -, hsteadyLast⟩ := List.pairwise_append.mp hsteady
      obtain ⟨htimelyEvents, -, htimelyLast⟩ := List.pairwise_append.mp htimely
      have huniformEvents : Uniform events key := by
        intro datagram other first second header payload otherHeader otherPayload hfirst hsecond
        exact huniform _ _ _ _ _ _ _ _ (List.mem_append_left _ hfirst)
          (List.mem_append_left _ hsecond)
      rw [history_concat]
      refine List.pairwise_append.mpr
        ⟨ih hsteadyEvents htimelyEvents huniformEvents, List.pairwise_singleton _ _, ?_⟩
      rintro first hfirst second hsecond ⟨hfirstSome, hsecondSome⟩
      rw [List.mem_singleton.mp hsecond] at hsecondSome
      obtain ⟨⟨reply, now⟩, hexecution⟩ := Option.isSome_iff_exists.mp hsecondSome
      obtain ⟨datagram, header, payload, hevent, hsplit, hflag, hid, hunkept, -⟩ :=
        Moment.execution?_eq_some hexecution
      dsimp only at hevent hunkept
      subst hevent
      -- Whatever was executed under the key before was a copy of the same datagram.
      have hfresh (moment : Moment) (hmoment : moment ∈ (new lifetime true).history events)
          (kept : Bytes) (start : Nat) (hkept : moment.execution? key = some (kept, start)) :
          now < start + min lifetime Limits.replyLifetime := by
        obtain ⟨other, otherHeader, otherPayload, hother, hotherSplit, -, hotherId, -⟩ :=
          Moment.execution?_eq_some hkept
        have hmem := event_mem_of_mem_history hmoment
        rw [hother] at hmem
        have hsame : other = datagram := huniform _ _ _ _ _ _ _ _
          (List.mem_append_left _ hmem) (List.mem_append_right _ (.head _)) hotherSplit hsplit
          hotherId hid
        exact htimelyLast _ hmem _ (.head _) datagram key.peer start now (hsame ▸ rfl) rfl
      obtain ⟨kept, start, hyoung, hstanding⟩ := stands_of_executed ⟨first, hfirst, hfirstSome⟩
        (fun event hevent => hsteadyLast event hevent _ (.head _)) hfresh
      have hreplayed := (kept?_eq_some_iff lifetime true events header key.peer now kept).mpr
        ⟨rfl, hflag, start, hyoung, by rw [hid]; exact hstanding⟩
      rw [hunkept] at hreplayed
      cases hreplayed

/-- Whatever is answered under a key is answered with the reply of some execution. -/
theorem execution_of_reply {moment : Moment} {datagram : Bytes} {peer : Address} {now : Nat}
    {header : Header} {payload reply : Bytes}
    (hmoment : moment ∈ (new lifetime true).history events)
    (hevent : moment.event = .arrival datagram peer now)
    (hsplit : Datagram.split datagram = .ok (header, payload))
    (hflag : header.isAtMostOnce = true)
    (hreply : (moment.service.handle datagram peer now).1.reply? = some reply) :
    ∃ other ∈ (new lifetime true).history events, ∃ start,
      other.execution? ⟨peer, header.requestId⟩ = some (reply, start) := by
  obtain ⟨service, event⟩ := moment
  dsimp only at hevent hreply
  subst hevent
  cases hkept : service.kept? header peer now with
  | none =>
      refine ⟨_, hmoment, now, ?_⟩
      rw [handle_executed hsplit hkept] at hreply
      cases hreply
      rw [Moment.execution?_executed hsplit hkept, if_pos ⟨hflag, rfl⟩]
  | some kept =>
      rw [handle_kept hsplit hkept] at hreply
      cases hreply
      obtain ⟨before, later, hhistory⟩ := List.append_of_mem hmoment
      obtain ⟨first, rest, -, hservice, hbefore, -⟩ := history_eq_append hhistory
      dsimp only at hservice
      rw [hservice, kept?_eq_some_iff] at hkept
      obtain ⟨-, -, start, -, earlier, found, between, hearlier, hfound, -⟩ := hkept
      refine ⟨found, ?_, start, hfound⟩
      rw [hhistory, hbefore, hearlier]
      exact List.mem_append_left _ (List.mem_append_right _ (.head _))

end Service

end FacilityBooking
