import FacilityBooking.Proofs.Service.History
import Mathlib.Data.List.Induction
import Std.Data.ExtTreeMap.Lemmas

/-!
# When a reply is given again

The replies that a service keeps can be told from its history: under each key the
reply of the latest execution is kept, for the lifetime from then on, unless a sweep
came later than that.
-/

namespace FacilityBooking

/-- An execution under a key, by its reply and time, and nothing after it in the
history that takes its reply away: neither another execution under the key nor a
sweep at the expiry of the reply or later. -/
structure Standing (history : List Moment) (key : RequestKey) (lifetime : Nat) (reply : Bytes)
    (start : Nat) : Prop where
  latest : ∃ before moment later, history = before ++ moment :: later ∧
    moment.execution? key = some (reply, start) ∧
    (∀ other ∈ later, other.execution? key = none) ∧
    ∀ other ∈ later, ∀ now, other.event = .sweep now → now < start + lifetime

namespace Standing

variable {history : List Moment} {moment : Moment} {key : RequestKey} {lifetime : Nat}
  {reply : Bytes} {start : Nat}

theorem not_nil : ¬ Standing [] key lifetime reply start := by
  rintro ⟨before, moment, later, hhistory, -⟩
  cases before <;> cases hhistory

/-- One more moment is an execution of its own, or it lets the one before it stand. -/
theorem concat_iff :
    Standing (history ++ [moment]) key lifetime reply start ↔
      moment.execution? key = some (reply, start) ∨
        moment.execution? key = none ∧
          (∀ now, moment.event = .sweep now → now < start + lifetime) ∧
          Standing history key lifetime reply start := by
  constructor
  · rintro ⟨before, found, later, hhistory, hexecution, hlater, hsweeps⟩
    rcases List.eq_nil_or_concat later with rfl | ⟨rest, last, rfl⟩
    · obtain ⟨-, hlast⟩ := List.append_inj' hhistory rfl
      cases hlast
      exact .inl hexecution
    · rw [List.concat_eq_append, ← List.cons_append, ← List.append_assoc] at hhistory
      obtain ⟨rfl, hlast⟩ := List.append_inj' hhistory rfl
      cases hlast
      rw [List.concat_eq_append] at hlater hsweeps
      have hmem : moment ∈ rest ++ [moment] := List.mem_append_right _ (.head _)
      refine .inr ⟨hlater moment hmem, hsweeps moment hmem, before, found, rest, rfl,
        hexecution, ?_, ?_⟩
      · intro other hother
        exact hlater other (List.mem_append_left _ hother)
      · intro other hother
        exact hsweeps other (List.mem_append_left _ hother)
  · rintro (hexecution | ⟨hnone, hsweep, before, found, later, rfl, hexecution, hlater, hsweeps⟩)
    · exact ⟨history, moment, [], rfl, hexecution, nofun, nofun⟩
    · refine ⟨before, found, later ++ [moment], ?_, hexecution, ?_, ?_⟩
      · rw [List.append_assoc, List.cons_append]
      · intro other hother
        rcases List.mem_append.mp hother with hother | hother
        · exact hlater other hother
        · rw [List.mem_singleton.mp hother]
          exact hnone
      · intro other hother
        rcases List.mem_append.mp hother with hother | hother
        · exact hsweeps other hother
        · rw [List.mem_singleton.mp hother]
          exact hsweep

end Standing

namespace Moment

variable {service : Service} {datagram : Bytes} {header : Header} {payload : Bytes}
  {peer : Address} {now : Nat} {key : RequestKey}

theorem execution?_malformed {cause : FormatError}
    (hsplit : Datagram.split datagram = .error cause) :
    execution? ⟨service, .arrival datagram peer now⟩ key = none := by
  simp only [execution?, hsplit]

theorem execution?_kept {reply : Bytes} (hsplit : Datagram.split datagram = .ok (header, payload))
    (hkept : service.kept? header peer now = some reply) :
    execution? ⟨service, .arrival datagram peer now⟩ key = none := by
  simp only [execution?, hsplit, Service.handle_kept hsplit hkept]

theorem execution?_executed (hsplit : Datagram.split datagram = .ok (header, payload))
    (hunkept : service.kept? header peer now = none) (key : RequestKey) :
    execution? ⟨service, .arrival datagram peer now⟩ key =
      if header.isAtMostOnce ∧ key = ⟨peer, header.requestId⟩ then
        some ((service.answerTo header payload peer now).2.1, now)
      else none := by
  simp only [execution?, hsplit, Service.handle_executed hsplit hunkept]

end Moment

namespace Service

variable {service : Service} {key : RequestKey} {kept : KeptReply}

theorem remembers_of_switch (hswitch : service.atMostOnce = true) (header : Header) :
    service.remembers header = header.isAtMostOnce := by
  rw [remembers, hswitch, Bool.true_and]

theorem step_lifetime (service : Service) (event : Event) :
    (service.step event).cache.lifetime = service.cache.lifetime := by
  cases event with
  | sweep now => rfl
  | arrival datagram peer now =>
      rw [step]
      rcases service.arrival_cases datagram peer now with
        ⟨cause, hsplit⟩ | ⟨header, payload, reply, hsplit, hkept⟩ |
        ⟨header, payload, hsplit, hunkept⟩
      · rw [handle_malformed hsplit]
      · rw [handle_kept hsplit hkept]
      · rw [handle_executed hsplit hunkept]
        dsimp only
        split <;> rfl

theorem after_lifetime (service : Service) (events : List Event) :
    (service.after events).cache.lifetime = service.cache.lifetime :=
  after_preserves (fun other => other.cache.lifetime = service.cache.lifetime)
    (fun other event hother => (step_lifetime other event).trans hother) rfl

/-- A sweep keeps the replies whose time is not over. -/
theorem sweep_entry (service : Service) (now : Nat) (key : RequestKey) :
    (service.step (.sweep now)).cache.entries[key]? =
      service.cache.entries[key]?.filter fun kept => now < kept.expiry := by
  simp only [step, sweep, ReplyCache.sweep, Std.ExtTreeMap.getElem?_filter']

/-- A datagram changes the kept replies only by being executed under a key. -/
theorem arrival_entry (hswitch : service.atMostOnce = true) (datagram : Bytes) (peer : Address)
    (now : Nat) (key : RequestKey) :
    (service.step (.arrival datagram peer now)).cache.entries[key]? =
      match Moment.execution? ⟨service, .arrival datagram peer now⟩ key with
      | some (reply, start) => some ⟨reply, start + service.cache.lifetime⟩
      | none => service.cache.entries[key]? := by
  rw [step]
  rcases service.arrival_cases datagram peer now with
    ⟨cause, hsplit⟩ | ⟨header, payload, reply, hsplit, hkept⟩ | ⟨header, payload, hsplit, hunkept⟩
  · rw [handle_malformed hsplit, Moment.execution?_malformed hsplit]
  · rw [handle_kept hsplit hkept, Moment.execution?_kept hsplit hkept]
  · rw [handle_executed hsplit hunkept, Moment.execution?_executed hsplit hunkept]
    dsimp only
    rw [remembers_of_switch hswitch]
    by_cases hflag : header.isAtMostOnce = true
    · simp only [hflag, true_and, if_true, ReplyCache.insert, Std.ExtTreeMap.getElem?_insert,
        Std.LawfulEqCmp.compare_eq_iff_eq]
      by_cases hkey : key = ⟨peer, header.requestId⟩
      · rw [if_pos hkey, if_pos hkey.symm]
      · rw [if_neg hkey, if_neg (Ne.symm hkey)]
    · rw [if_neg hflag, if_neg fun hboth => hflag hboth.1]

/-- What is kept under a key is the reply of the execution that stands. -/
theorem entry_iff_standing (key : RequestKey) (lifetime : Nat) (events : List Event)
    (kept : KeptReply) :
    ((new lifetime true).after events).cache.entries[key]? = some kept ↔
      ∃ start, kept.expiry = start + min lifetime Limits.replyLifetime ∧
        Standing ((new lifetime true).history events) key (min lifetime Limits.replyLifetime)
          kept.reply start := by
  induction events using List.reverseRecOn with
  | nil =>
      constructor
      · intro hkept
        simp [new, ReplyCache.new] at hkept
      · rintro ⟨start, -, hstanding⟩
        exact absurd hstanding Standing.not_nil
  | append_singleton events event ih =>
      have hlifetime : ((new lifetime true).after events).cache.lifetime =
          min lifetime Limits.replyLifetime := after_lifetime _ events
      have hswitch : ((new lifetime true).after events).atMostOnce = true :=
        after_atMostOnce _ events
      rw [history_concat, after_append, after_cons, after_nil]
      simp only [Standing.concat_iff]
      generalize (new lifetime true).after events = service at *
      cases event with
      | sweep now =>
          rw [sweep_entry, Option.filter_eq_some_iff, ih]
          simp only [Moment.execution?, decide_eq_true_eq, Event.sweep.injEq, forall_eq',
            reduceCtorEq, false_or, true_and]
          constructor
          · rintro ⟨⟨start, hexpiry, hstanding⟩, hnow⟩
            exact ⟨start, hexpiry, hexpiry ▸ hnow, hstanding⟩
          · rintro ⟨start, hexpiry, hnow, hstanding⟩
            exact ⟨⟨start, hexpiry, hstanding⟩, hexpiry ▸ hnow⟩
      | arrival datagram peer now =>
          rw [arrival_entry hswitch, hlifetime]
          cases hexecution : Moment.execution? ⟨service, .arrival datagram peer now⟩ key with
          | none => simp only [ih, reduceCtorEq, false_or, true_and, forall_const, false_imp_iff]
          | some execution =>
              obtain ⟨reply, start⟩ := execution
              obtain ⟨keptReply, expiry⟩ := kept
              simp only [Option.some.injEq, KeptReply.mk.injEq, Prod.mk.injEq, reduceCtorEq,
                false_and, or_false]
              constructor
              · rintro ⟨rfl, rfl⟩
                exact ⟨start, rfl, rfl, rfl⟩
              · rintro ⟨_, rfl, rfl, rfl⟩
                exact ⟨rfl, rfl⟩

variable {datagram : Bytes} {header : Header} {payload : Bytes} {peer : Address} {now : Nat}

/-- The kept reply to a request is the reply of the execution that stands, if its time
is not over and both sides want replies to be kept. -/
theorem kept?_eq_some_iff (lifetime : Nat) (switch : Bool) (events : List Event)
    (header : Header) (peer : Address) (now : Nat) (reply : Bytes) :
    ((new lifetime switch).after events).kept? header peer now = some reply ↔
      switch = true ∧ header.isAtMostOnce = true ∧
        ∃ start, now < start + min lifetime Limits.replyLifetime ∧
          Standing ((new lifetime switch).history events) ⟨peer, header.requestId⟩
            (min lifetime Limits.replyLifetime) reply start := by
  rw [kept?, remembers, after_atMostOnce]
  cases switch with
  | false => simp [new]
  | true =>
      have hentry := entry_iff_standing ⟨peer, header.requestId⟩ lifetime events
      generalize (new lifetime true).after events = service at *
      simp only [new, Bool.true_and, true_and]
      by_cases hflag : header.isAtMostOnce = true
      · rw [if_pos hflag, ReplyCache.get?]
        constructor
        · intro hreply
          split at hreply
          · next kept hkept =>
              obtain ⟨start, hexpiry, hstanding⟩ := (hentry kept).mp hkept
              split at hreply
              · next hnow =>
                  cases hreply
                  exact ⟨hflag, start, hexpiry ▸ hnow, hstanding⟩
              · cases hreply
          · cases hreply
        · rintro ⟨-, start, hnow, hstanding⟩
          rw [(hentry ⟨reply, start + min lifetime Limits.replyLifetime⟩).mpr
            ⟨start, rfl, hstanding⟩]
          exact if_pos hnow
      · simp [hflag]

/-- Without a wish on both sides to keep replies, what is kept has no part in handling. -/
theorem handle_with_cache (hsplit : Datagram.split datagram = .ok (header, payload))
    (hforget : service.remembers header = false) (cache : ReplyCache) :
    { service with cache }.handle datagram peer now =
      (.executed (Operation.ofCode header.operation).toOption
          (service.answerTo header payload peer now).1
          (service.answerTo header payload peer now).2.1
          (service.answerTo header payload peer now).2.2,
        { (service.execute header payload peer now).2 with cache }) := by
  have hunkept : kept? { service with cache } header peer now = none := by
    rw [kept?]
    exact if_neg (Bool.eq_false_iff.mp hforget)
  rw [handle_executed hsplit hunkept, answerTo_with_cache, execute_with_cache]
  dsimp only
  congr
  exact if_neg (Bool.eq_false_iff.mp hforget)

/-- A reply is given again exactly while the latest execution under the key of the
datagram is younger than the lifetime and no sweep came after that time; then nothing
changes. Unless both sides want replies to be kept, a datagram is executed, and what is
kept neither matters nor changes. -/
theorem replayed_iff_standing (lifetime : Nat) (switch : Bool) (events : List Event)
    (hsplit : Datagram.split datagram = .ok (header, payload)) (peer : Address) (now : Nat) :
    (∀ reply,
      (∃ operation, (((new lifetime switch).after events).handle datagram peer now).1 =
          .replayed operation reply) ↔
        switch = true ∧ header.isAtMostOnce = true ∧
          ∃ start, now < start + min lifetime Limits.replyLifetime ∧
            Standing ((new lifetime switch).history events) ⟨peer, header.requestId⟩
              (min lifetime Limits.replyLifetime) reply start) ∧
    (∀ operation reply, (((new lifetime switch).after events).handle datagram peer now).1 =
        .replayed operation reply →
      (((new lifetime switch).after events).handle datagram peer now).1.reply? = some reply ∧
      (((new lifetime switch).after events).handle datagram peer now).1.notices = [] ∧
      (((new lifetime switch).after events).handle datagram peer now).2 =
        (new lifetime switch).after events) ∧
    (switch = false ∨ header.isAtMostOnce = false →
      ∃ operation failure reply notices, ∃ after : Service, ∀ cache : ReplyCache,
        { (new lifetime switch).after events with cache }.handle datagram peer now =
          (.executed operation failure reply notices, { after with cache })) := by
  refine ⟨fun reply => ?_, ?_, fun hoff => ?_⟩
  · rw [← kept?_eq_some_iff]
    constructor
    · rintro ⟨operation, hreplayed⟩
      cases hkept : ((new lifetime switch).after events).kept? header peer now with
      | none =>
          rw [handle_executed hsplit hkept] at hreplayed
          cases hreplayed
      | some kept =>
          rw [handle_kept hsplit hkept] at hreplayed
          cases hreplayed
          rfl
    · intro hkept
      rw [handle_kept hsplit hkept]
      exact ⟨_, rfl⟩
  · intro operation reply hreplayed
    cases hkept : ((new lifetime switch).after events).kept? header peer now with
    | none =>
        rw [handle_executed hsplit hkept] at hreplayed
        cases hreplayed
    | some kept =>
        rw [handle_kept hsplit hkept] at hreplayed ⊢
        cases hreplayed
        exact ⟨rfl, rfl, rfl⟩
  · have hforget : ((new lifetime switch).after events).remembers header = false := by
      rw [remembers, after_atMostOnce]
      exact Bool.and_eq_false_iff.mpr hoff
    exact ⟨_, _, _, _, _, handle_with_cache hsplit hforget⟩

/-- The same datagram again, before the lifetime of five is over, is answered again. -/
theorem replayed_before_expiry :
    ∃ reply, ∃ operation,
      (((new 5 true).after
          [.arrival [0, 1, 16, 2, 0, 0, 0, 7, 0, 0, 0, 1, 0, 0, 0, 0] ⟨"10.0.0.9", 4242⟩ 0]).handle
        [0, 1, 16, 2, 0, 0, 0, 7, 0, 0, 0, 1, 0, 0, 0, 0] ⟨"10.0.0.9", 4242⟩ 4).1 =
        .replayed operation reply := by
  have hsplit : Datagram.split [0, 1, 16, 2, 0, 0, 0, 7, 0, 0, 0, 1, 0, 0, 0, 0] =
      .ok (⟨1, 0x1002, 7, 1, 0⟩, []) := by decide
  have hunkept : (new 5 true).kept? ⟨1, 0x1002, 7, 1, 0⟩ ⟨"10.0.0.9", 4242⟩ 0 = none := by
    simp [kept?, ReplyCache.get?, new, ReplyCache.new]
  have hexecuted := Moment.execution?_executed hsplit hunkept ⟨⟨"10.0.0.9", 4242⟩, 7⟩
  rw [if_pos (by decide)] at hexecuted
  exact ⟨_, ((replayed_iff_standing 5 true _ hsplit ⟨"10.0.0.9", 4242⟩ 4).1 _).mpr
    ⟨rfl, by decide, 0, by decide, [], _, [], rfl, hexecuted, nofun, nofun⟩⟩

end Service

end FacilityBooking
