import FacilityBooking.Proofs.Service.History
import FacilityBooking.Proofs.Service.Outcomes

/-!
# Refused requests

A request that is answered with an error has changed nothing but the replies that are
kept, as every operation is refused before it changes anything. That rests on the
consistency of the ledger, which every run of the service preserves.
-/

namespace FacilityBooking

namespace Service

variable {service : Service} {datagram : Bytes} {header : Header} {payload : Bytes}
  {peer : Address} {now : Nat}

/-! ## Runs -/

theorem step_consistent (hconsistent : service.desk.ledger.Consistent) (event : Event) :
    (service.step event).desk.ledger.Consistent := by
  cases event with
  | sweep now => exact hconsistent
  | arrival datagram peer now =>
      rw [step]
      rcases service.arrival_cases datagram peer now with
        ⟨cause, hsplit⟩ | ⟨header, payload, reply, hsplit, hkept⟩ |
        ⟨header, payload, hsplit, hunkept⟩
      · rw [handle_malformed hsplit]
        exact hconsistent
      · rw [handle_kept hsplit hkept]
        exact hconsistent
      · rw [handle_executed hsplit hunkept]
        rcases execute_cases hconsistent header (Datagram.brief_of_split hsplit) peer now with
          ⟨rejection, -, hrejected⟩ | ⟨operation, execution, after, hexecuted, -, -, -, hafter⟩
        · rw [hrejected]
          exact hconsistent
        · rw [hexecuted]
          exact hafter

theorem after_consistent (lifetime : Nat) (switch : Bool) (events : List Event) :
    ((new lifetime switch).after events).desk.ledger.Consistent :=
  after_preserves (fun service => service.desk.ledger.Consistent)
    (fun _ event hconsistent => step_consistent hconsistent event) Ledger.consistent_empty

/-- A reply that marks an error comes without notices, and only the kept replies differ. -/
theorem handle_error (hconsistent : service.desk.ledger.Consistent) {reply : Bytes}
    {marked : Header} (hreply : (service.handle datagram peer now).1.reply? = some reply)
    (hmarked : Header.decode reply = .ok marked) (herror : marked.isError = true) :
    (service.handle datagram peer now).1.notices = [] ∧
      ((service.handle datagram peer now).2 = service ∨
        ∃ header payload, Datagram.split datagram = .ok (header, payload) ∧
          (service.handle datagram peer now).2 = { service with
            cache := service.cache.insert ⟨peer, header.requestId⟩ reply now }) := by
  rcases service.arrival_cases datagram peer now with
    ⟨cause, hsplit⟩ | ⟨header, payload, kept, hsplit, hkept⟩ | ⟨header, payload, hsplit, hunkept⟩
  · rw [handle_malformed hsplit]
    exact ⟨rfl, .inl rfl⟩
  · rw [handle_kept hsplit hkept]
    exact ⟨rfl, .inl rfl⟩
  · rw [handle_executed hsplit hunkept] at hreply ⊢
    dsimp only [Verdict.reply?, Verdict.notices] at hreply ⊢
    rcases execute_cases hconsistent header (Datagram.brief_of_split hsplit) peer now with
      ⟨rejection, -, hrejected⟩ | ⟨operation, execution, after, hexecuted, hcode, -⟩
    · simp only [answerTo, hrejected, answer] at hreply ⊢
      refine ⟨trivial, ?_⟩
      split
      · exact .inr ⟨header, payload, hsplit, by rw [Option.some.inj hreply]⟩
      · exact .inl rfl
    · -- A response carries the code of its operation, which has no error bit.
      simp only [answerTo, hexecuted, answer] at hreply
      rw [← Option.some.inj hreply, Datagram.decode_frame] at hmarked
      cases hmarked
      exact absurd herror (Bool.eq_false_iff.mp (Header.isError_of_code hcode))

/-- In every state that a service can reach, a datagram has no reply exactly if it is too
short for its header or for the payload that its header announces, and then nothing
changes; and if its reply marks an error, there are no notices, and nothing changes but
for the reply being kept. -/
theorem failures_change_nothing (lifetime : Nat) (switch : Bool) (events : List Event)
    (datagram : Bytes) (peer : Address) (now : Nat) :
    ((((new lifetime switch).after events).handle datagram peer now).1.reply? = none ↔
      datagram.length < 16 ∨ datagram.length - 16 < Datagram.announced datagram) ∧
    ((((new lifetime switch).after events).handle datagram peer now).1.reply? = none →
      (((new lifetime switch).after events).handle datagram peer now).1.notices = [] ∧
      (((new lifetime switch).after events).handle datagram peer now).2 =
        (new lifetime switch).after events) ∧
    ∀ reply marked,
      (((new lifetime switch).after events).handle datagram peer now).1.reply? = some reply →
      Header.decode reply = .ok marked → marked.isError = true →
      (((new lifetime switch).after events).handle datagram peer now).1.notices = [] ∧
        ((((new lifetime switch).after events).handle datagram peer now).2 =
            (new lifetime switch).after events ∨
          ∃ header payload, Datagram.split datagram = .ok (header, payload) ∧
            (((new lifetime switch).after events).handle datagram peer now).2 =
              { (new lifetime switch).after events with
                cache := ((new lifetime switch).after events).cache.insert
                  ⟨peer, header.requestId⟩ reply now }) := by
  have hconsistent := after_consistent lifetime switch events
  generalize (new lifetime switch).after events = service at *
  have hmalformed : (service.handle datagram peer now).1.reply? = none ↔
      ∃ cause, Datagram.split datagram = .error cause := by
    rcases service.arrival_cases datagram peer now with
      ⟨cause, hsplit⟩ | ⟨header, payload, kept, hsplit, hkept⟩ | ⟨header, payload, hsplit, hunkept⟩
    · rw [handle_malformed hsplit]
      exact iff_of_true rfl ⟨cause, hsplit⟩
    · rw [handle_kept hsplit hkept, hsplit]
      exact iff_of_false nofun nofun
    · rw [handle_executed hsplit hunkept, hsplit]
      exact iff_of_false nofun nofun
  refine ⟨hmalformed.trans Datagram.split_eq_error_iff, ?_, ?_⟩
  · intro hnone
    obtain ⟨cause, hsplit⟩ := hmalformed.mp hnone
    rw [handle_malformed hsplit]
    exact ⟨rfl, rfl⟩
  · intro reply marked hreply hmarked herror
    exact handle_error hconsistent hreply hmarked herror

end Service

end FacilityBooking
