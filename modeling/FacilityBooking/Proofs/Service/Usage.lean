import FacilityBooking.Proofs.Service.Actions
import Mathlib.Algebra.Ring.Nat

/-!
# Uses that are counted

The counter of a facility goes up by one whenever a request to count a use of it is executed
and carried out, and at no other time. So these requests are answered with one, two, three
and so on, whatever else arrives in between, repeated, refused or malformed.
-/

namespace FacilityBooking

/-- Whoever reads the datagram learns that a facility has been used so many times. -/
def Datagram.TellsUsage (datagram : Bytes) (count : Int) : Prop :=
  ∃ header payload value, split datagram = .ok (header, payload) ∧ header.isError = false ∧
    Response.decode .incrementUsage payload = .ok (.usage value) ∧ value.toInt = count

/-- The reply at a moment, if a request to count a use of the facility is executed at it and
succeeds. A reply that is only repeated does not count. -/
def Moment.use? (moment : Moment) (facility : String) : Option Bytes :=
  match moment.event with
  | .sweep _ => none
  | .arrival datagram peer now =>
      match moment.service.executed? datagram peer now,
          (moment.service.handle datagram peer now).1 with
      | some (.incrementUsage name), .executed _ none reply _ =>
          if name = facility then some reply else none
      | _, _ => none

/-- The replies to the uses of a facility, in the order in which these were counted. -/
def uses (history : List Moment) (facility : String) : List Bytes :=
  history.filterMap fun moment => moment.use? facility

namespace Service

variable {service : Service} {facility : String}

/-! ## One moment -/

/-- A use that is counted is told to the caller. -/
theorem tellsUsage_replyTo {header : Header} {count : Nat}
    (hcode : header.operation = Operation.incrementUsage.code) (hsmall : count < 2 ^ 63) :
    Datagram.TellsUsage (header.replyTo (.ok { response := .usage (.ofNat count) })) count := by
  have hfits : (Response.usage (.ofNat count)).Fits := ⟨trivial, Nat.zero_le _⟩
  obtain ⟨marked, hcomplete, hmarked, -⟩ :=
    @Header.replyTo_carriedOut header { response := .usage (.ofNat count) } hcode hfits
  exact ⟨marked, _, _, hcomplete.split_eq, Header.isError_of_code hmarked,
    Response.decode_payload hfits.sendable, Int64.toInt_ofNat_of_lt hsmall⟩

/-- A moment at which no use of the facility is asked for counts none. -/
theorem use?_of_not_asked {datagram : Bytes} {peer : Address} {now : Nat}
    (hother : service.executed? datagram peer now ≠ some (.incrementUsage facility)) :
    Moment.use? ⟨service, .arrival datagram peer now⟩ facility = none := by
  unfold Moment.use?
  dsimp only
  split
  · next name reply notices hexecuted hverdict =>
      refine if_neg ?_
      rintro rfl
      exact hother hexecuted
  · rfl

/-- A moment counts a use of the facility and tells the new count, or it leaves the counter
of the facility as it is. -/
theorem counted_or_not (hconsistent : service.desk.ledger.Consistent) (event : Event)
    (facility : String) :
    (∃ header : Header, header.operation = Operation.incrementUsage.code ∧
        Moment.use? ⟨service, event⟩ facility = some (header.replyTo
          (.ok { response := .usage (.ofNat (service.desk.usageOf facility + 1)) })) ∧
        (service.step event).desk.usage[facility]? =
          some (service.desk.usageOf facility + 1)) ∨
      Moment.use? ⟨service, event⟩ facility = none ∧
        (service.step event).desk.usage[facility]? = service.desk.usage[facility]? := by
  cases event with
  | sweep now => exact .inr ⟨rfl, rfl⟩
  | arrival datagram peer now =>
      rw [step, handle_desk]
      by_cases hasked : service.executed? datagram peer now = some (.incrementUsage facility)
      · obtain ⟨header, failure, notices, hcode, hfailure, hverdict⟩ :=
          verdict_of_executed? hasked
        have hdesk : service.desk.run ((service.executed? datagram peer now).bind
            Request.action?).toList = (service.desk.incrementUsage facility).2 := by
          rw [hasked]
          rfl
        rw [hdesk]
        rcases service.desk.incrementUsage_cases facility with
          ⟨refusal, -, hrefused⟩ | ⟨ledger, -, hcounted⟩
        · simp only [perform, hrefused] at hfailure hverdict
          cases failure with
          | none => exact absurd (hfailure.mp rfl) (by simp)
          | some category =>
              refine .inr ⟨?_, by rw [hrefused]⟩
              simp only [Moment.use?, hasked, hverdict]
        · simp only [perform, hcounted] at hfailure hverdict
          obtain rfl : failure = none := hfailure.mpr ⟨_, rfl⟩
          refine .inl ⟨header, hcode, ?_, ?_⟩
          · simp only [Moment.use?, hasked, hverdict, if_true]
          · rw [hcounted]
            exact Std.ExtTreeMap.getElem?_insert_self
      · refine .inr ⟨use?_of_not_asked hasked, ?_⟩
        cases haction : (service.executed? datagram peer now).bind Request.action? with
        | none => rfl
        | some action =>
            obtain ⟨request, hexecuted, hrequest⟩ := Option.bind_eq_some_iff.mp haction
            have hother : action ≠ .incrementUsage facility := by
              rintro rfl
              rw [Request.action?_eq_incrementUsage_iff.mp hrequest] at hexecuted
              exact hasked hexecuted
            exact (Desk.usage_step hconsistent action facility).trans
              (if_neg fun hboth => hother hboth.1)

/-! ## Runs -/

theorem uses_concat (service : Service) (events : List Event) (event : Event)
    (facility : String) :
    uses (service.history (events ++ [event])) facility =
      uses (service.history events) facility ++
        (Moment.use? ⟨service.after events, event⟩ facility).toList := by
  rw [uses, history_concat, List.filterMap_append]
  rfl

/-- The counter of a facility is the number of its uses. -/
theorem usageOf_eq_length (lifetime : Nat) (switch : Bool) (events : List Event)
    (facility : String) :
    ((new lifetime switch).after events).desk.usageOf facility =
      (uses ((new lifetime switch).history events) facility).length := by
  induction events using List.reverseRecOn with
  | nil => rfl
  | append_singleton events event ih =>
      have hconsistent := after_consistent lifetime switch events
      rw [uses_concat, List.length_append, ← ih, after_append, after_cons, after_nil]
      rcases counted_or_not hconsistent event facility with
        ⟨header, -, hused, hcounted⟩ | ⟨hunused, hsame⟩
      · rw [hused, Desk.usageOf, Std.ExtTreeMap.getD_eq_getD_getElem?, hcounted]
        rfl
      · rw [hunused, Desk.usageOf, Desk.usageOf, Std.ExtTreeMap.getD_eq_getD_getElem?, hsame,
          Std.ExtTreeMap.getD_eq_getD_getElem?]
        rfl

/-- The uses of a facility are answered with their places. -/
theorem tellsUsage_of_uses (lifetime : Nat) (switch : Bool) (events : List Event)
    {place : Nat} {reply : Bytes}
    (hreply : (uses ((new lifetime switch).history events) facility)[place]? = some reply)
    (hsmall : place + 1 < 2 ^ 63) :
    Datagram.TellsUsage reply (place + 1 : Nat) := by
  induction events using List.reverseRecOn with
  | nil => cases hreply
  | append_singleton events event ih =>
      rw [uses_concat, List.getElem?_append] at hreply
      split at hreply
      · exact ih hreply
      · next hlast =>
          rcases counted_or_not (after_consistent lifetime switch events) event facility with
            ⟨header, hcode, hused, -⟩ | ⟨hunused, -⟩
          · rw [hused, Option.toList_some] at hreply
            obtain ⟨hfirst, rfl⟩ := List.getElem?_eq_some_iff.mp hreply
            have hplace : place = ((new lifetime switch).after events).desk.usageOf facility := by
              rw [usageOf_eq_length]
              rw [List.length_singleton] at hfirst
              omega
            rw [List.getElem_singleton, ← hplace]
            exact tellsUsage_replyTo hcode hsmall
          · rw [hunused] at hreply
            cases hreply

/-- The uses of a facility that are executed and succeed, in any run of a service, are
answered with one, two, three and so on, and their number is the count of the facility at
the end. No other event changes the count, and only a facility that is open has one. -/
theorem uses_counted (lifetime : Nat) (switch : Bool) (events : List Event)
    (facility : String) :
    (∀ (place : Nat) reply,
      (uses ((new lifetime switch).history events) facility)[place]? = some reply →
      place + 1 < 2 ^ 63 → Datagram.TellsUsage reply (place + 1)) ∧
    ((new lifetime switch).after events).desk.usageOf facility =
      (uses ((new lifetime switch).history events) facility).length ∧
    (∀ moment ∈ (new lifetime switch).history events, moment.use? facility = none →
      (moment.service.step moment.event).desk.usage[facility]? =
        moment.service.desk.usage[facility]?) ∧
    (((new lifetime switch).after events).desk.usageOf facility ≠ 0 →
      facility ∈ ((new lifetime switch).after events).desk.ledger.timetables) := by
  refine ⟨fun place reply hreply hsmall => tellsUsage_of_uses lifetime switch events hreply hsmall,
    usageOf_eq_length lifetime switch events facility, ?_, ?_⟩
  · intro moment hmoment hunused
    rcases counted_or_not (consistent_of_mem_history hmoment) moment.event facility with
      ⟨header, -, hused, -⟩ | ⟨-, hsame⟩
    · rw [hunused] at hused
      cases hused
    · exact hsame
  · intro hcount
    rw [after_desk] at hcount ⊢
    refine (Desk.run_orderly _).counted facility ?_
    by_contra hmissing
    exact hcount (Std.ExtTreeMap.getD_eq_fallback hmissing)

end Service

end FacilityBooking
