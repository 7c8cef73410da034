import FacilityBooking.Proofs.Service.Answers

/-!
# Histories of a service

Datagrams arrive at a service and sweeps take place, in any order and at any times.
The history of such a run is the list of its events, each with the service as it was
before it.
-/

namespace FacilityBooking

/-- What happens to a service. -/
inductive Event where
  | arrival (datagram : Bytes) (peer : Address) (now : Nat)
  | sweep (now : Nat)
  deriving DecidableEq, Repr

/-- When it happens. -/
def Event.time : Event → Nat
  | .arrival _ _ now => now
  | .sweep now => now

/-- An event, and the service that it happens to. -/
structure Moment where
  service : Service
  event : Event

namespace Service

def step (service : Service) : Event → Service
  | .arrival datagram peer now => (service.handle datagram peer now).2
  | .sweep now => (service.sweep now).2

/-- The service after some events. -/
def after (service : Service) (events : List Event) : Service :=
  events.foldl step service

/-- The events one by one, each with the service before it. -/
def history (service : Service) : List Event → List Moment
  | [] => []
  | event :: rest => ⟨service, event⟩ :: (service.step event).history rest

end Service

/-- The reply and the time of a moment, if a request that asks for at most one
execution is executed under the given key at it. -/
def Moment.execution? (moment : Moment) (key : RequestKey) : Option (Bytes × Nat) :=
  match moment.event with
  | .sweep _ => none
  | .arrival datagram peer now =>
      match Datagram.split datagram, (moment.service.handle datagram peer now).1 with
      | .ok (header, _), .executed _ _ reply _ =>
          if header.isAtMostOnce ∧ key = ⟨peer, header.requestId⟩ then some (reply, now) else none
      | _, _ => none

namespace Service

variable {service : Service} {events : List Event}

@[simp]
theorem after_nil (service : Service) : service.after [] = service := rfl

@[simp]
theorem after_cons (service : Service) (event : Event) (events : List Event) :
    service.after (event :: events) = (service.step event).after events := rfl

theorem after_append (service : Service) (first second : List Event) :
    service.after (first ++ second) = (service.after first).after second :=
  List.foldl_append ..

theorem history_append (service : Service) (first second : List Event) :
    service.history (first ++ second) =
      service.history first ++ (service.after first).history second := by
  induction first generalizing service with
  | nil => rfl
  | cons event rest ih =>
      rw [List.cons_append, history, ih]
      rfl

theorem history_concat (service : Service) (events : List Event) (event : Event) :
    service.history (events ++ [event]) =
      service.history events ++ [⟨service.after events, event⟩] :=
  history_append service events [event]

/-- A moment of a history is its event and the service after the events before it. -/
theorem history_eq_append {before later : List Moment} {moment : Moment}
    (hhistory : service.history events = before ++ moment :: later) :
    ∃ first rest, events = first ++ moment.event :: rest ∧
      moment.service = service.after first ∧ before = service.history first ∧
      later = (service.after (first ++ [moment.event])).history rest := by
  induction before generalizing service events with
  | nil =>
      cases events with
      | nil => cases hhistory
      | cons event rest =>
          obtain ⟨rfl, rfl⟩ := List.cons.inj hhistory
          exact ⟨[], rest, rfl, rfl, rfl, rfl⟩
  | cons head before ih =>
      cases events with
      | nil => cases hhistory
      | cons event events =>
          obtain ⟨rfl, htail⟩ := List.cons.inj hhistory
          obtain ⟨first, rest, rfl, hservice, rfl, rfl⟩ := ih htail
          exact ⟨event :: first, rest, rfl, hservice, rfl, rfl⟩

/-- What every step keeps, every run keeps. -/
theorem after_preserves (property : Service → Prop)
    (hstep : ∀ service event, property service → property (service.step event))
    (hservice : property service) : property (service.after events) := by
  induction events generalizing service with
  | nil => exact hservice
  | cons event rest ih => exact ih (hstep service event hservice)

theorem step_atMostOnce (service : Service) (event : Event) :
    (service.step event).atMostOnce = service.atMostOnce := by
  cases event with
  | arrival datagram peer now => exact handle_atMostOnce service datagram peer now
  | sweep now => rfl

@[simp]
theorem after_atMostOnce (service : Service) (events : List Event) :
    (service.after events).atMostOnce = service.atMostOnce :=
  after_preserves (fun other => other.atMostOnce = service.atMostOnce)
    (fun other event hother => (step_atMostOnce other event).trans hother) rfl

end Service

end FacilityBooking
