import FacilityBooking.Proofs.Desk.Facilities
import FacilityBooking.Proofs.Service.Executions
import FacilityBooking.Proofs.Service.Notices

/-!
# Actions of a service

Every request but one that asks to watch is an action at the desk. A datagram takes the desk
where the action takes it that its request comes to, if it is executed, and leaves the desk
as it is if not. So a run of a service is a run of its desk.
-/

namespace FacilityBooking

namespace Request

variable {request : Request} {action : Action}

/-- What a request asks of the desk. -/
def action? : Request → Option Action
  | queryAvailability facility day => some (.queryDay facility day)
  | book facility user start stop => some (.book facility user start stop)
  | changeBooking booking offset => some (.change booking.toInt offset.toInt)
  | monitor .. => none
  | resetDay facility day => some (.resetDay facility day)
  | incrementUsage facility => some (.incrementUsage facility)

/-- The facility that a request names. -/
def facility? : Request → Option String
  | queryAvailability facility _ => some facility
  | book facility .. => some facility
  | changeBooking .. => none
  | monitor facility .. => some facility
  | resetDay facility _ => some facility
  | incrementUsage facility => some facility

/-- An action names the facility that its request names. -/
theorem facility?_of_action? (haction : request.action? = some action) :
    action.facility? = request.facility? := by
  cases request <;> cases haction <;> rfl

/-- Only a request to watch is none of the desk's business. -/
theorem action?_eq_none_iff : request.action? = none ↔ request.operation = .monitor := by
  cases request <;> simp [action?, operation]

theorem action?_eq_incrementUsage_iff {facility : String} :
    request.action? = some (.incrementUsage facility) ↔ request = .incrementUsage facility := by
  cases request <;> simp [action?]

end Request

/-- The action that takes place at the desk at a moment. -/
def Moment.action? (moment : Moment) : Option Action :=
  match moment.event with
  | .sweep _ => none
  | .arrival datagram peer now =>
      (moment.service.executed? datagram peer now).bind Request.action?

namespace Service

variable {service : Service} {datagram : Bytes} {peer : Address} {now : Nat}
  {request : Request} {action : Action}

/-! ## One request -/

theorem perform_desk (service : Service) (request : Request) (peer : Address) (now : Nat) :
    (service.perform request peer now).2.desk = service.desk.run request.action?.toList := by
  cases request with
  | monitor facility seconds port =>
      rcases watch_cases service facility seconds port peer now with
        ⟨rejection, -, hrejected⟩ | ⟨watches, -, hwatched⟩
      · rw [perform, hrejected]
        rfl
      · rw [perform, hwatched]
        rfl
  | _ => rfl

/-- A request is refused for the reason for which its action is. -/
theorem perform_of_refused {refusal : Refusal} (haction : request.action? = some action)
    (hrefused : (service.desk.step action).1 = some refusal) (peer : Address) (now : Nat) :
    (service.perform request peer now).1 = .error (.refused refusal) := by
  cases request with
  | queryAvailability facility day =>
      cases haction
      have houtcome : (service.desk.queryDay facility day).1 = .error refusal :=
        Desk.refusal?_eq_some_iff.mp hrefused
      simp only [perform, houtcome]
  | book facility user start stop =>
      cases haction
      have houtcome : (service.desk.book facility user start stop).1 = .error refusal :=
        Desk.refusal?_eq_some_iff.mp hrefused
      simp only [perform, houtcome]
  | changeBooking booking offset =>
      cases haction
      have houtcome : (service.desk.change booking.toInt offset.toInt).1 = .error refusal :=
        Desk.refusal?_eq_some_iff.mp hrefused
      simp only [perform, houtcome]
  | monitor facility seconds port => cases haction
  | resetDay facility day =>
      cases haction
      have houtcome : (service.desk.resetDay facility day).1 = .error refusal :=
        Desk.refusal?_eq_some_iff.mp hrefused
      simp only [perform, houtcome]
  | incrementUsage facility =>
      cases haction
      have houtcome : (service.desk.incrementUsage facility).1 = .error refusal :=
        Desk.refusal?_eq_some_iff.mp hrefused
      simp only [perform, houtcome]

/-- A request is carried out only if its action is. -/
theorem step_done_of_perform {execution : Execution} (haction : request.action? = some action)
    (hperformed : (service.perform request peer now).1 = .ok execution) :
    (service.desk.step action).1 = none := by
  cases hstep : (service.desk.step action).1 with
  | none => rfl
  | some refusal =>
      rw [perform_of_refused haction hstep peer now] at hperformed
      cases hperformed

/-! ## One datagram -/

theorem handle_desk (service : Service) (datagram : Bytes) (peer : Address) (now : Nat) :
    (service.handle datagram peer now).2.desk =
      service.desk.run ((service.executed? datagram peer now).bind Request.action?).toList := by
  cases hexecuted : service.executed? datagram peer now with
  | none =>
      obtain ⟨cache, hafter, -⟩ := handle_of_not_executed? hexecuted
      rw [hafter]
      rfl
  | some request =>
      obtain ⟨header, cache, hafter, -⟩ := handle_of_executed? hexecuted
      rw [hafter]
      exact perform_desk service request peer now

theorem answer_failure (service : Service) (header : Header)
    (outcome : Except Rejection Execution) (now : Nat) :
    (service.answer header outcome now).1 = none ↔ ∃ execution, outcome = .ok execution := by
  cases outcome <;> simp [answer]

/-- The verdict on a datagram that is executed, by the outcome of its request. -/
theorem verdict_of_executed? (hexecuted : service.executed? datagram peer now = some request) :
    ∃ (header : Header) (failure : Option ErrorCategory) (notices : List Notice),
      header.operation = request.operation.code ∧
      (failure = none ↔
        ∃ execution, (service.perform request peer now).1 = .ok execution) ∧
      (service.handle datagram peer now).1 = .executed (some request.operation) failure
        (header.replyTo (service.perform request peer now).1) notices := by
  obtain ⟨header, payload, hsplit, hunkept, hcode, hexecute⟩ := executed?_eq_some hexecuted
  rw [handle_executed hsplit hunkept, answerTo, hexecute, answer_reply, hcode,
    Operation.ofCode_code]
  exact ⟨header, _, _, hcode, answer_failure .., rfl⟩

/-! ## Runs -/

theorem step_desk (service : Service) (event : Event) :
    (service.step event).desk =
      service.desk.run (Moment.action? ⟨service, event⟩).toList := by
  cases event with
  | sweep now => rfl
  | arrival datagram peer now => exact handle_desk service datagram peer now

/-- A run of a service takes its desk through the actions of the history. -/
theorem after_desk (service : Service) (events : List Event) :
    (service.after events).desk =
      service.desk.run ((service.history events).filterMap Moment.action?) := by
  induction events generalizing service with
  | nil => rfl
  | cons event rest ih =>
      rw [after_cons, ih, step_desk, history, List.filterMap_cons]
      cases Moment.action? ⟨service, event⟩ <;> rfl

end Service

end FacilityBooking
