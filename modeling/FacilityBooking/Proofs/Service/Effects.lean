import FacilityBooking.Proofs.Service.Rebooking
import FacilityBooking.Proofs.Service.Refusals

/-!
# Effects of a datagram

A datagram that is executed does what its request does, and any other one changes nothing
but the replies that are kept. So a datagram changes the bookings of one facility, which is
noted as touched, or it changes no booking; and it adds a watch to the end of the list, or
it changes no watch.
-/

namespace FacilityBooking

namespace Service

variable {service : Service} {datagram : Bytes} {peer : Address} {now : Nat}
  {request : Request}

/-- The request that a datagram carries, if the datagram is executed. -/
def executed? (service : Service) (datagram : Bytes) (peer : Address) (now : Nat) :
    Option Request :=
  match Datagram.split datagram with
  | .error _ => none
  | .ok (header, payload) =>
      if service.kept? header peer now = none ∧ header.version = protocolVersion then
        match Operation.ofCode header.operation with
        | .error _ => none
        | .ok operation => (Request.decode operation payload).toOption
      else none

/-- The facility whose bookings a datagram changes, as the service notes it. -/
def touched? (service : Service) (datagram : Bytes) (peer : Address) (now : Nat) :
    Option Touched :=
  (service.executed? datagram peer now).bind fun request =>
    (service.perform request peer now).1.toOption.bind Execution.touched

/-- The watch that a datagram registers. -/
def registration? (service : Service) (datagram : Bytes) (peer : Address) (now : Nat) :
    Option Watch :=
  match service.executed? datagram peer now with
  | some (.monitor facility seconds port) =>
      if (service.watch facility seconds port peer now).1.isOk then
        some ⟨facility, peer.atPort port.toUInt16, now + seconds.toNat * Limits.second⟩
      else none
  | _ => none

/-! ## Executed or not -/

/-- A datagram that is executed has no kept reply and the code of its request, and comes to
what the request comes to, at whatever service. -/
theorem executed?_eq_some (hexecuted : service.executed? datagram peer now = some request) :
    ∃ header payload, Datagram.split datagram = .ok (header, payload) ∧
      service.kept? header peer now = none ∧ header.operation = request.operation.code ∧
      ∀ service : Service,
        service.execute header payload peer now = service.perform request peer now := by
  unfold executed? at hexecuted
  split at hexecuted
  · cases hexecuted
  · next header payload hsplit =>
      split at hexecuted
      · next hboth =>
          split at hexecuted
          · cases hexecuted
          · next operation hcode =>
              cases hdecode : Request.decode operation payload with
              | error cause =>
                  rw [hdecode] at hexecuted
                  cases hexecuted
              | ok found =>
                  rw [hdecode] at hexecuted
                  cases hexecuted
                  obtain rfl := Request.operation_of_decode hdecode
                  exact ⟨header, payload, hsplit, hboth.1, Operation.ofCode_eq_ok_iff.mp hcode,
                    fun _ => execute_of_decode hboth.2 hcode hdecode⟩
      · cases hexecuted

theorem split_of_executed? (hexecuted : service.executed? datagram peer now = some request) :
    (Datagram.split datagram).isOk = true := by
  obtain ⟨header, payload, hsplit, -⟩ := executed?_eq_some hexecuted
  rw [hsplit]
  rfl

/-- A datagram that is executed does what its request does. -/
theorem handle_of_executed? (hexecuted : service.executed? datagram peer now = some request) :
    ∃ header cache, (service.handle datagram peer now).2 =
        { (service.perform request peer now).2 with cache } ∧
      (service.handle datagram peer now).1.notices =
        ((service.perform request peer now).2.answer header
          (service.perform request peer now).1 now).2.2 := by
  obtain ⟨header, payload, hsplit, hunkept, -, hexecute⟩ := executed?_eq_some hexecuted
  rw [handle_executed hsplit hunkept, answerTo, hexecute]
  exact ⟨header, _, rfl, rfl⟩

/-- A message without a kept reply is executed unless it cannot be read as a request. -/
theorem malformed_of_not_executed? {header : Header} {payload : Bytes}
    (hsplit : Datagram.split datagram = .ok (header, payload))
    (hunkept : service.kept? header peer now = none)
    (hnone : service.executed? datagram peer now = none) :
    ∃ cause, service.execute header payload peer now =
      (.error (.malformed cause), service) := by
  simp only [executed?, hsplit, hunkept, true_and] at hnone
  unfold execute
  split
  · exact ⟨_, rfl⟩
  · next hversion =>
      rw [if_pos (not_not.mp hversion)] at hnone
      split
      · exact ⟨_, rfl⟩
      · next operation hcode =>
          rw [hcode] at hnone
          dsimp only at hnone
          split
          · exact ⟨_, rfl⟩
          · next request hdecode =>
              rw [hdecode] at hnone
              cases hnone

/-- A datagram that is not executed changes nothing but the kept replies. -/
theorem handle_of_not_executed? (hnone : service.executed? datagram peer now = none) :
    ∃ cache, (service.handle datagram peer now).2 = { service with cache } ∧
      (service.handle datagram peer now).1.notices = [] := by
  rcases service.arrival_cases datagram peer now with
    ⟨cause, hsplit⟩ | ⟨header, payload, reply, hsplit, hkept⟩ | ⟨header, payload, hsplit, hunkept⟩
  · rw [handle_malformed hsplit]
    exact ⟨_, rfl, rfl⟩
  · rw [handle_kept hsplit hkept]
    exact ⟨_, rfl, rfl⟩
  · obtain ⟨cause, hrejected⟩ := malformed_of_not_executed? hsplit hunkept hnone
    rw [handle_executed hsplit hunkept, answerTo, hrejected]
    exact ⟨_, rfl, rfl⟩

/-! ## Bookings and watches -/

theorem handle_notices (service : Service) (datagram : Bytes) (peer : Address) (now : Nat) :
    (service.handle datagram peer now).1.notices =
      match service.touched? datagram peer now with
      | some touched => (service.handle datagram peer now).2.noticesFor touched now
      | none => [] := by
  rw [touched?]
  cases hexecuted : service.executed? datagram peer now with
  | none =>
      obtain ⟨cache, -, hnotices⟩ := handle_of_not_executed? hexecuted
      exact hnotices
  | some request =>
      obtain ⟨header, cache, hafter, hnotices⟩ := handle_of_executed? hexecuted
      rw [hnotices, hafter, Option.bind_some]
      cases (service.perform request peer now).1 with
      | error rejection => rfl
      | ok execution =>
          obtain ⟨response, _ | touched⟩ := execution <;> rfl

/-- A request that changes bookings takes the desk to where it takes it, and the service
notes the facility and the days that are concerned. -/
theorem handle_rebooking (hconsistent : service.desk.ledger.Consistent)
    (hexecuted : service.executed? datagram peer now = some request) {after : Desk}
    {facility : String} {extra : Day → Prop}
    (hrebooking : Rebooking service.desk after request facility extra) :
    ∃ touched, service.touched? datagram peer now = some touched ∧
      touched.facility = facility ∧ (∀ day, day ∈ touched.extraDays ↔ extra day) ∧
      (service.handle datagram peer now).2.desk = after ∧
      (service.handle datagram peer now).2.watches = service.watches := by
  obtain ⟨execution, touched, hperformed, htouched, hfacility, hextra⟩ :=
    hrebooking.perform hconsistent peer now
  obtain ⟨header, cache, hafter, -⟩ := handle_of_executed? hexecuted
  rw [hafter, touched?, hexecuted, Option.bind_some, hperformed]
  exact ⟨touched, htouched, hfacility, hextra, rfl, rfl⟩

/-- A datagram changes the bookings of the facility that is noted as touched, and no watch,
or it changes no booking and nothing is noted. -/
theorem rebooked_or_not (hconsistent : service.desk.ledger.Consistent) (datagram : Bytes)
    (peer : Address) (now : Nat) :
    (∃ request touched extra, service.executed? datagram peer now = some request ∧
        service.touched? datagram peer now = some touched ∧
        Rebooking service.desk (service.handle datagram peer now).2.desk request
          touched.facility extra ∧
        (∀ day, day ∈ touched.extraDays ↔ extra day) ∧
        (service.handle datagram peer now).2.watches = service.watches) ∨
      service.touched? datagram peer now = none ∧
        ∀ id : BookingId, (service.handle datagram peer now).2.desk.ledger.bookings[id]? =
          service.desk.ledger.bookings[id]? := by
  cases hexecuted : service.executed? datagram peer now with
  | none =>
      obtain ⟨cache, hafter, -⟩ := handle_of_not_executed? hexecuted
      rw [touched?, hexecuted, hafter]
      exact .inr ⟨rfl, fun _ => rfl⟩
  | some request =>
      rcases rebooking_or_untouched hconsistent request peer now with
        ⟨facility, extra, after, hrebooking⟩ | ⟨hsame, huntouched⟩
      · obtain ⟨touched, htouched, rfl, hextra, rfl, hwatches⟩ :=
          handle_rebooking hconsistent hexecuted hrebooking
        exact .inl ⟨request, touched, extra, rfl, htouched, hrebooking, hextra, hwatches⟩
      · obtain ⟨header, cache, hafter, -⟩ := handle_of_executed? hexecuted
        rw [hafter]
        refine .inr ⟨?_, hsame⟩
        rw [touched?, hexecuted, Option.bind_some]
        cases hperformed : (service.perform request peer now).1 with
        | error rejection => rfl
        | ok execution => exact huntouched execution hperformed

theorem perform_watches (service : Service) (request : Request) (peer : Address) (now : Nat) :
    (service.perform request peer now).2.watches = match request with
      | .monitor facility seconds port =>
          (service.watch facility seconds port peer now).2.watches
      | _ => service.watches := by
  cases request <;> rfl

theorem watch_watches (service : Service) (facility : String) (seconds port : UInt32)
    (peer : Address) (now : Nat) :
    (service.watch facility seconds port peer now).2.watches.watches =
      if (service.watch facility seconds port peer now).1.isOk then
        service.watches.watches.push
          ⟨facility, peer.atPort port.toUInt16, now + seconds.toNat * Limits.second⟩
      else service.watches.watches := by
  rcases watch_cases service facility seconds port peer now with
    ⟨rejection, -, hrejected⟩ | ⟨watches, hwatches, hwatched⟩
  · rw [hrejected]
    rfl
  · rw [hwatched]
    exact hwatches

theorem handle_watches (service : Service) (datagram : Bytes) (peer : Address) (now : Nat) :
    (service.handle datagram peer now).2.watches.watches.toList =
      service.watches.watches.toList ++ (service.registration? datagram peer now).toList := by
  rw [registration?]
  cases hexecuted : service.executed? datagram peer now with
  | none =>
      obtain ⟨cache, hafter, -⟩ := handle_of_not_executed? hexecuted
      rw [hafter]
      exact (List.append_nil _).symm
  | some request =>
      obtain ⟨header, cache, hafter, -⟩ := handle_of_executed? hexecuted
      rw [hafter]
      dsimp only
      rw [perform_watches]
      cases request with
      | monitor facility seconds port =>
          dsimp only
          rw [watch_watches]
          split
          · exact Array.toList_push
          · exact (List.append_nil _).symm
      | _ => exact (List.append_nil _).symm

end Service

end FacilityBooking
