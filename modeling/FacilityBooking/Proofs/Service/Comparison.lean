import FacilityBooking.Proofs.Message.Requests
import FacilityBooking.Proofs.Service.Notices

/-!
# Two services side by side

Two services are given the same datagrams, but one of them is given some more events in
between. What a request comes to at either of them is decided by the desk, unless it is
registered as a watch: then the number of watches on the list has a say. Notices come from
the desk and the live watches.
-/

namespace FacilityBooking

/-- The second list agrees with the first one element by element, but has extra elements of
some kind at any places. -/
inductive Interspersed {α β : Type} (agree : α → β → Prop) (extra : β → Prop) :
    List α → List β → Prop
  | nil : Interspersed agree extra [] []
  | shared {first : α} {second : β} {firsts : List α} {seconds : List β}
      (hagree : agree first second) (hrest : Interspersed agree extra firsts seconds) :
      Interspersed agree extra (first :: firsts) (second :: seconds)
  | added {second : β} {firsts : List α} {seconds : List β}
      (hextra : extra second) (hrest : Interspersed agree extra firsts seconds) :
      Interspersed agree extra firsts (second :: seconds)

namespace Interspersed

variable {α β : Type} {agree : α → β → Prop} {extra : β → Prop} {firsts : List α}
  {seconds : List β} {first : α} {second : β}

theorem replicate_append (hlists : Interspersed agree extra firsts seconds) (count : Nat)
    (hextra : extra second) :
    Interspersed agree extra firsts (List.replicate count second ++ seconds) := by
  induction count with
  | zero => exact hlists
  | succ count ih => exact .added hextra ih

theorem extra_of_nil (hlists : Interspersed agree extra [] seconds) (hmem : second ∈ seconds) :
    extra second := by
  induction seconds with
  | nil => cases hmem
  | cons head rest ih =>
      cases hlists with
      | added hextra hrest =>
          rcases List.mem_cons.mp hmem with rfl | hmem
          · exact hextra
          · exact ih hrest hmem

/-- A last element that is none of the extra ones agrees with the only one of the first
list. -/
theorem agree_last (hlists : Interspersed agree extra [first] (seconds ++ [second]))
    (hlast : ¬ extra second) : agree first second := by
  induction seconds with
  | nil =>
      cases hlists with
      | shared hagree _ => exact hagree
      | added hextra _ => exact absurd hextra hlast
  | cons head rest ih =>
      cases hlists with
      | shared _ hrest =>
          exact absurd (hrest.extra_of_nil (List.mem_append_right rest (.head _))) hlast
      | added _ hrest => exact ih hrest

end Interspersed

theorem ReplyCache.getElem?_insert (cache : ReplyCache) (key other : RequestKey) (reply : Bytes)
    (now : Nat) :
    (cache.insert key reply now).entries[other]? =
      if key = other then some ⟨reply, now + cache.lifetime⟩ else cache.entries[other]? := by
  simp only [insert, Std.ExtTreeMap.getElem?_insert, Std.LawfulEqCmp.compare_eq_iff_eq]

namespace Service

variable {few many : Service} {header : Header} {payload : Bytes} {peer : Address} {now : Nat}

/-- What is carried out for a datagram is the same whatever the service holds: nothing, as
it is malformed, or a request to the operation whose code it bears. -/
theorem malformed_or_request (header : Header) (payload : Bytes) :
    (∃ cause, ∀ (service : Service) (peer : Address) (now : Nat),
        service.execute header payload peer now = (.error (.malformed cause), service)) ∨
      ∃ request : Request, header.operation = request.operation.code ∧
        ∀ (service : Service) (peer : Address) (now : Nat),
          service.execute header payload peer now = service.perform request peer now := by
  by_cases hversion : header.version = protocolVersion
  · cases hcode : Operation.ofCode header.operation with
    | error cause =>
        refine .inl ⟨cause, fun service peer now => ?_⟩
        rw [execute, if_neg (not_not_intro hversion), hcode]
    | ok operation =>
        cases hdecode : Request.decode operation payload with
        | error cause =>
            refine .inl ⟨cause, fun service peer now => ?_⟩
            rw [execute, if_neg (not_not_intro hversion), hcode]
            dsimp only
            rw [hdecode]
        | ok request =>
            refine .inr ⟨request, ?_, fun service peer now =>
              execute_of_decode hversion hcode hdecode⟩
            rw [Request.operation_of_decode hdecode]
            exact Operation.ofCode_eq_ok_iff.mp hcode
  · refine .inl ⟨.unsupportedVersion header.version, fun service peer now => ?_⟩
    rw [execute, if_pos hversion]

/-! ## Requests -/

/-- What speaks against a watch, however many there are. -/
def watchFault? (facility : String) (seconds port : UInt32) : Option Rejection :=
  if 65535 < port.toNat then some (.portOutOfRange port)
  else if Limits.watchSeconds < seconds.toNat then some (.watchTooLong seconds)
  else if facility.isEmpty then some (.refused (.emptyName .facility))
  else none

/-- A watch without a fault of its own is refused exactly if the list is full. -/
theorem watch_eq (service : Service) (facility : String) (seconds port : UInt32)
    (peer : Address) (now : Nat) :
    service.watch facility seconds port peer now =
      match watchFault? facility seconds port with
      | some rejection => (.error rejection, service)
      | none =>
          if Limits.watches ≤ service.watches.size then
            (.error (.refused (.limitExceeded .watches)), service)
          else (.ok { response := .monitoring }, { service with
            watches := ⟨service.watches.watches.push
              ⟨facility, peer.atPort port.toUInt16, now + seconds.toNat * Limits.second⟩⟩ }) := by
  unfold watch watchFault? WatchList.register
  by_cases hport : 65535 < port.toNat
  · simp only [if_pos hport]
  · by_cases hseconds : Limits.watchSeconds < seconds.toNat
    · simp only [if_neg hport, if_pos hseconds]
    · simp only [if_neg hport, if_neg hseconds]
      by_cases hempty : facility.isEmpty = true
      · simp only [if_pos hempty]
      · simp only [if_neg hempty]
        by_cases hfull : Limits.watches ≤ service.watches.size
        · simp only [if_pos hfull]
        · simp only [if_neg hfull]

/-- A request that registers no watch comes to the same at equal desks, and does nothing
but to the desk. -/
theorem perform_of_desk (hdesk : many.desk = few.desk) {request : Request}
    (hrequest : request.operation ≠ .monitor) (peer : Address) (now : Nat) :
    few.perform request peer now = ((few.perform request peer now).1,
        { few with desk := (few.perform request peer now).2.desk }) ∧
      many.perform request peer now = ((few.perform request peer now).1,
        { many with desk := (few.perform request peer now).2.desk }) := by
  cases request with
  | monitor facility seconds port => exact absurd rfl hrequest
  | _ => exact ⟨rfl, by simp only [perform, hdesk]⟩

/-- A request to register a watch leaves the desk as it is. -/
theorem perform_monitor_desk (service : Service) {request : Request}
    (hrequest : request.operation = .monitor) (peer : Address) (now : Nat) :
    (service.perform request peer now).2.desk = service.desk := by
  cases request with
  | monitor facility seconds port =>
      simp only [perform, watch_eq]
      split
      · rfl
      · split <;> rfl
  | _ => cases hrequest

/-! ## Notices -/

/-- Notices come from the desk and the live watches. -/
theorem noticesFor_congr (hdesk : many.desk = few.desk) {touched : Touched}
    (hactive : many.watches.activeFor touched.facility now =
      few.watches.activeFor touched.facility now) :
    many.noticesFor touched now = few.noticesFor touched now := by
  have hdays : many.reportedDays touched = few.reportedDays touched := by
    rw [reportedDays, reportedDays, hdesk]
  have hdatagram : many.noticeDatagram? touched.facility =
      few.noticeDatagram? touched.facility := by
    funext day
    rw [noticeDatagram?, noticeDatagram?, hdesk]
  rw [noticesFor_eq_flatMap, noticesFor_eq_flatMap, hactive, hdays, hdatagram]

theorem answer_congr (hdesk : many.desk = few.desk)
    (hactive : ∀ facility, many.watches.activeFor facility now =
      few.watches.activeFor facility now)
    (header : Header) (outcome : Except Rejection Execution) :
    many.answer header outcome now = few.answer header outcome now := by
  cases outcome with
  | error rejection => rfl
  | ok execution =>
      obtain ⟨response, _ | touched⟩ := execution
      · rfl
      · simp only [answer, noticesFor_congr hdesk (hactive touched.facility)]

end Service

end FacilityBooking
