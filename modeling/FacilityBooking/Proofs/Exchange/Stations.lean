import FacilityBooking.Proofs.Client.Numbering
import FacilityBooking.Proofs.Exchange.World
import Mathlib.Data.List.Pairwise

/-!
# What holds of every station

The calls of a station draw their ids in order from where its caller began, every copy
that it sends is the datagram of one of its calls, and it hears nothing but what the
network may let arrive.
-/

namespace FacilityBooking

/-- Nothing but genuine receptions came in the attempt. -/
def Attempt.Genuine (genuine : Reception → Prop) (attempt : Attempt) : Prop :=
  ∀ receptions, attempt = .ok receptions → ∀ reception ∈ receptions, genuine reception

theorem Channel.scripted_brings (genuine : Reception → Prop) :
    Channel.scripted.Brings (fun attempts => ∀ attempt ∈ attempts, attempt.Genuine genuine)
      genuine where
  arrived datagram attempts hattempts receptions hreceptions := by
    cases attempts with
    | nil =>
        cases hreceptions
        exact nofun
    | cons attempt rest => exact hattempts attempt (.head _) receptions hreceptions
  kept datagram attempts hattempts := by
    cases attempts with
    | nil => exact nofun
    | cons attempt rest => exact fun other hother => hattempts other (.tail _ hother)

namespace Call

variable {call : Call} {genuine : Reception → Prop}

/-- The call has heard nothing but genuine receptions. -/
structure Heard (genuine : Reception → Prop) (call : Call) : Prop where
  inbox : ∀ reception ∈ call.caller.inbox, genuine reception
  attempts : ∀ attempt ∈ call.attempts, attempt.Genuine genuine

theorem Heard.mono {wider : Reception → Prop} (hheard : call.Heard genuine)
    (hwider : ∀ reception, genuine reception → wider reception) : call.Heard wider where
  inbox reception hreception := hwider reception (hheard.inbox reception hreception)
  attempts attempt hattempt receptions hreceptions reception hreception :=
    hwider reception (hheard.attempts attempt hattempt receptions hreceptions reception hreception)

theorem Heard.tried (hheard : call.Heard genuine) {attempt : Attempt}
    (hattempt : attempt.Genuine genuine) : (call.tried attempt).Heard genuine where
  inbox := hheard.inbox
  attempts other hother := by
    rcases List.mem_cons.mp hother with rfl | hother
    · exact hattempt
    · exact hheard.attempts other hother

theorem Heard.reverse (hheard : call.Heard genuine) :
    ∀ attempt ∈ call.attempts.reverse, attempt.Genuine genuine :=
  fun attempt hattempt => hheard.attempts attempt (List.mem_reverse.mp hattempt)

/-- A call whose request has an encoding has a datagram and an id, and takes the id. -/
theorem run_encodable {payload : Bytes} (hpayload : call.request.payload = .ok payload) :
    call.datagram? = some (call.caller.datagram call.request payload .atMostOnce) ∧
      call.id? = some call.caller.ids.draw.1 ∧
      call.run.2.1.server = call.caller.server ∧ call.run.2.1.ids = call.caller.ids.draw.2 := by
  rw [datagram?, id?, run, hpayload, Caller.request_encodable hpayload]
  exact ⟨rfl, rfl, rfl, rfl⟩

/-- Any other call has none, and leaves the caller as it was. -/
theorem run_unencodable {cause : FormatError} (hpayload : call.request.payload = .error cause) :
    call.datagram? = none ∧ call.id? = none ∧ call.run.2.1 = call.caller ∧
      call.result = .error (.format cause) ∧ call.nextCopy? = none := by
  rw [datagram?, id?, result, nextCopy?, run, hpayload, Caller.request_unencodable hpayload]
  exact ⟨rfl, rfl, rfl, rfl, rfl⟩

/-- Every copy is the datagram of the call. -/
theorem datagram?_of_nextCopy? {copy : Bytes} (hcopy : call.nextCopy? = some copy) :
    call.datagram? = some copy := by
  cases hpayload : call.request.payload with
  | error cause =>
      rw [(run_unencodable hpayload).2.2.2.2] at hcopy
      cases hcopy
  | ok payload =>
      rw [(run_encodable hpayload).1]
      rw [nextCopy?, run, Caller.request_encodable hpayload] at hcopy
      have hmem := List.mem_of_getElem? hcopy
      rw [List.eq_of_mem_replicate hmem]

/-- What a call leaves unread is genuine. -/
theorem inbox_run (hheard : call.Heard genuine) :
    ∀ reception ∈ call.run.2.1.inbox, genuine reception := by
  cases hpayload : call.request.payload with
  | error cause =>
      rw [(run_unencodable hpayload).2.2.1]
      exact hheard.inbox
  | ok payload =>
      exact (Caller.request_genuine hpayload (Channel.scripted_brings genuine) .atMostOnce
        hheard.reverse hheard.inbox).2.2

end Call

namespace Station

variable {server : Address} {first : RequestIds} {genuine : Reception → Prop}
  {station : Station}

/-- How many ids the past calls took. -/
def taken (station : Station) : Nat :=
  (station.past.filterMap Call.id?).length

/-- A caller of the server that began with the given counter, and has received nothing
but genuine receptions. -/
structure Sound (server : Address) (first : RequestIds) (genuine : Reception → Prop)
    (station : Station) : Prop where
  server_eq : station.caller.server = server
  inbox : ∀ reception ∈ station.caller.inbox, genuine reception
  ids_eq : station.caller.ids = first.advance station.taken
  past_ids : station.past.filterMap Call.id? = first.take station.taken
  past_heard : ∀ call ∈ station.past, call.caller.server = server ∧ call.Heard genuine
  current : ∀ call, station.current = some call →
    call.caller = station.caller ∧ call.Heard genuine
  sent : ∀ copy ∈ station.sent, ∃ call ∈ station.calls, call.datagram? = some copy

namespace Sound

theorem mono {wider : Reception → Prop} (hsound : station.Sound server first genuine)
    (hwider : ∀ reception, genuine reception → wider reception) :
    station.Sound server first wider where
  server_eq := hsound.server_eq
  inbox reception hreception := hwider reception (hsound.inbox reception hreception)
  ids_eq := hsound.ids_eq
  past_ids := hsound.past_ids
  past_heard call hcall :=
    ⟨(hsound.past_heard call hcall).1, (hsound.past_heard call hcall).2.mono hwider⟩
  current call hcall :=
    ⟨(hsound.current call hcall).1, (hsound.current call hcall).2.mono hwider⟩
  sent := hsound.sent

/-- Every call of a sound station is one of its server and has heard nothing else. -/
theorem call_heard (hsound : station.Sound server first genuine) {call : Call}
    (hcall : call ∈ station.calls) : call.caller.server = server ∧ call.Heard genuine := by
  rcases List.mem_append.mp hcall with hpast | hcurrent
  · exact hsound.past_heard call hpast
  · obtain ⟨hcaller, hheard⟩ := hsound.current call (Option.mem_toList.mp hcurrent)
    exact ⟨by rw [hcaller, hsound.server_eq], hheard⟩

/-- The ids of all calls are the first ones that the caller draws. -/
theorem calls_ids (hsound : station.Sound server first genuine) :
    ∃ count ≤ station.calls.length, station.calls.filterMap Call.id? = first.take count := by
  have htaken : station.taken ≤ station.past.length := List.length_filterMap_le _ _
  cases hcurrent : station.current with
  | none =>
      rw [calls_of_idle hcurrent]
      exact ⟨station.taken, htaken, hsound.past_ids⟩
  | some call =>
      rw [calls_of_current hcurrent, List.filterMap_append, List.length_append, hsound.past_ids]
      obtain ⟨hcaller, -⟩ := hsound.current call hcurrent
      cases hpayload : call.request.payload with
      | error cause =>
          refine ⟨station.taken, Nat.le_add_right_of_le htaken, ?_⟩
          simp only [List.filterMap_cons, (Call.run_unencodable hpayload).2.1,
            List.filterMap_nil, List.append_nil]
      | ok payload =>
          refine ⟨station.taken + 1, Nat.succ_le_succ htaken, ?_⟩
          simp only [List.filterMap_cons, (Call.run_encodable hpayload).2.1,
            List.filterMap_nil, hcaller, hsound.ids_eq, RequestIds.take_concat]

/-- Two calls of a station that makes no more calls than there are ids have one id only
if they are one call. -/
theorem eq_of_id_eq (hsound : station.Sound server first genuine)
    (hfew : station.calls.length ≤ 0xffffffff) {call other : Call} (hcall : call ∈ station.calls)
    (hother : other ∈ station.calls) {id : UInt32} (hid : call.id? = some id)
    (hotherId : other.id? = some id) : call = other := by
  obtain ⟨count, hcount, hids⟩ := hsound.calls_ids
  have hnodup : (station.calls.filterMap Call.id?).Nodup := by
    rw [hids]
    exact RequestIds.nodup_take (Nat.le_trans hcount hfew) first
  have hpairwise := List.pairwise_filterMap.mp hnodup
  have hsame : ∀ ⦃first⦄, first ∈ station.calls → ∀ ⦃second⦄, second ∈ station.calls →
      first.id? = some id → second.id? = some id → first = second :=
    List.Pairwise.forall_of_forall_of_flip (fun _ _ _ _ => rfl)
      (hpairwise.imp fun hne hfirst hsecond => absurd rfl (hne id hfirst id hsecond))
      (hpairwise.imp fun hne hsecond hfirst => absurd rfl (hne id hfirst id hsecond))
  exact hsame hcall hother hid hotherId

end Sound

end Station

end FacilityBooking
