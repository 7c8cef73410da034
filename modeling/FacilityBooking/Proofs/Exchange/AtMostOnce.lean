import FacilityBooking.Proofs.Exchange.Invariant
import Mathlib.Logic.Relation

/-!
# At most one execution from end to end

However the network treats the datagrams, a call is executed at most once as long as the
service keeps its replies for longer than copies are on their way. A call that returns
what the service answered was executed exactly once, and returns what came of it.
-/

namespace FacilityBooking

/-- The datagram of a call asks for at most one execution under the id of the call. -/
theorem Call.split_datagram {call : Call} {datagram : Bytes}
    (hdatagram : call.datagram? = some datagram) :
    ∃ header payload, Datagram.split datagram = .ok (header, payload) ∧
      call.id? = some header.requestId ∧ header.isAtMostOnce = true := by
  cases hpayload : call.request.payload with
  | error cause =>
      rw [(run_unencodable hpayload).1] at hdatagram
      cases hdatagram
  | ok payload =>
      obtain ⟨hcall, hid, -⟩ := run_encodable hpayload
      rw [hcall] at hdatagram
      cases hdatagram
      refine ⟨_, _, Datagram.split_frame _ (Request.length_payload_lt hpayload), hid, ?_⟩
      change (atMostOnceFlag &&& atMostOnceFlag != 0) = true
      decide

/-- What a reply means for the request that it answers. -/
theorem Pending.settle_faithful (pending : Pending) {sent header : Header}
    {outcome : Except Rejection Execution} {payload : Bytes} (hfaithful : Faithful sent outcome)
    (hsplit : Datagram.split (sent.replyTo outcome) = .ok (header, payload)) :
    header.requestId = sent.requestId ∧
      ((∃ rejection, outcome = .error rejection ∧
          pending.settle header payload = .error (.refused rejection.reply)) ∨
        ∃ execution, outcome = .ok execution ∧
          (execution.response.operation = pending.operation →
            pending.settle header payload = .ok payload ∧
            Response.decode pending.operation payload = .ok execution.response) ∧
          (execution.response.operation ≠ pending.operation →
            ∃ cause, pending.settle header payload = .error (.format cause))) := by
  cases hfaithful with
  | @rejected rejection hordinary =>
      obtain ⟨marked, hcomplete, hmask, hid, -, hread⟩ := sent.replyTo_rejected hordinary
      have hmarked := hcomplete.split_eq
      rw [hsplit] at hmarked
      cases hmarked
      have hdecode : ErrorReply.decode _ = _ := congrArg Prod.fst hread
      refine ⟨hid, .inl ⟨rejection, rfl, ?_⟩⟩
      rw [settle, if_pos (Header.isError_of_mask hmask), hdecode]
  | @carriedOut execution hcode hfits =>
      obtain ⟨marked, hcomplete, hoperation, hid, -, hread⟩ :=
        Header.replyTo_carriedOut hcode hfits
      have hmarked := hcomplete.split_eq
      rw [hsplit] at hmarked
      cases hmarked
      have herror := Header.isError_of_code hoperation
      have hdecode : Response.decode _ _ = _ := congrArg Prod.fst hread
      refine ⟨hid, .inr ⟨execution, rfl, ?_, ?_⟩⟩
      · intro hsame
        rw [settle, if_neg (Bool.eq_false_iff.mp herror), if_pos (by rw [hoperation, hsame]),
          ← hsame]
        exact ⟨rfl, hdecode⟩
      · intro hother
        have hcodes : header.operation ≠ pending.operation.code := by
          intro hsame
          exact hother (Operation.code_injective (hoperation.symm.trans hsame))
        rw [settle, if_neg (Bool.eq_false_iff.mp herror), if_neg hcodes]
        exact ⟨_, rfl⟩

/-- A list of which no two elements can stand together has at most one. -/
theorem length_le_one_of_pairwise {α : Type} {list : List α}
    (hpairwise : list.Pairwise fun _ _ => False) : list.length ≤ 1 := by
  cases hpairwise with
  | nil => exact Nat.zero_le 1
  | @cons first rest hfirst hrest =>
      cases rest with
      | nil => exact Nat.le_refl 1
      | cons second rest => exact (hfirst second (.head _)).elim

namespace World

variable {ids : Address → RequestIds} {world : World} {address : Address}

/-- All datagrams that arrive from a station under an id are copies of one. -/
theorem Sound.uniform (hsound : world.Sound ids)
    (hfew : (world.stations address).calls.length ≤ 0xffffffff) (id : UInt32) :
    Uniform world.events ⟨address, id⟩ := by
  intro datagram other first second header payload otherHeader otherPayload hdatagram hother
    hsplit hotherSplit hid hotherId
  have hstation := hsound.stations address
  obtain ⟨call, hcall, hcallDatagram⟩ := hstation.sent _ (hsound.arrivals _ _ _ hdatagram)
  obtain ⟨otherCall, hotherCall, hotherDatagram⟩ :=
    hstation.sent _ (hsound.arrivals _ _ _ hother)
  obtain ⟨callHeader, callPayload, hcallSplit, hcallId, -⟩ := Call.split_datagram hcallDatagram
  obtain ⟨found, foundPayload, hfoundSplit, hfoundId, -⟩ := Call.split_datagram hotherDatagram
  rw [hsplit] at hcallSplit
  cases hcallSplit
  rw [hotherSplit] at hfoundSplit
  cases hfoundSplit
  rw [hid] at hcallId
  rw [hotherId] at hfoundId
  have hsame := hstation.eq_of_id_eq hfew hcall hotherCall hcallId hfoundId
  rw [hsame, hotherDatagram] at hcallDatagram
  exact (Option.some.inj hcallDatagram).symm

/-- No call is executed twice. -/
theorem Sound.length_executions_le (hsound : world.Sound ids) (hsteady : Steady world.events)
    (htimely : Timely world.lifetime world.events)
    (hfew : (world.stations address).calls.length ≤ 0xffffffff) (call : Call) :
    (world.executions address call).length ≤ 1 := by
  cases hdatagram : call.datagram? with
  | none =>
      rw [World.executions, hdatagram]
      exact Nat.zero_le 1
  | some datagram =>
      obtain ⟨header, payload, hsplit, -, hflag⟩ := Call.split_datagram hdatagram
      have honce := Service.executed_once hsteady htimely (hsound.uniform hfew header.requestId)
      rw [executions_of_datagram world address hdatagram]
      refine length_le_one_of_pairwise (List.pairwise_filterMap.mpr (honce.imp ?_))
      intro first second hnot outcome houtcome other hother
      exact hnot ⟨Moment.execution_of_outcome hsplit hflag houtcome,
        Moment.execution_of_outcome hsplit hflag hother⟩

/-- A reply is the outcome of an execution of the call of its id. -/
theorem Sound.origin_of_reply (hsound : world.Sound ids) {moment : Moment}
    (hmoment : moment ∈ world.history) {datagram : Bytes} {now : Nat}
    (hevent : moment.event = .arrival datagram address now) {reply : Bytes}
    (hreply : (moment.service.handle datagram address now).1.reply? = some reply) :
    ∃ call ∈ (world.stations address).calls, ∃ sent outcome,
      call.id? = some sent.requestId ∧ outcome ∈ world.executions address call ∧
        reply = sent.replyTo outcome ∧ Faithful sent outcome := by
  have harrival := Service.event_mem_of_mem_history hmoment
  rw [hevent] at harrival
  obtain ⟨asked, -, hasked⟩ :=
    (hsound.stations address).sent _ (hsound.arrivals _ _ _ harrival)
  obtain ⟨header, payload, hsplit, -, hflag⟩ := Call.split_datagram hasked
  obtain ⟨found, hfound, start, hexecution⟩ :=
    Service.execution_of_reply hmoment hevent hsplit hflag hreply
  obtain ⟨copy, sent, body, outcome, hcopy, hcopySplit, hid, houtcome, hbytes, hfaithful⟩ :=
    Moment.outcome_of_execution (Service.consistent_of_mem_history hfound) hexecution
  have hcopyArrival := Service.event_mem_of_mem_history hfound
  rw [hcopy] at hcopyArrival
  obtain ⟨call, hcall, hdatagram⟩ :=
    (hsound.stations address).sent _ (hsound.arrivals _ _ _ hcopyArrival)
  obtain ⟨callHeader, callBody, hcallSplit, hcallId, -⟩ := Call.split_datagram hdatagram
  rw [hcopySplit] at hcallSplit
  cases hcallSplit
  refine ⟨call, hcall, sent, outcome, hcallId, ?_, hbytes, hfaithful⟩
  rw [executions_of_datagram world address hdatagram]
  exact List.mem_filterMap.mpr ⟨found, hfound, houtcome⟩

/-- A message that the network may let arrive from the service answers with the outcome
of an execution of the call of its id. -/
theorem Sound.origin (hsound : world.Sound ids) {bytes payload : Bytes} {header : Header}
    (hoffers : world.Offers address (.datagram world.server bytes))
    (hsplit : Datagram.split bytes = .ok (header, payload)) (hmessage : header.isNotice = false) :
    ∃ call ∈ (world.stations address).calls, ∃ sent outcome,
      call.id? = some sent.requestId ∧ outcome ∈ world.executions address call ∧
        bytes = sent.replyTo outcome ∧ Faithful sent outcome := by
  rcases hoffers with hother | ⟨moment, hmoment, parcel, hparcel, htarget, hbytes⟩
  · exact absurd rfl hother
  · unfold Moment.parcels at hparcel
    cases hevent : moment.event with
    | sweep now =>
        rw [hevent] at hparcel
        cases hparcel
    | arrival datagram peer now =>
        rw [hevent] at hparcel
        dsimp only at hparcel
        unfold Verdict.parcels at hparcel
        cases hreply : (moment.service.handle datagram peer now).1.reply? with
        | none =>
            rw [hreply] at hparcel
            cases hparcel
        | some reply =>
            rw [hreply] at hparcel
            rcases List.mem_cons.mp hparcel with rfl | hnotice
            · dsimp only at htarget hbytes
              subst htarget hbytes
              exact hsound.origin_of_reply hmoment hevent hreply
            · obtain ⟨notice, hmem, rfl⟩ := List.mem_map.mp hnotice
              rw [← hbytes] at hsplit
              have hmarked := Service.isNotice_of_mem_notices hmem hsplit
              rw [hmessage] at hmarked
              cases hmarked

/-- What decides a call is the outcome of its one execution. -/
theorem Sound.decided (hsound : world.Sound ids)
    (hfew : (world.stations address).calls.length ≤ 0xffffffff)
    (hlength : ∀ call, (world.executions address call).length ≤ 1) {call : Call}
    (hcall : call ∈ (world.stations address).calls) {payload : Bytes}
    (hpayload : call.request.payload = .ok payload) {reception : Reception}
    (hoffers : world.Offers address reception) {result : Except CallError Bytes}
    (hjudge : (call.caller.pending call.request).judge? reception = some result) :
    (∃ rejection, world.executions address call = [.error rejection] ∧
        result = .error (.refused rejection.reply)) ∨
      (∃ execution, world.executions address call = [.ok execution] ∧
        ∃ reply, result = .ok reply ∧
          Response.decode call.request.operation reply = .ok execution.response) ∨
        ∃ cause, result = .error (.format cause) := by
  obtain ⟨bytes, header, body, rfl, hsplit, hmessage, hid, rfl⟩ :=
    (call.caller.pending call.request).judge?_eq_some hjudge
  have hstation := hsound.stations address
  have hserver : (call.caller.pending call.request).server = world.server :=
    (hstation.call_heard hcall).1
  rw [hserver] at hoffers
  obtain ⟨asked, hasked, sent, outcome, haskedId, hmem, rfl, hfaithful⟩ :=
    hsound.origin hoffers hsplit hmessage
  obtain ⟨hsame, hmeaning⟩ :=
    (call.caller.pending call.request).settle_faithful hfaithful hsplit
  have hcallId : call.id? = some header.requestId := by
    rw [(Call.run_encodable hpayload).2.1, hid]
    rfl
  obtain rfl : asked = call :=
    hstation.eq_of_id_eq hfew hasked hcall haskedId (hsame ▸ hcallId)
  have hone : world.executions address asked = [outcome] := by
    obtain ⟨only, honly⟩ := List.length_eq_one_iff.mp
      (Nat.le_antisymm (hlength asked) (List.length_pos_of_mem hmem))
    rw [honly] at hmem ⊢
    rw [List.mem_singleton.mp hmem]
  rcases hmeaning with ⟨rejection, rfl, hsettle⟩ | ⟨execution, rfl, hmatching, hother⟩
  · exact .inl ⟨rejection, hone, hsettle⟩
  · by_cases hoperation :
        execution.response.operation = (asked.caller.pending asked.request).operation
    · exact .inr (.inl ⟨execution, hone, body, hmatching hoperation⟩)
    · exact .inr (.inr (hother hoperation))

theorem Sound.of_reachable {server : Address} {lifetime : Nat} {policy : Address → RetryPolicy}
    (hreach : Relation.ReflTransGen Step (start server lifetime policy ids) world) :
    world.Sound ids := by
  induction hreach with
  | refl => exact sound_start server lifetime policy ids
  | tail _ hstep ih => exact ih.step hstep

/-- Whatever callers, network and clock do, as long as the clock never goes back and no
copy of a datagram arrives when the reply to the first one may be gone, every call is
executed at most once. A call that returns a response or a refusal was executed once, and
that is what came of it. -/
theorem executed_at_most_once {server : Address} {lifetime : Nat}
    {policy : Address → RetryPolicy}
    (hreach : Relation.ReflTransGen Step (start server lifetime policy ids) world)
    (hsteady : Steady world.events) (htimely : Timely world.lifetime world.events)
    (hfew : (world.stations address).calls.length ≤ 0xffffffff) {call : Call}
    (hcall : call ∈ (world.stations address).calls) :
    (world.executions address call).length ≤ 1 ∧
      (∀ response, call.result = .ok response →
        ∃ execution, world.executions address call = [.ok execution] ∧
          execution.response = response) ∧
      ∀ reply, call.result = .error (.refused reply) →
        ∃ rejection, world.executions address call = [.error rejection] ∧
          rejection.reply = reply := by
  have hsound := Sound.of_reachable hreach
  have hlength := hsound.length_executions_le hsteady htimely hfew
  refine ⟨hlength call, ?_⟩
  cases hpayload : call.request.payload with
  | error cause =>
      rw [(Call.run_unencodable hpayload).2.2.2.1]
      exact ⟨nofun, nofun⟩
  | ok payload =>
      have hheard := ((hsound.stations address).call_heard hcall).2
      obtain ⟨hresponse, hrefusal, -⟩ := Caller.request_genuine hpayload
        (Channel.scripted_brings (world.Offers address)) .atMostOnce hheard.reverse hheard.inbox
      constructor
      · intro response hresult
        obtain ⟨reception, reply, hoffers, hjudge, hdecode⟩ := hresponse response hresult
        rcases hsound.decided hfew hlength hcall hpayload hoffers hjudge with
          ⟨rejection, -, hother⟩ | ⟨execution, hone, found, hfound, hmeaning⟩ | ⟨cause, hother⟩
        · cases hother
        · cases hfound
          rw [hdecode] at hmeaning
          exact ⟨execution, hone, (Except.ok.inj hmeaning).symm⟩
        · cases hother
      · intro reply hresult
        obtain ⟨reception, hoffers, hjudge⟩ := hrefusal reply hresult
        rcases hsound.decided hfew hlength hcall hpayload hoffers hjudge with
          ⟨rejection, hone, hsame⟩ | ⟨execution, -, found, hother, -⟩ | ⟨cause, hother⟩
        · cases hsame
          exact ⟨rejection, hone, rfl⟩
        · cases hother
        · cases hother

/-- Two copies of a refused request arrive, and one is executed. -/
theorem refused_once :
    ∃ world call, Relation.ReflTransGen Step
        (start ⟨"10.0.0.1", 9999⟩ 5 (fun _ => ⟨1000, 1⟩) fun _ => ⟨7⟩) world ∧
      call ∈ (world.stations ⟨"10.0.0.9", 4242⟩).calls ∧
      ∃ rejection, world.executions ⟨"10.0.0.9", 4242⟩ call = [.error rejection] ∧
        rejection.reply = ⟨.badRequest, "facility name must not be empty"⟩ := by
  have hbegin : Relation.ReflTransGen Step
      (start ⟨"10.0.0.1", 9999⟩ 5 (fun _ => ⟨1000, 1⟩) fun _ => ⟨7⟩) _ :=
    .single (.begin ⟨"10.0.0.9", 4242⟩ (.incrementUsage "") rfl)
  have hfirst := hbegin.tail (.transmit ⟨"10.0.0.9", 4242⟩ _ _ rfl rfl)
  have hexecuted := hfirst.tail (.arrive ⟨"10.0.0.9", 4242⟩ _ 0 (.head _))
  have hagain := hexecuted.tail (.transmit ⟨"10.0.0.9", 4242⟩ _ _ rfl rfl)
  have hreplayed := hagain.tail (.arrive ⟨"10.0.0.9", 4242⟩ _ 4 (.head _))
  have hheard := hreplayed.tail (.hear ⟨"10.0.0.9", 4242⟩ _ _ (.datagram ⟨"10.0.0.1", 9999⟩ _) rfl
    (.inr ⟨_, .head _, _, .head _, rfl, rfl⟩))
  have hfinished := hheard.tail (.finish ⟨"10.0.0.9", 4242⟩ _ rfl rfl)
  have hsteady (copy : Bytes) (peer : Address) :
      Steady [.arrival copy peer 0, .arrival copy peer 4] :=
    List.pairwise_pair.mpr (Nat.zero_le 4)
  have htimely (copy : Bytes) (peer : Address) :
      Timely 5 [.arrival copy peer 0, .arrival copy peer 4] := by
    apply List.pairwise_pair.mpr
    intro _ _ _ _ hfirst hagain
    cases hfirst
    cases hagain
    decide
  have hfew : 1 ≤ 0xffffffff := by decide
  obtain ⟨-, -, hrefused⟩ := @executed_at_most_once _ _ ⟨"10.0.0.9", 4242⟩ _ _ _ hfinished
    (hsteady _ _) (htimely _ _) hfew _ (.head _)
  exact ⟨_, _, hfinished, .head _, hrefused _ rfl⟩

end World

end FacilityBooking
