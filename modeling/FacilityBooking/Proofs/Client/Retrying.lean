import FacilityBooking.Proofs.Client.Results
import FacilityBooking.Proofs.Datagram.Framing

/-!
# Calls that are sent again

A caller whose datagrams all leave sends the same one again until something decides the
call. What decides it is the first message of the server with the request's id that is no
notice. All that stands before it, in its own attempt and in the earlier ones, is passed over
and changes nothing but the number of copies.
-/

namespace FacilityBooking

variable {network : Type} (deliver : Bytes → network → List Reception × network)

namespace Channel

/-- The network that takes every datagram, by what it brings after each. -/
def ofDeliveries : Channel network := fun datagram state =>
  (.ok (deliver datagram state).1, (deliver datagram state).2)

theorem ofDeliveries_apply (datagram : Bytes) (state : network) :
    ofDeliveries deliver datagram state =
      (.ok (deliver datagram state).1, (deliver datagram state).2) := rfl

/-- What a caller can read in each attempt to send a datagram, counted from zero: in the first
one what was left unread and what arrives then, in a later one what arrives then. -/
def heard (datagram : Bytes) : List Reception → network → Nat → List Reception
  | inbox, state, 0 => inbox ++ (deliver datagram state).1
  | _, state, attempt + 1 => heard datagram [] (deliver datagram state).2 attempt

end Channel

namespace Pending

variable (pending : Pending)

/-- A reception that decides a call, with its header and payload: it comes from the server, it
is a message and no notice, and it carries the request's id. -/
inductive Decisive : Reception → Header → Bytes → Prop
  | message {bytes payload : Bytes} {header : Header}
      (hsplit : Datagram.split bytes = .ok (header, payload)) (hmessage : header.isNotice = false)
      (hid : header.requestId = pending.id) :
      Decisive (.datagram pending.server bytes) header payload

/-- Nothing among the receptions decides the call. -/
def Silent (receptions : List Reception) : Prop :=
  ∀ reception ∈ receptions, ∀ header payload, ¬ pending.Decisive reception header payload

/-- What a decisive message tells the caller. -/
inductive Tells (header : Header) (payload : Bytes) : Except CallError Bytes → Prop
  | refused {reply : ErrorReply} (herror : header.isError = true)
      (hreply : ErrorReply.decode payload = .ok reply) :
      Tells header payload (.error (.refused reply))
  | garbled {cause : FormatError} (herror : header.isError = true)
      (hreply : ErrorReply.decode payload = .error cause) :
      Tells header payload (.error (.format cause))
  | otherOperation (herror : header.isError = false)
      (hother : header.operation ≠ pending.operation.code) :
      Tells header payload
        (.error (.format (.unexpectedOperation pending.operation.code header.operation)))
  | answered (herror : header.isError = false)
      (hsame : header.operation = pending.operation.code) :
      Tells header payload (.ok payload)

variable {pending} {reception : Reception} {header : Header} {payload : Bytes}
  {earlier later : List Reception}

/-- A decisive message tells exactly one thing. -/
theorem tells_iff {result : Except CallError Bytes} :
    pending.Tells header payload result ↔ pending.settle header payload = result := by
  constructor
  · intro htells
    cases htells with
    | refused herror hreply => rw [settle, if_pos herror, hreply]
    | garbled herror hreply => rw [settle, if_pos herror, hreply]
    | otherOperation herror hother => rw [settle, herror, if_neg Bool.false_ne_true, if_neg hother]
    | answered herror hsame => rw [settle, herror, if_neg Bool.false_ne_true, if_pos hsame]
  · rintro rfl
    unfold settle
    cases herror : header.isError with
    | true =>
        rw [if_pos rfl]
        cases hreply : ErrorReply.decode payload with
        | error cause => exact .garbled herror hreply
        | ok reply => exact .refused herror hreply
    | false =>
        rw [if_neg Bool.false_ne_true]
        split
        · next hsame => exact .answered herror hsame
        · next hother => exact .otherOperation herror hother

/-! ## One attempt -/

theorem judge?_of_decisive (hdecisive : pending.Decisive reception header payload) :
    pending.judge? reception = some (pending.settle header payload) := by
  obtain ⟨hsplit, hmessage, hid⟩ := hdecisive
  have hours : ¬ (header.isNotice = true ∨ header.requestId ≠ pending.id) := by
    rw [hmessage, hid]
    exact not_or.mpr ⟨Bool.false_ne_true, not_not_intro rfl⟩
  rw [judge?, if_neg (not_not_intro rfl), hsplit]
  exact if_neg hours

theorem judge?_of_not_decisive
    (hother : ∀ header payload, ¬ pending.Decisive reception header payload) :
    pending.judge? reception = none := by
  rw [Option.eq_none_iff_forall_ne_some]
  intro result hjudge
  obtain ⟨bytes, header, payload, rfl, hsplit, hmessage, hid, -⟩ := pending.judge?_eq_some hjudge
  exact hother header payload (.message hsplit hmessage hid)

/-- What decides nothing is read and passed over. -/
theorem await_append (hearlier : pending.Silent earlier) (later : List Reception) :
    pending.await (earlier ++ later) = pending.await later := by
  induction earlier with
  | nil => rfl
  | cons first rest ih =>
      rw [List.cons_append, await, judge?_of_not_decisive (hearlier first (.head _))]
      exact ih fun reception hreception => hearlier reception (.tail _ hreception)

theorem await_of_silent {receptions : List Reception} (hsilent : pending.Silent receptions) :
    pending.await receptions = (none, []) := by
  have hawait := await_append hsilent []
  rwa [List.append_nil] at hawait

theorem await_of_decisive (hearlier : pending.Silent earlier)
    (hdecisive : pending.Decisive reception header payload) (later : List Reception) :
    pending.await (earlier ++ reception :: later) =
      (some (pending.settle header payload), later) := by
  rw [await_append hearlier, await, judge?_of_decisive hdecisive]

/-! ## One attempt after another -/

variable {deliver} {datagram : Bytes} {inbox : List Reception} {state : network}

/-- An attempt in which nothing decides the call adds a copy and goes on to the next one, with
nothing left to read. -/
theorem attempt_of_silent (hsilent : pending.Silent (inbox ++ (deliver datagram state).1))
    (attempts : Nat) {result : Option (Except CallError Bytes)} {copies : Nat}
    {left : List Reception} {after : network}
    (hrest : pending.attempt (.ofDeliveries deliver) datagram attempts []
      (deliver datagram state).2 = (result, copies, left, after)) :
    pending.attempt (.ofDeliveries deliver) datagram (attempts + 1) inbox state =
      (result, copies + 1, left, after) := by
  rw [attempt, Channel.ofDeliveries_apply]
  dsimp only
  rw [await_of_silent hsilent]
  dsimp only
  rw [hrest]

/-- The first decisive reception ends the attempts: later ones are not made, and what stands
behind it is left. -/
theorem attempt_decided {attempt attempts : Nat} (hattempt : attempt < attempts)
    (hsilent : ∀ before < attempt,
      pending.Silent (Channel.heard deliver datagram inbox state before))
    (hheard : Channel.heard deliver datagram inbox state attempt = earlier ++ reception :: later)
    (hearlier : pending.Silent earlier)
    (hdecisive : pending.Decisive reception header payload) :
    ∃ after, pending.attempt (.ofDeliveries deliver) datagram attempts inbox state =
      (some (pending.settle header payload), attempt + 1, later, after) := by
  -- One silent attempt moves what is heard by one, with an empty inbox.
  induction attempt generalizing attempts inbox state with
  | zero =>
      obtain ⟨attempts, rfl⟩ := Nat.exists_eq_add_one_of_ne_zero (Nat.ne_zero_of_lt hattempt)
      rw [Channel.heard] at hheard
      refine ⟨(deliver datagram state).2, ?_⟩
      rw [Pending.attempt, Channel.ofDeliveries_apply]
      dsimp only
      rw [hheard, await_of_decisive hearlier hdecisive]
  | succ attempt ih =>
      obtain ⟨attempts, rfl⟩ := Nat.exists_eq_add_one_of_ne_zero (Nat.ne_zero_of_lt hattempt)
      obtain ⟨after, hrest⟩ := ih (Nat.lt_of_succ_lt_succ hattempt)
        (fun before hbefore => hsilent (before + 1) (Nat.succ_lt_succ hbefore)) hheard
      exact ⟨after, attempt_of_silent (hsilent 0 (Nat.zero_lt_succ _)) attempts hrest⟩

/-- Where nothing decides the call, every attempt is made. -/
theorem attempt_undecided {attempts : Nat}
    (hsilent : ∀ attempt < attempts,
      pending.Silent (Channel.heard deliver datagram inbox state attempt)) :
    ∃ left after, pending.attempt (.ofDeliveries deliver) datagram attempts inbox state =
      (none, attempts, left, after) := by
  induction attempts generalizing inbox state with
  | zero => exact ⟨inbox, state, rfl⟩
  | succ attempts ih =>
      obtain ⟨left, after, hrest⟩ := ih fun attempt hattempt =>
        hsilent (attempt + 1) (Nat.succ_lt_succ hattempt)
      exact ⟨left, after, attempt_of_silent (hsilent 0 (Nat.zero_lt_succ _)) attempts hrest⟩

end Pending

namespace Caller

variable (caller : Caller) (operation : Operation)

/-- What the caller waits for when it sends a request for an operation. -/
def awaited : Pending :=
  ⟨caller.server, operation, caller.ids.draw.1⟩

/-- The datagram that the caller sends for an operation, once or several times. -/
def copy (payload : Bytes) (guarantee : Guarantee) : Bytes :=
  Datagram.frame
    { operation := operation.code, requestId := caller.ids.draw.1, flags := guarantee.flags } payload

/-- A call is told by what its attempts come to. -/
theorem invoke_of_attempt {channel : Channel network} {payload : Bytes} {guarantee : Guarantee}
    {state after : network} {result : Option (Except CallError Bytes)} {copies : Nat}
    {left : List Reception}
    (hattempt : (caller.awaited operation).attempt channel
      (caller.copy operation payload guarantee) caller.attempts caller.inbox state =
        (result, copies, left, after)) :
    caller.invoke channel operation payload guarantee state =
      (⟨result.getD (.error (.undelivered caller.attempts)),
          List.replicate copies (caller.copy operation payload guarantee)⟩,
        { caller with ids := caller.ids.draw.2, inbox := left }, after) := by
  rw [awaited, copy] at hattempt
  rw [invoke]
  dsimp only
  rw [hattempt]
  rfl

/-- Whatever the network brings in each attempt, so long as it takes the datagrams: a call draws
one id and sends nothing but copies of one datagram, which carries that id. The first attempt
in which something decisive is heard is the last one, and its first decisive message alone
tells the result. Where nothing decisive is heard, the datagram is sent once and again for
every retry, within 32 bits, and the call comes to nothing. -/
theorem invoke_retries (payload : Bytes) (guarantee : Guarantee) (state : network) :
    let pending := caller.awaited operation
    let datagram := caller.copy operation payload guarantee
    let heard := Channel.heard deliver datagram caller.inbox state
    let attempts := min (caller.policy.retries.toNat + 1) 0xffffffff
    let call := caller.invoke (.ofDeliveries deliver) operation payload guarantee state
    call.2.1.ids = caller.ids.draw.2 ∧
    (∃ header, Header.decode datagram = .ok header ∧ header.requestId = caller.ids.draw.1) ∧
    (∃ copies, call.1.sent = List.replicate copies datagram) ∧
    (∀ attempt < attempts, (∀ before < attempt, pending.Silent (heard before)) →
      ∀ earlier reception later, heard attempt = earlier ++ reception :: later →
        pending.Silent earlier →
        ∀ header body, pending.Decisive reception header body →
          call.1.sent = List.replicate (attempt + 1) datagram ∧
            ∀ result, pending.Tells header body result ↔ call.1.result = result) ∧
    ((∀ attempt < attempts, pending.Silent (heard attempt)) →
      call.1.sent = List.replicate attempts datagram ∧
        call.1.result = .error (.undelivered attempts)) := by
  dsimp only
  refine ⟨rfl, ⟨_, Datagram.decode_frame _ payload, rfl⟩, ⟨_, rfl⟩, ?_, ?_⟩
  · intro attempt hattempt hsilent earlier reception later hheard hearlier header body hdecisive
    obtain ⟨after, hdecided⟩ :=
      Pending.attempt_decided hattempt hsilent hheard hearlier hdecisive
    rw [caller.invoke_of_attempt operation hdecided]
    exact ⟨rfl, fun _ => Pending.tells_iff⟩
  · intro hsilent
    obtain ⟨left, after, hundecided⟩ := Pending.attempt_undecided hsilent
    rw [caller.invoke_of_attempt operation hundecided]
    exact ⟨rfl, rfl⟩

end Caller

end FacilityBooking
