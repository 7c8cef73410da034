import FacilityBooking.Client.Caller

/-!
# Where results come from

A result that names no failure of the network was decided by something that arrived at
the caller. So whatever holds of all that arrives holds of what decided the result, and
of what is left for the next call.
-/

namespace FacilityBooking

variable {network : Type}

/-- From the given states on, a channel brings nothing but what is genuine. -/
structure Channel.Brings (channel : Channel network) (state : network → Prop)
    (genuine : Reception → Prop) : Prop where
  arrived : ∀ datagram before, state before → ∀ receptions,
    (channel datagram before).1 = .ok receptions → ∀ reception ∈ receptions, genuine reception
  kept : ∀ datagram before, state before → state (channel datagram before).2

namespace Pending

variable (pending : Pending) {channel : Channel network} {state : network → Prop}
  {genuine : Reception → Prop}

/-- A result is that of a genuine reception, and what is left over is genuine. -/
theorem await_genuine {inbox : List Reception}
    (hinbox : ∀ reception ∈ inbox, genuine reception) :
    (∀ result, (pending.await inbox).1 = some result →
      ∃ reception, genuine reception ∧ pending.judge? reception = some result) ∧
    ∀ reception ∈ (pending.await inbox).2, genuine reception := by
  induction inbox with
  | nil => exact ⟨nofun, nofun⟩
  | cons first rest ih =>
      have hrest : ∀ reception ∈ rest, genuine reception := fun reception hreception =>
        hinbox reception (.tail _ hreception)
      unfold await
      cases hjudge : pending.judge? first with
      | none => exact ih hrest
      | some result =>
          refine ⟨?_, hrest⟩
          intro found hfound
          cases hfound
          exact ⟨first, hinbox first (.head _), hjudge⟩

/-- However often a datagram is sent, its result is that of a genuine reception unless
the network failed. -/
theorem attempt_genuine (hbrings : channel.Brings state genuine) (datagram : Bytes)
    (attempts : Nat) {inbox : List Reception} {before : network} (hbefore : state before)
    (hinbox : ∀ reception ∈ inbox, genuine reception) :
    (∀ result, (pending.attempt channel datagram attempts inbox before).1 = some result →
      (∃ cause, result = .error (.network cause)) ∨
        ∃ reception, genuine reception ∧ pending.judge? reception = some result) ∧
    ∀ reception ∈ (pending.attempt channel datagram attempts inbox before).2.2.1,
      genuine reception := by
  induction attempts generalizing inbox before with
  | zero => exact ⟨nofun, hinbox⟩
  | succ attempts ih =>
      have harrived := hbrings.arrived datagram before hbefore
      have hkept := hbrings.kept datagram before hbefore
      unfold attempt
      cases hchannel : channel datagram before with
      | mk outcome after =>
          rw [hchannel] at harrived hkept
          cases outcome with
          | error cause =>
              refine ⟨?_, hinbox⟩
              intro result hresult
              cases hresult
              exact .inl ⟨cause, rfl⟩
          | ok arrived =>
              have hall : ∀ reception ∈ inbox ++ arrived, genuine reception := by
                intro reception hreception
                rcases List.mem_append.mp hreception with hreception | hreception
                · exact hinbox reception hreception
                · exact harrived arrived rfl reception hreception
              obtain ⟨hresult, hleft⟩ := pending.await_genuine hall
              dsimp only
              cases hawait : pending.await (inbox ++ arrived) with
              | mk decided left =>
                  rw [hawait] at hresult hleft
                  cases decided with
                  | some found =>
                      refine ⟨?_, hleft⟩
                      intro result hfound
                      cases hfound
                      exact .inr (hresult found rfl)
                  | none => exact ih hkept hleft

/-- A reception that decides a result is a message from the server with the request's id. -/
theorem judge?_eq_some {reception : Reception} {result : Except CallError Bytes}
    (hjudge : pending.judge? reception = some result) :
    ∃ bytes header payload, reception = .datagram pending.server bytes ∧
      Datagram.split bytes = .ok (header, payload) ∧ header.isNotice = false ∧
      header.requestId = pending.id ∧ result = pending.settle header payload := by
  cases reception with
  | failure => cases hjudge
  | datagram source bytes =>
      dsimp only [judge?] at hjudge
      by_cases hsource : source = pending.server
      · rw [if_neg (not_not_intro hsource)] at hjudge
        cases hsplit : Datagram.split bytes with
        | error cause =>
            rw [hsplit] at hjudge
            cases hjudge
        | ok message =>
            obtain ⟨header, payload⟩ := message
            rw [hsplit] at hjudge
            dsimp only at hjudge
            by_cases hother : header.isNotice = true ∨ header.requestId ≠ pending.id
            · rw [if_pos hother] at hjudge
              cases hjudge
            · rw [if_neg hother] at hjudge
              obtain ⟨hnotice, hid⟩ := not_or.mp hother
              exact ⟨bytes, header, payload, by rw [hsource], hsplit, Bool.eq_false_iff.mpr hnotice,
                Decidable.not_not.mp hid, (Option.some.inj hjudge).symm⟩
      · rw [if_pos hsource] at hjudge
        cases hjudge

end Pending

namespace Caller

variable {caller : Caller} {channel : Channel network} {state : network → Prop}
  {genuine : Reception → Prop}

/-- What a caller waits for after it sent a request. -/
def pending (caller : Caller) (request : Request) : Pending :=
  ⟨caller.server, request.operation, caller.ids.draw.1⟩

/-- The datagram of a request with a payload, of which all copies are sent. -/
def datagram (caller : Caller) (request : Request) (payload : Bytes) (guarantee : Guarantee) :
    Bytes :=
  Datagram.frame
    { operation := request.operation.code, requestId := caller.ids.draw.1
      flags := guarantee.flags }
    payload

theorem request_unencodable {request : Request} {cause : FormatError}
    (hpayload : request.payload = .error cause) (channel : Channel network)
    (guarantee : Guarantee) (before : network) :
    caller.request channel request guarantee before =
      (⟨.error (.format cause), []⟩, caller, before) := by
  rw [Caller.request, hpayload]

/-- What the attempts to send a request came to: a result, the number of copies that
were sent, what is left unread and the network. -/
def attempted (caller : Caller) (channel : Channel network) (request : Request)
    (payload : Bytes) (guarantee : Guarantee) (before : network) :
    Option (Except CallError Bytes) × Nat × List Reception × network :=
  (caller.pending request).attempt channel (caller.datagram request payload guarantee)
    caller.attempts caller.inbox before

theorem request_encodable {request : Request} {payload : Bytes}
    (hpayload : request.payload = .ok payload) (channel : Channel network)
    (guarantee : Guarantee) (before : network) :
    caller.request channel request guarantee before =
      (⟨((caller.attempted channel request payload guarantee before).1.getD
            (.error (.undelivered caller.attempts))).bind fun reply =>
              (Response.decode request.operation reply).mapError .format,
          List.replicate (caller.attempted channel request payload guarantee before).2.1
            (caller.datagram request payload guarantee)⟩,
        { caller with
          ids := caller.ids.draw.2
          inbox := (caller.attempted channel request payload guarantee before).2.2.1 },
        (caller.attempted channel request payload guarantee before).2.2.2) := by
  rw [Caller.request, hpayload]
  rfl

/-- What the attempts come to without a failure of the network is decided by a genuine
reception, and nothing but genuine ones are left. -/
theorem attempted_genuine (hbrings : channel.Brings state genuine) (request : Request)
    (payload : Bytes) (guarantee : Guarantee) {before : network} (hbefore : state before)
    (hinbox : ∀ reception ∈ caller.inbox, genuine reception) :
    (∀ result, (caller.attempted channel request payload guarantee before).1.getD
        (.error (.undelivered caller.attempts)) = result →
      (∃ cause, result = .error (.network cause)) ∨
        result = .error (.undelivered caller.attempts) ∨
        ∃ reception, genuine reception ∧
          (caller.pending request).judge? reception = some result) ∧
    ∀ reception ∈ (caller.attempted channel request payload guarantee before).2.2.1,
      genuine reception := by
  obtain ⟨hdecided, hleft⟩ := (caller.pending request).attempt_genuine hbrings
    (caller.datagram request payload guarantee) caller.attempts hbefore hinbox
  refine ⟨?_, hleft⟩
  intro result hresult
  cases hattempted : (caller.attempted channel request payload guarantee before).1 with
  | none =>
      rw [hattempted] at hresult
      exact .inr (.inl hresult.symm)
  | some found =>
      rw [hattempted] at hresult
      obtain rfl : found = result := hresult
      rcases hdecided found hattempted with hnetwork | hgenuine
      · exact .inl hnetwork
      · exact .inr (.inr hgenuine)

/-- A request that is sent is decided by a genuine reception, if by any, and leaves
nothing but genuine ones unread. -/
theorem request_genuine {request : Request} {payload : Bytes}
    (hpayload : request.payload = .ok payload) (hbrings : channel.Brings state genuine)
    (guarantee : Guarantee) {before : network} (hbefore : state before)
    (hinbox : ∀ reception ∈ caller.inbox, genuine reception) :
    (∀ response, (caller.request channel request guarantee before).1.result = .ok response →
      ∃ reception reply, genuine reception ∧
        (caller.pending request).judge? reception = some (.ok reply) ∧
        Response.decode request.operation reply = .ok response) ∧
    (∀ reply, (caller.request channel request guarantee before).1.result =
        .error (.refused reply) →
      ∃ reception, genuine reception ∧
        (caller.pending request).judge? reception = some (.error (.refused reply))) ∧
    ∀ reception ∈ (caller.request channel request guarantee before).2.1.inbox,
      genuine reception := by
  obtain ⟨hdecided, hleft⟩ :=
    caller.attempted_genuine hbrings request payload guarantee hbefore hinbox
  rw [request_encodable hpayload]
  dsimp only
  cases hresult : (caller.attempted channel request payload guarantee before).1.getD
      (.error (.undelivered caller.attempts)) with
  | error cause =>
      refine ⟨nofun, ?_, hleft⟩
      intro reply hrefused
      cases hrefused
      rcases hdecided _ hresult with ⟨other, hother⟩ | hother | hgenuine
      · cases hother
      · cases hother
      · exact hgenuine
  | ok found =>
      rcases hdecided _ hresult with ⟨other, hother⟩ | hother | ⟨reception, hgenuine, hjudge⟩
      · cases hother
      · cases hother
      · dsimp only [Except.bind]
        cases hdecode : Response.decode request.operation found with
        | error cause => exact ⟨nofun, nofun, hleft⟩
        | ok response =>
            refine ⟨?_, nofun, hleft⟩
            intro other hother
            cases hother
            exact ⟨reception, found, hgenuine, hjudge, hdecode⟩

end Caller

end FacilityBooking
