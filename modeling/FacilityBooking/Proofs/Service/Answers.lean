import FacilityBooking.Service.Handling

/-!
# Answers, one equation each

A datagram is malformed, or its reply is kept, or it is executed. Execution neither
reads nor changes the replies that are kept.
-/

namespace FacilityBooking

namespace Service

variable {service : Service} {datagram : Bytes} {header : Header} {payload : Bytes}
  {peer : Address} {now : Nat}

/-- Whether the service keeps the reply to a request with this header. -/
def remembers (service : Service) (header : Header) : Bool :=
  service.atMostOnce && header.isAtMostOnce

/-- The kept reply that a request of a peer is answered with. -/
def kept? (service : Service) (header : Header) (peer : Address) (now : Nat) : Option Bytes :=
  if service.remembers header then service.cache.get? ⟨peer, header.requestId⟩ now else none

/-- What an executed request is answered with: its category of error, its bytes and
its notices. -/
def answerTo (service : Service) (header : Header) (payload : Bytes) (peer : Address)
    (now : Nat) : Option ErrorCategory × Bytes × List Notice :=
  (service.execute header payload peer now).2.answer header
    (service.execute header payload peer now).1 now

/-! ## Execution and the kept replies -/

/-- Whatever is kept, and whether anything is, an execution has the same outcome and
leaves both as they are. -/
theorem perform_with (service : Service) (cache : ReplyCache) (atMostOnce : Bool)
    (request : Request) (peer : Address) (now : Nat) :
    { service with cache, atMostOnce }.perform request peer now =
      ((service.perform request peer now).1,
        { (service.perform request peer now).2 with cache, atMostOnce }) := by
  cases request with
  | monitor facility seconds port =>
      simp only [perform, watch]
      split
      · rfl
      · split
        · rfl
        · split <;> rfl
  | _ => rfl

theorem execute_with (service : Service) (cache : ReplyCache) (atMostOnce : Bool)
    (header : Header) (payload : Bytes) (peer : Address) (now : Nat) :
    { service with cache, atMostOnce }.execute header payload peer now =
      ((service.execute header payload peer now).1,
        { (service.execute header payload peer now).2 with cache, atMostOnce }) := by
  unfold execute
  split
  · rfl
  · split
    · rfl
    · split
      · rfl
      · exact perform_with service cache atMostOnce _ peer now

theorem execute_cache (service : Service) (header : Header) (payload : Bytes) (peer : Address)
    (now : Nat) : (service.execute header payload peer now).2.cache = service.cache := by
  have hsame := execute_with service service.cache service.atMostOnce header payload peer now
  exact congrArg (fun result => result.2.cache) hsame

theorem execute_atMostOnce (service : Service) (header : Header) (payload : Bytes)
    (peer : Address) (now : Nat) :
    (service.execute header payload peer now).2.atMostOnce = service.atMostOnce := by
  have hsame := execute_with service service.cache service.atMostOnce header payload peer now
  exact congrArg (fun result => result.2.atMostOnce) hsame

theorem execute_with_cache (service : Service) (cache : ReplyCache) (header : Header)
    (payload : Bytes) (peer : Address) (now : Nat) :
    { service with cache }.execute header payload peer now =
      ((service.execute header payload peer now).1,
        { (service.execute header payload peer now).2 with cache }) := by
  have hsame := execute_with service cache service.atMostOnce header payload peer now
  exact hsame.trans (by rw [← execute_atMostOnce service header payload peer now])

theorem answerTo_with_cache (service : Service) (cache : ReplyCache) (header : Header)
    (payload : Bytes) (peer : Address) (now : Nat) :
    { service with cache }.answerTo header payload peer now =
      service.answerTo header payload peer now := by
  rw [answerTo, answerTo, execute_with_cache]
  cases (service.execute header payload peer now).1 <;> rfl

/-- A payload that is read as a request is carried out as that request. -/
theorem execute_of_decode {operation : Operation} {request : Request}
    (hversion : header.version = protocolVersion)
    (hcode : Operation.ofCode header.operation = .ok operation)
    (hdecode : Request.decode operation payload = .ok request) :
    service.execute header payload peer now = service.perform request peer now := by
  rw [execute, if_neg (not_not_intro hversion), hcode]
  dsimp only
  rw [hdecode]

/-! ## Handling -/

theorem handle_malformed {cause : FormatError} (hsplit : Datagram.split datagram = .error cause) :
    service.handle datagram peer now = (.malformed cause, service) := by
  rw [handle, hsplit]

/-- A request whose reply is kept is answered with it, and nothing changes. -/
theorem handle_kept {reply : Bytes} (hsplit : Datagram.split datagram = .ok (header, payload))
    (hkept : service.kept? header peer now = some reply) :
    service.handle datagram peer now =
      (.replayed (Operation.ofCode header.operation).toOption reply, service) := by
  unfold kept? remembers at hkept
  rw [handle, hsplit]
  dsimp only
  rw [hkept]

/-- Any other request is executed, and its reply is kept if that was asked for. -/
theorem handle_executed (hsplit : Datagram.split datagram = .ok (header, payload))
    (hunkept : service.kept? header peer now = none) :
    service.handle datagram peer now =
      (.executed (Operation.ofCode header.operation).toOption
          (service.answerTo header payload peer now).1
          (service.answerTo header payload peer now).2.1
          (service.answerTo header payload peer now).2.2,
        { (service.execute header payload peer now).2 with
          cache := if service.remembers header then
              service.cache.insert ⟨peer, header.requestId⟩
                (service.answerTo header payload peer now).2.1 now
            else service.cache }) := by
  unfold kept? remembers at hunkept
  rw [handle, hsplit]
  dsimp only
  rw [hunkept]
  dsimp only
  rw [execute_cache]
  rfl

/-- The three ways to answer a datagram. -/
theorem arrival_cases (service : Service) (datagram : Bytes) (peer : Address) (now : Nat) :
    (∃ cause, Datagram.split datagram = .error cause) ∨
      (∃ header payload reply, Datagram.split datagram = .ok (header, payload) ∧
        service.kept? header peer now = some reply) ∨
      ∃ header payload, Datagram.split datagram = .ok (header, payload) ∧
        service.kept? header peer now = none := by
  cases hsplit : Datagram.split datagram with
  | error cause => exact .inl ⟨cause, rfl⟩
  | ok request =>
      cases hkept : service.kept? request.1 peer now with
      | some reply => exact .inr (.inl ⟨request.1, request.2, reply, rfl, hkept⟩)
      | none => exact .inr (.inr ⟨request.1, request.2, rfl, hkept⟩)

theorem handle_atMostOnce (service : Service) (datagram : Bytes) (peer : Address) (now : Nat) :
    (service.handle datagram peer now).2.atMostOnce = service.atMostOnce := by
  rcases service.arrival_cases datagram peer now with
    ⟨cause, hsplit⟩ | ⟨header, payload, reply, hsplit, hkept⟩ | ⟨header, payload, hsplit, hunkept⟩
  · rw [handle_malformed hsplit]
  · rw [handle_kept hsplit hkept]
  · rw [handle_executed hsplit hunkept]
    exact execute_atMostOnce service header payload peer now

end Service

end FacilityBooking
