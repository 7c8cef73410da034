import FacilityBooking.Proofs.Desk.Bookings
import FacilityBooking.Proofs.Exchange.AtMostOnce

/-!
# Requests from afar

A request that is sent in a datagram, carried out and answered in another one comes to what
the operation comes to at the desk and the list of watches themselves: nothing is lost or
added on the way there and back.
-/

namespace FacilityBooking

/-- What a caller is told of a refusal. -/
def Refusal.reply (refusal : Refusal) : ErrorReply :=
  ⟨refusal.category, refusal.message⟩

/-- What a request comes to at a desk and a list of watches themselves, and both of them
afterwards. -/
def Request.direct (request : Request) (desk : Desk) (watches : WatchList) (peer : Address)
    (now : Nat) : Except ErrorReply Response × Desk × WatchList :=
  match request with
  | .queryAvailability facility day =>
      let (outcome, desk) := desk.queryDay facility day
      ((outcome.map .availability).mapError Refusal.reply, desk, watches)
  | .book facility user start stop =>
      let (outcome, desk) := desk.book facility user start stop
      ((outcome.map fun id => .booked (.ofInt id)).mapError Refusal.reply, desk, watches)
  | .changeBooking booking offset =>
      let (outcome, desk) := desk.change booking.toInt offset.toInt
      (((outcome.bind Shift.interval).map .changed).mapError Refusal.reply, desk, watches)
  | .monitor facility seconds port =>
      if 65535 < port.toNat then
        (.error ⟨.badRequest, s!"callback port {port} out of range"⟩, desk, watches)
      else if 7 * 24 * 3600 < seconds.toNat then
        (.error ⟨.badRequest, s!"monitor window of {seconds}s exceeds one week"⟩, desk, watches)
      else
        match watches.register (peer.atPort port.toUInt16) facility
            (seconds.toNat * Limits.second) now with
        | .error refusal => (.error refusal.reply, desk, watches)
        | .ok (_, watches) => (.ok .monitoring, desk, watches)
  | .resetDay facility day =>
      let (outcome, desk) := desk.resetDay facility day
      ((outcome.map fun removed => .reset (.ofNat removed.length)).mapError Refusal.reply,
        desk, watches)
  | .incrementUsage facility =>
      let (outcome, desk) := desk.incrementUsage facility
      ((outcome.map fun count => .usage (.ofNat count)).mapError Refusal.reply, desk, watches)

/-- What a caller reads from the reply to its request. -/
def Pending.read (pending : Pending) (reply : Bytes) : Except CallError Response :=
  match Datagram.split reply with
  | .error cause => .error (.format cause)
  | .ok (header, payload) =>
      (pending.settle header payload).bind fun body =>
        (Response.decode pending.operation body).mapError .format

theorem Pending.read_replyTo (pending : Pending) {header : Header}
    {outcome : Except Rejection Execution} (hfaithful : Faithful header outcome)
    (hoperation : ∀ execution, outcome = .ok execution →
      execution.response.operation = pending.operation) :
    pending.read (header.replyTo outcome) =
      ((outcome.map Execution.response).mapError Rejection.reply).mapError .refused := by
  obtain ⟨marked, payload, hsplit⟩ : ∃ marked payload,
      Datagram.split (header.replyTo outcome) = .ok (marked, payload) := by
    cases hfaithful with
    | rejected hordinary =>
        obtain ⟨marked, hcomplete, -⟩ := header.replyTo_rejected hordinary
        exact ⟨marked, _, hcomplete.split_eq⟩
    | carriedOut hcode hfits =>
        obtain ⟨marked, hcomplete, -⟩ := Header.replyTo_carriedOut hcode hfits
        exact ⟨marked, _, hcomplete.split_eq⟩
  rw [read, hsplit]
  obtain ⟨-, ⟨rejection, rfl, hsettle⟩ | ⟨execution, rfl, hsettle, -⟩⟩ :=
    pending.settle_faithful hfaithful hsplit
  · dsimp only
    rw [hsettle]
    rfl
  · obtain ⟨hpayload, hdecode⟩ := hsettle (hoperation execution rfl)
    dsimp only
    rw [hpayload, Except.bind, hdecode]
    rfl

namespace Service

variable {service : Service} {request : Request} {peer : Address} {now : Nat}

/-- The service carries a request out as it is carried out directly. -/
theorem perform_eq_direct (service : Service) (request : Request) (peer : Address) (now : Nat) :
    ((service.perform request peer now).1.map Execution.response).mapError Rejection.reply =
        (request.direct service.desk service.watches peer now).1 ∧
      (service.perform request peer now).2 = { service with
        desk := (request.direct service.desk service.watches peer now).2.1
        watches := (request.direct service.desk service.watches peer now).2.2 } := by
  cases request with
  | queryAvailability facility day =>
      refine ⟨?_, rfl⟩
      simp only [perform, Request.direct]
      cases (service.desk.queryDay facility day).1 <;> rfl
  | book facility user start stop =>
      refine ⟨?_, rfl⟩
      simp only [perform, Request.direct]
      cases (service.desk.book facility user start stop).1 <;> rfl
  | changeBooking booking offset =>
      refine ⟨?_, rfl⟩
      simp only [perform, Request.direct]
      cases (service.desk.change booking.toInt offset.toInt).1 with
      | error refusal => rfl
      | ok shift =>
          simp only [Except.bind]
          cases shift.interval <;> rfl
  | monitor facility seconds port =>
      have hweek : Limits.watchSeconds = 7 * 24 * 3600 := rfl
      rw [perform, watch, Request.direct, hweek]
      split
      · exact ⟨rfl, rfl⟩
      · split
        · exact ⟨rfl, rfl⟩
        · dsimp only
          cases service.watches.register (peer.atPort port.toUInt16) facility
            (seconds.toNat * Limits.second) now <;> exact ⟨rfl, rfl⟩
  | resetDay facility day =>
      refine ⟨?_, rfl⟩
      simp only [perform, Request.direct]
      cases (service.desk.resetDay facility day).1 <;> rfl
  | incrementUsage facility =>
      refine ⟨?_, rfl⟩
      simp only [perform, Request.direct]
      cases (service.desk.incrementUsage facility).1 <;> rfl

/-- The datagram of a request is carried out as the request is, and whoever waits for the
reply reads what came of it. -/
theorem handle_request (hconsistent : service.desk.ledger.Consistent) {datagram : Bytes}
    {header : Header} {payload : Bytes}
    (hsplit : Datagram.split datagram = .ok (header, payload))
    (hversion : header.version = protocolVersion)
    (hcode : header.operation = request.operation.code)
    (hdecode : Request.decode request.operation payload = .ok request)
    (hunkept : service.kept? header peer now = none) {pending : Pending}
    (hpending : pending.operation = request.operation) :
    ∃ reply cache, (service.handle datagram peer now).1.reply? = some reply ∧
      (service.handle datagram peer now).2 = { (service.perform request peer now).2 with cache } ∧
      pending.read reply =
        (((service.perform request peer now).1.map Execution.response).mapError
          Rejection.reply).mapError .refused := by
  have hexecute : service.execute header payload peer now = service.perform request peer now :=
    execute_of_decode hversion (hcode ▸ Operation.ofCode_code request.operation) hdecode
  have hfaithful := faithful_execute hconsistent hsplit peer now
  rw [hexecute] at hfaithful
  rw [handle_executed hsplit hunkept, answerTo, answer_reply, hexecute]
  refine ⟨_, _, rfl, rfl, pending.read_replyTo hfaithful fun execution hexecution => ?_⟩
  rcases perform_cases hconsistent request peer now with
    ⟨rejection, -, hrejected⟩ | ⟨found, after, hperformed, hoperation, -⟩
  · rw [hrejected] at hexecution
    cases hexecution
  · rw [hperformed] at hexecution
    cases hexecution
    rw [hoperation, hpending]

/-- The count that a reset is answered with is that of the bookings it removed. -/
theorem reset_count_exact (hconsistent : service.desk.ledger.Consistent) {facility : String}
    {day : Day} {count : UInt32}
    (hreset : (Request.direct (.resetDay facility day) service.desk service.watches peer now).1 =
      .ok (.reset count)) :
    count.toNat = ((service.desk.ledger.bookingsOf facility).filter fun booking =>
      Day.ofMinute? booking.span.start = some day).length := by
  simp only [Request.direct] at hreset
  rcases houtcome : service.desk.resetDay facility day with ⟨refusal | removed, after⟩
  · rw [houtcome] at hreset
    cases hreset
  · rw [houtcome] at hreset
    cases hreset
    rw [← (Desk.resetDay_eq_ok hconsistent houtcome).1]
    have hslots := (hconsistent.tidy facility).length_lt
    have hbookings : (service.desk.ledger.bookingsOf facility).length ≤
        (service.desk.ledger.slotsOf facility).length := List.length_filterMap_le _ _
    have hremoved : removed.length ≤ (service.desk.ledger.bookingsOf facility).length := by
      rw [(Desk.resetDay_eq_ok hconsistent houtcome).1]
      exact List.length_filter_le _ _
    unfold Limits.bookingsPerFacility at hslots
    exact UInt32.toNat_ofNat_of_lt' (by change _ < 4294967296; omega)

theorem operation_of_direct (hconsistent : service.desk.ledger.Consistent) {response : Response}
    (hresponse : (request.direct service.desk service.watches peer now).1 = .ok response) :
    response.operation = request.operation := by
  rw [← (perform_eq_direct service request peer now).1] at hresponse
  rcases perform_cases hconsistent request peer now with
    ⟨rejection, -, hrejected⟩ | ⟨execution, after, hperformed, hoperation, -⟩
  · rw [hrejected] at hresponse
    cases hresponse
  · rw [hperformed] at hresponse
    cases hresponse
    exact hoperation

/-- In every state that a service can reach, a request with valid times and short texts has
an encoding. Unless a reply to it is kept, its datagram is answered with a reply from which
the caller reads what the request comes to at the desk and the watches themselves, and
leaves both of them as the request leaves them. What is read is an answer to the operation
asked for, and the count of a reset is the number of bookings that it removed. -/
theorem remote_eq_direct (lifetime : Nat) (switch : Bool) (events : List Event)
    {request : Request} (hvalid : request.Valid)
    (hshort : ∀ text ∈ request.texts, text.utf8ByteSize ≤ 65535) (server peer : Address)
    (now : Nat) (id flags : UInt32)
    (hunkept : ((new lifetime switch).after events).kept?
      { operation := request.operation.code, requestId := id, flags } peer now = none) :
    ∃ payload reply outcome after, request.payload = .ok payload ∧
      (((new lifetime switch).after events).handle (Datagram.frame
        { operation := request.operation.code, requestId := id, flags } payload)
        peer now).1.reply? = some reply ∧
      (((new lifetime switch).after events).handle (Datagram.frame
        { operation := request.operation.code, requestId := id, flags } payload)
        peer now).2 = after ∧
      request.direct ((new lifetime switch).after events).desk
        ((new lifetime switch).after events).watches peer now =
          (outcome, after.desk, after.watches) ∧
      Pending.read ⟨server, request.operation, id⟩ reply = outcome.mapError .refused ∧
      (∀ response, outcome = .ok response → response.operation = request.operation) ∧
      ∀ facility day count, request = .resetDay facility day → outcome = .ok (.reset count) →
        count.toNat = ((((new lifetime switch).after events).desk.ledger.bookingsOf
          facility).filter fun booking =>
            Day.ofMinute? booking.span.start = some day).length := by
  have hconsistent := after_consistent lifetime switch events
  generalize (new lifetime switch).after events = service at *
  obtain ⟨payload, hpayload⟩ := Request.exists_payload hshort
  have hsplit := Datagram.split_frame
    { operation := request.operation.code, requestId := id, flags }
    (Request.length_payload_lt hpayload)
  obtain ⟨reply, cache, hreply, hafter, hread⟩ := handle_request hconsistent hsplit rfl rfl
    (Request.decode_payload hvalid hpayload) hunkept
    (rfl : (Pending.mk server request.operation id).operation = request.operation)
  obtain ⟨hdirect, hstate⟩ := perform_eq_direct service request peer now
  refine ⟨payload, reply, _, _, hpayload, hreply, rfl, ?_, hdirect ▸ hread, ?_, ?_⟩
  · rw [hafter, hstate]
  · intro response hresponse
    exact operation_of_direct hconsistent hresponse
  · rintro facility day count rfl hreset
    exact reset_count_exact hconsistent hreset

/-- The first booking at a service is read as the first booking at its desk. -/
theorem booked_from_afar :
    ∃ payload reply,
      (Request.book "LabA" "ann" ⟨.monday, 9, 0⟩ ⟨.monday, 10, 0⟩).payload = .ok payload ∧
      ((new 5 true).handle (Datagram.frame
        { operation := Operation.book.code, requestId := 7, flags := atMostOnceFlag } payload)
        ⟨"10.0.0.9", 4242⟩ 0).1.reply? = some reply ∧
      Pending.read ⟨⟨"10.0.0.1", 4000⟩, .book, 7⟩ reply = .ok (.booked 1) := by
  have hunkept : (new 5 true).kept?
      { operation := Operation.book.code, requestId := 7, flags := atMostOnceFlag }
      ⟨"10.0.0.9", 4242⟩ 0 = none := by decide +kernel
  obtain ⟨payload, reply, outcome, after, hpayload, hreply, -, hdirect, hread, -⟩ :=
    @remote_eq_direct 5 true [] (.book "LabA" "ann" ⟨.monday, 9, 0⟩ ⟨.monday, 10, 0⟩)
      ⟨by decide, by decide⟩ (by decide) ⟨"10.0.0.1", 4000⟩ ⟨"10.0.0.9", 4242⟩ 0 7
      atMostOnceFlag hunkept
  have houtcome : outcome = .ok (.booked 1) :=
    (congrArg Prod.fst hdirect).symm.trans (by decide +kernel)
  rw [houtcome] at hread
  exact ⟨payload, reply, hpayload, hreply, hread⟩

end Service

end FacilityBooking
