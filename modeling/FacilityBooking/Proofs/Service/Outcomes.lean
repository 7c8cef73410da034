import FacilityBooking.Proofs.Datagram.Framing
import FacilityBooking.Proofs.Desk.Pieces
import FacilityBooking.Proofs.Desk.Runs
import FacilityBooking.Proofs.Message.Replies
import FacilityBooking.Proofs.Message.Requests
import FacilityBooking.Service.Handling

/-!
# Outcomes of requests

A request is rejected for a reason that takes few words and changes nothing, or it has
a response that fits into a datagram and is one to the operation asked for. That rests
on the consistency of the ledger.
-/

namespace FacilityBooking

/-! ## Ordinary rejections -/

/-- The request is to blame, and all numbers in the message have at most ten digits, but for
those of bookings. -/
def Rejection.Ordinary : Rejection → Prop
  | refused cause => cause.Ordinary
  | malformed cause => cause.Brief
  | _ => True

theorem Rejection.Ordinary.category_ne_internal {rejection : Rejection}
    (hordinary : rejection.Ordinary) : rejection.reply.category ≠ .internal := by
  cases rejection with
  | refused cause => exact Refusal.Ordinary.category_ne_internal hordinary
  | _ => exact nofun

theorem Rejection.length_message_le {rejection : Rejection} (hordinary : rejection.Ordinary) :
    rejection.reply.message.length ≤ 80 := by
  have hword (value : UInt32) : (toString value).length ≤ 10 :=
    Text.length_natural_le (Nat.lt_trans value.toNat_lt (by decide)) (by decide)
  unfold reply
  cases rejection with
  | refused cause => exact Refusal.length_message_le hordinary
  | malformed cause => exact FormatError.length_message_le hordinary
  | portOutOfRange port =>
      have hport := hword port
      simp only [String.length_append]
      change 14 + _ + 13 ≤ _
      omega
  | watchTooLong seconds =>
      have hseconds := hword seconds
      simp only [String.length_append]
      change 18 + _ + 18 ≤ _
      omega

/-- The message of an ordinary rejection fits into its length field. -/
theorem Rejection.utf8ByteSize_message_le {rejection : Rejection} (hordinary : rejection.Ordinary) :
    rejection.reply.message.utf8ByteSize ≤ Field.maxTextBytes := by
  have hlength := length_message_le hordinary
  have hsize := Text.utf8ByteSize_le rejection.reply.message
  unfold Field.maxTextBytes
  omega

/-- An ordinary rejection is told in fewer bytes than the longest response. -/
theorem Rejection.length_bytes_le {rejection : Rejection} (hordinary : rejection.Ordinary) :
    rejection.reply.bytes.length ≤ 4322 := by
  have hlength := length_message_le hordinary
  have hsize := Text.utf8ByteSize_le rejection.reply.message
  rw [ErrorReply.length_bytes, ErrorReply.sentMessage_of_short (utf8ByteSize_message_le hordinary)]
  omega

theorem Datagram.brief_of_split {datagram : Bytes} {header : Header} {payload : Bytes}
    (hsplit : split datagram = .ok (header, payload)) : Brief payload.length :=
  Nat.lt_trans (decode_of_split hsplit).2 (by decide)

/-! ## The error bit -/

theorem errorMask_marks (code : UInt16) : (code ||| errorMask) &&& errorMask = errorMask := by
  apply UInt16.toBitVec_inj.mp
  ext bit
  simp only [UInt16.toBitVec_and, UInt16.toBitVec_or, BitVec.getElem_and, BitVec.getElem_or]
  cases errorMask.toBitVec[bit]
  · exact Bool.and_false _
  · rw [Bool.or_true, Bool.and_true]

/-- A header with the error bit marks an error reply. -/
theorem Header.isError_of_mask {header : Header} {code : UInt16}
    (hoperation : header.operation = code ||| errorMask) : header.isError = true := by
  rw [isError, hoperation, errorMask_marks]
  decide

/-- A header with the code of an operation marks no error reply. -/
theorem Header.isError_of_code {header : Header} {operation : Operation}
    (hoperation : header.operation = operation.code) : header.isError = false := by
  rw [isError, hoperation, errorMask, operation.code_and_mask]
  decide

/-- The free time of a facility fits into a datagram. -/
theorem Desk.fits_of_freeOn {desk : Desk} {facility : String} {day : Day}
    {free : List Interval} (hconsistent : desk.ledger.Consistent)
    (hfree : desk.freeOn facility day = .ok free) : (Response.availability free).Fits := by
  have hlength := Desk.length_freeOn_le hconsistent hfree
  exact ⟨⟨Nat.lt_of_le_of_lt hlength (by decide), (spans_of_freeOn hfree).2⟩, hlength⟩

namespace Service

variable {service : Service}

/-! ## Carrying out -/

theorem brief_of_ofCode {code : UInt16} {cause : FormatError}
    (hcode : Operation.ofCode code = .error cause) : cause.Brief := by
  unfold Operation.ofCode at hcode
  split at hcode
  · cases hcode
  · cases hcode
    trivial

theorem ordinary_of_register {list : WatchList} {target : Address} {facility : String}
    {duration now : Nat} {refusal : Refusal}
    (hregister : list.register target facility duration now = .error refusal) :
    refusal.Ordinary := by
  unfold WatchList.register at hregister
  split at hregister
  · cases hregister
    trivial
  · split at hregister
    · cases hregister
      trivial
    · cases hregister

theorem watches_of_register {list : WatchList} {target : Address} {facility : String}
    {duration now expiry : Nat} {registered : WatchList}
    (hregister : list.register target facility duration now = .ok (expiry, registered)) :
    registered.watches = list.watches.push ⟨facility, target, now + duration⟩ := by
  unfold WatchList.register at hregister
  split at hregister
  · cases hregister
  · split at hregister
    · cases hregister
    · cases hregister
      rfl

/-- A watch is refused, or nothing changes but that it stands behind all other watches. -/
theorem watch_cases (service : Service) (facility : String) (seconds port : UInt32)
    (peer : Address) (now : Nat) :
    (∃ rejection, rejection.Ordinary ∧
        service.watch facility seconds port peer now = (.error rejection, service)) ∨
      ∃ watches, watches.watches = service.watches.watches.push
          ⟨facility, peer.atPort port.toUInt16, now + seconds.toNat * Limits.second⟩ ∧
        service.watch facility seconds port peer now =
          (.ok { response := .monitoring }, { service with watches }) := by
  unfold watch
  split
  · exact .inl ⟨.portOutOfRange port, trivial, rfl⟩
  · split
    · exact .inl ⟨.watchTooLong seconds, trivial, rfl⟩
    · dsimp only
      split
      · next cause hcause => exact .inl ⟨.refused cause, ordinary_of_register hcause, rfl⟩
      · next watches hwatches => exact .inr ⟨_, watches_of_register hwatches, rfl⟩

/-- A request is rejected and nothing changes, or it has a response to its operation and
leaves the ledger consistent. -/
theorem perform_cases (hconsistent : service.desk.ledger.Consistent) (request : Request)
    (peer : Address) (now : Nat) :
    (∃ rejection, rejection.Ordinary ∧
        service.perform request peer now = (.error rejection, service)) ∨
      ∃ execution after, service.perform request peer now = (.ok execution, after) ∧
        execution.response.operation = request.operation ∧ execution.response.Fits ∧
        after.desk.ledger.Consistent := by
  cases request with
  | queryAvailability facility day =>
      have hstep := Desk.step_consistent hconsistent (.queryDay facility day)
      simp only [perform, Desk.step] at hstep ⊢
      rcases Desk.queryDay_cases service.desk facility day with
        ⟨refusal, hordinary, hrefused⟩ | ⟨ledger, free, -, hfree, hqueried⟩
      · rw [hrefused]
        exact .inl ⟨.refused refusal, hordinary, rfl⟩
      · rw [hqueried] at hstep ⊢
        exact .inr ⟨_, _, rfl, rfl, Desk.fits_of_freeOn hstep hfree, hstep⟩
  | book facility user start stop =>
      have hstep := Desk.step_consistent hconsistent (.book facility user start stop)
      simp only [perform, Desk.step] at hstep ⊢
      rcases Desk.book_cases hconsistent facility user start stop with
        ⟨refusal, hordinary, hrefused⟩ | ⟨ledger, -, -, -, hbooked⟩
      · rw [hrefused]
        exact .inl ⟨.refused refusal, hordinary, rfl⟩
      · rw [hbooked] at hstep ⊢
        exact .inr ⟨_, _, rfl, rfl, ⟨trivial, Nat.zero_le _⟩, hstep⟩
  | changeBooking booking offset =>
      have hstep := Desk.step_consistent hconsistent (.change booking.toInt offset.toInt)
      simp only [perform, Desk.step] at hstep ⊢
      rcases Desk.change_cases hconsistent booking.toInt offset.toInt with
        ⟨refusal, hordinary, hrefused⟩ | ⟨found, timetable, -, -, hinside, -, hchanged⟩
      · rw [hrefused]
        exact .inl ⟨.refused refusal, hordinary, rfl⟩
      · obtain ⟨hstart, hlt, hstop⟩ := hinside
        obtain ⟨interval, hinterval, hvalid, -⟩ :=
          Interval.ofSpan_of_inside hstart (Int.le_of_lt hlt) hstop
        rw [hchanged] at hstep ⊢
        simp only [Shift.interval, hinterval]
        exact .inr ⟨_, _, rfl, rfl, ⟨hvalid, Nat.zero_le _⟩, hstep⟩
  | monitor facility seconds port =>
      simp only [perform]
      rcases watch_cases service facility seconds port peer now with
        ⟨rejection, hordinary, hrejected⟩ | ⟨watches, -, hwatched⟩
      · exact .inl ⟨rejection, hordinary, hrejected⟩
      · exact .inr ⟨_, _, hwatched, rfl, ⟨trivial, Nat.zero_le _⟩, hconsistent⟩
  | resetDay facility day =>
      have hstep := Desk.step_consistent hconsistent (.resetDay facility day)
      simp only [perform, Desk.step] at hstep ⊢
      rcases Desk.resetDay_cases hconsistent facility day with
        ⟨refusal, hordinary, hrefused⟩ | ⟨removed, ledger, hreset, -⟩
      · rw [hrefused]
        exact .inl ⟨.refused refusal, hordinary, rfl⟩
      · rw [hreset] at hstep ⊢
        exact .inr ⟨_, _, rfl, rfl, ⟨trivial, Nat.zero_le _⟩, hstep⟩
  | incrementUsage facility =>
      have hstep := Desk.step_consistent hconsistent (.incrementUsage facility)
      simp only [perform, Desk.step] at hstep ⊢
      rcases Desk.incrementUsage_cases service.desk facility with
        ⟨refusal, hordinary, hrefused⟩ | ⟨ledger, -, hcounted⟩
      · rw [hrefused]
        exact .inl ⟨.refused refusal, hordinary, rfl⟩
      · rw [hcounted] at hstep ⊢
        exact .inr ⟨_, _, rfl, rfl, ⟨trivial, Nat.zero_le _⟩, hstep⟩

/-- A datagram is rejected and nothing changes, or it carries the code of an operation,
has a response to that operation and leaves the ledger consistent. -/
theorem execute_cases (hconsistent : service.desk.ledger.Consistent) (header : Header)
    {payload : Bytes} (hpayload : FacilityBooking.Brief payload.length) (peer : Address)
    (now : Nat) :
    (∃ rejection, rejection.Ordinary ∧
        service.execute header payload peer now = (.error rejection, service)) ∨
      ∃ operation execution after,
        service.execute header payload peer now = (.ok execution, after) ∧
          header.operation = operation.code ∧ execution.response.operation = operation ∧
          execution.response.Fits ∧ after.desk.ledger.Consistent := by
  unfold execute
  split
  · exact .inl ⟨.malformed (.unsupportedVersion header.version), trivial, rfl⟩
  · cases hcode : Operation.ofCode header.operation with
    | error cause => exact .inl ⟨.malformed cause, brief_of_ofCode hcode, rfl⟩
    | ok operation =>
        dsimp only
        cases hdecode : Request.decode operation payload with
        | error cause =>
            exact .inl ⟨.malformed cause, Request.brief_of_decode hpayload hdecode, rfl⟩
        | ok request =>
            dsimp only
            rcases perform_cases hconsistent request peer now with
              ⟨rejection, hordinary, hrejected⟩ |
              ⟨execution, after, hperformed, hresponse, hfits, hafter⟩
            · exact .inl ⟨rejection, hordinary, hrejected⟩
            · refine .inr ⟨operation, execution, after, hperformed, ?_, ?_, hfits, hafter⟩
              · exact Operation.ofCode_eq_ok_iff.mp hcode
              · exact hresponse.trans (Request.operation_of_decode hdecode)

end Service

end FacilityBooking
