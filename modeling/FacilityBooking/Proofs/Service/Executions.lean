import FacilityBooking.Proofs.Service.Notices
import FacilityBooking.Proofs.Service.Once
import FacilityBooking.Proofs.Service.Refusals

/-!
# Executions of a datagram

The outcomes of the executions of one datagram in a history, and the bytes that an
outcome is answered with. These tell the outcome to whoever reads them.
-/

namespace FacilityBooking

/-- The bytes that answer a request with a given header and outcome. -/
def Header.replyTo (header : Header) : Except Rejection Execution → Bytes
  | .ok execution =>
      Datagram.frame
        { operation := header.operation, requestId := header.requestId, flags := header.flags }
        execution.response.payload
  | .error rejection =>
      Datagram.frame
        { operation := header.operation ||| errorMask, requestId := header.requestId
          flags := header.flags }
        rejection.reply.bytes

/-- The outcome of a moment, if a datagram of a peer arrives at it and is executed. -/
def Moment.outcome? (moment : Moment) (peer : Address) (datagram : Bytes) :
    Option (Except Rejection Execution) :=
  match moment.event with
  | .sweep _ => none
  | .arrival bytes source now =>
      if bytes = datagram ∧ source = peer then
        match Datagram.split datagram, (moment.service.handle datagram peer now).1 with
        | .ok (header, payload), .executed .. =>
            some (moment.service.execute header payload peer now).1
        | _, _ => none
      else none

/-- The outcomes of all executions of a datagram of a peer, in order. -/
def executions (history : List Moment) (peer : Address) (datagram : Bytes) :
    List (Except Rejection Execution) :=
  history.filterMap fun moment => moment.outcome? peer datagram

variable {header : Header} {payload : Bytes} {peer : Address} {datagram : Bytes}

/-- An outcome of which nothing is lost on the way. -/
inductive Faithful (header : Header) : Except Rejection Execution → Prop where
  | rejected {rejection : Rejection} (hordinary : rejection.Ordinary) :
      Faithful header (.error rejection)
  | carriedOut {execution : Execution}
      (hcode : header.operation = execution.response.operation.code)
      (hfits : execution.response.Fits) : Faithful header (.ok execution)

/-! ## From moments to outcomes -/

namespace Service

theorem answer_reply (service : Service) (header : Header)
    (outcome : Except Rejection Execution) (now : Nat) :
    (service.answer header outcome now).2.1 = header.replyTo outcome := by
  cases outcome <;> rfl

variable {service : Service} {now : Nat}

theorem consistent_of_mem_history {lifetime : Nat} {switch : Bool} {events : List Event}
    {moment : Moment} (hmoment : moment ∈ (new lifetime switch).history events) :
    moment.service.desk.ledger.Consistent := by
  obtain ⟨before, later, hhistory⟩ := List.append_of_mem hmoment
  obtain ⟨first, rest, -, hservice, -⟩ := history_eq_append hhistory
  rw [hservice]
  exact after_consistent lifetime switch first

/-- Every notice is marked as one. -/
theorem isNotice_of_mem_notices {notice : Notice}
    (hnotice : notice ∈ (service.handle datagram peer now).1.notices)
    (hsplit : Datagram.split notice.datagram = .ok (header, payload)) :
    header.isNotice = true := by
  rw [handle_notices] at hnotice
  split at hnotice
  · obtain ⟨-, day, -, hdatagram⟩ := mem_noticesFor_iff.mp hnotice
    obtain ⟨free, -, hframe⟩ := noticeDatagram?_eq_some_iff.mp hdatagram
    have hheader := (Datagram.decode_of_split hsplit).1
    rw [← hframe, Datagram.decode_frame] at hheader
    cases hheader
    change (noticeFlag &&& noticeFlag != 0) = true
    decide
  · cases hnotice

theorem faithful_execute (hconsistent : service.desk.ledger.Consistent)
    (hsplit : Datagram.split datagram = .ok (header, payload)) (peer : Address) (now : Nat) :
    Faithful header (service.execute header payload peer now).1 := by
  rcases execute_cases hconsistent header (Datagram.brief_of_split hsplit) peer now with
    ⟨rejection, hordinary, hrejected⟩ |
    ⟨operation, execution, after, hexecuted, hcode, hoperation, hfits, -⟩
  · rw [hrejected]
    exact .rejected hordinary
  · rw [hexecuted]
    exact .carriedOut (hoperation ▸ hcode) hfits

end Service

namespace Moment

variable {moment : Moment}

/-- An execution under a key has an outcome, which its reply answers with. -/
theorem outcome_of_execution {key : RequestKey} {reply : Bytes} {start : Nat}
    (hconsistent : moment.service.desk.ledger.Consistent)
    (hexecution : moment.execution? key = some (reply, start)) :
    ∃ datagram header payload outcome, moment.event = .arrival datagram key.peer start ∧
      Datagram.split datagram = .ok (header, payload) ∧ header.requestId = key.id ∧
      moment.outcome? key.peer datagram = some outcome ∧ reply = header.replyTo outcome ∧
      Faithful header outcome := by
  obtain ⟨datagram, header, payload, hevent, hsplit, -, hid, hunkept, hreply⟩ :=
    execution?_eq_some hexecution
  refine ⟨datagram, header, payload, _, hevent, hsplit, hid, ?_, ?_,
    Service.faithful_execute hconsistent hsplit key.peer start⟩
  · rw [outcome?, hevent]
    simp only [and_self, if_true, hsplit, Service.handle_executed hsplit hunkept]
  · rw [← hreply, Service.answerTo, Service.answer_reply]

/-- A datagram with an outcome is executed under its key. -/
theorem execution_of_outcome {outcome : Except Rejection Execution}
    (hsplit : Datagram.split datagram = .ok (header, payload))
    (hflag : header.isAtMostOnce = true) (houtcome : moment.outcome? peer datagram = some outcome) :
    (moment.execution? ⟨peer, header.requestId⟩).isSome = true := by
  obtain ⟨service, event⟩ := moment
  cases event with
  | sweep now => cases houtcome
  | arrival bytes source now =>
      simp only [outcome?] at houtcome
      split at houtcome
      · next hsame =>
          obtain ⟨rfl, rfl⟩ := hsame
          cases hkept : service.kept? header source now with
          | some kept =>
              rw [hsplit, Service.handle_kept hsplit hkept] at houtcome
              cases houtcome
          | none =>
              rw [execution?_executed hsplit hkept, if_pos ⟨hflag, rfl⟩]
              rfl
      · cases houtcome

end Moment

/-! ## From bytes to outcomes -/

/-- The bytes that answer with a rejection tell it whole. -/
theorem Header.replyTo_rejected (header : Header) {rejection : Rejection}
    (hordinary : rejection.Ordinary) :
    ∃ marked,
      Datagram.Complete (header.replyTo (.error rejection)) marked rejection.reply.bytes ∧
      marked.operation = header.operation ||| errorMask ∧
      marked.requestId = header.requestId ∧ marked.flags = header.flags ∧
      ErrorReply.reader rejection.reply.bytes = (.ok rejection.reply, []) := by
  have hshort := Rejection.utf8ByteSize_message_le hordinary
  have hlength := Rejection.length_bytes_le hordinary
  exact ⟨_, Datagram.complete_frame rfl hlength, rfl, rfl, rfl, ErrorReply.reader_bytes hshort⟩

/-- The bytes that answer with a response tell it whole. -/
theorem Header.replyTo_carriedOut {header : Header} {execution : Execution}
    (hcode : header.operation = execution.response.operation.code)
    (hfits : execution.response.Fits) :
    ∃ marked,
      Datagram.Complete (header.replyTo (.ok execution)) marked execution.response.payload ∧
      marked.operation = execution.response.operation.code ∧
      marked.requestId = header.requestId ∧ marked.flags = header.flags ∧
      Response.reader execution.response.operation execution.response.payload =
        (.ok execution.response, []) :=
  ⟨_, Datagram.complete_frame rfl hfits.length_payload_le, hcode, rfl, rfl,
    Response.reader_payload hfits.sendable⟩

end FacilityBooking
