import FacilityBooking.Proofs.Service.Executions
import FacilityBooking.Proofs.Service.Notices

/-!
# Well-formed answers

In every state that a service can reach, all its replies and notices are complete datagrams
that are read without a byte left over. An error reply always has a request to blame, and
the free time of a day can always be told and is never too long for its datagram.
-/

namespace FacilityBooking

/-- A reply with the header `marked` and the payload `body` tells the response to a request
with the header `asked`, or the category of its error, which is not the service's own. -/
inductive Answers (asked marked : Header) (body : Bytes) : Option ErrorCategory → Prop where
  | response {operation : Operation} {response : Response}
      (hcode : asked.operation = operation.code) (hmarked : marked.operation = asked.operation)
      (hread : Response.reader operation body = (.ok response, []))
      (hfew : response.intervals.length ≤ 720) : Answers asked marked body none
  | error {category : ErrorCategory} {message : String}
      (hmarked : marked.operation = asked.operation ||| errorMask)
      (hread : ErrorReply.reader body = (.ok ⟨category, message⟩, []))
      (hordinary : category ≠ .internal) : Answers asked marked body (some category)

/-- The error bit is set in error replies and in no others. -/
theorem Answers.isError_eq {asked marked : Header} {body : Bytes}
    {failure : Option ErrorCategory} (hanswers : Answers asked marked body failure) :
    marked.isError = failure.isSome := by
  cases hanswers with
  | response hcode hmarked => exact Header.isError_of_code (hmarked.trans hcode)
  | error hmarked => exact Header.isError_of_mask hmarked

/-- A faithful outcome is answered with a complete datagram under the id of the request. -/
theorem Faithful.complete_replyTo {header : Header} {outcome : Except Rejection Execution}
    (hfaithful : Faithful header outcome) :
    ∃ marked body, Datagram.Complete (header.replyTo outcome) marked body ∧
      marked.requestId = header.requestId := by
  cases hfaithful with
  | rejected hordinary =>
      obtain ⟨marked, hcomplete, -, hid, -⟩ := header.replyTo_rejected hordinary
      exact ⟨marked, _, hcomplete, hid⟩
  | carriedOut hcode hfits =>
      obtain ⟨marked, hcomplete, -, hid, -⟩ := Header.replyTo_carriedOut hcode hfits
      exact ⟨marked, _, hcomplete, hid⟩

namespace Service

variable {service : Service} {datagram payload : Bytes} {header : Header} {peer : Address}
  {now : Nat}

/-! ## Replies -/

theorem answers_of_executed (hconsistent : service.desk.ledger.Consistent)
    (hsplit : Datagram.split datagram = .ok (header, payload)) (peer : Address) (now : Nat) :
    ∃ marked body,
      Datagram.Complete (service.answerTo header payload peer now).2.1 marked body ∧
      marked.requestId = header.requestId ∧ marked.flags = header.flags ∧
      Answers header marked body (service.answerTo header payload peer now).1 := by
  have hfaithful := faithful_execute hconsistent hsplit peer now
  rw [answerTo, answer_reply]
  generalize (service.execute header payload peer now).1 = outcome at *
  cases hfaithful with
  | rejected hordinary =>
      obtain ⟨marked, hcomplete, hmask, hid, hflags, hread⟩ :=
        header.replyTo_rejected hordinary
      exact ⟨marked, _, hcomplete, hid, hflags, .error hmask hread hordinary.category_ne_internal⟩
  | carriedOut hcode hfits =>
      obtain ⟨marked, hcomplete, hmarked, hid, hflags, hread⟩ :=
        Header.replyTo_carriedOut hcode hfits
      exact ⟨marked, _, hcomplete, hid, hflags,
        .response hcode (hmarked.trans hcode.symm) hread hfits.few⟩

/-- What is executed is no request whose reply is kept. -/
theorem answerTo_of_executed {operation : Option Operation} {failure : Option ErrorCategory}
    {reply : Bytes} {notices : List Notice}
    (hexecuted : (service.handle datagram peer now).1 =
      .executed operation failure reply notices) :
    ∃ header payload, Datagram.split datagram = .ok (header, payload) ∧
      service.answerTo header payload peer now = (failure, reply, notices) := by
  rcases service.arrival_cases datagram peer now with
    ⟨cause, hsplit⟩ | ⟨header, payload, kept, hsplit, hkept⟩ | ⟨header, payload, hsplit, hunkept⟩
  · rw [handle_malformed hsplit] at hexecuted
    cases hexecuted
  · rw [handle_kept hsplit hkept] at hexecuted
    cases hexecuted
  · rw [handle_executed hsplit hunkept] at hexecuted
    cases hexecuted
    exact ⟨header, payload, hsplit, rfl⟩

/-- A kept reply was complete when it was given for the first time. -/
theorem complete_of_kept {lifetime : Nat} {switch : Bool} {events : List Event} {reply : Bytes}
    (hkept : ((new lifetime switch).after events).kept? header peer now = some reply) :
    ∃ marked body, Datagram.Complete reply marked body ∧ marked.requestId = header.requestId := by
  obtain ⟨-, -, start, -, before, moment, later, hhistory, hexecution, -⟩ :=
    (kept?_eq_some_iff ..).mp hkept
  have hmoment : moment ∈ (new lifetime switch).history events := by
    rw [hhistory]
    exact List.mem_append_right _ (.head _)
  obtain ⟨_, first, _, outcome, -, -, hid, -, rfl, hfaithful⟩ :=
    Moment.outcome_of_execution (consistent_of_mem_history hmoment) hexecution
  obtain ⟨marked, body, hcomplete, hmarked⟩ := hfaithful.complete_replyTo
  exact ⟨marked, body, hcomplete, hmarked.trans hid⟩

theorem complete_of_reply {lifetime : Nat} {switch : Bool} {events : List Event} {reply : Bytes}
    (hreply : (((new lifetime switch).after events).handle datagram peer now).1.reply? =
      some reply) :
    ∃ header payload marked body, Datagram.split datagram = .ok (header, payload) ∧
      Datagram.Complete reply marked body ∧ marked.requestId = header.requestId := by
  have hconsistent := after_consistent lifetime switch events
  rcases ((new lifetime switch).after events).arrival_cases datagram peer now with
    ⟨cause, hsplit⟩ | ⟨header, payload, kept, hsplit, hkept⟩ | ⟨header, payload, hsplit, hunkept⟩
  · rw [handle_malformed hsplit] at hreply
    cases hreply
  · rw [handle_kept hsplit hkept] at hreply
    cases hreply
    obtain ⟨marked, body, hcomplete, hid⟩ := complete_of_kept hkept
    exact ⟨header, payload, marked, body, hsplit, hcomplete, hid⟩
  · rw [handle_executed hsplit hunkept] at hreply
    cases hreply
    obtain ⟨marked, body, hcomplete, hid, -⟩ := answers_of_executed hconsistent hsplit peer now
    exact ⟨header, payload, marked, body, hsplit, hcomplete, hid⟩

/-! ## Notices -/

/-- A notice is complete and tells the free time of a day. -/
theorem complete_of_mem_noticesFor (hconsistent : service.desk.ledger.Consistent)
    {touched : Touched} {notice : Notice} (hnotice : notice ∈ service.noticesFor touched now) :
    ∃ marked body free, Datagram.Complete notice.datagram marked body ∧
      Response.reader .queryAvailability body = (.ok (.availability free), []) ∧
      free.length ≤ 720 := by
  obtain ⟨-, day, -, hdatagram⟩ := mem_noticesFor_iff.mp hnotice
  obtain ⟨free, hfree, hframe⟩ := noticeDatagram?_eq_some_iff.mp hdatagram
  have hfits := Desk.fits_of_freeOn hconsistent hfree
  rw [← hframe]
  exact ⟨_, _, free, Datagram.complete_frame rfl hfits.length_payload_le,
    Response.reader_payload hfits.sendable, hfits.few⟩

/-- No day is left out, since the free time of every day can be told. -/
theorem length_noticesFor (service : Service) (touched : Touched) (now : Nat) :
    (service.noticesFor touched now).length =
      (service.watches.activeFor touched.facility now).length *
        (service.reportedDays touched).length := by
  choose free hfree using fun day => service.desk.freeOn_eq_ok touched.facility day
  rw [noticesFor_eq fun day => (hfree day).1, List.length_flatMap]
  simp only [List.length_map, List.map_const', List.sum_replicate_nat]

/-! ## All answers -/

/-- In every state that a service can reach, whatever datagram arrives: its reply, repeated
or not, is a complete datagram with the id of the request. If the request was executed, the
reply has its flags and its code, with the error bit exactly if it failed, and tells the
response or an error that is not the service's own. Every notice is a complete datagram
that tells the free time of a day, and none is left out. The free time of a day can be told
and has at most 720 intervals, so that their number fits into its field. -/
theorem answers_well_formed (lifetime : Nat) (switch : Bool) (events : List Event)
    (datagram : Bytes) (peer : Address) (now : Nat) :
    (∀ reply,
      (((new lifetime switch).after events).handle datagram peer now).1.reply? = some reply →
      ∃ header payload marked body, Datagram.split datagram = .ok (header, payload) ∧
        Datagram.Complete reply marked body ∧ marked.requestId = header.requestId) ∧
    (∀ operation failure reply notices,
      (((new lifetime switch).after events).handle datagram peer now).1 =
        .executed operation failure reply notices →
      ∃ header payload marked body, Datagram.split datagram = .ok (header, payload) ∧
        Datagram.Complete reply marked body ∧ marked.requestId = header.requestId ∧
        marked.flags = header.flags ∧ marked.isError = failure.isSome ∧
        Answers header marked body failure) ∧
    (∀ notice ∈ (((new lifetime switch).after events).handle datagram peer now).1.notices,
      ∃ marked body free, Datagram.Complete notice.datagram marked body ∧
        Response.reader .queryAvailability body = (.ok (.availability free), []) ∧
        free.length ≤ 720) ∧
    (∀ touched,
      ((new lifetime switch).after events).touched? datagram peer now = some touched →
      (((new lifetime switch).after events).handle datagram peer now).1.notices.length =
        ((((new lifetime switch).after events).handle datagram peer now).2.watches.activeFor
          touched.facility now).length *
        ((((new lifetime switch).after events).handle datagram peer now).2.reportedDays
          touched).length) ∧
    ∀ facility day, ∃ free,
      ((new lifetime switch).after events).desk.freeOn facility day = .ok free ∧
        free.length ≤ 720 ∧ (UInt16.ofNat free.length).toNat = free.length := by
  refine ⟨fun reply => complete_of_reply, ?_⟩
  have hconsistent := after_consistent lifetime switch events
  generalize (new lifetime switch).after events = service at *
  have hafter := step_consistent hconsistent (.arrival datagram peer now)
  refine ⟨?_, ?_, ?_, ?_⟩
  · intro operation failure reply notices hexecuted
    obtain ⟨header, payload, hsplit, hanswer⟩ := answerTo_of_executed hexecuted
    obtain ⟨marked, body, hcomplete, hid, hflags, hanswers⟩ :=
      answers_of_executed hconsistent hsplit peer now
    rw [hanswer] at hcomplete hanswers
    exact ⟨header, payload, marked, body, hsplit, hcomplete, hid, hflags, hanswers.isError_eq,
      hanswers⟩
  · intro notice hnotice
    rw [handle_notices] at hnotice
    split at hnotice
    · exact complete_of_mem_noticesFor hafter hnotice
    · cases hnotice
  · intro touched htouched
    rw [handle_notices, htouched]
    exact length_noticesFor _ touched now
  · intro facility day
    obtain ⟨free, hfree, -⟩ := service.desk.freeOn_eq_ok facility day
    have hfew := Desk.length_freeOn_le hconsistent hfree
    exact ⟨free, hfree, hfew, UInt16.toNat_ofNat_of_lt' (Nat.lt_of_le_of_lt hfew (by decide))⟩

end Service

end FacilityBooking
