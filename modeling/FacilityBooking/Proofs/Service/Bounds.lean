import FacilityBooking.Proofs.Desk.Room
import FacilityBooking.Proofs.Service.Openings

/-!
# Bounds of a service

Whatever datagrams arrive at a service, it never holds more facilities than it may, nor
names that are longer than they may be. A caller who reads that there are too many
facilities has asked for one that is not open, while as many are open as may be, and so it
stays.
-/

namespace FacilityBooking

/-- What a desk holds never exceeds its bounds. -/
structure Desk.Bounded (desk : Desk) : Prop where
  few : desk.ledger.timetables.size ≤ 10000
  facilities : ∀ (facility : String) (timetable : Timetable),
    desk.ledger.timetables[facility]? = some timetable →
      timetable.facility = facility ∧ 1 ≤ facility.utf8ByteSize ∧ facility.utf8ByteSize ≤ 256
  users : ∀ (id : BookingId) (booking : Booking), desk.ledger.bookings[id]? = some booking →
    1 ≤ booking.user.utf8ByteSize ∧ booking.user.utf8ByteSize ≤ 256
  numbers : ∀ (id : BookingId) (booking : Booking), desk.ledger.bookings[id]? = some booking →
    booking.id = id ∧ 1 ≤ id ∧ id ≤ desk.ledger.nextId - 1
  counted : ∀ facility ∈ desk.usage, facility ∈ desk.ledger.timetables

theorem Desk.run_bounded (actions : List Action) : (empty.run actions).Bounded := by
  have hconsistent : (empty.run actions).ledger.Consistent :=
    run_consistent Ledger.consistent_empty actions
  have horderly := run_orderly actions
  have hnamed := run_wellNamed actions
  generalize empty.run actions = desk at *
  exact {
    few := horderly.few
    facilities := fun facility timetable htimetable => by
      have hopen : facility ∈ desk.ledger.timetables :=
        Std.ExtTreeMap.mem_iff_isSome_getElem?.mpr (htimetable ▸ rfl)
      obtain ⟨hname, hshort⟩ := horderly.nameable facility hopen
      refine ⟨hnamed.headed facility timetable htimetable, ?_, hshort⟩
      rw [Nat.one_le_iff_ne_zero, Ne, ← String.isEmpty_iff_utf8ByteSize_eq_zero, hname]
      exact Bool.false_ne_true
    users := hnamed.users
    numbers := fun id booking hbooking => by
      have hissued := hconsistent.issued id booking hbooking
      exact ⟨hconsistent.numbered id booking hbooking, hissued.1, Int.le_sub_one_of_lt hissued.2⟩
    counted := horderly.counted }

/-! ## Errors that are told -/

/-- Whoever reads the datagram learns of an error. -/
def Datagram.TellsError (datagram : Bytes) (error : ErrorReply) : Prop :=
  ∃ header payload, split datagram = .ok (header, payload) ∧ header.isError = true ∧
    ErrorReply.decode payload = .ok error

/-- The bytes that answer a request tell an error exactly if it is rejected for it. -/
theorem Faithful.tellsError_iff {header : Header} {outcome : Except Rejection Execution}
    (hfaithful : Faithful header outcome) {error : ErrorReply} :
    Datagram.TellsError (header.replyTo outcome) error ↔
      ∃ rejection, outcome = .error rejection ∧ rejection.reply = error := by
  cases hfaithful with
  | @rejected rejection hordinary =>
      obtain ⟨marked, hcomplete, hmask, -, -, hread⟩ := header.replyTo_rejected hordinary
      have hdecode : ErrorReply.decode rejection.reply.bytes = .ok rejection.reply :=
        FieldReader.value?_eq_ok_iff.mpr ⟨[], hread⟩
      constructor
      · rintro ⟨found, payload, hsplit, -, htold⟩
        cases hcomplete.split_eq.symm.trans hsplit
        cases hdecode.symm.trans htold
        exact ⟨rejection, rfl, rfl⟩
      · rintro ⟨_, hsame, rfl⟩
        cases hsame
        exact ⟨marked, _, hcomplete.split_eq, Header.isError_of_mask hmask, hdecode⟩
  | carriedOut hcode hfits =>
      obtain ⟨marked, hcomplete, hmarked, -⟩ := Header.replyTo_carriedOut hcode hfits
      constructor
      · rintro ⟨found, payload, hsplit, herror, -⟩
        cases hcomplete.split_eq.symm.trans hsplit
        exact absurd herror (Bool.eq_false_iff.mp (Header.isError_of_code hmarked))
      · rintro ⟨rejection, hrejection, -⟩
        cases hrejection

/-- The error that a caller is told when there is no room for one more facility. -/
def ErrorReply.tooManyFacilities : ErrorReply :=
  ⟨.badRequest, "limit exceeded: too many facilities"⟩

/-- A text begins with a letter other than the given one. -/
def Text.BeginsOff (letter : Char) (text : String) : Prop :=
  ∃ first, text.toList.head? = some first ∧ first ≠ letter

instance (letter : Char) (text : String) : Decidable (Text.BeginsOff letter text) :=
  decidable_of_iff (text.toList.head?.any (· ≠ letter) = true) (by
    simp [Text.BeginsOff, Option.any_eq_true])

theorem Text.BeginsOff.append {letter : Char} {text : String} (hbegins : BeginsOff letter text)
    (rest : String) : BeginsOff letter (text ++ rest) := by
  obtain ⟨first, hfirst, hne⟩ := hbegins
  refine ⟨first, ?_, hne⟩
  rw [String.toList_append, List.head?_append, hfirst, Option.some_or]

theorem InvalidTime.beginsOff_message (cause : InvalidTime) :
    Text.BeginsOff 'l' cause.message := by
  cases cause with
  | day value | hour value | minute value => exact .append (by decide) _
  | outsideWeek minute => exact .append (.append (.append (.append (by decide) _) _) _) _

theorem FormatError.beginsOff_message (cause : FormatError) :
    Text.BeginsOff 'l' cause.message := by
  cases cause with
  | truncated | payloadLength =>
      exact .append (.append (.append (.append (by decide) _) _) _) _
  | textTooLong length => exact .append (.append (by decide) _) _
  | invalidText => decide
  | invalidTime cause => exact cause.beginsOff_message
  | unsupportedVersion | unknownOperation => exact .append (by decide) _
  | unexpectedOperation expected actual => exact .append (.append (.append (by decide) _) _) _

/-- Only what is said about limits begins with this letter. -/
theorem Refusal.beginsOff_message {cause : Refusal}
    (hother : ∀ limit, cause ≠ .limitExceeded limit) : Text.BeginsOff 'l' cause.message := by
  cases cause with
  | notFound | conflict | internal => exact .append (by decide) _
  | outsideWeek | emptySpan => exact .append (.append (.append (.append (by decide) _) _) _) _
  | emptyName holder => cases holder <;> decide
  | limitExceeded limit => exact absurd rfl (hother limit)

/-- No other rejection is told in the same words. -/
theorem Rejection.eq_of_tooManyFacilities {rejection : Rejection}
    (hreply : rejection.reply = .tooManyFacilities) :
    rejection = .refused (.limitExceeded .facilities) := by
  have hbegins : ¬ Text.BeginsOff 'l' rejection.reply.message := by
    rw [hreply]
    decide
  cases rejection with
  | refused cause =>
      by_cases hlimit : ∃ limit, cause = .limitExceeded limit
      · obtain ⟨limit, rfl⟩ := hlimit
        cases limit with
        | facilities => rfl
        | _ => exact absurd hreply (by decide)
      · exact absurd (Refusal.beginsOff_message (not_exists.mp hlimit)) hbegins
  | malformed cause => exact absurd cause.beginsOff_message hbegins
  | portOutOfRange | watchTooLong =>
      exact absurd (Text.BeginsOff.append (.append (by decide) _) _) hbegins

namespace Service

variable {service : Service} {datagram payload : Bytes} {header : Header} {peer : Address}
  {now : Nat} {request : Request} {action : Action}

/-! ## Refusals for the number of facilities -/

/-- A request is refused for an ordinary reason only if its action is. -/
theorem step_refused_of_perform {refusal : Refusal} (haction : request.action? = some action)
    (hordinary : refusal.Ordinary)
    (hperformed : (service.perform request peer now).1 = .error (.refused refusal)) :
    (service.desk.step action).1 = some refusal := by
  cases hstep : (service.desk.step action).1 with
  | some other =>
      rw [perform_of_refused haction hstep] at hperformed
      cases hperformed
      rfl
  | none =>
      exfalso
      cases request with
      | monitor facility seconds port => cases haction
      | changeBooking booking offset =>
          cases haction
          obtain ⟨shift, hshift⟩ : ∃ shift,
              (service.desk.change booking.toInt offset.toInt).1 = .ok shift :=
            Desk.refusal?_eq_none_iff.mp hstep
          simp only [perform, hshift, Shift.interval] at hperformed
          cases hinterval : Interval.ofSpan shift.target with
          | error cause =>
              rw [hinterval] at hperformed
              cases hperformed
              exact hordinary
          | ok interval =>
              rw [hinterval] at hperformed
              cases hperformed
      | queryAvailability facility day =>
          cases haction
          obtain ⟨free, hfree⟩ : ∃ free, (service.desk.queryDay facility day).1 = .ok free :=
            Desk.refusal?_eq_none_iff.mp hstep
          simp only [perform, hfree, reduceCtorEq] at hperformed
      | book facility user start stop =>
          cases haction
          obtain ⟨id, hid⟩ : ∃ id, (service.desk.book facility user start stop).1 = .ok id :=
            Desk.refusal?_eq_none_iff.mp hstep
          simp only [perform, hid, reduceCtorEq] at hperformed
      | resetDay facility day =>
          cases haction
          obtain ⟨removed, hremoved⟩ :
              ∃ removed, (service.desk.resetDay facility day).1 = .ok removed :=
            Desk.refusal?_eq_none_iff.mp hstep
          simp only [perform, hremoved, reduceCtorEq] at hperformed
      | incrementUsage facility =>
          cases haction
          obtain ⟨count, hcount⟩ :
              ∃ count, (service.desk.incrementUsage facility).1 = .ok count :=
            Desk.refusal?_eq_none_iff.mp hstep
          simp only [perform, hcount, reduceCtorEq] at hperformed

theorem register_ne_no_room (list : WatchList) (target : Address) (facility : String)
    (duration now : Nat) :
    list.register target facility duration now ≠ .error (.limitExceeded .facilities) := by
  unfold WatchList.register
  split
  · nofun
  · split <;> nofun

/-- A facility that is watched is none of those that are counted. -/
theorem watch_ne_no_room (service : Service) (facility : String) (seconds port : UInt32)
    (peer : Address) (now : Nat) : (service.watch facility seconds port peer now).1 ≠
      .error (.refused (.limitExceeded .facilities)) := by
  unfold watch
  split
  · nofun
  · split
    · nofun
    · dsimp only
      split
      · next cause hregister =>
          rintro ⟨⟩
          exact register_ne_no_room _ _ _ _ _ hregister
      · nofun

theorem crowded_of_perform (hconsistent : service.desk.ledger.Consistent)
    (horderly : service.desk.Orderly) (hperformed : (service.perform request peer now).1 =
      .error (.refused (.limitExceeded .facilities))) :
    ∃ facility, request.facility? = some facility ∧ service.desk.Crowded facility := by
  cases haction : request.action? with
  | none =>
      cases request with
      | monitor facility seconds port =>
          exact absurd hperformed (watch_ne_no_room service facility seconds port peer now)
      | _ => cases haction
  | some action =>
      obtain ⟨facility, hnamed, hcrowded⟩ := Desk.crowded_of_step hconsistent horderly
        (step_refused_of_perform haction trivial hperformed)
      exact ⟨facility, (Request.facility?_of_action? haction).symm.trans hnamed, hcrowded⟩

/-- A reply that tells of too many facilities answers a request that names one for which
there is no room. -/
theorem crowded_of_answer (hconsistent : service.desk.ledger.Consistent)
    (horderly : service.desk.Orderly)
    (hsplit : Datagram.split datagram = .ok (header, payload))
    (hunkept : service.kept? header peer now = none)
    (htells : Datagram.TellsError (service.answerTo header payload peer now).2.1
      .tooManyFacilities) :
    ∃ request facility, service.executed? datagram peer now = some request ∧
      request.facility? = some facility ∧ service.desk.Crowded facility := by
  rw [answerTo, answer_reply, (faithful_execute hconsistent hsplit peer now).tellsError_iff]
    at htells
  obtain ⟨rejection, hrejected, hreply⟩ := htells
  obtain rfl := Rejection.eq_of_tooManyFacilities hreply
  cases hexecuted : service.executed? datagram peer now with
  | none =>
      obtain ⟨cause, hmalformed⟩ := malformed_of_not_executed? hsplit hunkept hexecuted
      rw [hmalformed] at hrejected
      cases hrejected
  | some request =>
      obtain ⟨_, _, hfound, -, -, hexecute⟩ := executed?_eq_some hexecuted
      cases hsplit.symm.trans hfound
      rw [hexecute] at hrejected
      obtain ⟨facility, hnamed, hcrowded⟩ := crowded_of_perform hconsistent horderly hrejected
      exact ⟨request, facility, rfl, hnamed, hcrowded⟩

/-! ## Runs -/

theorem after_bounded (lifetime : Nat) (switch : Bool) (events : List Event) :
    ((new lifetime switch).after events).desk.Bounded := by
  rw [after_desk]
  exact Desk.run_bounded _

/-- There is never room again for a facility for which there is none. -/
theorem crowded_after {facility : String} (hconsistent : service.desk.ledger.Consistent)
    (hcrowded : service.desk.Crowded facility) (events : List Event) :
    (service.after events).desk.Crowded facility := by
  rw [after_desk]
  exact hcrowded.run hconsistent _

/-- A kept reply that tells of too many facilities tells what was so when it was given for
the first time, and still is. -/
theorem crowded_of_kept {lifetime : Nat} {switch : Bool} {events : List Event} {reply : Bytes}
    (hkept : ((new lifetime switch).after events).kept? header peer now = some reply)
    (htells : Datagram.TellsError reply .tooManyFacilities) :
    ∃ moment ∈ (new lifetime switch).history events, ∃ first start request facility,
      moment.event = .arrival first peer start ∧
      moment.service.executed? first peer start = some request ∧
      request.facility? = some facility ∧ moment.service.desk.Crowded facility ∧
      ((new lifetime switch).after events).desk.Crowded facility := by
  obtain ⟨-, -, start, -, before, moment, later, hhistory, hexecution, -⟩ :=
    (kept?_eq_some_iff ..).mp hkept
  obtain ⟨first, asked, payload, hevent, hsplit, -, -, hunkept, rfl⟩ :=
    Moment.execution?_eq_some hexecution
  obtain ⟨events', rest, rfl, hservice, -⟩ := history_eq_append hhistory
  have hconsistent := after_consistent lifetime switch events'
  have horderly := after_orderly lifetime switch events'
  rw [← hservice] at hconsistent horderly
  obtain ⟨request, facility, hexecuted, hnamed, hcrowded⟩ :=
    crowded_of_answer hconsistent horderly hsplit hunkept htells
  refine ⟨moment, ?_, first, start, request, facility, hevent, hexecuted, hnamed, hcrowded, ?_⟩
  · rw [hhistory]
    exact List.mem_append_right _ (.head _)
  · rw [after_append, ← hservice]
    exact crowded_after hconsistent hcrowded _

/-- In every state that a service can reach, its desk keeps its bounds; a facility that is
open is open in every later state; and a reply tells of too many facilities only if the
request that it answers names one that is not open, while 10,000 others are. That is so even
if the reply is repeated: it was so when the request was executed, and it still is. -/
theorem resources_bounded (lifetime : Nat) (switch : Bool) (events : List Event) :
    ((new lifetime switch).after events).desk.Bounded ∧
    (∀ facility ∈ ((new lifetime switch).after events).desk.ledger.timetables,
      ∀ later, facility ∈
        (((new lifetime switch).after events).after later).desk.ledger.timetables) ∧
    (∀ datagram peer now operation failure reply notices,
      (((new lifetime switch).after events).handle datagram peer now).1 =
        .executed operation failure reply notices →
      Datagram.TellsError reply .tooManyFacilities →
      ∃ request facility,
        ((new lifetime switch).after events).executed? datagram peer now = some request ∧
        request.facility? = some facility ∧
        ((new lifetime switch).after events).desk.Crowded facility) ∧
    ∀ datagram peer now operation reply,
      (((new lifetime switch).after events).handle datagram peer now).1 =
        .replayed operation reply →
      Datagram.TellsError reply .tooManyFacilities →
      ∃ moment ∈ (new lifetime switch).history events, ∃ first start request facility,
        moment.event = .arrival first peer start ∧
        moment.service.executed? first peer start = some request ∧
        request.facility? = some facility ∧ moment.service.desk.Crowded facility ∧
        ((new lifetime switch).after events).desk.Crowded facility := by
  have hconsistent := after_consistent lifetime switch events
  have horderly := after_orderly lifetime switch events
  refine ⟨after_bounded lifetime switch events,
    fun facility hopen => mem_after_of_mem hconsistent hopen, ?_, ?_⟩
  · intro datagram peer now operation failure reply notices hverdict htells
    rcases ((new lifetime switch).after events).arrival_cases datagram peer now with
      ⟨cause, hsplit⟩ | ⟨header, payload, kept, hsplit, hkept⟩ | ⟨header, payload, hsplit, hunkept⟩
    · rw [handle_malformed hsplit] at hverdict
      cases hverdict
    · rw [handle_kept hsplit hkept] at hverdict
      cases hverdict
    · rw [handle_executed hsplit hunkept] at hverdict
      cases hverdict
      exact crowded_of_answer hconsistent horderly hsplit hunkept htells
  · intro datagram peer now operation reply hverdict htells
    rcases ((new lifetime switch).after events).arrival_cases datagram peer now with
      ⟨cause, hsplit⟩ | ⟨header, payload, kept, hsplit, hkept⟩ | ⟨header, payload, hsplit, hunkept⟩
    · rw [handle_malformed hsplit] at hverdict
      cases hverdict
    · rw [handle_kept hsplit hkept] at hverdict
      cases hverdict
      exact crowded_of_kept hkept htells
    · rw [handle_executed hsplit hunkept] at hverdict
      cases hverdict

end Service

end FacilityBooking
