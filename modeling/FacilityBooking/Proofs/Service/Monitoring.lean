import FacilityBooking.Proofs.Service.Comparison
import FacilityBooking.Proofs.Service.Executions

/-!
# Watching from the side

Datagrams that ask to register a watch reach neither the desk nor what is kept for other
requests. So they change no reply to anyone else and no booking, with one exception: the
list of watches is limited, and who asks for a watch is told whether there was room.
-/

namespace FacilityBooking

/-! ## Extra requests to watch -/

namespace Event

/-- The key under which the request of an event is known. -/
def key? : Event → Option RequestKey
  | .sweep _ => none
  | .arrival datagram peer _ =>
      match Datagram.split datagram with
      | .error _ => none
      | .ok (header, _) => some ⟨peer, header.requestId⟩

/-- A datagram bears the code of a request to watch, whether or not the rest of it can be
read. -/
def AsksToWatch : Event → Prop
  | .sweep _ => False
  | .arrival datagram _ _ =>
      ∃ header, Header.decode datagram = .ok header ∧
        header.operation = Operation.monitor.code

/-- A datagram asks for a watch under a key that none of the given events uses. -/
def WatchesAside (events : List Event) (event : Event) : Prop :=
  event.AsksToWatch ∧ ∀ key, event.key? = some key → ∀ other ∈ events, other.key? ≠ some key

end Event

/-! ## Replies that tell about the room for watches -/

/-- Two replies to requests with one id: the same, or those to a request for a watch that is
registered at one service and refused for the number of watches at the other. -/
inductive RepliesAlike (id : UInt32) : Bytes → Bytes → Prop
  | same (reply : Bytes) : RepliesAlike id reply reply
  | crowdedOut {header : Header} (hid : header.requestId = id)
      (hmonitor : header.operation = Operation.monitor.code) :
      RepliesAlike id (header.replyTo (.ok { response := .monitoring }))
        (header.replyTo (.error (.refused (.limitExceeded .watches))))
  | letIn {header : Header} (hid : header.requestId = id)
      (hmonitor : header.operation = Operation.monitor.code) :
      RepliesAlike id (header.replyTo (.error (.refused (.limitExceeded .watches))))
        (header.replyTo (.ok { response := .monitoring }))

namespace Moment

/-- The reply to the datagram that arrives at a moment. -/
def reply? (moment : Moment) : Option Bytes :=
  match moment.event with
  | .sweep _ => none
  | .arrival datagram peer now => (moment.service.handle datagram peer now).1.reply?

/-- Two moments with one event, alike replies to it and equal desks after it. -/
structure AnsweredAlike (few many : Moment) : Prop where
  event : many.event = few.event
  reply : Option.Rel
    (fun first second => ∃ key, few.event.key? = some key ∧ RepliesAlike key.id first second)
    few.reply? many.reply?
  desk : (many.service.step many.event).desk = (few.service.step few.event).desk

end Moment

namespace Service

/-! ## Requests -/

variable {few many : Service} {header : Header} {payload datagram : Bytes} {peer : Address}
  {now : Nat}

/-- At equal desks a request has outcomes that are answered alike, and leaves equal desks. -/
theorem execute_alike (hdesk : many.desk = few.desk) (header : Header) (payload : Bytes)
    (peer : Address) (now : Nat) :
    RepliesAlike header.requestId
        (header.replyTo (few.execute header payload peer now).1)
        (header.replyTo (many.execute header payload peer now).1) ∧
      (many.execute header payload peer now).2.desk =
        (few.execute header payload peer now).2.desk := by
  rcases malformed_or_request header payload with ⟨cause, hmalformed⟩ | ⟨request, hcode, hrequest⟩
  · rw [hmalformed, hmalformed]
    exact ⟨.same _, hdesk⟩
  · rw [hrequest, hrequest]
    by_cases hmonitor : request.operation = .monitor
    · rw [perform_monitor_desk few hmonitor, perform_monitor_desk many hmonitor]
      refine ⟨?_, hdesk⟩
      rw [hmonitor] at hcode
      cases request with
      | monitor facility seconds port =>
          simp only [perform, watch_eq]
          cases watchFault? facility seconds port with
          | some rejection => exact .same _
          | none =>
              dsimp only
              split
              · split
                · exact .same _
                · exact .letIn rfl hcode
              · split
                · exact .crowdedOut rfl hcode
                · exact .same _
      | _ => cases hmonitor
    · obtain ⟨hfew, hmany⟩ := perform_of_desk hdesk hmonitor peer now
      rw [hmany]
      exact ⟨.same _, rfl⟩

/-- A datagram that asks for a watch changes neither the desk nor what is kept under any
other key. -/
theorem step_of_asksToWatch {event : Event} (hasks : event.AsksToWatch) (service : Service) :
    (service.step event).desk = service.desk ∧
      ∀ key, event.key? ≠ some key →
        (service.step event).cache.entries[key]? = service.cache.entries[key]? := by
  cases event with
  | sweep now => cases hasks
  | arrival datagram peer now =>
      rw [step]
      rcases service.arrival_cases datagram peer now with
        ⟨cause, hsplit⟩ | ⟨header, payload, reply, hsplit, hkept⟩ |
        ⟨header, payload, hsplit, hunkept⟩
      · rw [handle_malformed hsplit]
        exact ⟨rfl, fun _ _ => rfl⟩
      · rw [handle_kept hsplit hkept]
        exact ⟨rfl, fun _ _ => rfl⟩
      · obtain ⟨found, hdecode, hoperation⟩ := hasks
        have hfound : found = header :=
          Except.ok.inj (hdecode.symm.trans (Datagram.decode_of_split hsplit).1)
        rw [hfound] at hoperation
        rw [handle_executed hsplit hunkept]
        constructor
        · rcases malformed_or_request header payload with
            ⟨cause, hmalformed⟩ | ⟨request, hcode, hrequest⟩
          · rw [hmalformed]
          · have hmonitor : request.operation = .monitor :=
              Operation.code_injective (hcode.symm.trans hoperation)
            rw [hrequest]
            exact perform_monitor_desk service hmonitor peer now
        · intro key hkey
          simp only [Event.key?, hsplit] at hkey
          dsimp only
          split
          · rw [ReplyCache.getElem?_insert, if_neg fun heq => hkey (congrArg some heq)]
          · rfl

/-! ## Services that differ in their watches -/

/-- Two kept replies that are alike and kept equally long. -/
structure KeptAlike (id : UInt32) (few many : KeptReply) : Prop where
  expiry : many.expiry = few.expiry
  reply : RepliesAlike id few.reply many.reply

/-- Two services with equal desks and alike replies under the keys of some kind, whatever
their watches are. -/
structure Aligned (used : RequestKey → Prop) (few many : Service) : Prop where
  desk : many.desk = few.desk
  switch : many.atMostOnce = few.atMostOnce
  lifetime : many.cache.lifetime = few.cache.lifetime
  kept : ∀ key, used key →
    Option.Rel (KeptAlike key.id) few.cache.entries[key]? many.cache.entries[key]?

namespace Aligned

variable {used : RequestKey → Prop}

theorem refl (used : RequestKey → Prop) (service : Service) : Aligned used service service where
  desk := rfl
  switch := rfl
  lifetime := rfl
  kept key _ := by
    cases service.cache.entries[key]? with
    | none => exact .none
    | some kept => exact .some ⟨rfl, .same _⟩

theorem kept?_alike (haligned : Aligned used few many) (hused : used ⟨peer, header.requestId⟩)
    (now : Nat) :
    Option.Rel (RepliesAlike header.requestId)
      (few.kept? header peer now) (many.kept? header peer now) := by
  have hkept := haligned.kept _ hused
  rw [kept?, kept?, remembers, remembers, haligned.switch, ReplyCache.get?, ReplyCache.get?]
  generalize few.cache.entries[(⟨peer, header.requestId⟩ : RequestKey)]? = first at hkept
  generalize many.cache.entries[(⟨peer, header.requestId⟩ : RequestKey)]? = second at hkept
  split
  · cases hkept with
    | none => exact .none
    | some hboth =>
        dsimp only
        rw [hboth.expiry]
        split
        · exact .some hboth.reply
        · exact .none
  · exact .none

/-- A request for a watch under another key leaves the services aligned. -/
theorem added (haligned : Aligned used few many) {event : Event} (hasks : event.AsksToWatch)
    (hkey : ∀ key, event.key? = some key → ¬ used key) : Aligned used few (many.step event) where
  desk := (step_of_asksToWatch hasks many).1.trans haligned.desk
  switch := (step_atMostOnce many event).trans haligned.switch
  lifetime := (step_lifetime many event).trans haligned.lifetime
  kept key hused := by
    rw [(step_of_asksToWatch hasks many).2 key fun heq => hkey key heq hused]
    exact haligned.kept key hused

/-- A sweep leaves the services aligned. -/
theorem sweep (haligned : Aligned used few many) (now : Nat) :
    Aligned used (few.step (.sweep now)) (many.step (.sweep now)) where
  desk := haligned.desk
  switch := haligned.switch
  lifetime := haligned.lifetime
  kept key hused := by
    have hkept := haligned.kept key hused
    rw [sweep_entry, sweep_entry]
    generalize few.cache.entries[key]? = first at hkept
    generalize many.cache.entries[key]? = second at hkept
    cases hkept with
    | none => exact .none
    | some hboth =>
        simp only [Option.filter, hboth.expiry]
        split
        · exact .some hboth
        · exact .none

/-- An execution at both services is answered alike and leaves them aligned. -/
theorem executed (haligned : Aligned used few many)
    (hsplit : Datagram.split datagram = .ok (header, payload))
    (hfew : few.kept? header peer now = none) (hmany : many.kept? header peer now = none) :
    Moment.AnsweredAlike ⟨few, .arrival datagram peer now⟩ ⟨many, .arrival datagram peer now⟩ ∧
      Aligned used (few.step (.arrival datagram peer now))
        (many.step (.arrival datagram peer now)) := by
  obtain ⟨halike, hdesk⟩ := execute_alike haligned.desk header payload peer now
  have hremembers : many.remembers header = few.remembers header := by
    rw [remembers, remembers, haligned.switch]
  refine ⟨⟨rfl, ?_, ?_⟩, ?_, ?_, ?_, ?_⟩
  · simp only [Moment.reply?, handle_executed hsplit hfew, handle_executed hsplit hmany,
      Verdict.reply?, answerTo, answer_reply]
    exact .some ⟨⟨peer, header.requestId⟩, by simp only [Event.key?, hsplit], halike⟩
  · simp only [step, handle_executed hsplit hfew, handle_executed hsplit hmany]
    exact hdesk
  · simp only [step, handle_executed hsplit hfew, handle_executed hsplit hmany]
    exact hdesk
  · rw [step_atMostOnce, step_atMostOnce, haligned.switch]
  · rw [step_lifetime, step_lifetime, haligned.lifetime]
  · intro key hkey
    simp only [step, handle_executed hsplit hfew, handle_executed hsplit hmany, hremembers,
      answerTo, answer_reply]
    split
    · rw [ReplyCache.getElem?_insert, ReplyCache.getElem?_insert, haligned.lifetime]
      split
      · next hsame =>
          subst hsame
          exact .some ⟨rfl, halike⟩
      · exact haligned.kept key hkey
    · exact haligned.kept key hkey

/-- A datagram under a key in use is answered alike and leaves the services aligned. -/
theorem arrival (haligned : Aligned used few many) (datagram : Bytes) (peer : Address)
    (now : Nat) (hused : ∀ key, (Event.arrival datagram peer now).key? = some key → used key) :
    Moment.AnsweredAlike ⟨few, .arrival datagram peer now⟩ ⟨many, .arrival datagram peer now⟩ ∧
      Aligned used (few.step (.arrival datagram peer now))
        (many.step (.arrival datagram peer now)) := by
  cases hsplit : Datagram.split datagram with
  | error cause =>
      refine ⟨⟨rfl, ?_, ?_⟩, ?_⟩
      · simp only [Moment.reply?, handle_malformed hsplit, Verdict.reply?]
        exact .none
      · simp only [step, handle_malformed hsplit]
        exact haligned.desk
      · simp only [step, handle_malformed hsplit]
        exact haligned
  | ok request =>
      obtain ⟨header, payload⟩ := request
      have hkey : (Event.arrival datagram peer now).key? = some ⟨peer, header.requestId⟩ := by
        simp only [Event.key?, hsplit]
      have hkept := haligned.kept?_alike (hused _ hkey) now
      generalize hfew : few.kept? header peer now = first at hkept
      generalize hmany : many.kept? header peer now = second at hkept
      cases hkept with
      | none => exact haligned.executed hsplit hfew hmany
      | some halike =>
          refine ⟨⟨rfl, ?_, ?_⟩, ?_⟩
          · simp only [Moment.reply?, handle_kept hsplit hfew, handle_kept hsplit hmany,
              Verdict.reply?]
            exact .some ⟨_, hkey, halike⟩
          · simp only [step, handle_kept hsplit hfew, handle_kept hsplit hmany]
            exact haligned.desk
          · simp only [step, handle_kept hsplit hfew, handle_kept hsplit hmany]
            exact haligned

/-! ## Runs -/

variable {fewer more : List Event}

/-- Aligned services stay aligned, whatever watches the second one is asked for under keys
of its own. -/
theorem history (haligned : Aligned used few many) {extra : Event → Prop}
    (hmore : Interspersed Eq extra fewer more)
    (hextra : ∀ event, extra event → event.AsksToWatch ∧
      ∀ key, event.key? = some key → ¬ used key)
    (hused : ∀ event ∈ fewer, ∀ key, event.key? = some key → used key) :
    Interspersed Moment.AnsweredAlike (fun moment => extra moment.event)
      (few.history fewer) (many.history more) := by
  -- Only the second service takes a step for an added event, so the watches drift apart;
  -- desks and replies under the keys in use do not.
  induction hmore generalizing few many with
  | nil => exact .nil
  | @shared event _ fewer more heq hrest ih =>
      subst heq
      obtain ⟨hfirst, hlater⟩ := List.forall_mem_cons.mp hused
      cases event with
      | sweep now =>
          exact .shared ⟨rfl, .none, haligned.desk⟩ (ih (haligned.sweep now) hlater)
      | arrival datagram peer now =>
          obtain ⟨hanswered, hafter⟩ := haligned.arrival datagram peer now hfirst
          exact .shared hanswered (ih hafter hlater)
  | added hadded hrest ih =>
      obtain ⟨hasks, hkey⟩ := hextra _ hadded
      exact .added hadded (ih (haligned.added hasks hkey) hused)

end Aligned

/-! ## A full list -/

/-- A datagram that does not ask for at most one execution has no kept reply. -/
theorem kept?_of_forgotten (hflag : header.isAtMostOnce = false) (service : Service)
    (peer : Address) (now : Nat) : service.kept? header peer now = none := by
  rw [kept?, remembers, hflag, Bool.and_false]
  rfl

/-- Requests for a watch fill the list one by one. -/
theorem size_after_replicate {facility : String} {seconds port : UInt32} {service : Service}
    (hsplit : Datagram.split datagram = .ok (header, payload))
    (hflag : header.isAtMostOnce = false)
    (hwatch : ∀ service : Service, service.execute header payload peer now =
      service.watch facility seconds port peer now)
    (hfault : watchFault? facility seconds port = none) {count : Nat}
    (hroom : service.watches.size + count ≤ Limits.watches) :
    (service.after (List.replicate count (.arrival datagram peer now))).watches.size =
      service.watches.size + count := by
  induction count generalizing service with
  | zero => rfl
  | succ count ih =>
      have hnext : (service.step (.arrival datagram peer now)).watches.size =
          service.watches.size + 1 := by
        rw [step, handle_executed hsplit (kept?_of_forgotten hflag service peer now), hwatch,
          watch_eq, hfault]
        dsimp only
        rw [if_neg (by omega)]
        exact Array.size_push _
      rw [List.replicate_succ, after_cons, ih (by omega), hnext]
      omega

/-- A request to watch a facility for a minute, which is not to be remembered. -/
def watchRequest : Bytes :=
  Datagram.frame ⟨1, 4, 7, 0, 0⟩ [0, 1, 65, 0, 0, 0, 60, 0, 0, 19, 136]

theorem split_watchRequest :
    Datagram.split watchRequest =
      .ok (⟨1, 4, 7, 0, 11⟩, [0, 1, 65, 0, 0, 0, 60, 0, 0, 19, 136]) := by decide

theorem execute_watchRequest (service : Service) (peer : Address) (now : Nat) :
    service.execute ⟨1, 4, 7, 0, 11⟩ [0, 1, 65, 0, 0, 0, 60, 0, 0, 19, 136] peer now =
      service.watch "A" 60 5000 peer now := by
  have hdecode : Request.decode .monitor [0, 1, 65, 0, 0, 0, 60, 0, 0, 19, 136] =
      .ok (.monitor "A" 60 5000) := by decide
  exact execute_of_decode rfl rfl hdecode

/-- The request as it arrives from a host. -/
def watching (host : String) : Event :=
  .arrival watchRequest ⟨host, 4242⟩ 0

/-- The reply to the request tells whether there was room. -/
theorem reply?_watching (service : Service) (host : String) :
    Moment.reply? ⟨service, watching host⟩ =
      some (Header.replyTo ⟨1, 4, 7, 0, 11⟩ (if Limits.watches ≤ service.watches.size then
        .error (.refused (.limitExceeded .watches)) else .ok { response := .monitoring })) := by
  have hfault : watchFault? "A" 60 5000 = none := by decide
  have hflag : Header.isAtMostOnce ⟨1, 4, 7, 0, 11⟩ = false := by decide
  have hunkept := kept?_of_forgotten hflag service ⟨host, 4242⟩ 0
  simp only [Moment.reply?, watching, handle_executed split_watchRequest hunkept, Verdict.reply?,
    answerTo, answer_reply, execute_watchRequest, watch_eq, hfault]
  split <;> rfl

/-- The request of one host is aside from that of another. -/
theorem watchesAside_watching {host other : String} (hother : host ≠ other) :
    (watching other).WatchesAside [watching host] := by
  refine ⟨⟨_, (Datagram.decode_of_split split_watchRequest).1, rfl⟩, ?_⟩
  simpa [watching, Event.key?, split_watchRequest] using hother

/-! ## Requests to watch on the side -/

/-- Any number of requests to watch, at any places and under keys of their own, change no
booking and no reply, but that other requests to watch may find the list full or not full
any more. -/
theorem watching_apart (service : Service) {fewer more : List Event}
    (hmore : Interspersed Eq (Event.WatchesAside fewer) fewer more) :
    Interspersed Moment.AnsweredAlike (fun moment => moment.event.WatchesAside fewer)
      (service.history fewer) (service.history more) := by
  refine (Aligned.refl (fun key => ∃ event ∈ fewer, event.key? = some key) service).history hmore
    ?_ ?_
  · rintro event ⟨hasks, hkey⟩
    refine ⟨hasks, fun key hevent => ?_⟩
    rintro ⟨other, hother, hused⟩
    exact hkey key hevent other hother hused
  · exact fun event hevent key hkey => ⟨event, hevent, hkey⟩

theorem watched_from_two_hosts :
    Interspersed Moment.AnsweredAlike
      (fun moment => moment.event.WatchesAside [watching "10.0.0.8"])
      ((new 5 true).history [watching "10.0.0.8"])
      ((new 5 true).history [watching "10.0.0.9", watching "10.0.0.8"]) :=
  watching_apart (new 5 true) (.added (watchesAside_watching (by decide)) (.shared rfl .nil))

/-- Ten thousand watches of one host leave no room for that of another. -/
theorem watch_crowded_out :
    Interspersed Eq (Event.WatchesAside [watching "10.0.0.8"]) [watching "10.0.0.8"]
        (List.replicate 10000 (watching "10.0.0.9") ++ [watching "10.0.0.8"]) ∧
      ¬ Interspersed (fun few many => many.reply? = few.reply?)
        (fun moment => moment.event.WatchesAside [watching "10.0.0.8"])
        ((new 5 true).history [watching "10.0.0.8"])
        ((new 5 true).history
          (List.replicate 10000 (watching "10.0.0.9") ++ [watching "10.0.0.8"])) := by
  constructor
  · exact (Interspersed.shared rfl .nil).replicate_append 10000 (watchesAside_watching (by decide))
  · intro halike
    rw [history_concat] at halike
    have hreply := halike.agree_last fun haside =>
      haside.2 _ rfl _ (.head _) rfl
    have hfull : ((new 5 true).after
        (List.replicate 10000 (watching "10.0.0.9"))).watches.size = 10000 :=
      size_after_replicate split_watchRequest (by decide)
        (fun service => execute_watchRequest service _ _) (by decide) (by decide)
    rw [reply?_watching, reply?_watching, hfull] at hreply
    revert hreply
    decide

end Service

end FacilityBooking
