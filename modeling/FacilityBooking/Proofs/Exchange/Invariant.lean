import FacilityBooking.Proofs.Exchange.Stations

/-!
# What every step preserves

Whatever happens, every station stays sound, and nothing arrives at the service but
copies that a caller sent from its own address.
-/

namespace FacilityBooking

namespace Station.Sound

variable {server : Address} {first : RequestIds} {genuine : Reception → Prop}
  {station : Station} {call : Call}

theorem begin (hsound : station.Sound server first genuine) (hidle : station.current = none)
    (request : Request) :
    Sound server first genuine
      { station with current := some ⟨station.caller, request, []⟩ } where
  server_eq := hsound.server_eq
  inbox := hsound.inbox
  ids_eq := hsound.ids_eq
  past_ids := hsound.past_ids
  past_heard := hsound.past_heard
  current call hcall := by
    cases hcall
    exact ⟨rfl, hsound.inbox, nofun⟩
  sent copy hcopy := by
    obtain ⟨call, hcall, hdatagram⟩ := hsound.sent copy hcopy
    rw [calls_of_idle hidle] at hcall
    exact ⟨call, List.mem_append_left _ hcall, hdatagram⟩

/-- The current call may hear more and send its copies. -/
theorem proceed (hsound : station.Sound server first genuine)
    (hcurrent : station.current = some call) {next : Call} (hheard : next.Heard genuine)
    (hcaller : next.caller = call.caller) (hrequest : next.request = call.request)
    {sent : List Bytes}
    (hsent : ∀ copy ∈ sent, copy ∈ station.sent ∨ call.datagram? = some copy) :
    Sound server first genuine { station with current := some next, sent } where
  server_eq := hsound.server_eq
  inbox := hsound.inbox
  ids_eq := hsound.ids_eq
  past_ids := hsound.past_ids
  past_heard := hsound.past_heard
  current other hother := by
    cases hother
    exact ⟨hcaller.trans (hsound.current call hcurrent).1, hheard⟩
  sent copy hcopy := by
    have hdatagram : next.datagram? = call.datagram? := by
      rw [Call.datagram?, Call.datagram?, hcaller, hrequest]
    have hnext : next ∈ station.past ++ [next] := List.mem_append_right _ (.head _)
    rcases hsent copy hcopy with hold | hcopy
    · obtain ⟨other, hother, hotherDatagram⟩ := hsound.sent copy hold
      rw [calls_of_current hcurrent] at hother
      rcases List.mem_append.mp hother with hpast | hother
      · exact ⟨other, List.mem_append_left _ hpast, hotherDatagram⟩
      · rw [List.mem_singleton.mp hother] at hotherDatagram
        exact ⟨next, hnext, hdatagram.trans hotherDatagram⟩
    · exact ⟨next, hnext, hdatagram.trans hcopy⟩

theorem finish (hsound : station.Sound server first genuine)
    (hcurrent : station.current = some call) :
    Sound server first genuine { station with
      caller := call.run.2.1
      current := none
      past := station.past ++ [call] } := by
  obtain ⟨hcaller, hheard⟩ := hsound.current call hcurrent
  have hsent : ∀ copy ∈ station.sent, ∃ other ∈ station.past ++ [call] ++ [],
      other.datagram? = some copy := by
    intro copy hcopy
    obtain ⟨other, hother, hdatagram⟩ := hsound.sent copy hcopy
    rw [calls_of_current hcurrent] at hother
    exact ⟨other, List.mem_append_left _ hother, hdatagram⟩
  have hpast : ∀ other ∈ station.past ++ [call],
      other.caller.server = server ∧ other.Heard genuine := by
    intro other hother
    rcases List.mem_append.mp hother with hother | hother
    · exact hsound.past_heard other hother
    · rw [List.mem_singleton.mp hother]
      exact ⟨by rw [hcaller, hsound.server_eq], hheard⟩
  cases hpayload : call.request.payload with
  | error cause =>
      obtain ⟨-, hid, hrun, -⟩ := Call.run_unencodable hpayload
      have hids : (station.past ++ [call]).filterMap Call.id? =
          station.past.filterMap Call.id? := by
        rw [List.filterMap_append, List.filterMap_cons, hid]
        exact List.append_nil _
      refine ⟨?_, ?_, ?_, ?_, hpast, nofun, hsent⟩
      · rw [hrun, hcaller]
        exact hsound.server_eq
      · exact Call.inbox_run hheard
      · rw [hrun, hcaller, taken, hids]
        exact hsound.ids_eq
      · rw [taken, hids]
        exact hsound.past_ids
  | ok payload =>
      obtain ⟨-, hid, hserver, hnext⟩ := Call.run_encodable hpayload
      have hids : (station.past ++ [call]).filterMap Call.id? =
          station.past.filterMap Call.id? ++ [(first.advance station.taken).draw.1] := by
        rw [List.filterMap_append, List.filterMap_cons, hid, hcaller, hsound.ids_eq]
        rfl
      have htaken : ((station.past ++ [call]).filterMap Call.id?).length = station.taken + 1 := by
        rw [hids, List.length_append]
        rfl
      refine ⟨?_, ?_, ?_, ?_, hpast, nofun, hsent⟩
      · rw [hserver, hcaller]
        exact hsound.server_eq
      · exact Call.inbox_run hheard
      · rw [taken, htaken, hnext, hcaller, hsound.ids_eq, RequestIds.advance_succ]
      · rw [taken, htaken, hids, hsound.past_ids, RequestIds.take_concat]

theorem wait (hsound : station.Sound server first genuine) (hidle : station.current = none)
    {reception : Reception} (hreception : genuine reception) :
    Sound server first genuine { station with
      caller := { station.caller with inbox := station.caller.inbox ++ [reception] } } where
  server_eq := hsound.server_eq
  inbox other hother := by
    rcases List.mem_append.mp hother with hother | hother
    · exact hsound.inbox other hother
    · rw [List.mem_singleton.mp hother]
      exact hreception
  ids_eq := hsound.ids_eq
  past_ids := hsound.past_ids
  past_heard := hsound.past_heard
  current call hcall := by
    rw [hidle] at hcall
    cases hcall
  sent := hsound.sent

end Station.Sound

namespace World

variable {ids : Address → RequestIds} {world next : World}

/-- Every station is sound, and what arrived at the service was sent. -/
structure Sound (ids : Address → RequestIds) (world : World) : Prop where
  stations : ∀ address, (world.stations address).Sound world.server (ids address)
    (world.Offers address)
  arrivals : ∀ copy address now, .arrival copy address now ∈ world.events →
    copy ∈ (world.stations address).sent

theorem sound_start (server : Address) (lifetime : Nat) (policy : Address → RetryPolicy)
    (ids : Address → RequestIds) : (start server lifetime policy ids).Sound ids where
  stations _ := ⟨rfl, nofun, rfl, rfl, nofun, nofun, nofun⟩
  arrivals _ _ _ harrival := nomatch harrival

theorem Sound.settle (hsound : world.Sound ids) {address : Address} {station : Station}
    (hstation : station.Sound world.server (ids address) (world.Offers address))
    (hsent : ∀ copy ∈ (world.stations address).sent, copy ∈ station.sent) :
    (world.settle address station).Sound ids where
  stations other := by
    by_cases hsame : other = address
    · subst hsame
      rw [stations_settle_self]
      exact hstation
    · rw [stations_settle_of_ne world hsame]
      exact hsound.stations other
  arrivals copy other now harrival := by
    have hold := hsound.arrivals copy other now harrival
    by_cases hsame : other = address
    · subst hsame
      rw [stations_settle_self]
      exact hsent copy hold
    · rw [stations_settle_of_ne world hsame]
      exact hold

theorem Sound.happen (hsound : world.Sound ids) {event : Event}
    (hevent : ∀ copy address now, event = .arrival copy address now →
      copy ∈ (world.stations address).sent) : (world.happen event).Sound ids where
  stations address := by
    apply (hsound.stations address).mono
    intro reception hoffers
    cases reception with
    | failure => trivial
    | datagram source bytes =>
        rcases hoffers with hother | ⟨moment, hmoment, hparcel⟩
        · exact .inl hother
        · refine .inr ⟨moment, ?_, hparcel⟩
          rw [history, World.happen, Service.history_concat]
          exact List.mem_append_left _ hmoment
  arrivals copy address now harrival := by
    rcases List.mem_append.mp harrival with hold | hnew
    · exact hsound.arrivals copy address now hold
    · exact hevent copy address now (List.mem_singleton.mp hnew).symm

/-- Every step preserves soundness. -/
theorem Sound.step (hsound : world.Sound ids) (hstep : world.Step next) : next.Sound ids := by
  cases hstep with
  | begin address request hidle =>
      exact hsound.settle ((hsound.stations address).begin hidle request) fun _ hcopy => hcopy
  | transmit address call copy hcurrent hcopy =>
      have hstation := hsound.stations address
      have hnothing : Attempt.Genuine (world.Offers address) (.ok []) := by
        intro receptions hreceptions
        cases hreceptions
        exact nofun
      have hheard := (hstation.current call hcurrent).2.tried hnothing
      refine hsound.settle (hstation.proceed hcurrent hheard rfl rfl ?_) ?_
      · intro other hother
        rcases List.mem_append.mp hother with hold | hnew
        · exact .inl hold
        · rw [List.mem_singleton.mp hnew]
          exact .inr (Call.datagram?_of_nextCopy? hcopy)
      · intro other hother
        exact List.mem_append_left _ hother
  | fail address call copy cause hcurrent hcopy =>
      have hstation := hsound.stations address
      have hnothing : Attempt.Genuine (world.Offers address) (.error cause) := nofun
      have hheard := (hstation.current call hcurrent).2.tried hnothing
      exact hsound.settle (hstation.proceed hcurrent hheard rfl rfl fun _ => .inl)
        fun _ hother => hother
  | finish address call hcurrent hdone =>
      exact hsound.settle ((hsound.stations address).finish hcurrent) fun _ hcopy => hcopy
  | hear address call arrived reception hcurrent hoffers =>
      have hstation := hsound.stations address
      have hheard := (hstation.current _ hcurrent).2
      have harrived := hheard.attempts (.ok arrived) (.head _) arrived rfl
      have hmore : Attempt.Genuine (world.Offers address) (.ok (arrived ++ [reception])) := by
        intro receptions hreceptions other hother
        cases hreceptions
        rcases List.mem_append.mp hother with hold | hnew
        · exact harrived other hold
        · rw [List.mem_singleton.mp hnew]
          exact hoffers
      have hbefore : call.Heard (world.Offers address) :=
        ⟨hheard.inbox, fun attempt hattempt => hheard.attempts attempt (.tail _ hattempt)⟩
      exact hsound.settle (hstation.proceed hcurrent (hbefore.tried hmore) rfl rfl fun _ => .inl)
        fun _ hother => hother
  | wait address reception hidle hoffers =>
      exact hsound.settle ((hsound.stations address).wait hidle hoffers) fun _ hcopy => hcopy
  | arrive address copy now hsent =>
      apply hsound.happen
      intro other peer time hevent
      cases hevent
      exact hsent
  | sweep now => exact hsound.happen nofun

end World

end FacilityBooking
