import FacilityBooking.Proofs.Service.Actions

/-!
# Facilities that requests open

Whichever request names a facility and succeeds, the facility is open afterwards and stays
so, unless the request asks to watch it: the watches stand on a list of their own, which
holds any name and opens nothing.
-/

namespace FacilityBooking

namespace Service

variable {service : Service} {datagram : Bytes} {peer : Address} {now : Nat}
  {request : Request} {facility : String}

/-- A request that names a facility and succeeds opens it, unless it asks to watch. -/
theorem open_iff_of_success (hconsistent : service.desk.ledger.Consistent)
    (hexecuted : service.executed? datagram peer now = some request)
    (hnamed : request.facility? = some facility) {operation : Option Operation} {reply : Bytes}
    {notices : List Notice}
    (hsuccess : (service.handle datagram peer now).1 = .executed operation none reply notices) :
    facility ∈ (service.handle datagram peer now).2.desk.ledger.timetables ↔
      request.operation ≠ .monitor ∨ facility ∈ service.desk.ledger.timetables := by
  rw [handle_desk, hexecuted, Option.bind_some]
  cases haction : request.action? with
  | none =>
      rw [Request.action?_eq_none_iff] at haction
      exact (or_iff_right (not_not_intro haction)).symm
  | some action =>
      have hasked : request.operation ≠ .monitor := fun hmonitor => by
        rw [Request.action?_eq_none_iff.mpr hmonitor] at haction
        cases haction
      obtain ⟨header, failure, found, -, hfailure, hverdict⟩ := verdict_of_executed? hexecuted
      rw [hsuccess] at hverdict
      injection hverdict with _ hnone
      obtain ⟨execution, hperformed⟩ := hfailure.mp hnone.symm
      refine iff_of_true ?_ (.inl hasked)
      exact Desk.mem_of_step hconsistent
        ((Request.facility?_of_action? haction).trans hnamed)
        (step_done_of_perform haction hperformed)

/-- A facility that is open stays open whatever happens. -/
theorem mem_after_of_mem (hconsistent : service.desk.ledger.Consistent)
    (hopen : facility ∈ service.desk.ledger.timetables) (events : List Event) :
    facility ∈ (service.after events).desk.ledger.timetables := by
  rw [after_desk]
  exact Desk.mem_run_of_mem hconsistent hopen _

theorem after_orderly (lifetime : Nat) (switch : Bool) (events : List Event) :
    ((new lifetime switch).after events).desk.Orderly := by
  rw [after_desk]
  exact Desk.run_orderly _

/-- In every state that a service can reach, a facility that a request names is open once
the request is executed and succeeds, unless the request asks to watch a facility that was
not open before. The name of an open facility has 1 to 256 bytes, there are at most 10,000
open facilities, and none of them is ever closed again. -/
theorem named_facility_open_iff (lifetime : Nat) (switch : Bool) (events : List Event)
    (datagram : Bytes) (peer : Address) (now : Nat) (request : Request) (facility : String)
    (operation : Option Operation) (reply : Bytes) (notices : List Notice)
    (hexecuted : ((new lifetime switch).after events).executed? datagram peer now = some request)
    (hnamed : request.facility? = some facility)
    (hsuccess : (((new lifetime switch).after events).handle datagram peer now).1 =
      .executed operation none reply notices) :
    (facility ∈ (((new lifetime switch).after events).handle datagram
        peer now).2.desk.ledger.timetables ↔
      request.operation ≠ .monitor ∨
        facility ∈ ((new lifetime switch).after events).desk.ledger.timetables) ∧
    (facility ∈ (((new lifetime switch).after events).handle datagram
        peer now).2.desk.ledger.timetables →
      1 ≤ facility.utf8ByteSize ∧ facility.utf8ByteSize ≤ 256 ∧
      (((new lifetime switch).after events).handle datagram
        peer now).2.desk.ledger.timetables.size ≤ 10000 ∧
      ∀ later, facility ∈ ((((new lifetime switch).after events).handle datagram
        peer now).2.after later).desk.ledger.timetables) := by
  refine ⟨open_iff_of_success (after_consistent lifetime switch events) hexecuted hnamed
    hsuccess, ?_⟩
  have hafter : (((new lifetime switch).after events).handle datagram peer now).2 =
      (new lifetime switch).after (events ++ [.arrival datagram peer now]) := by
    rw [after_append]
    rfl
  rw [hafter]
  have horderly := after_orderly lifetime switch (events ++ [.arrival datagram peer now])
  intro hopen
  obtain ⟨hnonempty, hshort⟩ := horderly.nameable facility hopen
  refine ⟨Nat.one_le_iff_ne_zero.mpr fun hzero => ?_, hshort, horderly.few,
    mem_after_of_mem (after_consistent ..) hopen⟩
  rw [String.utf8ByteSize_eq_zero_iff.mp hzero] at hnonempty
  cases hnonempty

/-- A use is counted of a facility that was not open before. -/
theorem opened_by_first_use :
    "Lab" ∈ ((new 5 true).handle (Datagram.frame ⟨1, 0x1002, 7, 0, 0⟩ [0, 3, 76, 97, 98])
      ⟨"10.0.0.9", 4242⟩ 0).2.desk.ledger.timetables :=
  (named_facility_open_iff 5 true [] (Datagram.frame ⟨1, 0x1002, 7, 0, 0⟩ [0, 3, 76, 97, 98])
    ⟨"10.0.0.9", 4242⟩ 0 (.incrementUsage "Lab") "Lab" (some .incrementUsage)
    (Datagram.frame ⟨1, 0x1002, 7, 0, 0⟩ [0, 0, 0, 0, 0, 0, 0, 1]) []
    (by decide +kernel) rfl (by decide +kernel)).1.mpr (.inl nofun)

/-- A name of 257 bytes, which no facility can have. -/
def longName : String :=
  String.ofList (List.replicate 257 'x')

/-- A request to watch the facility of that name for a minute. -/
def longWatchRequest : Bytes :=
  Datagram.frame ⟨1, 4, 7, 0, 0⟩
    ([1, 1] ++ List.replicate 257 120 ++ [0, 0, 0, 60, 0, 0, 19, 136])

/-- The request is executed and succeeds, but opens no facility. -/
theorem watched_under_long_name :
    (new (60 * Limits.second) true).executed? longWatchRequest ⟨"10.0.0.9", 4242⟩ 0 =
        some (.monitor longName 60 5000) ∧
      ((new (60 * Limits.second) true).handle longWatchRequest ⟨"10.0.0.9", 4242⟩ 0).1 =
        .executed (some .monitor) none (Datagram.frame ⟨1, 4, 7, 0, 0⟩ [0, 1]) [] ∧
      longName ∉ ((new (60 * Limits.second) true).handle longWatchRequest
        ⟨"10.0.0.9", 4242⟩ 0).2.desk.ledger.timetables ∧
      256 < longName.utf8ByteSize := by
  decide +kernel

end Service

end FacilityBooking
