import FacilityBooking.Proofs.Desk.Alone

/-!
# Facilities apart

What is asked of one facility has the results that it would have if nothing were ever asked
of any other one, but for the numbers of its bookings, which all facilities share. Other
facilities can only use up the room for facilities.
-/

namespace FacilityBooking

namespace Desk

/-! ## Actions elsewhere -/

/-- What does not concern a facility leaves its timetable, its bookings and its count. -/
theorem step_elsewhere {desk : Desk} {facility : String} {action : Action}
    (hconsistent : desk.ledger.Consistent)
    (hother : Turn.concerns ⟨desk, action⟩ facility = false) :
    desk.ledger.Elsewhere facility (desk.step action).2.ledger ∧
      (desk.step action).2.usageOf facility = desk.usageOf facility := by
  cases action with
  | book name user start stop =>
      have hname : name ≠ facility := of_decide_eq_false hother
      rcases book_cases hconsistent name user start stop with
        ⟨refusal, -, hrefused⟩ | ⟨ledger, hensure, -, -, hbooked⟩
      · rw [step, hrefused]
        exact ⟨.refl facility desk.ledger, rfl⟩
      · rw [step, hbooked]
        exact ⟨(Ledger.Elsewhere.of_ensure hensure hname).trans (.of_added hname _), rfl⟩
  | change id offset =>
      rcases change_cases hconsistent id offset with
        ⟨refusal, -, hrefused⟩ | ⟨booking, timetable, hbooking, htimetable, -, -, hchanged⟩
      · rw [step, hrefused]
        exact ⟨.refl facility desk.ledger, rfl⟩
      · simp only [Turn.concerns, hbooking, Option.any_some] at hother
        have hfacility : booking.facility ≠ facility := of_decide_eq_false hother
        rw [step, hchanged]
        exact ⟨.of_moved hfacility _ _ _, rfl⟩
  | resetDay name day =>
      have hname : name ≠ facility := of_decide_eq_false hother
      rw [step, resetDay]
      cases hensure : desk.ledger.ensure name with
      | error refusal => exact ⟨.refl facility desk.ledger, rfl⟩
      | ok opened =>
          refine ⟨(Ledger.Elsewhere.of_ensure hensure hname).trans (.of_removeAll ?_), rfl⟩
          intro id hid booking hbooking
          obtain ⟨slot, hslot, rfl⟩ := List.mem_map.mp hid
          obtain ⟨found, hfound, -, hfacility⟩ :=
            ((hconsistent.ensure hensure).listed name slot).mp (List.mem_filter.mp hslot).1
          rw [hfound] at hbooking
          cases hbooking
          exact fun hsame => hname (hfacility.symm.trans hsame)
  | queryDay name day =>
      have hname : name ≠ facility := of_decide_eq_false hother
      rcases queryDay_cases desk name day with
        ⟨refusal, -, hrefused⟩ | ⟨ledger, free, hensure, -, hqueried⟩
      · rw [step, hrefused]
        exact ⟨.refl facility desk.ledger, rfl⟩
      · rw [step, hqueried]
        exact ⟨.of_ensure hensure hname, rfl⟩
  | incrementUsage name =>
      have hname : name ≠ facility := of_decide_eq_false hother
      rcases incrementUsage_cases desk name with
        ⟨refusal, -, hrefused⟩ | ⟨ledger, hensure, hcounted⟩
      · rw [step, hrefused]
        exact ⟨.refl facility desk.ledger, rfl⟩
      · rw [step, hcounted]
        refine ⟨.of_ensure hensure hname, ?_⟩
        simp only [usageOf, Std.ExtTreeMap.getD_insert, Std.LawfulEqCmp.compare_eq_iff_eq]
        exact if_neg hname

namespace Alone

variable {rank : BookingId → BookingId} {facility : String} {full alone : Desk} {action : Action}

theorem elsewhere (halone : Alone rank facility full alone)
    (hother : Turn.concerns ⟨full, action⟩ facility = false) :
    Alone rank facility (full.step action).2 alone := by
  obtain ⟨helsewhere, husage⟩ := step_elsewhere halone.full_consistent hother
  exact ⟨halone.excerpt.elsewhere helsewhere, step_consistent halone.full_consistent action,
    halone.consistent, halone.usage.trans husage.symm⟩

theorem next (halone : Alone rank facility full alone)
    (halike : Alike rank facility full alone action) :
    Alone rank facility (full.step action).2 (alone.step (action.renumbered rank)).2 :=
  ⟨halike.excerpt, step_consistent halone.full_consistent action,
    step_consistent halone.consistent (action.renumbered rank), halike.usage⟩

/-- Where the first desk gives out a number, the second one gives out the next number of its
own. -/
theorem nextId_next (halone : Alone rank facility full alone)
    (halike : Alike rank facility full alone action) :
    (alone.step (action.renumbered rank)).2.ledger.nextId =
      alone.ledger.nextId + (full.issued? action).toList.length := by
  have hissued : alone.issued? (action.renumbered rank) = (full.issued? action).map rank := by
    rw [issued?_eq_result, issued?_eq_result, halike.result]
    rcases full.result action with refusal | (_ | _ | _ | _ | _) <;> rfl
  rw [(numbered_step halone.consistent (action.renumbered rank)).next, hissued]
  cases full.issued? action <;> rfl

/-! ## Runs -/

/-- The other numbers of some bookings count on from a first one. -/
def CountsOn (rank : BookingId → BookingId) (numbers : List BookingId) (first : BookingId) :
    Prop :=
  ∀ (place : Nat) id, numbers[place]? = some id → rank id = first + place

theorem CountsOn.of_append {first : BookingId} {issued : Option BookingId}
    {numbers : List BookingId} (hcounts : CountsOn rank (issued.toList ++ numbers) first) :
    (∀ id, issued = some id → rank id = first) ∧
      CountsOn rank numbers (first + issued.toList.length) := by
  cases issued with
  | none => exact ⟨nofun, fun place id hid => (hcounts place id hid).trans (by simp)⟩
  | some id =>
      constructor
      · rintro _ ⟨⟩
        exact (hcounts 0 id rfl).trans (Int.add_zero _)
      · intro place later hlater
        rw [hcounts (place + 1) later hlater]
        dsimp only [Option.toList_some, List.length_singleton, BookingId]
        omega

/-- Along a run the turns that concern the facility come to the same at the second desk,
which takes no other turns. -/
theorem run (halone : Alone rank facility full alone) {actions : List Action}
    (hroom : ∀ turn ∈ full.turnsOf facility actions,
      turn.result ≠ .error (.limitExceeded .facilities))
    (hcounts : CountsOn rank (full.numbersOf facility actions) alone.ledger.nextId) :
    (alone.turns ((full.turnsOf facility actions).map fun turn =>
        turn.action.renumbered rank)).map Turn.result =
        (full.turnsOf facility actions).map (fun turn => renumberedResult rank turn.result) ∧
      Alone rank facility (full.run actions)
        (alone.run ((full.turnsOf facility actions).map fun turn =>
          turn.action.renumbered rank)) := by
  -- The numbers still to come count on from the next number of the second desk, which
  -- grows exactly where the first desk gives a number to the facility.
  induction actions generalizing full alone with
  | nil => exact ⟨rfl, halone⟩
  | cons action rest ih =>
      by_cases hconcerns : Turn.concerns ⟨full, action⟩ facility = true
      · rw [numbersOf_own hconcerns] at hcounts
        rw [turnsOf_own hconcerns] at hroom ⊢
        obtain ⟨hfirst, hlater⟩ := List.forall_mem_cons.mp hroom
        obtain ⟨hissued, hcounts⟩ := hcounts.of_append
        have halike := halone.own hconcerns hfirst hissued
        rw [← halone.nextId_next halike] at hcounts
        obtain ⟨hresults, hafter⟩ := ih (halone.next halike) hlater hcounts
        refine ⟨?_, hafter⟩
        rw [List.map_cons, List.map_cons, turns, List.map_cons, hresults]
        exact congrArg (· :: _) halike.result
      · rw [numbersOf, turnsOf_other hconcerns] at hcounts
        rw [turnsOf_other hconcerns] at hroom ⊢
        exact ih (halone.elsewhere (Bool.eq_false_iff.mpr hconcerns)) hroom hcounts

end Alone

/-- The place of a number among those of a facility, counted from 1. -/
def rankOf (desk : Desk) (facility : String) (actions : List Action) (id : BookingId) :
    BookingId :=
  (desk.numbersOf facility actions).idxOf id + 1

/-- What concerns a facility, with the numbers of its bookings counted from 1. -/
def actionsOf (desk : Desk) (facility : String) (actions : List Action) : List Action :=
  (desk.turnsOf facility actions).map fun turn =>
    turn.action.renumbered (desk.rankOf facility actions)

/-- Of a run on an empty desk take what concerns one facility, and number the bookings of
the facility from 1 in the order in which they are made. That alone has the same results,
but for the numbers, and leaves the same bookings of the facility, unless the facility was
refused for the number of facilities. -/
theorem facility_isolated (facility : String) (actions : List Action)
    (hroom : ∀ turn ∈ empty.turnsOf facility actions,
      turn.result ≠ .error (.limitExceeded .facilities)) :
    (empty.numbersOf facility actions).Pairwise (· < ·) ∧
    (∀ (place : Nat) id, (empty.numbersOf facility actions)[place]? = some id →
      empty.rankOf facility actions id = place + 1) ∧
    (empty.turns (empty.actionsOf facility actions)).map Turn.result =
      (empty.turnsOf facility actions).map (fun turn =>
        renumberedResult (empty.rankOf facility actions) turn.result) ∧
    (empty.run (empty.actionsOf facility actions)).ledger.bookingsOf facility =
      ((empty.run actions).ledger.bookingsOf facility).map
        (Booking.renumbered (empty.rankOf facility actions)) := by
  have hincreasing := @numbersOf_increasing empty Ledger.consistent_empty facility actions
  have hrank : ∀ (place : Nat) id, (empty.numbersOf facility actions)[place]? = some id →
      empty.rankOf facility actions id = place + 1 := by
    intro place id hid
    obtain ⟨hplace, rfl⟩ := List.getElem?_eq_some_iff.mp hid
    rw [rankOf, List.Nodup.idxOf_getElem (hincreasing.imp Int.ne_of_lt)]
  have halone : Alone (empty.rankOf facility actions) facility empty empty :=
    ⟨.empty _ facility, Ledger.consistent_empty, Ledger.consistent_empty, rfl⟩
  obtain ⟨hresults, hafter⟩ := halone.run hroom fun place id hid =>
    (hrank place id hid).trans (Int.add_comm ..)
  exact ⟨hincreasing, hrank, hresults, hafter.excerpt.bookingsOf_eq hafter.full_consistent⟩

/-- Two laboratories, of which the second one takes the number 2. -/
def twoLaboratories : List Action :=
  [.book "LabA" "ann" ⟨.monday, 9, 0⟩ ⟨.monday, 10, 0⟩,
    .book "LabB" "bob" ⟨.monday, 9, 0⟩ ⟨.monday, 10, 0⟩,
    .book "LabA" "cid" ⟨.monday, 11, 0⟩ ⟨.monday, 12, 0⟩,
    .change 2 60, .change 3 (-90), .resetDay "LabB" .monday]

/-- By itself the first laboratory has the numbers 1 and 2, and the same conflict. -/
theorem laboratory_alone :
    (empty.turns [.book "LabA" "ann" ⟨.monday, 9, 0⟩ ⟨.monday, 10, 0⟩,
        .book "LabA" "cid" ⟨.monday, 11, 0⟩ ⟨.monday, 12, 0⟩, .change 2 (-90)]).map Turn.result =
      (empty.turnsOf "LabA" twoLaboratories).map fun turn =>
        renumberedResult (empty.rankOf "LabA" twoLaboratories) turn.result := by
  have hactions : empty.actionsOf "LabA" twoLaboratories =
      [.book "LabA" "ann" ⟨.monday, 9, 0⟩ ⟨.monday, 10, 0⟩,
        .book "LabA" "cid" ⟨.monday, 11, 0⟩ ⟨.monday, 12, 0⟩, .change 2 (-90)] := by
    decide +kernel
  rw [← hactions]
  exact (facility_isolated "LabA" twoLaboratories (by decide +kernel)).2.2.1

end Desk

end FacilityBooking
