import FacilityBooking.Proofs.Ledger.Searches
import Mathlib.Algebra.Order.Group.Multiset

/-!
# What a timetable holds

Slots are inserted and removed in any order, whatever their spans and their bookings. Each
removal takes the first slot of its booking, and nothing else is lost or added. So after any
edits a timetable holds what was inserted less what was removed.
-/

namespace FacilityBooking

namespace Timetable

/-! ## Edits -/

inductive Edit
  | insert (span : Span) (booking : BookingId)
  | remove (booking : BookingId)
  deriving DecidableEq, Repr

/-- The timetable after an edit, and the answer: of a removal, the span that it takes out. -/
def edit? (search : Search) (timetable : Timetable) : Edit → Option (Timetable × Option Span)
  | .insert span booking => do
      let next ← timetable.insertBy? search span booking
      return (next, none)
  | .remove booking => some (timetable.erase booking, timetable.spanOf? booking)

/-- The timetable after some edits, and the answer to each of them. -/
def edits? (search : Search) (timetable : Timetable) :
    List Edit → Option (Timetable × List (Option Span))
  | [] => some (timetable, [])
  | edit :: rest => do
      let (next, answer) ← timetable.edit? search edit
      let (last, answers) ← next.edits? search rest
      return (last, answer :: answers)

def Edit.inserted : Edit → List Slot
  | insert span booking => [⟨span, booking⟩]
  | remove _ => []

/-- What an edit takes out, by its answer. -/
def Edit.removed : Edit → Option Span → List Slot
  | insert _ _, _ => []
  | remove booking, answer => (answer.map fun span => Slot.mk span booking).toList

def inserted (edits : List Edit) : List Slot :=
  edits.flatMap Edit.inserted

/-- What edits take out, by their answers. -/
def removed (edits : List Edit) (answers : List (Option Span)) : List Slot :=
  (edits.zip answers).flatMap fun (edit, answer) => edit.removed answer

/-- What an edit makes of the slots, and its answer. An inserted slot stands between slots
that stand as before, and a removal takes the first slot of its booking, if there is one. -/
inductive Edited (slots : List Slot) : Edit → List Slot → Option Span → Prop
  | inserted {earlier later : List Slot} (span : Span) (booking : BookingId)
      (hslots : slots = earlier ++ later) :
      Edited slots (.insert span booking) (earlier ++ ⟨span, booking⟩ :: later) none
  | removed {earlier later : List Slot} {slot : Slot} (hslots : slots = earlier ++ slot :: later)
      (hfirst : ∀ other ∈ earlier, other.booking ≠ slot.booking) :
      Edited slots (.remove slot.booking) (earlier ++ later) (some slot.span)
  | absent {booking : BookingId} (hnone : ∀ slot ∈ slots, slot.booking ≠ booking) :
      Edited slots (.remove booking) slots none

variable {search : Search} {timetable : Timetable} {slots : List Slot}

theorem edited_of_remove (timetable : Timetable) (booking : BookingId) :
    ∃ slots, timetable.erase booking = { timetable with slots } ∧
      Edited timetable.slots (.remove booking) slots (timetable.spanOf? booking) ∧
      slots.Sublist timetable.slots := by
  obtain ⟨facility, slots⟩ := timetable
  refine ⟨_, rfl, ?_, List.eraseP_sublist⟩
  unfold spanOf?
  dsimp only
  cases hfound : slots.find? fun slot => slot.booking = booking with
  | none =>
      have hnone : ∀ slot ∈ slots, ¬ decide (slot.booking = booking) = true :=
        List.find?_eq_none.mp hfound
      rw [List.eraseP_of_forall_not hnone]
      exact .absent fun slot hslot hsame => hnone slot hslot (decide_eq_true hsame)
  | some slot =>
      obtain ⟨hsame, earlier, later, rfl, hfirst⟩ := List.find?_eq_some_iff_append.mp hfound
      obtain rfl := of_decide_eq_true hsame
      have hothers : ∀ other ∈ earlier, ¬ decide (other.booking = slot.booking) = true :=
        fun other hother => by simpa using hfirst other hother
      rw [List.eraseP_append_right _ hothers, List.eraseP_cons_of_pos (by simp)]
      exact .removed rfl fun other hother hother' => hothers other hother (decide_eq_true hother')

/-- One edit has a result, does what it should, and keeps the order of the slots. -/
theorem edited_of_edit (hsearch : search.Reliable) (hsorted : Sorted timetable.slots)
    (edit : Edit) :
    ∃ slots answer, timetable.edit? search edit = some ({ timetable with slots }, answer) ∧
      Edited timetable.slots edit slots answer ∧ Sorted slots := by
  cases edit with
  | insert span booking =>
      obtain ⟨earlier, later, hsplit, hinsert, hkept⟩ :=
        insertBy?_eq hsearch hsorted span booking
      refine ⟨_, none, ?_, .inserted span booking hsplit, hkept⟩
      rw [edit?, hinsert]
      rfl
  | remove booking =>
      obtain ⟨slots, herase, hedited, hsublist⟩ := timetable.edited_of_remove booking
      exact ⟨slots, _, by rw [edit?, herase], hedited, hsorted.sublist hsublist⟩

/-- What an edit leaves and what it takes out are what was there and what it inserts. -/
theorem Edited.accounted {edit : Edit} {after : List Slot} {answer : Option Span}
    (hedited : Edited slots edit after answer) :
    (after : Multiset Slot) + edit.removed answer = slots + edit.inserted := by
  cases hedited with
  | @inserted earlier later span booking hslots =>
      rw [hslots, Edit.removed, Edit.inserted, Multiset.coe_add, Multiset.coe_add,
        List.append_nil]
      exact Multiset.coe_eq_coe.mpr (List.perm_middle.trans (List.perm_append_singleton _ _).symm)
  | @removed earlier later slot hslots hfirst =>
      rw [hslots, Edit.inserted, Multiset.coe_add, Multiset.coe_add, List.append_nil]
      exact Multiset.coe_eq_coe.mpr
        ((List.perm_append_singleton slot _).trans List.perm_middle.symm)
  | absent hnone => rfl

theorem edits_accounted (hsearch : search.Reliable) (hsorted : Sorted timetable.slots)
    (edits : List Edit) :
    ∃ slots answers, timetable.edits? search edits = some ({ timetable with slots }, answers) ∧
      Sorted slots ∧
      (slots : Multiset Slot) + removed edits answers = timetable.slots + inserted edits := by
  induction edits generalizing timetable with
  | nil => exact ⟨timetable.slots, [], rfl, hsorted, rfl⟩
  | cons edit rest ih =>
      obtain ⟨middle, answer, hedit, hedited, hmiddle⟩ := edited_of_edit hsearch hsorted edit
      obtain ⟨slots, answers, hrest, hslots, haccount⟩ :=
        @ih { timetable with slots := middle } hmiddle
      refine ⟨slots, answer :: answers, ?_, hslots, ?_⟩
      · rw [edits?, hedit]
        simp only [Option.bind_eq_bind, Option.bind_some, hrest]
        rfl
      · -- The account of the first edit and that of the rest add up.
        calc (slots : Multiset Slot) + removed (edit :: rest) (answer :: answers)
            = slots + (edit.removed answer + removed rest answers) := by
              rw [Multiset.coe_add]
              rfl
          _ = slots + removed rest answers + edit.removed answer := by
              rw [add_comm (edit.removed answer : Multiset Slot), add_assoc]
          _ = middle + inserted rest + edit.removed answer := by rw [haccount]
          _ = middle + edit.removed answer + inserted rest := add_right_comm _ _ _
          _ = timetable.slots + edit.inserted + inserted rest := by rw [hedited.accounted]
          _ = timetable.slots + inserted (edit :: rest) := by
              rw [add_assoc, Multiset.coe_add]
              rfl

/-- Whichever reliable search is used, after any edits a timetable that was empty holds what was
inserted less what was removed, in the order of the starts. The next edit has a result: an
inserted slot joins the others as they stand, and a removal takes out the first slot of its
booking and answers its span, or changes nothing if there is none. A timetable's own insertion
is that by halving, which is reliable. -/
theorem holds_inserted_less_removed (hsearch : search.Reliable) (facility : String)
    (edits : List Edit) :
    ∃ slots answers, edits? search ⟨facility, []⟩ edits = some (⟨facility, slots⟩, answers) ∧
      Sorted slots ∧
      (removed edits answers : Multiset Slot) ≤ inserted edits ∧
      (slots : Multiset Slot) = inserted edits - removed edits answers ∧
      (∀ edit, ∃ after answer,
        edit? search ⟨facility, slots⟩ edit = some (⟨facility, after⟩, answer) ∧
          Edited slots edit after answer) ∧
      Search.halving.Reliable ∧
      ∀ span booking, insertBy? Search.halving ⟨facility, slots⟩ span booking =
        some (insert ⟨facility, slots⟩ span booking) := by
  obtain ⟨slots, answers, hrun, hsorted, haccount⟩ :=
    @edits_accounted search ⟨facility, []⟩ hsearch .nil edits
  rw [Multiset.coe_nil, zero_add] at haccount
  refine ⟨slots, answers, hrun, hsorted, haccount ▸ Multiset.le_add_left _ _,
    Multiset.eq_sub_of_add_eq haccount, fun edit => ?_, Search.halving_reliable,
    @insertBy?_halving ⟨facility, slots⟩ hsorted⟩
  obtain ⟨after, answer, hedit, hedited, -⟩ :=
    @edited_of_edit search ⟨facility, slots⟩ hsearch hsorted edit
  exact ⟨after, answer, hedit, hedited⟩

/-- Three slots start together, one of them stops before it starts, and two bookings have two
slots each. A removal takes the one that stands first, and that of no booking takes nothing. -/
theorem firsts_taken_out :
    let edits : List Edit := [.insert ⟨300, 400⟩ 1, .insert ⟨100, 200⟩ 2, .insert ⟨100, 50⟩ 3,
      .insert ⟨-60, 120⟩ 1, .remove 1, .remove 9, .insert ⟨100, 150⟩ 2, .remove 2]
    let slots : List Slot := [⟨⟨100, 50⟩, 3⟩, ⟨⟨100, 200⟩, 2⟩, ⟨⟨300, 400⟩, 1⟩]
    Search.halving.Reliable ∧
      edits? Search.halving ⟨"LabA", []⟩ edits = some (⟨"LabA", slots⟩,
        [none, none, none, none, some ⟨-60, 120⟩, none, none, some ⟨100, 150⟩]) ∧
      Sorted slots ∧
      (slots : Multiset Slot) =
        inserted edits - ([⟨⟨-60, 120⟩, 1⟩, ⟨⟨100, 150⟩, 2⟩] : List Slot) ∧
      Edited slots (.remove 2) [⟨⟨100, 50⟩, 3⟩, ⟨⟨300, 400⟩, 1⟩] (some ⟨100, 200⟩) := by
  intro edits slots
  obtain ⟨reached, answers, hrun, hsorted, -, hholds, hedit, hreliable, -⟩ :=
    holds_inserted_less_removed Search.halving_reliable "LabA" edits
  have hreached : edits? Search.halving ⟨"LabA", []⟩ edits = some (⟨"LabA", slots⟩,
      [none, none, none, none, some ⟨-60, 120⟩, none, none, some ⟨100, 150⟩]) := by
    decide +kernel
  obtain ⟨rfl, rfl⟩ : reached = slots ∧ answers = _ := by
    simpa using hrun.symm.trans hreached
  obtain ⟨after, answer, hremoved, hedited⟩ := hedit (.remove 2)
  cases hremoved
  exact ⟨hreliable, hreached, hsorted, hholds, hedited⟩

end Timetable

end FacilityBooking
