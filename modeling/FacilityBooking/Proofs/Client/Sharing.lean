import FacilityBooking.Proofs.Client.Numbering
import Mathlib.Logic.Function.Basic

/-!
# A counter that is shared

Parties that share one counter draw their ids at the same time. To fetch the value of the
counter is one step, but to draw an id is not: a party that fetched zero has to fetch again,
and others may fetch in between. The ids that are handed out are those that a single party
would draw, in the same order.
-/

namespace FacilityBooking

namespace RequestIds

/-! ## Some ids in a row -/

theorem take_take (window count : Nat) (ids : RequestIds) :
    (ids.take count).take window = ids.take (min window count) := by
  induction count generalizing window ids with
  | zero => rw [Nat.min_zero]; exact List.take_nil
  | succ count ih =>
      cases window with
      | zero => rw [Nat.zero_min]; rfl
      | succ window =>
          rw [Nat.succ_min_succ]
          exact congrArg (ids.draw.1 :: ·) (ih window ids.draw.2)

theorem drop_take (place count : Nat) (ids : RequestIds) :
    (ids.take count).drop place = (ids.advance place).take (count - place) := by
  induction place generalizing count ids with
  | zero => rfl
  | succ place ih =>
      cases count with
      | zero => rw [Nat.zero_sub]; exact List.drop_nil
      | succ count =>
          rw [Nat.succ_sub_succ]
          exact ih count ids.draw.2

theorem zero_notMem_take (count : Nat) (ids : RequestIds) : 0 ∉ ids.take count := by
  intro hzero
  obtain ⟨step, -, hdrawn⟩ := mem_take.mp hzero
  exact draw_ne_zero _ hdrawn.symm

/-- Wherever one begins, as many ids as there are words but zero are all different. -/
theorem nodup_window (place count : Nat) (ids : RequestIds) :
    (((ids.take count).drop place).take 0xffffffff).Nodup := by
  rw [drop_take, take_take]
  exact nodup_take (Nat.min_le_left _ _) (ids.advance place)

/-- What is drawn depends on the place on the circle alone. -/
theorem draw_eq_of_place_eq {first second : RequestIds} (hplace : first.place = second.place) :
    first.draw.1 = second.draw.1 := by
  apply UInt32.toNat_inj.mp
  rw [draw_toNat, draw_toNat, hplace]

end RequestIds

/-- A counter with the parties that share it. -/
structure SharedIds (Party : Type) where
  ids : RequestIds
  /-- Who has begun to draw an id and has none yet. -/
  drawing : Party → Bool := fun _ => false
  /-- The ids that were handed out, and to whom, in the order in which they were fetched. -/
  handed : List (Party × UInt32) := []

namespace SharedIds

/-- What a party does, in one step that no other party can disturb. -/
inductive Move (Party : Type) where
  | begin (party : Party)
  | fetch (party : Party)
  deriving DecidableEq, Repr

variable {Party : Type} [DecidableEq Party]

/-- A party that is drawing fetches the value of the counter. It keeps any value but zero as
its id; with zero it is drawing still. -/
def step (shared : SharedIds Party) : Move Party → SharedIds Party
  | .begin party => { shared with drawing := Function.update shared.drawing party true }
  | .fetch party =>
      if shared.drawing party then
        let (id, ids) := shared.ids.fetch
        if id = 0 then { shared with ids }
        else {
          ids
          drawing := Function.update shared.drawing party false
          handed := shared.handed ++ [(party, id)] }
      else shared

def run (shared : SharedIds Party) (moves : List (Move Party)) : SharedIds Party :=
  moves.foldl step shared

/-- The ids that were handed out, whoever got them. -/
def drawn (shared : SharedIds Party) : List UInt32 :=
  shared.handed.map Prod.snd

/-- A party that fetches zero leaves the counter at the same place on the circle, and one that
fetches another value gets the id that is drawn there. -/
theorem step_cases (shared : SharedIds Party) (move : Move Party) :
    (shared.step move).drawn = shared.drawn ∧
        (shared.step move).ids.place = shared.ids.place ∨
      (shared.step move).drawn = shared.drawn ++ [shared.ids.draw.1] ∧
        (shared.step move).ids = shared.ids.draw.2 := by
  cases move with
  | begin party => exact .inl ⟨rfl, rfl⟩
  | fetch party =>
      by_cases hdrawing : shared.drawing party = true
      · by_cases hzero : shared.ids.counter = 0
        · rw [step, if_pos hdrawing, RequestIds.fetch, hzero]
          refine .inl ⟨rfl, ?_⟩
          rw [RequestIds.place, RequestIds.place, hzero]
          rfl
        · rw [step, if_pos hdrawing, RequestIds.draw_of_ne hzero, RequestIds.fetch]
          dsimp only
          rw [if_neg hzero]
          exact .inr ⟨List.map_append, rfl⟩
      · rw [step, if_neg hdrawing]
        exact .inl ⟨rfl, rfl⟩

/-- The ids that were handed out are the first that a single party would draw, and the next
one to be handed out is the next that it would draw. -/
structure Follows (ids : RequestIds) (shared : SharedIds Party) : Prop where
  drawn : shared.drawn = ids.take shared.drawn.length
  place : shared.ids.place = (ids.advance shared.drawn.length).place

theorem Follows.step {ids : RequestIds} {shared : SharedIds Party} (hfollows : Follows ids shared)
    (move : Move Party) : Follows ids (shared.step move) := by
  rcases shared.step_cases move with ⟨hdrawn, hplace⟩ | ⟨hdrawn, hids⟩
  · constructor
    · rw [hdrawn]
      exact hfollows.drawn
    · rw [hdrawn, hplace]
      exact hfollows.place
  · have hnext := RequestIds.draw_eq_of_place_eq hfollows.place
    constructor
    · rw [hdrawn, List.length_append, List.length_singleton, RequestIds.take_concat, ← hnext,
        ← hfollows.drawn]
    · rw [hdrawn, List.length_append, List.length_singleton, RequestIds.advance_succ, hids,
        RequestIds.place_draw, RequestIds.place_draw, hfollows.place]

theorem Follows.run {ids : RequestIds} {shared : SharedIds Party} (hfollows : Follows ids shared)
    (moves : List (Move Party)) : Follows ids (shared.run moves) := by
  induction moves generalizing shared with
  | nil => exact hfollows
  | cons move rest ih => exact ih (hfollows.step move)

/-- A party that nobody disturbs draws an id with two fetches at most. -/
theorem run_undisturbed (shared : SharedIds Party) (party : Party) :
    shared.run [.begin party, .fetch party, .fetch party] = {
      ids := shared.ids.draw.2
      drawing := Function.update shared.drawing party false
      handed := shared.handed ++ [(party, shared.ids.draw.1)] } := by
  by_cases hzero : shared.ids.counter = 0
  · simp [run, step, RequestIds.fetch, RequestIds.draw_of_zero hzero, hzero]
  · simp [run, step, RequestIds.fetch, RequestIds.draw_of_ne hzero, hzero]

/-- Wherever a counter begins, no id is zero, and as many ids in a row as there are words but
zero are all different. This holds of the ids that are drawn one after the other, and of those
that are handed out to parties who share the counter, in whatever order they fetch its values:
they are the same ids. A draw that is disturbed by no other one is an ordinary draw. -/
theorem ids_apart (ids : RequestIds) :
    (∀ count, 0 ∉ ids.take count ∧
      ∀ place, (((ids.take count).drop place).take 0xffffffff).Nodup) ∧
    ∀ (Party : Type) [DecidableEq Party],
      (∀ moves : List (Move Party),
        (run { ids } moves).drawn = ids.take (run { ids } moves).handed.length ∧
        0 ∉ (run { ids } moves).drawn ∧
        ∀ place, (((run { ids } moves).drawn.drop place).take 0xffffffff).Nodup) ∧
      ∀ (shared : SharedIds Party) (party : Party),
        shared.run [.begin party, .fetch party, .fetch party] = {
          ids := shared.ids.draw.2
          drawing := Function.update shared.drawing party false
          handed := shared.handed ++ [(party, shared.ids.draw.1)] } := by
  refine ⟨fun count => ⟨RequestIds.zero_notMem_take count ids, fun place =>
    RequestIds.nodup_window place count ids⟩, ?_⟩
  intro Party _
  refine ⟨?_, run_undisturbed⟩
  intro moves
  have hstart : Follows ids ({ ids } : SharedIds Party) := ⟨rfl, rfl⟩
  have hdrawn := (hstart.run moves).drawn
  rw [drawn, List.length_map] at hdrawn
  rw [drawn, hdrawn]
  exact ⟨rfl, RequestIds.zero_notMem_take _ ids, fun place =>
    RequestIds.nodup_window place _ ids⟩

/-- Two parties around the end of the words: the first one fetches zero, and the other one gets
the next id before the first one fetches again. -/
example : (run { ids := ⟨0xffffffff⟩ }
    [.begin true, .fetch true, .begin true, .begin false, .fetch true, .fetch false,
      .fetch true]).handed = [(true, 0xffffffff), (false, 1), (true, 2)] := by
  decide

end SharedIds

end FacilityBooking
