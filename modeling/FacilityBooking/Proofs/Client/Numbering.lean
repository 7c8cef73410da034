import FacilityBooking.Client.RequestIds
import Mathlib.Data.List.Nodup

/-!
# Numbering of requests

The ids run in a circle through all words but zero, so that no id is drawn again before
all others were.
-/

namespace FacilityBooking

namespace RequestIds

/-- The counter after `count` ids were drawn. -/
def advance : Nat → RequestIds → RequestIds
  | 0, ids => ids
  | count + 1, ids => advance count ids.draw.2

/-- The place on the circle of the id that is drawn next. A counter at zero is passed
over, so it stands for one. -/
def place (ids : RequestIds) : Nat :=
  ids.counter.toNat - 1

theorem draw_of_zero {ids : RequestIds} (hzero : ids.counter = 0) : ids.draw = (1, ⟨2⟩) := by
  unfold draw fetch
  dsimp only
  rw [hzero]
  rfl

theorem draw_of_ne {ids : RequestIds} (hne : ids.counter ≠ 0) :
    ids.draw = (ids.counter, ⟨ids.counter + 1⟩) := by
  unfold draw fetch
  exact if_neg hne

theorem draw_toNat (ids : RequestIds) : ids.draw.1.toNat = ids.place + 1 := by
  unfold place
  by_cases hzero : ids.counter = 0
  · rw [draw_of_zero hzero, hzero]
    rfl
  · have hpos : ids.counter.toNat ≠ 0 := fun htoNat => hzero (UInt32.toNat_inj.mp htoNat)
    rw [draw_of_ne hzero]
    dsimp only
    omega

/-- Every draw is one step on the circle. -/
theorem place_draw (ids : RequestIds) : ids.draw.2.place = (ids.place + 1) % 0xffffffff := by
  unfold place
  by_cases hzero : ids.counter = 0
  · rw [draw_of_zero hzero, hzero]
    rfl
  · have hpos : ids.counter.toNat ≠ 0 := fun htoNat => hzero (UInt32.toNat_inj.mp htoNat)
    have hlt := ids.counter.toNat_lt
    rw [draw_of_ne hzero]
    simp only [UInt32.toNat_add, UInt32.reduceToNat]
    omega

theorem place_advance (count : Nat) (ids : RequestIds) :
    (ids.advance count).place = (ids.place + count) % 0xffffffff := by
  induction count generalizing ids with
  | zero =>
      have hlt := ids.counter.toNat_lt
      unfold advance place
      omega
  | succ count ih =>
      rw [advance, ih, place_draw]
      omega

theorem take_concat (count : Nat) (ids : RequestIds) :
    take (count + 1) ids = take count ids ++ [(ids.advance count).draw.1] := by
  induction count generalizing ids with
  | zero => rfl
  | succ count ih =>
      change ids.draw.1 :: take (count + 1) ids.draw.2 = _
      rw [ih]
      rfl

theorem advance_succ (count : Nat) (ids : RequestIds) :
    ids.advance (count + 1) = (ids.advance count).draw.2 := by
  induction count generalizing ids with
  | zero => rfl
  | succ count ih => exact ih ids.draw.2

theorem mem_take {id : UInt32} {count : Nat} {ids : RequestIds} :
    id ∈ take count ids ↔ ∃ step < count, id = (ids.advance step).draw.1 := by
  induction count generalizing ids with
  | zero => simp [take]
  | succ count ih =>
      rw [take_concat, List.mem_append, ih, List.mem_singleton]
      constructor
      · rintro (⟨step, hstep, hid⟩ | hid)
        · exact ⟨step, Nat.lt_succ_of_lt hstep, hid⟩
        · exact ⟨count, Nat.lt_succ_self count, hid⟩
      · rintro ⟨step, hstep, hid⟩
        rcases Nat.lt_succ_iff_lt_or_eq.mp hstep with hlt | rfl
        · exact .inl ⟨step, hlt, hid⟩
        · exact .inr hid

/-- As many ids as there are words but zero are all different. -/
theorem nodup_take {count : Nat} (hcount : count ≤ 0xffffffff) (ids : RequestIds) :
    (ids.take count).Nodup := by
  induction count with
  | zero => exact .nil
  | succ count ih =>
      rw [take_concat]
      refine List.nodup_append.mpr ⟨ih (Nat.le_of_succ_le hcount), List.nodup_singleton _, ?_⟩
      intro id hid other hother hsame
      obtain ⟨step, hstep, rfl⟩ := mem_take.mp hid
      rw [List.mem_singleton.mp hother] at hsame
      have hplaces := congrArg UInt32.toNat hsame
      rw [draw_toNat, draw_toNat, place_advance, place_advance] at hplaces
      omega

end RequestIds

end FacilityBooking
