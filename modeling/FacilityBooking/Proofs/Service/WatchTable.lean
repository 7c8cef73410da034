import FacilityBooking.Service.WatchList
import Mathlib.Algebra.Ring.Nat
import Mathlib.Data.List.Nodup

/-!
# Watches by facility

The watches can also be kept by facility, with their number counted on the side, so that a
look-up reads one entry only. A facility without watches has no entry, and the count is a
machine word, which would wrap around if it ever missed a watch. It never does: whatever is
asked, the table answers as the list does, and the count is what all entries add up to.
-/

namespace FacilityBooking

/-- The watches of each facility that has any, and how many there are. -/
structure WatchTable where
  entries : Std.ExtTreeMap String (List Watch)
  total : UInt64

/-- What can be asked of a registry of watches. -/
inductive WatchCall where
  | register (target : Address) (facility : String) (duration now : Nat)
  | activeFor (facility : String) (now : Nat)
  | sweep (now : Nat)
  deriving DecidableEq, Repr

/-- What is answered. -/
inductive WatchAnswer where
  | registered (outcome : Except Refusal Nat)
  | active (watches : List Watch)
  | swept (count : Nat)
  deriving DecidableEq, Repr

namespace WatchTable

def empty : WatchTable := ⟨∅, 0⟩

def watchesOf (table : WatchTable) (facility : String) : List Watch :=
  table.entries.getD facility []

/-- The number of watches over all entries. -/
def entered (table : WatchTable) : Nat :=
  (table.entries.toList.map fun entry => entry.2.length).sum

def register (table : WatchTable) (target : Address) (facility : String) (duration now : Nat) :
    Except Refusal (Nat × WatchTable) :=
  if facility.isEmpty then .error (.emptyName .facility)
  else if Limits.watches ≤ table.total.toNat then .error (.limitExceeded .watches)
  else
    let watch : Watch := ⟨facility, target, now + duration⟩
    .ok (now + duration,
      ⟨table.entries.insert facility (table.watchesOf facility ++ [watch]), table.total + 1⟩)

def activeFor (table : WatchTable) (facility : String) (now : Nat) : List Watch :=
  (table.watchesOf facility).filter fun watch => watch.isLive now

/-- What is left of an entry, if anything is. -/
def liveEntry? (now : Nat) (watches : List Watch) : Option (List Watch) :=
  let live := watches.filter fun watch => watch.isLive now
  if live.isEmpty then none else some live

def sweep (table : WatchTable) (now : Nat) : Nat × WatchTable :=
  let removed := table.entries.foldl (fun removed _ watches =>
    removed + (watches.length - (watches.filter fun watch => watch.isLive now).length)) 0
  (removed, ⟨table.entries.filterMap fun _ watches => liveEntry? now watches,
    table.total - .ofNat removed⟩)

def step (table : WatchTable) : WatchCall → WatchAnswer × WatchTable
  | .register target facility duration now =>
      match table.register target facility duration now with
      | .error refusal => (.registered (.error refusal), table)
      | .ok (expiry, table) => (.registered (.ok expiry), table)
  | .activeFor facility now => (.active (table.activeFor facility now), table)
  | .sweep now =>
      let (count, table) := table.sweep now
      (.swept count, table)

end WatchTable

namespace WatchList

def step (list : WatchList) : WatchCall → WatchAnswer × WatchList
  | .register target facility duration now =>
      match list.register target facility duration now with
      | .error refusal => (.registered (.error refusal), list)
      | .ok (expiry, list) => (.registered (.ok expiry), list)
  | .activeFor facility now => (.active (list.activeFor facility now), list)
  | .sweep now =>
      let (count, list) := list.sweep now
      (.swept count, list)

/-- The watches of a facility, whether their time is over or not. -/
def watchesOf (list : WatchList) (facility : String) : List Watch :=
  list.watches.toList.filter fun watch => watch.facility = facility

end WatchList

theorem WatchList.size_push (list : WatchList) (watch : Watch) :
    size ⟨list.watches.push watch⟩ = list.size + 1 :=
  Array.size_push _

/-- The watches that a sweep takes away and those that it leaves are all of them. -/
theorem WatchList.size_eq_sweep (list : WatchList) (now : Nat) :
    list.size = (list.sweep now).2.size +
      (list.watches.toList.filter fun watch => !watch.isLive now).length := by
  rw [size, ← Array.length_toList, size, ← Array.length_toList, sweep, Array.toList_filter]
  exact List.length_eq_length_filter_add _

theorem WatchList.watchesOf_push (list : WatchList) (watch : Watch) (facility : String) :
    watchesOf ⟨list.watches.push watch⟩ facility =
      if watch.facility = facility then list.watchesOf facility ++ [watch]
      else list.watchesOf facility := by
  rw [watchesOf, Array.toList_push, List.filter_append, watchesOf]
  by_cases hown : watch.facility = facility
  · simp [hown]
  · simp [hown]

theorem WatchList.watchesOf_sweep (list : WatchList) (facility : String) (now : Nat) :
    (list.sweep now).2.watchesOf facility =
      (list.watchesOf facility).filter fun watch => watch.isLive now := by
  rw [watchesOf, sweep, Array.toList_filter, watchesOf]
  exact List.filter_comm ..

/-! ## The table of a list -/

/-- A table holds the watches of a list, in their order, and has no idle entries. -/
structure Tabulates (table : WatchTable) (list : WatchList) : Prop where
  entry_eq : ∀ facility, table.entries[facility]? =
    if (list.watchesOf facility).isEmpty then none else some (list.watchesOf facility)
  total_eq : table.total.toNat = list.size
  few : list.size ≤ Limits.watches

/-- Watches are counted by facility, if every facility is named once. -/
theorem sum_length_by_facility {facilities : List String} (hnodup : facilities.Nodup)
    {watches : List Watch} (hnamed : ∀ watch ∈ watches, watch.facility ∈ facilities) :
    (facilities.map fun facility =>
      (watches.filter fun watch => watch.facility = facility).length).sum = watches.length := by
  induction facilities generalizing watches with
  | nil =>
      rw [List.eq_nil_iff_forall_not_mem.mpr fun watch hwatch => nomatch hnamed watch hwatch]
      rfl
  | cons first rest ih =>
      obtain ⟨hfirst, hrest⟩ := List.nodup_cons.mp hnodup
      have hnamedRest (watch : Watch)
          (hwatch : watch ∈ watches.filter fun watch => ¬ watch.facility = first) :
          watch.facility ∈ rest := by
        obtain ⟨hmem, hother⟩ := List.mem_filter.mp hwatch
        exact (List.mem_cons.mp (hnamed watch hmem)).resolve_left (of_decide_eq_true hother)
      have hothers := ih hrest hnamedRest
      -- To the other facilities it makes no difference that the watches of the first one are out.
      have hsame (facility : String) (hfacility : facility ∈ rest) :
          (watches.filter fun watch => ¬ watch.facility = first).filter
              (fun watch => watch.facility = facility) =
            watches.filter fun watch => watch.facility = facility := by
        rw [List.filter_filter]
        apply List.filter_congr
        intro watch _
        have hne : facility ≠ first := fun hequal => hfirst (hequal ▸ hfacility)
        by_cases hwatch : watch.facility = facility
        · simp [hwatch, hne]
        · simp [hwatch]
      rw [List.map_congr_left fun facility hfacility => by rw [hsame facility hfacility]] at hothers
      simp only [decide_not] at hothers
      rw [List.map_cons, List.sum_cons, hothers]
      exact (List.length_eq_length_filter_add _).symm

namespace Tabulates

variable {table : WatchTable} {list : WatchList}

theorem empty : Tabulates .empty .empty where
  entry_eq _ := rfl
  total_eq := rfl
  few := Nat.zero_le _

theorem watchesOf_eq (htable : Tabulates table list) (facility : String) :
    table.watchesOf facility = list.watchesOf facility := by
  rw [WatchTable.watchesOf, Std.ExtTreeMap.getD_eq_getD_getElem?, htable.entry_eq]
  split
  · next hnone => exact (List.isEmpty_iff.mp hnone).symm
  · rfl

/-- Over all entries there are as many watches of some kind as on the list. -/
theorem sum_entries (htable : Tabulates table list) (wanted : Watch → Bool) :
    (table.entries.toList.map fun entry => (entry.2.filter wanted).length).sum =
      (list.watches.toList.filter wanted).length := by
  have hentry (entry : String × List Watch) (hmem : entry ∈ table.entries.toList) :
      (entry.2.filter wanted).length =
        ((list.watches.toList.filter wanted).filter fun watch =>
          watch.facility = entry.1).length := by
    rw [Std.ExtTreeMap.mem_toList_iff_getElem?_eq_some, htable.entry_eq] at hmem
    split at hmem
    · cases hmem
    · rw [← Option.some.inj hmem, WatchList.watchesOf, List.filter_filter, List.filter_filter]
      simp only [Bool.and_comm]
  have hkey (watch : Watch) (hwatch : watch ∈ list.watches.toList.filter wanted) :
      watch.facility ∈ table.entries.keys := by
    rw [Std.ExtTreeMap.mem_keys, Std.ExtTreeMap.mem_iff_isSome_getElem?, htable.entry_eq]
    have hlisted : watch ∈ list.watchesOf watch.facility :=
      List.mem_filter.mpr ⟨(List.mem_filter.mp hwatch).1, decide_eq_true rfl⟩
    rw [if_neg fun hnone => by rw [List.isEmpty_iff.mp hnone] at hlisted; cases hlisted]
    rfl
  rw [List.map_congr_left hentry, ← sum_length_by_facility Std.ExtTreeMap.nodup_keys hkey,
    ← Std.ExtTreeMap.map_fst_toList_eq_keys, List.map_map]
  rfl

/-- What a sweep takes away is no longer live. -/
theorem removed_eq (table : WatchTable) (now : Nat) :
    (table.sweep now).1 = (table.entries.toList.map fun entry =>
      (entry.2.filter fun watch => !watch.isLive now).length).sum := by
  rw [WatchTable.sweep, Std.ExtTreeMap.foldl_eq_foldl_toList, List.sum_eq_foldl_nat,
    List.foldl_map]
  dsimp only
  congr 1
  funext removed entry
  rw [List.length_eq_length_filter_add (l := entry.2) fun watch => watch.isLive now,
    Nat.add_sub_cancel_left]

theorem activeFor_eq (htable : Tabulates table list) (facility : String) (now : Nat) :
    table.activeFor facility now = list.activeFor facility now := by
  rw [WatchTable.activeFor, htable.watchesOf_eq, WatchList.watchesOf, WatchList.activeFor,
    Array.toList_filter, List.filter_filter]
  apply List.filter_congr
  intro watch _
  rw [Bool.and_comm, beq_eq_decide]

/-- A watch is refused for the same reason, or it gets an entry as it gets on the list. -/
theorem register (htable : Tabulates table list) (target : Address) (facility : String)
    (duration now : Nat) :
    (∃ refusal, table.register target facility duration now = .error refusal ∧
        list.register target facility duration now = .error refusal) ∨
      ∃ entered listed, table.register target facility duration now =
          .ok (now + duration, entered) ∧
        list.register target facility duration now = .ok (now + duration, listed) ∧
        Tabulates entered listed := by
  unfold WatchTable.register WatchList.register
  rw [htable.total_eq]
  split
  · exact .inl ⟨_, rfl, rfl⟩
  · split
    · exact .inl ⟨_, rfl, rfl⟩
    · next hroom =>
        refine .inr ⟨_, _, rfl, rfl, fun other => ?_, ?_, ?_⟩
        · rw [Std.ExtTreeMap.getElem?_insert, WatchList.watchesOf_push, htable.watchesOf_eq]
          by_cases hown : facility = other
          · subst hown
            simp
          · simp [hown, htable.entry_eq]
        · have hfew : list.size < 2 ^ 64 - 1 := Nat.lt_of_not_le fun hmany =>
            hroom (Nat.le_trans (by decide) hmany)
          rw [UInt64.toNat_add, htable.total_eq, WatchList.size_push]
          exact Nat.mod_eq_of_lt (Nat.add_lt_of_lt_sub hfew)
        · rw [WatchList.size_push]
          exact Nat.lt_of_not_le hroom

/-- A sweep takes as many watches from the table as from the list. -/
theorem sweep (htable : Tabulates table list) (now : Nat) :
    (table.sweep now).1 = (list.sweep now).1 ∧
      Tabulates (table.sweep now).2 (list.sweep now).2 := by
  have hremoved : (table.sweep now).1 = (list.sweep now).1 := by
    have hsize := list.size_eq_sweep now
    rw [removed_eq, htable.sum_entries]
    exact (Nat.sub_eq_of_eq_add' hsize).symm
  have hsize : list.size = (list.sweep now).2.size + (list.sweep now).1 := by
    rw [← hremoved, removed_eq, htable.sum_entries]
    exact list.size_eq_sweep now
  have hfew := htable.few
  refine ⟨hremoved, fun facility => ?_, ?_, Nat.le_trans (by omega) hfew⟩
  · rw [WatchTable.sweep, Std.ExtTreeMap.getElem?_filterMap', htable.entry_eq,
      WatchList.watchesOf_sweep]
    split
    · next hnone =>
        rw [List.isEmpty_iff.mp hnone]
        rfl
    · rfl
  · -- The count is large enough for what is taken from it, so it does not wrap around.
    have hword : (UInt64.ofNat (table.sweep now).1).toNat = (list.sweep now).1 := by
      rw [hremoved]
      exact UInt64.toNat_ofNat_of_lt' (Nat.lt_of_le_of_lt (by omega)
        (Nat.lt_of_le_of_lt hfew (by decide)))
    have hle : UInt64.ofNat (table.sweep now).1 ≤ table.total := by
      rw [UInt64.le_iff_toNat_le, hword, htable.total_eq]
      omega
    change (table.total - UInt64.ofNat (table.sweep now).1).toNat = _
    rw [UInt64.toNat_sub_of_le _ _ hle, hword, htable.total_eq]
    omega

/-- Whatever is asked of a table, it answers as the list does that it holds. -/
theorem step (htable : Tabulates table list) (call : WatchCall) :
    (table.step call).1 = (list.step call).1 ∧
      Tabulates (table.step call).2 (list.step call).2 := by
  cases call with
  | register target facility duration now =>
      rcases htable.register target facility duration now with
        ⟨refusal, hrefused, hlist⟩ | ⟨entered, listed, hentered, hlisted, hafter⟩
      · rw [WatchTable.step, WatchList.step, hrefused, hlist]
        exact ⟨rfl, htable⟩
      · rw [WatchTable.step, WatchList.step, hentered, hlisted]
        exact ⟨rfl, hafter⟩
  | activeFor facility now =>
      exact ⟨congrArg WatchAnswer.active (htable.activeFor_eq facility now), htable⟩
  | sweep now =>
      obtain ⟨hcount, hafter⟩ := htable.sweep now
      exact ⟨congrArg WatchAnswer.swept hcount, hafter⟩

end Tabulates

end FacilityBooking
