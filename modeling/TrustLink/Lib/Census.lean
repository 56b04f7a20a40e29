import Mathlib.Data.Set.Card
import Mathlib.Logic.Function.Basic

/-!
Counting the records of a keyed store that meet a condition, and what the write
of one record does to the count.
-/
namespace Census
variable {Key Record : Type}

/-- The keys of the records that meet the condition. -/
def keys (store : Key → Option Record) (keep : Record → Prop) : Set Key :=
  {key | ∃ record, store key = some record ∧ keep record}

noncomputable def count (store : Key → Option Record) (keep : Record → Prop) : Nat :=
  (keys store keep).ncard

/-- The keys of all records. -/
def stored (store : Key → Option Record) : Set Key := keys store fun _ => True

noncomputable def total (store : Key → Option Record) : Nat := count store fun _ => True

variable {store : Key → Option Record} {keep : Record → Prop} {key : Key} {old new : Record}

theorem keys_subset (store : Key → Option Record) (keep : Record → Prop) :
    keys store keep ⊆ stored store :=
  fun _ ⟨record, found, _⟩ => ⟨record, found, trivial⟩

theorem mem_keys (found : store key = some old) : key ∈ keys store keep ↔ keep old := by
  constructor
  · rintro ⟨record, same, kept⟩
    exact Option.some.inj (found.symm.trans same) ▸ kept
  · intro kept
    exact ⟨old, found, kept⟩

theorem not_mem_keys (free : store key = none) : key ∉ keys store keep :=
  fun ⟨_, found, _⟩ => absurd (free.symm.trans found) nofun

@[simp] theorem keys_empty : keys (fun _ : Key => none) keep = ∅ := by
  ext key
  simp [keys]

@[simp] theorem count_empty : count (fun _ : Key => none) keep = 0 := by
  rw [count, keys_empty, Set.ncard_empty]

theorem count_le (finite : (stored store).Finite) (keep : Record → Prop) :
    count store keep ≤ total store :=
  Set.ncard_le_ncard (keys_subset store keep) finite

/-- A list that names each of the keys once has their number for its length. -/
theorem count_of_listed {listed : List Key} (once : listed.Nodup)
    (all : ∀ key, key ∈ listed ↔ key ∈ keys store keep) : count store keep = listed.length := by
  classical
  have same : keys store keep = listed.toFinset := by
    ext key
    rw [List.coe_toFinset, Set.mem_ofPred_eq, all]
  rw [count, same, Set.ncard_coe_finset, List.toFinset_card_of_nodup once]

section Writes
variable [DecidableEq Key]

theorem keys_update_of_keep (kept : keep new) :
    keys (Function.update store key (some new)) keep = insert key (keys store keep) := by
  ext other
  by_cases here : other = key
  · subst here
    simp [keys, kept]
  · simp [keys, here]

theorem keys_update_of_not (dropped : ¬ keep new) :
    keys (Function.update store key (some new)) keep = keys store keep \ {key} := by
  ext other
  by_cases here : other = key
  · subst here
    simp [keys, dropped]
  · simp [keys, here]

theorem finite_update (finite : (stored store).Finite) :
    (stored (Function.update store key (some new))).Finite := by
  rw [stored, keys_update_of_keep trivial]
  exact finite.insert key

theorem count_gain (finite : (stored store).Finite) (absent : key ∉ keys store keep)
    (kept : keep new) : count (Function.update store key (some new)) keep = count store keep + 1 := by
  rw [count, keys_update_of_keep kept]
  exact Set.ncard_insert_of_notMem absent (finite.subset (keys_subset store keep))

/-- A write that does not change whether the key counts leaves the count as it was. -/
theorem count_same (same : key ∈ keys store keep ↔ keep new) :
    count (Function.update store key (some new)) keep = count store keep := by
  by_cases kept : keep new
  · rw [count, keys_update_of_keep kept, Set.insert_eq_of_mem (same.mpr kept), count]
  · have absent : key ∉ keys store keep := fun member => kept (same.mp member)
    rw [count, keys_update_of_not kept, Set.sdiff_singleton_eq_self absent, count]

theorem count_add (finite : (stored store).Finite) (free : store key = none) (kept : keep new) :
    count (Function.update store key (some new)) keep = count store keep + 1 :=
  count_gain finite (not_mem_keys free) kept

theorem count_add_other (free : store key = none) (other : ¬ keep new) :
    count (Function.update store key (some new)) keep = count store keep :=
  count_same (iff_of_false (not_mem_keys free) other)

theorem count_replace (found : store key = some old) (same : keep old ↔ keep new) :
    count (Function.update store key (some new)) keep = count store keep :=
  count_same ((mem_keys found).trans same)

theorem count_enter (finite : (stored store).Finite) (found : store key = some old)
    (other : ¬ keep old) (kept : keep new) :
    count (Function.update store key (some new)) keep = count store keep + 1 :=
  count_gain finite ((mem_keys found).not.mpr other) kept

theorem count_leave (found : store key = some old) (kept : keep old) (dropped : ¬ keep new) :
    count (Function.update store key (some new)) keep = count store keep - 1 := by
  rw [count, keys_update_of_not dropped]
  exact Set.ncard_sdiff_singleton_of_mem ((mem_keys found).mpr kept)

theorem total_le_update (finite : (stored store).Finite) :
    total store ≤ total (Function.update store key (some new)) := by
  rw [total, total, count, count, keys_update_of_keep trivial]
  exact Set.ncard_le_ncard (Set.subset_insert key _) (finite.insert key)

end Writes

section Withdrawals
variable [DecidableEq Key] {after : Key → Option Record} {gone : List Key}

/-- When the listed keys stop to count, the count falls by the number of different ones. -/
theorem count_withdraw (among : ∀ key ∈ gone, key ∈ keys store keep)
    (left : ∀ key, key ∈ keys after keep ↔ key ∈ keys store keep ∧ key ∉ gone) :
    count after keep = count store keep - gone.dedup.length := by
  have rest : keys after keep = keys store keep \ (gone.toFinset : Set Key) := by
    ext key
    simp [left]
  have inside : (gone.toFinset : Set Key) ⊆ keys store keep := by
    intro key member
    exact among key (by simpa using member)
  rw [count, rest, Set.ncard_sdiff inside (Finset.finite_toSet _), Set.ncard_coe_finset,
    List.card_toFinset, count]

/-- A counter that falls once for each listed key stays right exactly when no key is listed
twice, or none is left. -/
theorem withdrawals_iff (finite : (stored store).Finite)
    (among : ∀ key ∈ gone, key ∈ keys store keep) :
    count store keep - gone.length = count store keep - gone.dedup.length ↔
      gone.Nodup ∨ ∀ key ∈ keys store keep, key ∈ gone := by
  have inside : (gone.toFinset : Set Key) ⊆ keys store keep := by
    intro key member
    exact among key (by simpa using member)
  have size : (gone.toFinset : Set Key).ncard = gone.dedup.length := by
    rw [Set.ncard_coe_finset, List.card_toFinset]
  have fewer : gone.dedup.length ≤ gone.length := gone.dedup_sublist.length_le
  have bound : gone.dedup.length ≤ count store keep := by
    rw [← size]
    exact Set.ncard_le_ncard inside (finite.subset (keys_subset store keep))
  constructor
  · intro same
    by_cases all : count store keep ≤ gone.dedup.length
    · right
      intro key member
      have whole : (gone.toFinset : Set Key) = keys store keep :=
        Set.eq_of_subset_of_ncard_le inside (by rw [size]; exact all)
          (finite.subset (keys_subset store keep))
      rw [← whole] at member
      simpa using member
    · left
      have equal : gone.dedup.length = gone.length := by omega
      exact List.dedup_eq_self.mp (gone.dedup_sublist.eq_of_length equal)
  · rintro (distinct | all)
    · rw [distinct.dedup]
    · have whole : (gone.toFinset : Set Key) = keys store keep :=
        Set.Subset.antisymm inside fun key member => by simpa using all key member
      have exhausted : count store keep = gone.dedup.length := by
        rw [← size, whole, count]
      omega

end Withdrawals

end Census
