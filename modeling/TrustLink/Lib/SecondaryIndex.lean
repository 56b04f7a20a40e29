import Mathlib.Data.List.Nodup
import Mathlib.Logic.Function.Basic

/-!
Secondary indexes over a keyed store. Every record has an owner, and the index
keeps a list of keys for each owner. `Bounded` puts the listed keys between the
records that must be listed and those that may be; `Exact` has one condition
for both and lists each key once.
-/
namespace SecondaryIndex
variable {Key Owner Record : Type}

/-- The record under the key belongs to the owner and meets the condition. -/
def Owns (store : Key → Option Record) (ownerOf : Record → Owner) (keep : Record → Prop)
    (owner : Owner) (key : Key) : Prop :=
  ∃ record, store key = some record ∧ ownerOf record = owner ∧ keep record

structure Bounded (store : Key → Option Record) (ownerOf : Record → Owner)
    (must may : Record → Prop) (index : Owner → List Key) : Prop where
  complete : ∀ owner key, Owns store ownerOf must owner key → key ∈ index owner
  sound : ∀ owner key, key ∈ index owner → Owns store ownerOf may owner key

structure Exact (store : Key → Option Record) (ownerOf : Record → Owner) (keep : Record → Prop)
    (index : Owner → List Key) : Prop extends Bounded store ownerOf keep keep index where
  once : ∀ owner, (index owner).Nodup

variable {store : Key → Option Record} {ownerOf : Record → Owner} {must may keep : Record → Prop}
  {index changed : Owner → List Key} {key : Key} {old new : Record}

theorem bounded_empty : Bounded (fun _ : Key => none) ownerOf must may fun _ => [] where
  complete := by simp [Owns]
  sound := by simp

theorem exact_empty : Exact (fun _ : Key => none) ownerOf keep fun _ => [] where
  toBounded := bounded_empty
  once := by simp

section Writes
variable [DecidableEq Key]

/-- One record is written and only its key can have moved in the index. -/
theorem Bounded.write (bounded : Bounded store ownerOf must may index)
    (others : ∀ owner other, other ≠ key → (other ∈ changed owner ↔ other ∈ index owner))
    (listed : must new → key ∈ changed (ownerOf new))
    (owned : ∀ owner, key ∈ changed owner → ownerOf new = owner ∧ may new) :
    Bounded (Function.update store key (some new)) ownerOf must may changed where
  complete := by
    rintro owner other ⟨record, found, rfl, needed⟩
    by_cases here : other = key
    · subst here
      obtain rfl := Option.some.inj ((Function.update_self other (some new) store).symm.trans found)
      exact listed needed
    · rw [Function.update_of_ne here] at found
      exact (others _ other here).mpr (bounded.complete _ other ⟨record, found, rfl, needed⟩)
  sound := by
    intro owner other member
    by_cases here : other = key
    · subst here
      exact ⟨new, Function.update_self .., owned owner member⟩
    · obtain ⟨record, found, rest⟩ := bounded.sound owner other ((others owner other here).mp member)
      exact ⟨record, by rw [Function.update_of_ne here, found], rest⟩

/-- A record is replaced by one with the same owner and standing. -/
theorem Bounded.replace (bounded : Bounded store ownerOf must may index)
    (found : store key = some old) (same : ownerOf new = ownerOf old)
    (needed : must new → must old) (allowed : may old → may new) :
    Bounded (Function.update store key (some new)) ownerOf must may index := by
  refine bounded.write (fun _ _ _ => Iff.rfl) (fun required => ?_) fun owner member => ?_
  · exact bounded.complete _ key ⟨old, found, same.symm, needed required⟩
  · obtain ⟨record, stored, owned, permitted⟩ := bounded.sound owner key member
    obtain rfl := Option.some.inj (found.symm.trans stored)
    exact ⟨same.trans owned, allowed permitted⟩

theorem Exact.replace (exact : Exact store ownerOf keep index) (found : store key = some old)
    (same : ownerOf new = ownerOf old) (standing : keep new ↔ keep old) :
    Exact (Function.update store key (some new)) ownerOf keep index where
  toBounded := exact.toBounded.replace found same standing.mp standing.mpr
  once := exact.once

end Writes

section Additions
variable [DecidableEq Owner]

def add (index : Owner → List Key) (owner : Owner) (key : Key) : Owner → List Key :=
  Function.update index owner (index owner ++ [key])

@[simp] theorem mem_add (index : Owner → List Key) (owner target : Owner) (key other : Key) :
    other ∈ add index owner key target ↔ other ∈ index target ∨ (target = owner ∧ other = key) := by
  by_cases here : target = owner
  · subst here
    simp [add]
  · simp [add, here]

theorem nodup_add (once : ∀ owner, (index owner).Nodup) {owner : Owner} (target : Owner)
    (absent : key ∉ index owner) : (add index owner key target).Nodup := by
  by_cases here : target = owner
  · subst here
    rw [add, Function.update_self, List.nodup_append]
    refine ⟨once target, List.nodup_singleton key, fun other listed last member same => ?_⟩
    rw [List.mem_singleton] at member
    exact absent (member ▸ same ▸ listed)
  · simpa [add, here] using once target

variable [DecidableEq Key]

/-- A new record is added under its owner. A record it replaces must have had
the same owner. -/
theorem Bounded.add (bounded : Bounded store ownerOf must may index) (allowed : may new)
    (same : ∀ old, store key = some old → ownerOf old = ownerOf new) :
    Bounded (Function.update store key (some new)) ownerOf must may
      (add index (ownerOf new) key) := by
  refine bounded.write (fun owner other distinct => ?_) (fun _ => ?_) fun owner member => ?_
  · simp [distinct]
  · simp
  · rcases (mem_add ..).mp member with listed | ⟨here, _⟩
    · obtain ⟨old, found, owned, _⟩ := bounded.sound owner key listed
      exact ⟨(same old found).symm.trans owned, allowed⟩
    · exact ⟨here.symm, allowed⟩

theorem Exact.add (exact : Exact store ownerOf keep index) (fresh : store key = none)
    (kept : keep new) :
    Exact (Function.update store key (some new)) ownerOf keep (add index (ownerOf new) key) where
  toBounded := exact.toBounded.add kept fun old found => by simp [fresh] at found
  once owner := by
    refine nodup_add exact.once owner fun listed => ?_
    obtain ⟨record, stored, _⟩ := exact.sound _ _ listed
    simp [fresh] at stored

end Additions

section Removals
variable [DecidableEq Owner] [DecidableEq Key]

def drop (index : Owner → List Key) (owner : Owner) (key : Key) : Owner → List Key :=
  Function.update index owner ((index owner).filter (· ≠ key))

@[simp] theorem mem_drop (index : Owner → List Key) (owner target : Owner) (key other : Key) :
    other ∈ drop index owner key target ↔
      other ∈ index target ∧ (target = owner → other ≠ key) := by
  by_cases here : target = owner
  · subst here
    simp [drop]
  · simp [drop, here]

theorem nodup_drop (once : ∀ owner, (index owner).Nodup) (owner target : Owner) (key : Key) :
    (drop index owner key target).Nodup := by
  by_cases here : target = owner
  · subst here
    simpa [drop] using (once target).filter _
  · simpa [drop, here] using once target

/-- The owner of a listed key is the owner of its record. -/
theorem Bounded.not_mem_drop (bounded : Bounded store ownerOf must may index)
    (found : store key = some old) (owner : Owner) :
    key ∉ drop index (ownerOf old) key owner := by
  intro member
  obtain ⟨listed, away⟩ := (mem_drop ..).mp member
  obtain ⟨record, stored, owned, _⟩ := bounded.sound owner key listed
  obtain rfl := Option.some.inj (found.symm.trans stored)
  exact away owned.symm rfl

/-- A record that need not be listed any more is dropped. -/
theorem Bounded.drop (bounded : Bounded store ownerOf must may index)
    (found : store key = some old) (free : ¬ must new) :
    Bounded (Function.update store key (some new)) ownerOf must may
      (drop index (ownerOf old) key) := by
  refine bounded.write (fun owner other distinct => ?_) (fun needed => ?_) fun owner member => ?_
  · simp [distinct]
  · exact absurd needed free
  · exact absurd member (bounded.not_mem_drop found owner)

theorem Exact.drop (exact : Exact store ownerOf keep index) (found : store key = some old)
    (free : ¬ keep new) :
    Exact (Function.update store key (some new)) ownerOf keep (drop index (ownerOf old) key) where
  toBounded := exact.toBounded.drop found free
  once owner := nodup_drop exact.once _ owner key

/-- A listed record passes from its owner to another. -/
theorem Exact.move (exact : Exact store ownerOf keep index) (found : store key = some old)
    (kept : keep new) :
    Exact (Function.update store key (some new)) ownerOf keep
      (SecondaryIndex.add (SecondaryIndex.drop index (ownerOf old) key) (ownerOf new) key) where
  toBounded := by
    refine exact.toBounded.write (fun owner other distinct => ?_) (fun _ => ?_)
      fun owner member => ?_
    · simp [distinct]
    · simp
    · rcases (mem_add ..).mp member with listed | ⟨here, _⟩
      · exact absurd listed (exact.toBounded.not_mem_drop found owner)
      · exact ⟨here.symm, kept⟩
  once owner :=
    nodup_add (nodup_drop exact.once _ · key) owner (exact.toBounded.not_mem_drop found _)

end Removals

end SecondaryIndex
