import Mathlib.Tactic.Common

/-!
A history as a function from positions to the events at each of them, and its
slices between two positions, in which every event carries its position.
-/
namespace Timeline
variable {Event : Type}

/-- The events from position `first` to position `last`, in order. -/
def slice (history : Nat → List Event) (first last : Nat) : List (Nat × Event) :=
  (List.range' first (last + 1 - first)).flatMap fun position =>
    (history position).map fun event => (position, event)

variable {history : Nat → List Event} {first middle last : Nat}

theorem slice_empty (past : last < first) : slice history first last = [] := by
  rw [slice, Nat.sub_eq_zero_of_le past]
  rfl

theorem mem_slice {entry : Nat × Event} :
    entry ∈ slice history first last ↔
      (first ≤ entry.1 ∧ entry.1 ≤ last) ∧ entry.2 ∈ history entry.1 := by
  obtain ⟨position, event⟩ := entry
  simp only [slice, List.mem_flatMap, List.mem_range'_1, List.mem_map, Prod.mk.injEq]
  constructor
  · rintro ⟨_, ⟨low, high⟩, _, member, rfl, rfl⟩
    exact ⟨⟨low, by omega⟩, member⟩
  · rintro ⟨⟨low, high⟩, member⟩
    exact ⟨position, ⟨low, by omega⟩, event, member, rfl, rfl⟩

variable (history) in
theorem slice_append (low : first ≤ middle + 1) (high : middle ≤ last) :
    slice history first last =
      slice history first middle ++ slice history (middle + 1) last := by
  have split : last + 1 - first = (middle + 1 - first) + (last + 1 - (middle + 1)) := by omega
  have start : first + (middle + 1 - first) = middle + 1 := by omega
  rw [slice, slice, slice, split, ← List.range'_append_1, List.flatMap_append, start]

theorem slice_eq_nil : slice history first last = [] ↔
    ∀ position, first ≤ position → position ≤ last → history position = [] := by
  constructor
  · intro empty position low high
    by_contra some_event
    obtain ⟨event, member⟩ := List.exists_mem_of_ne_nil _ some_event
    have listed : (position, event) ∈ slice history first last :=
      mem_slice.mpr ⟨⟨low, high⟩, member⟩
    rw [empty] at listed
    cases listed
  · intro empty
    rw [List.eq_nil_iff_forall_not_mem]
    intro entry listed
    obtain ⟨⟨low, high⟩, member⟩ := mem_slice.mp listed
    rw [empty entry.1 low high] at member
    cases member

end Timeline
