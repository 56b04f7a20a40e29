import Mathlib.Logic.Function.Basic
import Mathlib.Tactic.Common

/-!
A list kept in numbered chunks of a fixed size, as a key-value store holds it:
a reader that stops at the first empty chunk, a writer that lays a list out
from a given chunk on, and a pruner that removes what an earlier, longer list
left behind. Chunk numbers are bounded; `fuel` counts the numbers left and
`none` is the overflow of the counter.
-/
namespace Chunks
variable {α : Type} {size : Nat}

def read (chunks : Nat → Option (List α)) : Nat → Nat → List α → Option (List α)
  | 0, _, _ => none
  | fuel + 1, index, items =>
      let chunk := (chunks index).getD []
      if chunk = [] then some items else read chunks fuel (index + 1) (items ++ chunk)

/-- Lays `rest` out from chunk `index` on; returns the next free number. -/
def write (size : Nat) : Nat → Nat → List α → (Nat → Option (List α)) →
    Option (Nat × (Nat → Option (List α)))
  | 0, _, _, _ => none
  | fuel + 1, index, rest, chunks =>
      if rest = [] then some (index, chunks)
      else write size fuel (index + 1) (rest.drop size)
        (Function.update chunks index (some (rest.take size)))

def prune : Nat → Nat → (Nat → Option (List α)) → Option (Nat → Option (List α))
  | 0, _, _ => none
  | fuel + 1, index, chunks =>
      if (chunks index).isSome then prune fuel (index + 1) (Function.update chunks index none)
      else some chunks

/-- Chunk `i` holds the items from `i * size` on, and is absent past the end. -/
def Represents (size : Nat) (chunks : Nat → Option (List α)) (items : List α) : Prop :=
  ∀ index, chunks index =
    if index * size < items.length then some ((items.drop (index * size)).take size) else none

theorem represents_nil : Represents size (fun _ => none) ([] : List α) := by
  intro index
  simp

theorem represents_unique {left right : Nat → Option (List α)} {items : List α}
    (first : Represents size left items) (second : Represents size right items) :
    left = right := by
  funext index
  rw [first index, second index]

/-- The chunks that are there are numbered from 0 without a gap, none of them is empty, and
all but the last are full. -/
structure Tidy (size : Nat) (chunks : Nat → Option (List α)) : Prop where
  contiguous : ∀ index, (chunks (index + 1)).isSome → (chunks index).isSome
  nonempty : ∀ index chunk, chunks index = some chunk → chunk ≠ []
  full : ∀ index chunk, chunks index = some chunk → (chunks (index + 1)).isSome →
    chunk.length = size

theorem Represents.tidy {chunks : Nat → Option (List α)} {items : List α} (positive : 0 < size)
    (rep : Represents size chunks items) : Tidy size chunks := by
  have present : ∀ index, (chunks index).isSome ↔ index * size < items.length := by
    intro index
    rw [rep index]
    by_cases inside : index * size < items.length <;> simp [inside]
  have found : ∀ {index chunk}, chunks index = some chunk →
      chunk.length = min size (items.length - index * size) := by
    intro index chunk stored
    have inside := (present index).mp (by rw [stored]; rfl)
    rw [rep index, if_pos inside] at stored
    cases stored
    rw [List.length_take, List.length_drop]
  refine ⟨fun index later => ?_, fun index chunk stored empty => ?_,
    fun index chunk stored later => ?_⟩
  · have beyond := (present (index + 1)).mp later
    rw [Nat.add_one_mul] at beyond
    exact (present index).mpr (Nat.lt_of_add_right_lt beyond)
  · have inside := (present index).mp (by rw [stored]; rfl)
    have length := found stored
    rw [empty, List.length_nil] at length
    omega
  · have beyond := (present (index + 1)).mp later
    rw [Nat.add_one_mul] at beyond
    rw [found stored]
    omega

/-- Number of chunks of a list of the given length. -/
def count (size length : Nat) : Nat := (length + size - 1) / size

theorem lt_count (positive : 0 < size) (index length : Nat) :
    index < count size length ↔ index * size < length := by
  rw [count, Nat.lt_iff_add_one_le, Nat.le_div_iff_mul_le positive, Nat.add_mul]
  omega

theorem read_represents {chunks : Nat → Option (List α)} {items : List α} (positive : 0 < size)
    (rep : Represents size chunks items) (fuel index : Nat) (front : List α)
    (room : items.length ≤ (index + fuel) * size) :
    read chunks (fuel + 1) index front = some (front ++ items.drop (index * size)) := by
  induction fuel generalizing index front with
  | zero =>
      have past : ¬ index * size < items.length := by simpa using room
      simp [read, rep index, past, List.drop_eq_nil_of_le (Nat.le_of_not_lt past)]
  | succ fuel ih =>
      rw [read]
      by_cases inside : index * size < items.length
      · have nonempty : (items.drop (index * size)).take size ≠ [] := by
          intro empty
          have lengths := congrArg List.length empty
          simp only [List.length_take, List.length_drop, List.length_nil] at lengths
          omega
        simp only [rep index, inside, ↓reduceIte, Option.getD_some, nonempty]
        rw [ih (index + 1) _ (by rw [Nat.add_assoc, Nat.add_comm 1]; exact room)]
        rw [List.append_assoc, Nat.add_one_mul, ← List.drop_drop, List.take_append_drop]
      · simp [rep index, inside, List.drop_eq_nil_of_le (Nat.le_of_not_lt inside)]

/-- The store after `rest` has been laid out from `index` on. -/
def placed (size index : Nat) (rest : List α) (chunks : Nat → Option (List α)) :
    Nat → Option (List α) := fun i =>
  if index ≤ i ∧ (i - index) * size < rest.length then
    some ((rest.drop ((i - index) * size)).take size)
  else chunks i

theorem placed_nil (index : Nat) (chunks : Nat → Option (List α)) :
    placed size index [] chunks = chunks := by
  funext i
  simp [placed]

theorem placed_step (index : Nat) {rest : List α} (more : rest ≠ [])
    (chunks : Nat → Option (List α)) :
    placed size (index + 1) (rest.drop size)
        (Function.update chunks index (some (rest.take size))) =
      placed size index rest chunks := by
  have some_item := List.length_pos_iff.mpr more
  funext i
  -- before, at and after the chunk that is written
  rcases Nat.lt_trichotomy i index with before | here | after
  · have notYet : ¬ index + 1 ≤ i := by omega
    have notHere : ¬ index ≤ i := by omega
    simp [placed, notYet, notHere, Function.update_of_ne (Nat.ne_of_lt before)]
  · subst here
    have notYet : ¬ i + 1 ≤ i := by omega
    simp [placed, some_item, notYet]
  · obtain ⟨k, rfl⟩ : ∃ k, i = index + 1 + k := ⟨i - (index + 1), by omega⟩
    have shifted : index + 1 + k - index = k + 1 := by omega
    have far : index + 1 + k ≠ index := by omega
    simp only [placed, Nat.le_add_right, true_and, Nat.add_sub_cancel_left, List.length_drop,
      List.drop_drop, shifted, Function.update_of_ne far, Nat.le_of_lt after]
    rw [Nat.add_one_mul, Nat.add_comm size]
    exact if_congr (by omega) rfl rfl

theorem write_fits (positive : 0 < size) (fuel index : Nat) (rest : List α)
    (chunks : Nat → Option (List α)) (room : rest.length ≤ fuel * size) :
    write size (fuel + 1) index rest chunks =
      some (index + count size rest.length, placed size index rest chunks) := by
  induction fuel generalizing index rest chunks with
  | zero =>
      have empty : rest = [] := by simpa using room
      subst empty
      have none_left : count size 0 = 0 := by
        simpa using (lt_count positive 0 0).not.mpr (by simp)
      simp [write, placed_nil, none_left]
  | succ fuel ih =>
      rw [write]
      by_cases empty : rest = []
      · subst empty
        have none_left : count size 0 = 0 := by
          simpa using (lt_count positive 0 0).not.mpr (by simp)
        simp [placed_nil, none_left]
      · have more := List.length_pos_iff.mpr empty
        rw [if_neg empty, ih (index + 1) (rest.drop size) _ (by
          rw [List.length_drop]; rw [Nat.add_one_mul] at room; omega), placed_step index empty]
        -- the chunk just written is the one by which the two counts differ
        have counted : count size rest.length = count size (rest.length - size) + 1 := by
          rcases Nat.lt_or_ge size rest.length with big | small
          · rw [count, count, show rest.length + size - 1 = rest.length - size + size - 1 + size by
              omega, Nat.add_div_right _ positive]
          · rw [Nat.sub_eq_zero_of_le small, count, count]
            rw [show rest.length + size - 1 = rest.length - 1 + size by omega,
              Nat.add_div_right _ positive, Nat.div_eq_of_lt (by omega), Nat.div_eq_of_lt (by omega)]
        rw [List.length_drop, counted, Nat.add_assoc, Nat.add_comm 1]

/-- Pruning clears the run of present chunks that starts at `index`. -/
theorem prune_run (fuel index stop : Nat) (chunks : Nat → Option (List α))
    (present : ∀ i, index ≤ i → i < stop → (chunks i).isSome) (absent : chunks stop = none)
    (order : index ≤ stop) (room : stop ≤ index + fuel) :
    prune (fuel + 1) index chunks =
      some fun i => if index ≤ i ∧ i < stop then none else chunks i := by
  induction fuel generalizing index chunks with
  | zero =>
      have done : index = stop := by omega
      subst done
      rw [prune, absent]
      simp only [Option.isSome_none, Bool.false_eq_true, ↓reduceIte, Option.some.injEq]
      funext i
      rw [if_neg (by omega)]
  | succ fuel ih =>
      rw [prune]
      rcases Nat.eq_or_lt_of_le order with done | more
      · subst done
        simp only [absent, Option.isSome_none, Bool.false_eq_true, ↓reduceIte, Option.some.injEq]
        funext i
        rw [if_neg (by omega)]
      · rw [if_pos (present index (Nat.le_refl _) more), ih (index + 1)]
        · congr 1
          funext i
          by_cases here : i = index
          · subst here
            simp [more]
          · rw [Function.update_of_ne here]
            exact if_congr (by omega) rfl rfl
        · intro i lower upper
          rw [Function.update_of_ne (by omega)]
          exact present i (by omega) upper
        · rw [Function.update_of_ne (by omega)]
          exact absent
        · omega
        · omega

/-- Rewriting a represented list: lay the new one out over the old chunks, then
prune from the next free number on. -/
def rewrite (size fuel : Nat) (items : List α) (chunks : Nat → Option (List α)) :
    Option (Nat → Option (List α)) :=
  (write size fuel 0 items chunks).bind fun (next, written) => prune (fuel - next) next written

theorem rewrite_represents {chunks : Nat → Option (List α)} {old : List α} (positive : 0 < size)
    (fuel : Nat) (rep : Represents size chunks old) (oldRoom : old.length ≤ fuel * size)
    (items : List α) (room : items.length ≤ fuel * size) :
    ∃ rewritten, rewrite size (fuel + 1) items chunks = some rewritten ∧
      Represents size rewritten items := by
  have bounded : ∀ {length}, length ≤ fuel * size → count size length ≤ fuel := by
    intro length fits
    exact Nat.le_of_not_lt fun beyond =>
      Nat.not_lt_of_ge fits ((lt_count positive fuel length).mp beyond)
  -- past the new list the old chunks stay until they are pruned
  have stays : ∀ i, count size items.length ≤ i →
      placed size 0 items chunks i = chunks i := by
    intro i lower
    have outside : ¬ i * size < items.length :=
      fun inside => Nat.not_lt_of_ge lower ((lt_count positive i _).mpr inside)
    simp [placed, outside]
  -- the old chunks form one run, so pruning does not stop before the last of them
  have pruned := prune_run (fuel - count size items.length) (count size items.length)
    (max (count size items.length) (count size old.length)) (placed size 0 items chunks)
    (by
      intro i lower upper
      have inside : i < count size old.length := by omega
      rw [stays i lower, rep i, if_pos ((lt_count positive i _).mp inside)]
      rfl)
    (by
      rw [stays _ (Nat.le_max_left _ _), rep, if_neg]
      intro inside
      have := (lt_count positive _ old.length).mpr inside
      omega)
    (Nat.le_max_left _ _)
    (by have := bounded room; have := bounded oldRoom; omega)
  refine ⟨fun i => if count size items.length ≤ i ∧
      i < max (count size items.length) (count size old.length) then none
    else placed size 0 items chunks i, ?_, ?_⟩
  · have next := bounded room
    rw [rewrite, write_fits positive fuel 0 items chunks room, Option.bind_some, Nat.zero_add]
    show prune (fuel + 1 - _) _ _ = _
    rw [Nat.sub_add_comm next]
    exact pruned
  · intro i
    dsimp only
    by_cases inside : i * size < items.length
    · have index := (lt_count positive i _).mpr inside
      rw [if_neg (by omega), if_pos inside]
      simp [placed, inside]
    · have index := (lt_count positive i _).not.mpr inside
      rw [if_neg inside, stays i (Nat.le_of_not_lt index), rep i]
      split
      · rfl
      · rename_i outside
        rw [if_neg]
        intro old_item
        have := (lt_count positive i _).mpr old_item
        omega

end Chunks
