import TrustLink.Lib.Rollback

/-!
A record per key beside a list of the keys in the order of their creation. A put lists its
key only when there is no record, a remove drops the record and the key. What the list says
about the moves made so far: the keys that have a record, each once, in the order of the
puts that created them, which are the first ones after any removal.
-/
namespace Registry
open Transaction
variable {Key Value : Type}

structure Table (Key Value : Type) where
  record : Key → Option Value
  order : List Key

inductive Move (Key Value : Type) where
  | put (key : Key) (value : Value)
  | remove (key : Key)

def Table.empty : Table Key Value := ⟨fun _ => none, []⟩

section Positions
variable (moves : List (Option (Move Key Value))) (key : Key)

def PutAt (n : Nat) : Prop := ∃ value, moves[n]? = some (some (.put key value))

def RemovedAt (n : Nat) : Prop := moves[n]? = some (some (.remove key))

/-- The creation at the position stands: no creation before it outlived the removals, and no
removal has come since. -/
structure Standing (puts removes : Nat → Prop) (n : Nat) : Prop where
  put : puts n
  fresh : ∀ i < n, puts i → ∃ j, i < j ∧ j < n ∧ removes j
  kept : ∀ j, n < j → ¬ removes j

abbrev Stands (n : Nat) : Prop := Standing (PutAt moves key) (RemovedAt moves key) n

end Positions

section Growth
variable {moves : List (Option (Move Key Value))} {last : Option (Move Key Value)} {key : Key}
  {n : Nat}

theorem PutAt.lt (put : PutAt moves key n) : n < moves.length := by
  obtain ⟨value, found⟩ := put
  exact (List.getElem?_eq_some_iff.mp found).1

theorem RemovedAt.lt (removed : RemovedAt moves key n) : n < moves.length :=
  (List.getElem?_eq_some_iff.mp removed).1

theorem getElem?_concat {Item : Type} (items : List Item) (last found : Item) (n : Nat) :
    (items ++ [last])[n]? = some found ↔
      items[n]? = some found ∨ (n = items.length ∧ last = found) := by
  rcases Nat.lt_trichotomy n items.length with inside | here | beyond
  · rw [List.getElem?_append_left inside]
    simp [Nat.ne_of_lt inside]
  · subst here
    simp
  · have past : items[n]? = none := List.getElem?_eq_none (Nat.le_of_lt beyond)
    have outside : (items ++ [last])[n]? = none :=
      List.getElem?_eq_none (by rw [List.length_append]; exact beyond)
    simp [past, outside, Nat.ne_of_gt beyond]

theorem putAt_concat : PutAt (moves ++ [last]) key n ↔
    PutAt moves key n ∨ (n = moves.length ∧ ∃ value, last = some (.put key value)) := by
  simp only [PutAt, getElem?_concat]
  constructor
  · rintro ⟨value, early | ⟨here, same⟩⟩
    · exact .inl ⟨value, early⟩
    · exact .inr ⟨here, value, same⟩
  · rintro (⟨value, early⟩ | ⟨here, value, same⟩)
    · exact ⟨value, .inl early⟩
    · exact ⟨value, .inr ⟨here, same⟩⟩

theorem removedAt_concat : RemovedAt (moves ++ [last]) key n ↔
    RemovedAt moves key n ∨ (n = moves.length ∧ last = some (.remove key)) :=
  getElem?_concat ..

theorem stands_concat (stands : Stands moves key n) (other : last ≠ some (.remove key)) :
    Stands (moves ++ [last]) key n where
  put := putAt_concat.mpr (.inl stands.put)
  fresh i earlier put := by
    have old : PutAt moves key i := by
      rcases putAt_concat.mp put with old | ⟨here, -⟩
      · exact old
      · have inside := stands.put.lt
        omega
    obtain ⟨j, after, before, removed⟩ := stands.fresh i earlier old
    exact ⟨j, after, before, removedAt_concat.mpr (.inl removed)⟩
  kept j later removed := by
    rcases removedAt_concat.mp removed with old | ⟨-, same⟩
    · exact stands.kept j later old
    · exact other same

/-- A put of a key whose puts have all been undone stands. -/
theorem stands_last {value : Value}
    (cleared : ∀ i, PutAt moves key i → ∃ j, i < j ∧ RemovedAt moves key j) :
    Stands (moves ++ [some (.put key value)]) key moves.length where
  put := putAt_concat.mpr (.inr ⟨rfl, value, rfl⟩)
  fresh i earlier put := by
    have old : PutAt moves key i := by
      rcases putAt_concat.mp put with old | ⟨here, -⟩
      · exact old
      · exact absurd here (Nat.ne_of_lt earlier)
    obtain ⟨j, after, removed⟩ := cleared i old
    exact ⟨j, after, removed.lt, removedAt_concat.mpr (.inl removed)⟩
  kept j later removed := by
    rcases removedAt_concat.mp removed with old | ⟨-, same⟩
    · exact Nat.lt_asymm later old.lt
    · cases same

/-- There is one creation that stands. -/
theorem Standing.unique {puts removes : Nat → Prop} {m : Nat} (first : Standing puts removes m)
    (second : Standing puts removes n) : m = n := by
  rcases Nat.lt_trichotomy m n with before | same | after
  · obtain ⟨j, later, -, removed⟩ := second.fresh m before first.put
    exact absurd removed (first.kept j later)
  · exact same
  · obtain ⟨j, later, -, removed⟩ := first.fresh n after second.put
    exact absurd removed (second.kept j later)

/-- Where nothing is removed, the first put stands. -/
theorem standing_iff_first {puts : Nat → Prop} :
    Standing puts (fun _ => False) n ↔ puts n ∧ ∀ i < n, ¬ puts i := by
  constructor
  · intro stands
    refine ⟨stands.put, fun i earlier other => ?_⟩
    obtain ⟨j, -, -, removed⟩ := stands.fresh i earlier other
    exact removed
  · rintro ⟨put, first⟩
    exact ⟨put, fun i earlier other => absurd other (first i earlier), fun _ _ => id⟩

end Growth

/-- The list of a table has the keys of its records, each once and in the order of the
positions that the records are there since, of which each record has one. -/
structure Listed (table : Table Key Value) (since : Key → Nat → Prop) : Prop where
  once : table.order.Nodup
  listed : ∀ key, key ∈ table.order ↔ (table.record key).isSome
  recorded : ∀ key, (table.record key).isSome ↔ ∃! n, since key n
  ordered : table.order.Pairwise fun first second =>
    ∃ m n, since first m ∧ since second n ∧ m < n

/-- The invariant of a table and the moves that made it: where there is no record, every put
has been undone. -/
structure Mirrors (table : Table Key Value) (moves : List (Option (Move Key Value))) : Prop where
  once : table.order.Nodup
  listed : ∀ key, key ∈ table.order ↔ (table.record key).isSome
  stands : ∀ key ∈ table.order, ∃ n, Stands moves key n
  cleared : ∀ key, table.record key = none → ∀ i, PutAt moves key i →
    ∃ j, i < j ∧ RemovedAt moves key j
  ordered : table.order.Pairwise fun first second =>
    ∃ m n, Stands moves first m ∧ Stands moves second n ∧ m < n

theorem mirrors_empty : Mirrors (Table.empty : Table Key Value) [] where
  once := List.nodup_nil
  listed _ := by simp [Table.empty]
  stands _ listed := absurd listed List.not_mem_nil
  cleared _ _ i put := absurd put.lt (Nat.not_lt_zero i)
  ordered := List.Pairwise.nil

variable [DecidableEq Key]

def Table.move (table : Table Key Value) : Move Key Value → Table Key Value
  | .put key value =>
      ⟨Function.update table.record key (some value),
        if (table.record key).isSome then table.order else table.order ++ [key]⟩
  | .remove key => ⟨Function.update table.record key none, table.order.filter (· ≠ key)⟩

/-- The move, when there is one. -/
def Table.turn (table : Table Key Value) (move : Option (Move Key Value)) : Table Key Value :=
  move.elim table table.move

section Steps
variable {table : Table Key Value} {moves : List (Option (Move Key Value))}

omit [DecidableEq Key] in
theorem Mirrors.idle (mirrors : Mirrors table moves) : Mirrors table (moves ++ [none]) where
  once := mirrors.once
  listed := mirrors.listed
  stands key listed := by
    obtain ⟨n, stands⟩ := mirrors.stands key listed
    exact ⟨n, stands_concat stands nofun⟩
  cleared key absent i put := by
    rcases putAt_concat.mp put with old | ⟨-, value, same⟩
    · obtain ⟨j, later, removed⟩ := mirrors.cleared key absent i old
      exact ⟨j, later, removedAt_concat.mpr (.inl removed)⟩
    · cases same
  ordered := mirrors.ordered.imp fun ⟨m, n, first, second, before⟩ =>
    ⟨m, n, stands_concat first nofun, stands_concat second nofun, before⟩

/-- A put leaves the removals of the other keys behind their puts. -/
theorem Mirrors.cleared_put (mirrors : Mirrors table moves) (key : Key) (value : Value) :
    ∀ other, (table.move (.put key value)).record other = none → ∀ i,
      PutAt (moves ++ [some (.put key value)]) other i →
        ∃ j, i < j ∧ RemovedAt (moves ++ [some (.put key value)]) other j := by
  intro other absent i put
  by_cases here : other = key
  · subst here
    cases (Function.update_self ..).symm.trans absent
  · have before : table.record other = none := (Function.update_of_ne here ..).symm.trans absent
    rcases putAt_concat.mp put with old | ⟨-, written, same⟩
    · obtain ⟨j, later, removed⟩ := mirrors.cleared other before i old
      exact ⟨j, later, removedAt_concat.mpr (.inl removed)⟩
    · cases same
      exact absurd rfl here

theorem record_put (key : Key) (value : Value) (other : Key) :
    ((table.move (.put key value)).record other).isSome ↔
      other = key ∨ (table.record other).isSome := by
  by_cases here : other = key
  · subst here
    simp [Table.move]
  · simp [Table.move, here]

/-- A put over a record keeps the list, and every creation that stands. -/
theorem Mirrors.overwrite (mirrors : Mirrors table moves) {key : Key}
    (found : (table.record key).isSome) (value : Value) :
    Mirrors (table.move (.put key value)) (moves ++ [some (.put key value)]) := by
  have same : (table.move (.put key value)).order = table.order := if_pos found
  refine ⟨same ▸ mirrors.once, fun other => ?_, fun other listed => ?_,
    mirrors.cleared_put key value, ?_⟩
  · rw [same, record_put, mirrors.listed]
    refine ⟨.inr, ?_⟩
    rintro (rfl | old)
    · exact found
    · exact old
  · obtain ⟨n, stands⟩ := mirrors.stands other (same ▸ listed)
    exact ⟨n, stands_concat stands nofun⟩
  · rw [same]
    exact mirrors.ordered.imp fun ⟨m, n, first, second, before⟩ =>
      ⟨m, n, stands_concat first nofun, stands_concat second nofun, before⟩

/-- A put without a record is the latest creation, and its key is listed last. -/
theorem Mirrors.create (mirrors : Mirrors table moves) {key : Key}
    (free : table.record key = none) (value : Value) :
    Mirrors (table.move (.put key value)) (moves ++ [some (.put key value)]) := by
  have missing : ¬ (table.record key).isSome := by simp [free]
  have absent : key ∉ table.order := fun listed => missing ((mirrors.listed key).mp listed)
  have grown : (table.move (.put key value)).order = table.order ++ [key] := if_neg missing
  have created : Stands (moves ++ [some (.put key value)]) key moves.length :=
    stands_last (mirrors.cleared key free)
  refine ⟨?_, fun other => ?_, fun other listed => ?_, mirrors.cleared_put key value, ?_⟩
  · rw [grown]
    refine List.nodup_append.mpr ⟨mirrors.once, List.pairwise_singleton .., ?_⟩
    intro other listed last here
    obtain rfl := List.mem_singleton.mp here
    exact ne_of_mem_of_not_mem listed absent
  · rw [grown, record_put, List.mem_append, List.mem_singleton, mirrors.listed, or_comm]
  · rw [grown, List.mem_append, List.mem_singleton] at listed
    rcases listed with old | rfl
    · obtain ⟨n, stands⟩ := mirrors.stands other old
      exact ⟨n, stands_concat stands nofun⟩
    · exact ⟨_, created⟩
  · rw [grown]
    refine List.pairwise_append.mpr ⟨?_, List.pairwise_singleton .., ?_⟩
    · exact mirrors.ordered.imp fun ⟨m, n, first, second, before⟩ =>
        ⟨m, n, stands_concat first nofun, stands_concat second nofun, before⟩
    · intro other listed last here
      obtain rfl := List.mem_singleton.mp here
      obtain ⟨n, stands⟩ := mirrors.stands other listed
      exact ⟨n, _, stands_concat stands nofun, created, stands.put.lt⟩

theorem Mirrors.remove (mirrors : Mirrors table moves) (key : Key) :
    Mirrors (table.move (.remove key)) (moves ++ [some (.remove key)]) := by
  have other_key : ∀ {other}, other ≠ key →
      some (.remove key) ≠ some (Move.remove other : Move Key Value) := by
    rintro other apart same
    cases same
    exact apart rfl
  have member : ∀ other, other ∈ (table.move (.remove key) : Table Key Value).order ↔
      other ∈ table.order ∧ other ≠ key := by
    intro other
    simp [Table.move]
  refine ⟨mirrors.once.filter _, fun other => ?_, fun other listed => ?_,
    fun other absent i put => ?_, ?_⟩
  · rw [member, mirrors.listed]
    by_cases here : other = key
    · subst here
      simp [Table.move]
    · simp [Table.move, here]
  · obtain ⟨old, apart⟩ := (member other).mp listed
    obtain ⟨n, stands⟩ := mirrors.stands other old
    exact ⟨n, stands_concat stands (other_key apart)⟩
  · have old : PutAt moves other i := by
      rcases putAt_concat.mp put with old | ⟨-, value, same⟩
      · exact old
      · cases same
    by_cases here : other = key
    · subst here
      exact ⟨_, old.lt, removedAt_concat.mpr (.inr ⟨rfl, rfl⟩)⟩
    · have before : table.record other = none := (Function.update_of_ne here ..).symm.trans absent
      obtain ⟨j, later, removed⟩ := mirrors.cleared other before i old
      exact ⟨j, later, removedAt_concat.mpr (.inl removed)⟩
  · have kept : ∀ {first}, first ∈ (table.move (.remove key) : Table Key Value).order →
        first ≠ key := fun listed => ((member _).mp listed).2
    refine (mirrors.ordered.filter _).imp_of_mem ?_
    rintro first second one two ⟨m, n, early, late, before⟩
    exact ⟨m, n, stands_concat early (other_key (kept one)),
      stands_concat late (other_key (kept two)), before⟩

theorem Mirrors.turn (mirrors : Mirrors table moves) (move : Option (Move Key Value)) :
    Mirrors (table.turn move) (moves ++ [move]) := by
  match move with
  | none => exact mirrors.idle
  | some (.put key value) =>
      cases found : table.record key with
      | none => exact mirrors.create found value
      | some old => exact mirrors.overwrite (by rw [found]; rfl) value
  | some (.remove key) => exact mirrors.remove key

omit [DecidableEq Key] in
/-- A record is there exactly when a creation of it stands. -/
theorem Mirrors.in_order (mirrors : Mirrors table moves) : Listed table (Stands moves) := by
  refine ⟨mirrors.once, mirrors.listed, fun key => ⟨fun found => ?_, ?_⟩, mirrors.ordered⟩
  · obtain ⟨n, stands⟩ := mirrors.stands key ((mirrors.listed key).mpr found)
    exact ⟨n, stands, fun m other => other.unique stands⟩
  · rintro ⟨n, stands, -⟩
    by_contra absent
    obtain ⟨j, later, removed⟩ :=
      mirrors.cleared key (Option.not_isSome_iff_eq_none.mp absent) n stands.put
    exact stands.kept j later removed

end Steps

section Runs
variable {State Call : Type} {step : State → Call → State} {table : State → Table Key Value}
  {moveOf : State → Call → Option (Move Key Value)}

/-- A system each call of which makes at most one move keeps its table in order. -/
theorem mirrors_run
    (turns : ∀ state call, table (step state call) = (table state).turn (moveOf state call))
    {start : State} (initial : table start = Table.empty) (calls : List Call) :
    Mirrors (table (Trace.run step start calls)) (Trace.outputs step moveOf start calls) := by
  induction calls using List.reverseRecOn with
  | nil =>
      rw [Trace.run_nil, initial]
      exact mirrors_empty
  | append_singleton calls last ih =>
      rw [Trace.run_concat, Trace.outputs_concat, turns]
      exact ih.turn _

end Runs

section Systems
variable {Fault Env State Call : Type} {step : State → Call → State}
  {exec : Call → Tx Fault Env State Unit} {env : Call → Env} {table : State → Table Key Value}
  {move : Call → Option (Move Key Value)}

/-- The call at the position returns. -/
def ReturnsAt (step : State → Call → State) (exec : Call → Tx Fault Env State Unit)
    (env : Call → Env) (start : State) (calls : List Call) (call : Call) (n : Nat) : Prop :=
  calls[n]? = some call ∧
    ∃ after, Returns (exec call) (env call) (Trace.run step start (calls.take n)) () after

/-- The move of a call that returns. -/
def made (exec : Call → Tx Fault Env State Unit) (env : Call → Env)
    (move : Call → Option (Move Key Value)) (state : State) (call : Call) :
    Option (Move Key Value) :=
  match exec call (env call) state with
  | .ok _ => move call
  | .error _ => none

omit [DecidableEq Key] in
theorem made_eq_some {state : State} {call : Call} {moved : Move Key Value} :
    made exec env move state call = some moved ↔
      move call = some moved ∧ ∃ after, Returns (exec call) (env call) state () after := by
  unfold made Returns
  cases exec call (env call) state with
  | error fault => simp
  | ok pair => simp [Prod.ext_iff]

omit [DecidableEq Key] in
theorem made_at (start : State) (calls : List Call) (moved : Move Key Value) (n : Nat) :
    (Trace.outputs step (made exec env move) start calls)[n]? = some (some moved) ↔
      ∃ call, move call = some moved ∧ ReturnsAt step exec env start calls call n := by
  rw [Trace.outputs_getElem?, Option.map_eq_some_iff]
  simp only [made_eq_some, ReturnsAt]
  constructor
  · rintro ⟨call, here, moves, returned⟩
    exact ⟨call, moves, here, returned⟩
  · rintro ⟨call, moves, here, returned⟩
    exact ⟨call, here, moves, returned⟩

omit [DecidableEq Key] in
/-- What stands in the outputs of a run is told by the calls that return. -/
theorem stands_made (start : State) (calls : List Call) (key : Key) :
    Stands (Trace.outputs step (made exec env move) start calls) key =
      Standing
        (fun n => ∃ call value, move call = some (.put key value) ∧
          ReturnsAt step exec env start calls call n)
        (fun n => ∃ call, move call = some (.remove key) ∧
          ReturnsAt step exec env start calls call n) := by
  have puts : PutAt (Trace.outputs step (made exec env move) start calls) key =
      fun n => ∃ call value, move call = some (.put key value) ∧
        ReturnsAt step exec env start calls call n := by
    funext n
    simp only [PutAt, made_at]
    exact propext exists_comm
  have removes : RemovedAt (Trace.outputs step (made exec env move) start calls) key =
      fun n => ∃ call, move call = some (.remove key) ∧
        ReturnsAt step exec env start calls call n := by
    funext n
    exact propext (made_at ..)
  funext n
  rw [Stands, puts, removes]

/-- Where every call that returns makes its move, a run leaves the records listed in the
order of the calls that created them. -/
theorem listed_of_run
    (commits : ∀ state call, step state call = attempt (exec call) (env call) state)
    (turns : ∀ call before after, Returns (exec call) (env call) before () after →
      table after = (table before).turn (move call))
    {start : State} (initial : table start = Table.empty) {puts removes : Key → Nat → Prop}
    {calls : List Call}
    (put_iff : ∀ key n, puts key n ↔ ∃ call value, move call = some (.put key value) ∧
      ReturnsAt step exec env start calls call n)
    (remove_iff : ∀ key n, removes key n ↔ ∃ call, move call = some (.remove key) ∧
      ReturnsAt step exec env start calls call n) :
    Listed (table (Trace.run step start calls)) fun key => Standing (puts key) (removes key) := by
  have moves : ∀ state call, table (step state call) =
      (table state).turn (made exec env move state call) := by
    intro state call
    rw [commits]
    unfold attempt made
    cases outcome : exec call (env call) state with
    | error fault => rfl
    | ok pair => exact turns call state pair.2 outcome
  have listed := (mirrors_run moves initial calls).in_order
  simp only [funext (stands_made start calls), ← put_iff, ← remove_iff] at listed
  exact listed

end Systems

end Registry
