import Mathlib.Tactic.Common

/-!
Transactions: computations that read an environment, carry a state and may
fail. A failing transaction returns no state, so none of its writes survive.
`Returns` is the successful outcome; its simp set turns a transaction written
in `do` notation into the guards it passed and the state it left.
-/
namespace Transaction

/-- A computation over `State` in environment `Env` that fails with `Fault`. -/
def Tx (Fault Env State α : Type) : Type := Env → State → Except Fault (α × State)

variable {Fault Env State α β : Type}

instance : Monad (Tx Fault Env State) where
  pure value := fun _ state => .ok (value, state)
  bind first next := fun env state =>
    match first env state with
    | .ok (value, middle) => next value env middle
    | .error fault => .error fault

def ask : Tx Fault Env State Env := fun env state => .ok (env, state)

/-- A value computed from the current state, which is left alone. -/
def reads (f : State → α) : Tx Fault Env State α := fun _ state => .ok (f state, state)

def modify (f : State → State) : Tx Fault Env State Unit := fun _ state => .ok ((), f state)

def fail (fault : Fault) : Tx Fault Env State α := fun _ _ => .error fault

def failIf (condition : Prop) [Decidable condition] (fault : Fault) : Tx Fault Env State Unit :=
  if condition then fail fault else pure ()

def orFail (fault : Fault) : Option α → Tx Fault Env State α
  | some value => pure value
  | none => fail fault

def ofExcept : Except Fault α → Tx Fault Env State α
  | .ok value => pure value
  | .error fault => fail fault

/-- Runs a transaction and forgets its result. -/
def void (tx : Tx Fault Env State α) : Tx Fault Env State Unit := do
  let _ ← tx
  pure ()

/-- Runs the body on every element, in order. -/
def each (body : β → Tx Fault Env State Unit) : List β → Tx Fault Env State Unit
  | [] => pure ()
  | item :: rest => do
      body item
      each body rest

/-- Visits the items in order until a visit says `true`. -/
def search (visit : β → Tx Fault Env State Bool) : List β → Tx Fault Env State Bool
  | [] => pure false
  | item :: rest => do
      let found ← visit item
      if found = true then pure true else search visit rest

/-- Checks the items in order until a check says `false`. -/
def every (check : β → Tx Fault Env State Bool) : List β → Tx Fault Env State Bool
  | [] => pure true
  | item :: rest => do
      let passed ← check item
      if passed = true then every check rest else pure false

/-- Runs a transaction on a part of a larger state. -/
def zoom {Whole : Type} (part : Whole → State) (withPart : Whole → State → Whole)
    (tx : Tx Fault Env State α) : Tx Fault Env Whole α := fun env whole =>
  match tx env (part whole) with
  | .ok (value, changed) => .ok (value, withPart whole changed)
  | .error fault => .error fault

/-- Runs a transaction in a part of a larger environment. -/
def under {Outer : Type} (part : Outer → Env) (tx : Tx Fault Env State α) :
    Tx Fault Outer State α :=
  fun outer state => tx (part outer) state

/-- The successful outcome of a transaction: its result and its final state. -/
def Returns (tx : Tx Fault Env State α) (env : Env) (before : State) (value : α)
    (after : State) : Prop :=
  tx env before = .ok (value, after)

section Rules
variable {env : Env} {before after : State} {value : α}

@[simp] theorem returns_pure (result : α) :
    Returns (pure result : Tx Fault Env State α) env before value after ↔
      value = result ∧ after = before := by
  simp [Returns, pure, eq_comm]

@[simp] theorem returns_bind (first : Tx Fault Env State β) (next : β → Tx Fault Env State α) :
    Returns (first >>= next) env before value after ↔
      ∃ result middle, Returns first env before result middle ∧
        Returns (next result) env middle value after := by
  simp only [Returns, bind]
  cases outcome : first env before with
  | error fault => simp
  | ok pair =>
      obtain ⟨result, middle⟩ := pair
      simp

@[simp] theorem returns_ask (result : Env) :
    Returns (ask : Tx Fault Env State Env) env before result after ↔
      result = env ∧ after = before := by
  simp [Returns, ask, eq_comm]

@[simp] theorem returns_reads (f : State → α) :
    Returns (reads f : Tx Fault Env State α) env before value after ↔
      value = f before ∧ after = before := by
  simp [Returns, reads, eq_comm]

@[simp] theorem returns_modify (f : State → State) (done : Unit) :
    Returns (modify f : Tx Fault Env State Unit) env before done after ↔ after = f before := by
  simp [Returns, modify, eq_comm]

@[simp] theorem returns_fail (fault : Fault) :
    Returns (fail fault : Tx Fault Env State α) env before value after ↔ False := by
  simp [Returns, fail]

@[simp] theorem returns_failIf (condition : Prop) [Decidable condition] (fault : Fault)
    (done : Unit) :
    Returns (failIf condition fault : Tx Fault Env State Unit) env before done after ↔
      ¬ condition ∧ after = before := by
  unfold failIf
  split <;> simp_all

@[simp] theorem returns_orFail (fault : Fault) (option : Option α) :
    Returns (orFail fault option : Tx Fault Env State α) env before value after ↔
      option = some value ∧ after = before := by
  cases option <;> simp [orFail, eq_comm]

@[simp] theorem returns_ofExcept (outcome : Except Fault α) :
    Returns (ofExcept outcome : Tx Fault Env State α) env before value after ↔
      outcome = .ok value ∧ after = before := by
  cases outcome <;> simp [ofExcept, eq_comm]

@[simp] theorem returns_ite (condition : Prop) [Decidable condition]
    (yes no : Tx Fault Env State α) :
    Returns (if condition then yes else no) env before value after ↔
      (condition ∧ Returns yes env before value after) ∨
        (¬ condition ∧ Returns no env before value after) := by
  split <;> simp_all

@[simp] theorem returns_void (tx : Tx Fault Env State α) (done : Unit) :
    Returns (void tx) env before done after ↔ ∃ result, Returns tx env before result after := by
  simp [void]

@[simp] theorem returns_under {Outer : Type} {outer : Outer} (part : Outer → Env)
    (tx : Tx Fault Env State α) :
    Returns (under part tx) outer before value after ↔ Returns tx (part outer) before value after :=
  Iff.rfl

@[simp] theorem returns_zoom {Whole : Type} (part : Whole → State)
    (withPart : Whole → State → Whole) (tx : Tx Fault Env State α) {early late : Whole} :
    Returns (zoom part withPart tx) env early value late ↔
      ∃ changed, Returns tx env (part early) value changed ∧ late = withPart early changed := by
  unfold Returns zoom
  cases tx env (part early) with
  | error fault => simp
  | ok pair =>
      simp only [Except.ok.injEq, Prod.mk.injEq]
      constructor
      · rintro ⟨rfl, rfl⟩
        exact ⟨_, rfl, rfl⟩
      · rintro ⟨changed, rfl, rfl⟩
        exact ⟨rfl, rfl⟩

/-- A loop of checks that write nothing passes exactly when every check does. -/
theorem returns_each_check (body : β → Tx Fault Env State Unit) (passes : β → Prop)
    (check : ∀ item middle, Returns (body item) env before () middle ↔
      passes item ∧ middle = before) (items : List β) :
    Returns (each body items) env before () after ↔
      (∀ item ∈ items, passes item) ∧ after = before := by
  induction items with
  | nil => simp [each]
  | cons item rest ih =>
      simp only [each, returns_bind, List.forall_mem_cons]
      constructor
      · rintro ⟨_, middle, passed, remaining⟩
        obtain ⟨head, same⟩ := (check item middle).mp passed
        subst same
        exact ⟨⟨head, (ih.mp remaining).1⟩, (ih.mp remaining).2⟩
      · rintro ⟨⟨head, tail⟩, same⟩
        exact ⟨(), before, (check item before).mpr ⟨head, rfl⟩, ih.mpr ⟨tail, same⟩⟩

theorem returns_unique {tx : Tx Fault Env State α} {other : α} {final : State}
    (first : Returns tx env before value after) (second : Returns tx env before other final) :
    value = other ∧ after = final := by
  have same := Except.ok.inj (first.symm.trans second)
  exact Prod.mk.inj same

/-- What a run of a transaction shows about its result and its final state. -/
theorem exists_returns (tx : Tx Fault Env State α) (env : Env) (before : State) {Seen : Type}
    (view : α → State → Seen) (seen : Seen)
    (ran : ((tx env before).map fun pair => view pair.1 pair.2).toOption = some seen) :
    ∃ value after, Returns tx env before value after ∧ view value after = seen := by
  cases outcome : tx env before with
  | error fault => simp [outcome, Except.map, Except.toOption] at ran
  | ok pair =>
      rw [outcome] at ran
      exact ⟨pair.1, pair.2, outcome, Option.some.inj ran⟩

end Rules

section Readers
variable {Part : Type} {part : State → Part} {held : Part} {env : Env}
  {tx : Tx Fault Env State α} {value : α}

/-- Whenever a part of the state is as given, the transaction returns the value
and keeps that part. -/
def Answers (part : State → Part) (held : Part) (tx : Tx Fault Env State α) (env : Env)
    (value : α) : Prop :=
  ∀ before, part before = held → ∃ after, Returns tx env before value after ∧ part after = held

theorem Answers.of_returns (same : ∀ before, part before = held → Returns tx env before value before) :
    Answers part held tx env value :=
  fun before holds => ⟨before, same before holds, holds⟩

theorem Answers.bind {first : Tx Fault Env State β} {next : β → Tx Fault Env State α} {result : β}
    (head : Answers part held first env result) (tail : Answers part held (next result) env value) :
    Answers part held (first >>= next) env value := by
  intro before holds
  obtain ⟨middle, ran, kept⟩ := head before holds
  obtain ⟨after, finished, same⟩ := tail middle kept
  exact ⟨after, (returns_bind ..).mpr ⟨result, middle, ran, finished⟩, same⟩

theorem answers_pure (value : α) :
    Answers part held (pure value : Tx Fault Env State α) env value :=
  .of_returns fun _ _ => (returns_pure ..).mpr ⟨rfl, rfl⟩

theorem answers_search {visit : β → Tx Fault Env State Bool} {test : β → Bool}
    (visits : ∀ item, Answers part held (visit item) env (test item)) (items : List β) :
    Answers part held (search visit items) env (items.any test) := by
  induction items with
  | nil => exact answers_pure false
  | cons item rest ih =>
      refine (visits item).bind ?_
      cases found : test item with
      | true => simpa [found] using answers_pure true
      | false => simpa [found] using ih

theorem answers_every {check : β → Tx Fault Env State Bool} {test : β → Bool}
    (checks : ∀ item, Answers part held (check item) env (test item)) (items : List β) :
    Answers part held (every check items) env (items.all test) := by
  induction items with
  | nil => exact answers_pure true
  | cons item rest ih =>
      refine (checks item).bind ?_
      cases passed : test item with
      | true => simpa [passed] using ih
      | false => simpa [passed] using answers_pure false

/-- An answer is the only thing the transaction returns. -/
theorem Answers.returns_iff (answers : Answers part held tx env value) {before : State}
    (holds : part before = held) (other : α) :
    (∃ after, Returns tx env before other after) ↔ other = value := by
  obtain ⟨final, returned, _⟩ := answers before holds
  constructor
  · rintro ⟨after, claimed⟩
    exact (returns_unique claimed returned).1
  · rintro rfl
    exact ⟨final, returned⟩

end Readers

end Transaction
