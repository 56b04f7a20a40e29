import TrustLink.Lib.Transaction

/-!
Transactions that cannot tell two states apart. A relation says which states are to look
alike; a blind transaction has the same outcome in both and leaves related ones.
-/
namespace Transaction
variable {Fault Env State α β : Type}

/-- What the caller gets to know. -/
def answer (tx : Tx Fault Env State α) (env : Env) (before : State) : Except Fault α :=
  (tx env before).map Prod.fst

/-- The same result with related states, or the same fault. -/
inductive SameOutcome (related : State → State → Prop) :
    Except Fault (α × State) → Except Fault (α × State) → Prop
  | returned {value : α} {first second : State} (still : related first second) :
      SameOutcome related (.ok (value, first)) (.ok (value, second))
  | failed {fault : Fault} : SameOutcome related (.error fault) (.error fault)

def Blind (related : State → State → Prop) (tx : Tx Fault Env State α) (env : Env) : Prop :=
  ∀ first second, related first second → SameOutcome related (tx env first) (tx env second)

variable {related : State → State → Prop} {env : Env} {first second : State}

theorem Blind.answer {tx : Tx Fault Env State α} (blind : Blind related tx env)
    (alike : related first second) : answer tx env first = answer tx env second := by
  unfold Transaction.answer
  have same := blind first second alike
  generalize tx env first = left, tx env second = right at same ⊢
  cases same with
  | returned => rfl
  | failed => rfl

theorem answer_of_returns {tx : Tx Fault Env State α} {value : α} {after : State}
    (ran : Returns tx env first value after) : answer tx env first = .ok value := by
  rw [answer, show tx env first = .ok (value, after) from ran]
  rfl

theorem returns_of_answer {tx : Tx Fault Env State α} {value : α}
    (told : answer tx env first = .ok value) : ∃ after, Returns tx env first value after := by
  rw [answer] at told
  cases outcome : tx env first with
  | error fault =>
      rw [outcome] at told
      cases told
  | ok pair =>
      rw [outcome] at told
      exact ⟨pair.2, by rw [← Except.ok.inj told]; exact outcome⟩

theorem blind_pure (value : α) : Blind related (pure value : Tx Fault Env State α) env :=
  fun _ _ alike => .returned alike

theorem blind_ask : Blind related (ask : Tx Fault Env State Env) env :=
  fun _ _ alike => .returned alike

theorem blind_fail (fault : Fault) : Blind related (fail fault : Tx Fault Env State α) env :=
  fun _ _ _ => .failed

theorem blind_modify {f : State → State}
    (keeps : ∀ first second, related first second → related (f first) (f second)) :
    Blind related (modify f : Tx Fault Env State Unit) env :=
  fun _ _ alike => .returned (keeps _ _ alike)

/-- The rest may rely on what the first transaction is known to return. -/
theorem Blind.bind_of {head : Tx Fault Env State β} {next : β → Tx Fault Env State α}
    {good : β → Prop} (start : Blind related head env)
    (known : ∀ first second value after, related first second →
      Returns head env first value after → good value)
    (rest : ∀ value, good value → Blind related (next value) env) :
    Blind related (head >>= next) env := by
  intro first second alike
  simp only [Bind.bind]
  have same := start first second alike
  have good := known first second
  simp only [Returns] at good
  generalize head env first = left, head env second = right at same good ⊢
  cases same with
  | returned still => exact rest _ (good _ _ alike rfl) _ _ still
  | failed => exact .failed

theorem Blind.bind {head : Tx Fault Env State β} {next : β → Tx Fault Env State α}
    (start : Blind related head env) (rest : ∀ value, Blind related (next value) env) :
    Blind related (head >>= next) env :=
  @Blind.bind_of _ _ _ _ _ _ _ _ _ (fun _ => True) start (fun _ _ _ _ _ _ => trivial)
    fun value _ => rest value

/-- Both states show the same where they are read. -/
theorem Blind.read {f : State → β} {next : β → Tx Fault Env State α} (value : β)
    (shown : ∀ first second, related first second → f first = value ∧ f second = value)
    (rest : Blind related (next value) env) : Blind related (reads f >>= next) env := by
  intro first second alike
  obtain ⟨left, right⟩ := shown first second alike
  simp only [Bind.bind, reads, left, right]
  exact rest first second alike

theorem blind_failIf (condition : Prop) [Decidable condition] (fault : Fault) :
    Blind related (failIf condition fault : Tx Fault Env State Unit) env := by
  unfold failIf
  split
  · exact blind_fail fault
  · exact blind_pure ()

theorem blind_orFail (fault : Fault) (option : Option α) :
    Blind related (orFail fault option : Tx Fault Env State α) env := by
  cases option with
  | none => exact blind_fail fault
  | some value => exact blind_pure value

theorem blind_search {visit : β → Tx Fault Env State Bool} {items : List β}
    (visits : ∀ item ∈ items, Blind related (visit item) env) :
    Blind related (search visit items) env := by
  induction items with
  | nil => exact blind_pure false
  | cons item rest ih =>
      obtain ⟨head, tail⟩ := List.forall_mem_cons.mp visits
      refine head.bind fun found => ?_
      split
      · exact blind_pure true
      · exact ih tail

theorem blind_every {check : β → Tx Fault Env State Bool} {items : List β}
    (checks : ∀ item ∈ items, Blind related (check item) env) :
    Blind related (every check items) env := by
  induction items with
  | nil => exact blind_pure true
  | cons item rest ih =>
      obtain ⟨head, tail⟩ := List.forall_mem_cons.mp checks
      refine head.bind fun passed => ?_
      split
      · exact ih tail
      · exact blind_pure false

end Transaction
