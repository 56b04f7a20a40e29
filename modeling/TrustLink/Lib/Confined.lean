import Mathlib.Order.Defs.Unbundled
import TrustLink.Lib.Transaction

/-!
Transactions that stay within a relation: whenever one returns, the state it leaves is related
to the state it found. A preorder goes through every way of putting transactions together, so it
is enough to look at what they modify.
-/
namespace Transaction
variable {Fault Env State α β : Type} {related : State → State → Prop}

def Confined (related : State → State → Prop) (tx : Tx Fault Env State α) : Prop :=
  ∀ env before value after, Returns tx env before value after → related before after

theorem confined_modify {f : State → State} (moves : ∀ state, related state (f state)) :
    Confined related (modify f : Tx Fault Env State Unit) := by
  intro env before value after returned
  obtain rfl := (returns_modify f value).mp returned
  exact moves before

variable [IsPreorder State related]

/-- A transaction that leaves the state alone stays within. -/
theorem confined_of_same {tx : Tx Fault Env State α}
    (same : ∀ env before value after, Returns tx env before value after → after = before) :
    Confined related tx := by
  intro env before value after returned
  rw [same env before value after returned]
  exact refl_of related before

theorem confined_pure (value : α) : Confined related (pure value : Tx Fault Env State α) :=
  confined_of_same fun _ _ _ _ returned => ((returns_pure _).mp returned).2

theorem confined_ask : Confined related (ask : Tx Fault Env State Env) :=
  confined_of_same fun _ _ _ _ returned => ((returns_ask _).mp returned).2

theorem confined_reads (f : State → α) : Confined related (reads f : Tx Fault Env State α) :=
  confined_of_same fun _ _ _ _ returned => ((returns_reads f).mp returned).2

theorem confined_failIf (condition : Prop) [Decidable condition] (fault : Fault) :
    Confined related (failIf condition fault : Tx Fault Env State Unit) :=
  confined_of_same fun _ _ _ _ returned => ((returns_failIf condition fault _).mp returned).2

theorem Confined.bind {head : Tx Fault Env State β} {next : β → Tx Fault Env State α}
    (first : Confined related head) (rest : ∀ value, Confined related (next value)) :
    Confined related (head >>= next) := by
  intro env before value after returned
  obtain ⟨result, middle, ran, finished⟩ := (returns_bind head next).mp returned
  exact trans_of related (first _ _ _ _ ran) (rest result _ _ _ _ finished)

theorem confined_search {visit : β → Tx Fault Env State Bool}
    (visits : ∀ item, Confined related (visit item)) (items : List β) :
    Confined related (search visit items) := by
  induction items with
  | nil => exact confined_pure false
  | cons item rest ih =>
      refine (visits item).bind fun found => ?_
      split
      · exact confined_pure true
      · exact ih

theorem confined_every {check : β → Tx Fault Env State Bool}
    (checks : ∀ item, Confined related (check item)) (items : List β) :
    Confined related (every check items) := by
  induction items with
  | nil => exact confined_pure true
  | cons item rest ih =>
      refine (checks item).bind fun passed => ?_
      split
      · exact ih
      · exact confined_pure false

end Transaction
