import TrustLink.Lib.Trace
import TrustLink.Lib.Transaction

/-!
Systems whose calls are transactions. A call that fails leaves the state as it
was, so every call is a step, and a run is a trace of such steps. A partial
abstract system, which refuses what the transactions refuse, is compared with
them by one step.
-/
namespace Transaction
variable {Fault Env State Other Call : Type}

/-- Takes the state a transaction leaves; a transaction that fails leaves the old one. -/
def attempt (tx : Tx Fault Env State Unit) (env : Env) (state : State) : State :=
  match tx env state with
  | .ok (_, after) => after
  | .error _ => state

section Attempt
variable {tx : Tx Fault Env State Unit} {env : Env} {before after : State}

theorem attempt_of_returns (returned : Returns tx env before () after) :
    attempt tx env before = after := by
  rw [attempt, show tx env before = .ok ((), after) from returned]

theorem attempt_of_fails (fails : ∀ after, ¬ Returns tx env before () after) :
    attempt tx env before = before := by
  unfold attempt
  cases outcome : tx env before with
  | error fault => rfl
  | ok pair => exact absurd outcome (fails pair.2)

end Attempt

/-- From related states the transaction returns exactly where the abstract step is defined,
and leaves related states. -/
structure Simulates (related : State → Other → Prop) (tx : Tx Fault Env State Unit) (env : Env)
    (next? : Other → Option Other) : Prop where
  returns : ∀ {before other result}, related before other → next? other = some result →
    ∃ after, Returns tx env before () after ∧ related after result
  refuses : ∀ {before other}, related before other → next? other = none →
    ∀ after, ¬ Returns tx env before () after

theorem Simulates.attempt {related : State → Other → Prop} {tx : Tx Fault Env State Unit}
    {env : Env} {next? : Other → Option Other} (simulates : Simulates related tx env next?)
    {before : State} {other : Other} (rel : related before other) :
    related (attempt tx env before) ((next? other).getD other) := by
  cases found : next? other with
  | none =>
      rw [attempt_of_fails (simulates.refuses rel found), Option.getD_none]
      exact rel
  | some result =>
      obtain ⟨after, returned, held⟩ := simulates.returns rel found
      rw [attempt_of_returns returned, Option.getD_some]
      exact held

theorem Simulates.accepts_iff {related : State → Other → Prop} {tx : Tx Fault Env State Unit}
    {env : Env} {next? : Other → Option Other} (simulates : Simulates related tx env next?)
    {before : State} {other : Other} (rel : related before other) :
    (∃ after, Returns tx env before () after) ↔ (next? other).isSome := by
  cases found : next? other with
  | none =>
      refine iff_of_false ?_ Bool.false_ne_true
      rintro ⟨after, returned⟩
      exact simulates.refuses rel found after returned
  | some result =>
      obtain ⟨after, returned, -⟩ := simulates.returns rel found
      exact iff_of_true ⟨after, returned⟩ rfl

/-- A simulation of every call is a simulation of every run. -/
theorem run_simulates {related : State → Other → Prop} {exec : Call → Tx Fault Env State Unit}
    {env : Call → Env} {next? : Other → Call → Option Other}
    (simulates : ∀ call, Simulates related (exec call) (env call) (next? · call))
    {start : State} {origin : Other} (initial : related start origin) (calls : List Call) :
    related (Trace.run (fun state call => attempt (exec call) (env call) state) start calls)
      (Trace.run (fun other call => (next? other call).getD other) origin calls) := by
  induction calls generalizing start origin with
  | nil => exact initial
  | cons call rest ih => exact ih ((simulates call).attempt initial)

end Transaction
