import TrustLink.Lib.Trace
import TrustLink.Lib.Transaction

/-!
Two transactions compared by what they show: the result with a view of the state that is
left, or the fault. A step that both begin with can be taken off; where only one fault is
left to fail with, the successful outcomes decide.
-/
namespace Transaction
variable {Fault Env State Seen α β γ : Type}

section Comparison

/-- Both return the same result and leave states of the same view, or both fail alike. -/
def Alike (view : State → Seen) (first second : Tx Fault Env State α) (env : Env)
    (before : State) : Prop :=
  (first env before).map (fun pair => (pair.1, view pair.2)) =
    (second env before).map (fun pair => (pair.1, view pair.2))

variable {view : State → Seen} {env : Env} {before after : State} {value : α} {fault : Fault}

theorem alike_comm {first second : Tx Fault Env State α} :
    Alike view first second env before ↔ Alike view second first env before :=
  eq_comm

/-- A step that both begin with. -/
theorem alike_bind (step : Tx Fault Env State β) (first second : β → Tx Fault Env State α) :
    Alike view (step >>= first) (step >>= second) env before ↔
      ∀ result middle, Returns step env before result middle →
        Alike view (first result) (second result) env middle := by
  simp only [Alike, Returns, bind]
  cases outcome : step env before with
  | error fault => simp
  | ok pair =>
      constructor
      · rintro alike result middle ran
        obtain rfl := Except.ok.inj ran
        exact alike
      · exact fun all => all pair.1 pair.2 rfl

/-- A check that both make. -/
theorem alike_guard {guard : Tx Fault Env State Unit} {passes : Prop}
    (checks : ∀ middle, Returns guard env before () middle ↔ passes ∧ middle = before)
    (first second : Unit → Tx Fault Env State α) :
    Alike view (guard >>= first) (guard >>= second) env before ↔
      (passes → Alike view (first ()) (second ()) env before) := by
  rw [alike_bind]
  constructor
  · exact fun all passed => all () before ((checks before).mpr ⟨passed, rfl⟩)
  · rintro alike ⟨⟩ middle ran
    obtain ⟨passed, rfl⟩ := (checks middle).mp ran
    exact alike passed

theorem bind_of_returns {step : Tx Fault Env State β} {next : β → Tx Fault Env State α}
    {result : β} (ran : Returns step env before result after) :
    (step >>= next) env before = next result env after := by
  simp only [bind, show step env before = .ok (result, after) from ran]

theorem bind_of_fault {step : Tx Fault Env State β} {next : β → Tx Fault Env State α}
    (failed : step env before = .error fault) : (step >>= next) env before = .error fault := by
  simp only [bind, failed]

/-- A step that only one of them takes, and that leaves the state alone. -/
theorem alike_of_returns {step : Tx Fault Env State β} {first : Tx Fault Env State α}
    {second : β → Tx Fault Env State α} {result : β} (ran : Returns step env before result before) :
    Alike view first (step >>= second) env before ↔
      Alike view first (second result) env before := by
  rw [Alike, Alike, bind_of_returns ran]

theorem alike_of_returns_left {step : Tx Fault Env State β} {first : β → Tx Fault Env State α}
    {second : Tx Fault Env State α} {result : β} (ran : Returns step env before result before) :
    Alike view (step >>= first) second env before ↔
      Alike view (first result) second env before := by
  rw [Alike, Alike, bind_of_returns ran]

theorem alike_of_fault {first second : Tx Fault Env State α}
    (failed : first env before = .error fault) :
    Alike view first second env before ↔ second env before = .error fault := by
  rw [Alike, failed]
  cases outcome : second env before with
  | error other => simp [Except.map, eq_comm]
  | ok pair => simp [Except.map]

theorem alike_of_both {first second : Tx Fault Env State α} {other : α} {final : State}
    (ran : Returns first env before value after)
    (returned : Returns second env before other final) :
    Alike view first second env before ↔ value = other ∧ view after = view final := by
  rw [Alike, show first env before = _ from ran, show second env before = _ from returned]
  simp [Except.map]

end Comparison

section Faults

/-- The transaction fails with no other faults. -/
def FaultsWithin (allowed : Fault → Prop) (tx : Tx Fault Env State α) : Prop :=
  ∀ env before fault, tx env before = .error fault → allowed fault

variable {allowed : Fault → Prop}

theorem faultsWithin_pure (value : α) :
    FaultsWithin allowed (pure value : Tx Fault Env State α) :=
  fun _ _ _ failed => nomatch failed

theorem faultsWithin_ask : FaultsWithin allowed (ask : Tx Fault Env State Env) :=
  fun _ _ _ failed => nomatch failed

theorem faultsWithin_reads (f : State → α) :
    FaultsWithin allowed (reads f : Tx Fault Env State α) :=
  fun _ _ _ failed => nomatch failed

theorem faultsWithin_modify (f : State → State) :
    FaultsWithin allowed (modify f : Tx Fault Env State Unit) :=
  fun _ _ _ failed => nomatch failed

theorem FaultsWithin.bind {step : Tx Fault Env State β} {next : β → Tx Fault Env State α}
    (first : FaultsWithin allowed step) (then_ : ∀ result, FaultsWithin allowed (next result)) :
    FaultsWithin allowed (step >>= next) := by
  intro env before fault failed
  cases outcome : step env before with
  | error other =>
      rw [bind_of_fault outcome] at failed
      obtain rfl := Except.error.inj failed
      exact first env before _ outcome
  | ok pair =>
      rw [bind_of_returns outcome] at failed
      exact then_ pair.1 env pair.2 fault failed

theorem faultsWithin_fail {fault : Fault} (may : allowed fault) :
    FaultsWithin allowed (fail fault : Tx Fault Env State α) := by
  rintro env before other failed
  obtain rfl := Except.error.inj failed
  exact may

theorem faultsWithin_ite {condition : Prop} [Decidable condition] {yes no : Tx Fault Env State α}
    (first : FaultsWithin allowed yes) (second : FaultsWithin allowed no) :
    FaultsWithin allowed (if condition then yes else no) := by
  split
  · exact first
  · exact second

theorem faultsWithin_failIf {condition : Prop} [Decidable condition] {fault : Fault}
    (may : allowed fault) :
    FaultsWithin allowed (failIf condition fault : Tx Fault Env State Unit) :=
  faultsWithin_ite (faultsWithin_fail may) (faultsWithin_pure ())

theorem faultsWithin_orFail {fault : Fault} (may : allowed fault) (option : Option α) :
    FaultsWithin allowed (orFail fault option : Tx Fault Env State α) := by
  cases option with
  | none => exact faultsWithin_fail may
  | some value => exact faultsWithin_pure value

theorem faultsWithin_ofExcept {outcome : Except Fault α}
    (may : ∀ fault, outcome = .error fault → allowed fault) :
    FaultsWithin allowed (ofExcept outcome : Tx Fault Env State α) := by
  cases outcome with
  | ok value => exact faultsWithin_pure value
  | error fault => exact faultsWithin_fail (may fault rfl)

theorem faultsWithin_each {body : β → Tx Fault Env State Unit}
    (one : ∀ item, FaultsWithin allowed (body item)) (items : List β) :
    FaultsWithin allowed (each body items) := by
  induction items with
  | nil => exact faultsWithin_pure ()
  | cons item rest ih => exact (one item).bind fun _ => ih

variable {view : State → Seen} {env : Env} {before : State} {fault : Fault}

/-- A transaction that does not return has failed, with the one fault it can fail with. -/
theorem fault_of_not_returns {tx : Tx Fault Env State α} (only : FaultsWithin (· = fault) tx)
    (never : ∀ value after, ¬ Returns tx env before value after) :
    tx env before = .error fault := by
  cases outcome : tx env before with
  | error other => rw [only env before other outcome]
  | ok pair => exact absurd outcome (never pair.1 pair.2)

/-- What a transaction shows when it returns. -/
theorem shows_iff {tx : Tx Fault Env State α} {value : α} {seen : Seen} :
    (tx env before).map (fun pair => (pair.1, view pair.2)) = .ok (value, seen) ↔
      ∃ after, Returns tx env before value after ∧ view after = seen := by
  simp only [Returns]
  cases outcome : tx env before with
  | error fault => simp [Except.map]
  | ok pair =>
      constructor
      · intro shown
        obtain ⟨rfl, rfl⟩ := Prod.mk.inj (Except.ok.inj shown)
        exact ⟨pair.2, rfl, rfl⟩
      · rintro ⟨after, ran, rfl⟩
        obtain rfl := Except.ok.inj ran
        rfl

/-- The successful outcomes decide whether the two are alike. -/
def Decided (view : State → Seen) (first second : Tx Fault Env State α) (env : Env)
    (before : State) : Prop :=
  Alike view first second env before ↔
    ∀ value seen, (∃ after, Returns first env before value after ∧ view after = seen) ↔
      ∃ after, Returns second env before value after ∧ view after = seen

theorem Decided.of_faults {first second : Tx Fault Env State α}
    (one : FaultsWithin (· = fault) first) (other : FaultsWithin (· = fault) second) :
    Decided view first second env before := by
  simp only [Decided, ← shows_iff]
  constructor
  · intro alike value seen
    rw [show (first env before).map _ = (second env before).map _ from alike]
  · intro same
    rw [Alike]
    cases left : first env before with
    | ok pair => exact ((same pair.1 (view pair.2)).mp (by rw [left]; rfl)).symm
    | error fault₁ =>
        cases right : second env before with
        | ok pair =>
            have shown := (same pair.1 (view pair.2)).mpr (by rw [right]; rfl)
            rw [left] at shown
            cases shown
        | error fault₂ => rw [one _ _ _ left, other _ _ _ right]

theorem Decided.bind {step : Tx Fault Env State β} {first second : β → Tx Fault Env State α}
    (tails : ∀ result middle, Returns step env before result middle →
      Decided view (first result) (second result) env middle) :
    Decided view (step >>= first) (step >>= second) env before := by
  rw [Decided, alike_bind]
  cases outcome : step env before with
  | error fault => simp [Returns, bind_of_fault outcome, outcome]
  | ok pair =>
      have decided := tails pair.1 pair.2 outcome
      simp only [Decided, ← shows_iff] at decided
      simp only [← shows_iff, bind_of_returns outcome]
      rw [← decided]
      refine ⟨fun all => all _ _ outcome, fun alike result middle ran => ?_⟩
      obtain ⟨rfl, rfl⟩ := returns_unique ran outcome
      exact alike

/-- Where the first returns whenever the second does, and never with the same view, they are
alike exactly when the first does not return. -/
theorem Decided.iff_never {first second : Tx Fault Env State α}
    (decided : Decided view first second env before)
    (apart : ∀ value after result final, Returns first env before value after →
      Returns second env before result final → view after ≠ view final)
    (covered : ∀ result final, Returns second env before result final →
      ∃ value after, Returns first env before value after) :
    Alike view first second env before ↔ ∀ value after, ¬ Returns first env before value after := by
  refine Iff.trans decided ?_
  constructor
  · intro same value after ran
    obtain ⟨final, returned, seen⟩ := (same value (view after)).mp ⟨after, ran, rfl⟩
    exact apart value after value final ran returned seen.symm
  · intro never value seen
    refine iff_of_false (fun ⟨after, ran, _⟩ => never value after ran) ?_
    rintro ⟨final, returned, -⟩
    obtain ⟨result, after, ran⟩ := covered value final returned
    exact never result after ran

end Faults

section Loops
variable {body : β → Tx Fault Env State γ}

/-- Runs the body on every element and collects its results. -/
def collect (body : β → Tx Fault Env State γ) : List β → List γ → Tx Fault Env State (List γ)
  | [], results => pure results
  | item :: rest, results => do
      let result ← body item
      collect body rest (results ++ [result])

theorem faultsWithin_collect {allowed : Fault → Prop}
    (one : ∀ item, FaultsWithin allowed (body item)) (items : List β) (results : List γ) :
    FaultsWithin allowed (collect body items results) := by
  induction items generalizing results with
  | nil => exact faultsWithin_pure results
  | cons item rest ih => exact (one item).bind fun result => ih (results ++ [result])

/-- What a loop fails with whose turns fail, or not, by a verdict on the state. -/
def firstFault (next : State → β → State) (verdict : State → β → Option Fault) :
    State → List β → Option Fault
  | _, [] => none
  | state, item :: rest =>
      (verdict state item).or (firstFault next verdict (next state item) rest)

variable {next : State → β → State} {verdict : State → β → Option Fault} {value : β → γ}
  {env : Env}

theorem collect_eq
    (passes : ∀ state item, verdict state item = none →
      body item env state = .ok (value item, next state item))
    (fails : ∀ state item fault, verdict state item = some fault →
      body item env state = .error fault) (items : List β) (results : List γ) (state : State) :
    collect body items results env state =
      match firstFault next verdict state items with
      | none => .ok (results ++ items.map value, Trace.run next state items)
      | some fault => .error fault := by
  induction items generalizing results state with
  | nil => simp [collect, firstFault, pure]
  | cons item rest ih =>
      cases judged : verdict state item with
      | some fault =>
          rw [collect, bind_of_fault (fails state item fault judged), firstFault, judged]
          rfl
      | none =>
          rw [collect, bind_of_returns (passes state item judged), ih, firstFault, judged]
          simp

/-- A loop whose turns are refused for a reason, or else fail when something does not fit. -/
def judge (refusal : State → β → Option Fault) (fits : State → β → Prop)
    [∀ state item, Decidable (fits state item)] (trap : Fault) (state : State) (item : β) :
    Option Fault :=
  (refusal state item).or (if fits state item then none else some trap)

variable {refusal : State → β → Option Fault} {fits : State → β → Prop}
  [∀ state item, Decidable (fits state item)] {trap : Fault} {state : State}

variable (fits trap) in
theorem firstFault_of_admitted {items : List β}
    (admitted : Trace.Each next (fun state item => refusal state item = none) state items) :
    (Trace.Each next fits state items ∧
        firstFault next (judge refusal fits trap) state items = none) ∨
      (¬ Trace.Each next fits state items ∧
        firstFault next (judge refusal fits trap) state items = some trap) := by
  induction items generalizing state with
  | nil => exact .inl ⟨trivial, rfl⟩
  | cons item rest ih =>
      by_cases here : fits state item
      · have passed : judge refusal fits trap state item = none := by
          simp [judge, admitted.1, here]
        simpa [firstFault, passed, Trace.Each, here] using ih admitted.2
      · have failed : judge refusal fits trap state item = some trap := by
          simp [judge, admitted.1, here]
        simp [firstFault, failed, Trace.Each, here]

variable (fits trap) in
theorem firstFault_of_refused {early late : List β} {item : β} {fault : Fault}
    (admitted : Trace.Each next (fun state item => refusal state item = none) state early)
    (refused : refusal (Trace.run next state early) item = some fault) :
    (Trace.Each next fits state early ∧
        firstFault next (judge refusal fits trap) state (early ++ item :: late) = some fault) ∨
      (¬ Trace.Each next fits state early ∧
        firstFault next (judge refusal fits trap) state (early ++ item :: late) = some trap) := by
  induction early generalizing state with
  | nil =>
      refine .inl ⟨trivial, ?_⟩
      rw [Trace.run_nil] at refused
      simp [firstFault, judge, refused]
  | cons first rest ih =>
      by_cases here : fits state first
      · have passed : judge refusal fits trap state first = none := by
          simp [judge, admitted.1, here]
        simpa [firstFault, passed, Trace.Each, here] using ih admitted.2 refused
      · have failed : judge refusal fits trap state first = some trap := by
          simp [judge, admitted.1, here]
        simp [firstFault, failed, Trace.Each, here]

/-- The items are admitted one after the other, or one of them is the first to be refused. -/
theorem admitted_or_refused (next : State → β → State) (refusal : State → β → Option Fault)
    (state : State) (items : List β) :
    Trace.Each next (fun state item => refusal state item = none) state items ∨
      ∃ early item late fault, items = early ++ item :: late ∧
        Trace.Each next (fun state item => refusal state item = none) state early ∧
        refusal (Trace.run next state early) item = some fault := by
  induction items generalizing state with
  | nil => exact .inl trivial
  | cons first rest ih =>
      cases judged : refusal state first with
      | some fault => exact .inr ⟨[], first, rest, fault, rfl, trivial, judged⟩
      | none =>
          rcases ih (next state first) with all | ⟨early, item, late, fault, rfl, admitted, refused⟩
          · exact .inl ⟨judged, all⟩
          · exact .inr ⟨first :: early, item, late, fault, rfl, ⟨judged, admitted⟩, refused⟩

end Loops

end Transaction
