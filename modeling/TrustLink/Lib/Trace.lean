import Mathlib.Data.List.Induction
import Mathlib.Order.Basic

/-!
Traces of a deterministic system that takes one call at a time. A trace is the
list of calls; the state after it is a fold. `Each` says that every call of a
trace meets a condition in the state it finds, which is how a guarantee that
holds only under conditions on single steps is stated for whole traces.
-/
namespace Trace
variable {State Call : Type} (step : State → Call → State)

def run (start : State) (calls : List Call) : State := calls.foldl step start

/-- Every call meets the condition in the state in which it is made. -/
def Each (condition : State → Call → Prop) : State → List Call → Prop
  | _, [] => True
  | state, call :: rest => condition state call ∧ Each condition (step state call) rest

instance decidableEach (condition : State → Call → Prop)
    [∀ state call, Decidable (condition state call)] :
    ∀ start calls, Decidable (Each step condition start calls)
  | _, [] => inferInstanceAs (Decidable True)
  | state, call :: rest =>
      have := decidableEach condition (step state call) rest
      inferInstanceAs (Decidable (condition state call ∧ Each step condition (step state call) rest))

@[simp] theorem run_nil (start : State) : run step start [] = start := rfl

@[simp] theorem run_cons (start : State) (call : Call) (rest : List Call) :
    run step start (call :: rest) = run step (step start call) rest := rfl

theorem run_append (start : State) (first second : List Call) :
    run step start (first ++ second) = run step (run step start first) second :=
  List.foldl_append

@[simp] theorem run_concat (start : State) (calls : List Call) (call : Call) :
    run step start (calls ++ [call]) = step (run step start calls) call := by
  rw [run_append, run_cons, run_nil]

/-- What each call of a trace puts out, in the state that it finds. -/
def outputs {Out : Type} (out : State → Call → Out) : State → List Call → List Out
  | _, [] => []
  | state, call :: rest => out state call :: outputs out (step state call) rest

theorem outputs_concat {Out : Type} (out : State → Call → Out) (start : State) (calls : List Call)
    (call : Call) :
    outputs step out start (calls ++ [call]) =
      outputs step out start calls ++ [out (run step start calls) call] := by
  induction calls generalizing start with
  | nil => rfl
  | cons first rest ih => rw [List.cons_append, outputs, ih, run_cons, outputs, List.cons_append]

theorem outputs_getElem? {Out : Type} (out : State → Call → Out) (start : State)
    (calls : List Call) (n : Nat) :
    (outputs step out start calls)[n]? =
      calls[n]?.map (out (run step start (calls.take n))) := by
  induction calls generalizing start n with
  | nil => simp [outputs]
  | cons call rest ih =>
      cases n with
      | zero => rfl
      | succ n => simpa [outputs] using ih (step start call) n

/-- What no step changes, no trace changes. -/
theorem run_keeps {Part : Type} (part : State → Part)
    (keeps : ∀ state call, part (step state call) = part state) (start : State)
    (calls : List Call) : part (run step start calls) = part start := by
  induction calls generalizing start with
  | nil => rfl
  | cons call rest ih => rw [run_cons, ih, keeps]

/-- What commutes with every step commutes with a trace. -/
theorem run_comm {f : State → State} (comm : ∀ state call, step (f state) call = f (step state call))
    (start : State) (calls : List Call) : run step (f start) calls = f (run step start calls) := by
  induction calls generalizing start with
  | nil => rfl
  | cons call rest ih => rw [run_cons, run_cons, comm, ih]

/-- A step made of two halves that do not meet: the first halves can go first. -/
theorem run_halves (first second : State → Call → State)
    (comm : ∀ call state other, first (second state call) other = second (first state other) call)
    (start : State) (calls : List Call) :
    run (fun state call => second (first state call) call) start calls =
      run second (run first start calls) calls := by
  induction calls generalizing start with
  | nil => rfl
  | cons call rest ih =>
      rw [run_cons, run_cons, run_cons, ih, run_comm first (comm call)]

variable {step}

theorem each_comm {condition : State → Call → Prop} {f : State → State}
    (comm : ∀ state call, step (f state) call = f (step state call))
    (same : ∀ state call, condition state call → condition (f state) call)
    {start : State} {calls : List Call} (each : Each step condition start calls) :
    Each step condition (f start) calls := by
  induction calls generalizing start with
  | nil => trivial
  | cons call rest ih =>
      refine ⟨same start call each.1, ?_⟩
      rw [comm]
      exact ih each.2

theorem each_append {condition : State → Call → Prop} {start : State} {first second : List Call} :
    Each step condition start (first ++ second) ↔
      Each step condition start first ∧ Each step condition (run step start first) second := by
  induction first generalizing start with
  | nil => simp [Each]
  | cons call rest ih => simp [Each, ih, and_assoc]

theorem each_iff {condition : State → Call → Prop} {start : State} {calls : List Call} :
    Each step condition start calls ↔
      ∀ before call after, calls = before ++ call :: after →
        condition (run step start before) call := by
  induction calls generalizing start with
  | nil => simp [Each]
  | cons first rest ih =>
      simp only [Each, ih]
      constructor
      · rintro ⟨head, tail⟩ before call after split
        cases before with
        | nil =>
            obtain ⟨same, _⟩ := List.cons.inj split
            subst same
            exact head
        | cons other others =>
            obtain ⟨same, later⟩ := List.cons.inj split
            subst same
            exact tail others call after later
      · intro all
        exact ⟨all [] first rest rfl,
          fun before call after split => all (first :: before) call after (by rw [split]; rfl)⟩

theorem Each.imp {condition weaker : State → Call → Prop} {start : State} {calls : List Call}
    (each : Each step condition start calls)
    (implies : ∀ state call, condition state call → weaker state call) :
    Each step weaker start calls := by
  induction calls generalizing start with
  | nil => trivial
  | cons call rest ih => exact ⟨implies start call each.1, ih each.2⟩

theorem Each.and {first second : State → Call → Prop} {start : State} {calls : List Call}
    (one : Each step first start calls) (other : Each step second start calls) :
    Each step (fun state call => first state call ∧ second state call) start calls := by
  induction calls generalizing start with
  | nil => trivial
  | cons call rest ih => exact ⟨⟨one.1, other.1⟩, ih one.2 other.2⟩

/-- Calls that change nothing can be left out. -/
theorem run_filter {keep : Call → Bool} (idle : ∀ call, keep call = false → ∀ state,
    step state call = state) (start : State) (calls : List Call) :
    run step start (calls.filter keep) = run step start calls := by
  induction calls generalizing start with
  | nil => rfl
  | cons call rest ih =>
      cases kept : keep call with
      | true => rw [List.filter_cons_of_pos kept, run_cons, run_cons, ih]
      | false => rw [List.filter_cons_of_neg (by simp [kept]), run_cons, idle call kept, ih]

/-- So they can for a condition that they meet in any case. -/
theorem each_filter {condition : State → Call → Prop} {keep : Call → Bool}
    (idle : ∀ call, keep call = false → ∀ state, step state call = state)
    (free : ∀ call, keep call = false → ∀ state, condition state call) (start : State)
    (calls : List Call) :
    Each step condition start (calls.filter keep) ↔ Each step condition start calls := by
  induction calls generalizing start with
  | nil => rfl
  | cons call rest ih =>
      cases kept : keep call with
      | true => rw [List.filter_cons_of_pos kept, Each, Each, ih]
      | false =>
          rw [List.filter_cons_of_neg (by simp [kept]), Each, idle call kept, ih]
          exact (and_iff_right (free call kept start)).symm

section Views
variable {Other Item : Type} {next : Other → Item → Other} (view : State → Other)
  (item : Call → Item) (same : ∀ state call, view (step state call) = next (view state) (item call))
include same

/-- Seen through a view, with its calls translated, a trace is one of another system. -/
theorem run_view (start : State) (calls : List Call) :
    view (run step start calls) = run next (view start) (calls.map item) := by
  induction calls generalizing start with
  | nil => rfl
  | cons call rest ih => rw [run_cons, List.map_cons, run_cons, ih, same]

theorem each_view (condition : Other → Item → Prop) (start : State) (calls : List Call) :
    Each step (fun state call => condition (view state) (item call)) start calls ↔
      Each next condition (view start) (calls.map item) := by
  induction calls generalizing start with
  | nil => rfl
  | cons call rest ih =>
      rw [Each, List.map_cons, Each, ih, same]

end Views

/-- An invariant that a step keeps under its condition holds after every trace
whose calls all meet the condition. -/
theorem invariant_of_each {condition : State → Call → Prop} {invariant : State → Prop}
    (keeps : ∀ state call, invariant state → condition state call → invariant (step state call))
    {start : State} {calls : List Call} (initial : invariant start)
    (guarded : Each step condition start calls) : invariant (run step start calls) := by
  induction calls generalizing start with
  | nil => exact initial
  | cons call rest ih => exact ih (keeps start call initial guarded.1) guarded.2

/-- What every step keeps under its condition also holds wherever the condition is met. -/
theorem Each.invariant {condition : State → Call → Prop} {invariant : State → Prop}
    (keeps : ∀ state call, invariant state → condition state call → invariant (step state call))
    {start : State} {calls : List Call} (initial : invariant start)
    (guarded : Each step condition start calls) :
    Each step (fun state call => invariant state ∧ condition state call) start calls := by
  induction calls generalizing start with
  | nil => trivial
  | cons call rest ih =>
      exact ⟨⟨initial, guarded.1⟩, ih (keeps start call initial guarded.1) guarded.2⟩

theorem each_of_forall {condition : State → Call → Prop} (start : State) {calls : List Call}
    (always : ∀ call ∈ calls, ∀ state, condition state call) :
    Each step condition start calls := by
  induction calls generalizing start with
  | nil => trivial
  | cons call rest ih =>
      exact ⟨always call (by simp) start, ih _ fun later member => always later (by simp [member])⟩

/-- The unconditional case: an invariant of every step holds after every trace. -/
theorem invariant_of_steps {invariant : State → Prop}
    (keeps : ∀ state call, invariant state → invariant (step state call))
    {start : State} (initial : invariant start) (calls : List Call) :
    invariant (run step start calls) :=
  invariant_of_each (fun state call holds _ => keeps state call holds) initial
    (each_of_forall start fun _ _ _ => trivial)

/-- A reflexive and transitive relation kept by each guarded step relates any
two states of a trace, the earlier to the later. -/
theorem related_of_each {condition : State → Call → Prop} (related : State → State → Prop)
    (refl : ∀ state, related state state)
    (trans : ∀ {a b c}, related a b → related b c → related a c)
    (advances : ∀ state call, condition state call → related state (step state call))
    {start : State} {calls : List Call} (guarded : Each step condition start calls) :
    related start (run step start calls) := by
  induction calls generalizing start with
  | nil => exact refl start
  | cons call rest ih => exact trans (advances start call guarded.1) (ih guarded.2)

/-- When each step that the trace may take keeps an invariant exactly under its condition,
the invariant holds all along the trace exactly when every call meets the condition. The
steps may rely on a support, which they keep as long as the invariant holds. -/
theorem always_iff_each_of {allowed : Call → Prop} {condition : State → Call → Prop}
    {support invariant : State → Prop}
    (exact : ∀ state call, allowed call → support state → invariant state →
      support (step state call) ∧ (invariant (step state call) ↔ condition state call))
    {start : State} (supported : support start) (initial : invariant start) {calls : List Call}
    (all : ∀ call ∈ calls, allowed call) :
    (∀ early late, calls = early ++ late → invariant (run step start early)) ↔
      Each step condition start calls := by
  induction calls generalizing start with
  | nil =>
      refine iff_of_true (fun early late split => ?_) trivial
      rw [(List.append_eq_nil_iff.mp split.symm).1]
      exact initial
  | cons call rest ih =>
      obtain ⟨carried, kept⟩ := exact start call (all call List.mem_cons_self) supported initial
      have later : ∀ next ∈ rest, allowed next := fun next member =>
        all next (List.mem_cons_of_mem call member)
      constructor
      · intro always
        have after : invariant (step start call) := always [call] rest rfl
        exact ⟨kept.mp after, (ih carried after later).mp fun early late split =>
          always (call :: early) late (by rw [split]; rfl)⟩
      · rintro ⟨passed, remaining⟩ early late split
        cases early with
        | nil => exact initial
        | cons first others =>
            obtain ⟨rfl, tail⟩ := List.cons.inj split
            exact (ih carried (kept.mpr passed) later).mpr remaining others late tail

/-- When each step keeps an invariant exactly under its condition, the invariant holds
all along a trace exactly when every call meets the condition. -/
theorem always_iff_each {condition : State → Call → Prop} {invariant : State → Prop}
    (exact : ∀ state call, invariant state → (invariant (step state call) ↔ condition state call))
    {start : State} (initial : invariant start) (calls : List Call) :
    (∀ early late, calls = early ++ late → invariant (run step start early)) ↔
      Each step condition start calls :=
  @always_iff_each_of _ _ step (fun _ => True) _ (fun _ => True) _
    (fun state call _ _ holds => ⟨trivial, exact state call holds⟩) _ trivial initial calls
    fun _ _ => trivial

/-- What a step needs from the state besides the invariant may be known of the whole trace. -/
theorem always_iff_each_where {allowed condition : State → Call → Prop} {invariant : State → Prop}
    (exact : ∀ state call, allowed state call → invariant state →
      (invariant (step state call) ↔ condition state call))
    {start : State} (initial : invariant start) {calls : List Call}
    (all : Each step allowed start calls) :
    (∀ early late, calls = early ++ late → invariant (run step start early)) ↔
      Each step condition start calls := by
  induction calls generalizing start with
  | nil =>
      refine iff_of_true (fun early late split => ?_) trivial
      rw [(List.append_eq_nil_iff.mp split.symm).1]
      exact initial
  | cons call rest ih =>
      have kept := exact start call all.1 initial
      constructor
      · intro always
        have after : invariant (step start call) := always [call] rest rfl
        exact ⟨kept.mp after, (ih after all.2).mp fun early late split =>
          always (call :: early) late (by rw [split]; rfl)⟩
      · rintro ⟨passed, remaining⟩ early late split
        cases early with
        | nil => exact initial
        | cons first others =>
            obtain ⟨rfl, tail⟩ := List.cons.inj split
            exact (ih (kept.mpr passed) all.2).mpr remaining others late tail

/-- A weaker property may be the one in question: it holds all along a trace exactly when
every call meets the condition, as long as the condition keeps the stronger one and a step
without it loses the weaker one. -/
theorem weaker_iff_each {allowed : Call → Prop} {condition : State → Call → Prop}
    {strong weak : State → Prop} (implies : ∀ state, strong state → weak state)
    (keeps : ∀ state call, allowed call → strong state → condition state call →
      strong (step state call))
    (loses : ∀ state call, allowed call → strong state → ¬ condition state call →
      ¬ weak (step state call))
    {start : State} (initial : strong start) {calls : List Call}
    (all : ∀ call ∈ calls, allowed call) :
    (∀ early late, calls = early ++ late → weak (run step start early)) ↔
      Each step condition start calls := by
  -- what supports the weaker property is that it has never come without the stronger one
  refine @always_iff_each_of _ _ step allowed _ (fun state => weak state → strong state) _
    (fun state call within supported holds => ?_) _ (fun _ => initial) (implies _ initial) calls all
  have strength := supported holds
  by_cases passed : condition state call
  · have kept := keeps state call within strength passed
    exact ⟨fun _ => kept, iff_of_true (implies _ kept) passed⟩
  · have lost := loses state call within strength passed
    exact ⟨fun later => absurd later lost, iff_of_false lost passed⟩

/-- A value found after a trace goes back to the last call that wrote it. -/
theorem latest_write {Value : Type} (cell : State → Option Value) {writes : State → Call → Prop}
    (keeps : ∀ state call, ¬ writes state call → cell (step state call) = cell state)
    {start : State} (empty : cell start = none) {calls : List Call} {value : Value}
    (found : cell (run step start calls) = some value) :
    ∃ early call late, calls = early ++ call :: late ∧ writes (run step start early) call ∧
      cell (run step start (early ++ [call])) = some value ∧
      Each step (fun state next => ¬ writes state next) (run step start (early ++ [call])) late := by
  induction calls using List.reverseRecOn with
  | nil => exact absurd (empty.symm.trans found) nofun
  | append_singleton calls last ih =>
      by_cases written : writes (run step start calls) last
      · exact ⟨calls, last, [], rfl, written, found, trivial⟩
      · rw [run_concat, keeps _ _ written] at found
        obtain ⟨early, call, late, rfl, wrote, held, quiet⟩ := ih found
        refine ⟨early, call, late ++ [last], by simp, wrote, held, ?_⟩
        refine each_append.mpr ⟨quiet, ?_, trivial⟩
        rw [← run_append, ← List.append_cons]
        exact written

/-- An amount that no step lowers is at the end of a trace what it was at the start exactly
when no step raises it. -/
theorem constant_iff_each {Amount : Type} [PartialOrder Amount] {condition : State → Call → Prop}
    (amount : State → Amount)
    (grows : ∀ state call, condition state call → amount state ≤ amount (step state call))
    {start : State} {calls : List Call} (guarded : Each step condition start calls) :
    amount (run step start calls) = amount start ↔
      Each step (fun state call => amount (step state call) = amount state) start calls := by
  induction calls generalizing start with
  | nil => exact ⟨fun _ => trivial, fun _ => rfl⟩
  | cons call rest ih =>
      rw [run_cons, Each]
      have head := grows start call guarded.1
      have tail : amount (step start call) ≤ amount (run step (step start call) rest) :=
        related_of_each (fun early late => amount early ≤ amount late) (fun _ => le_refl _)
          le_trans grows guarded.2
      constructor
      · intro same
        have kept : amount (step start call) = amount start := le_antisymm (same ▸ tail) head
        exact ⟨kept, (ih guarded.2).mp (same.trans kept.symm)⟩
      · rintro ⟨kept, later⟩
        exact ((ih guarded.2).mpr later).trans kept

/-- An invariant with a time, which survives that the time passes, holds at any time
after a trace whose calls are made in the order of time. -/
theorem invariant_of_clock {Time : Type} [LE Time] (clock : Call → Time)
    {invariant : Time → State → Prop}
    (passes : ∀ early late state, early ≤ late → invariant early state → invariant late state)
    (keeps : ∀ state call, invariant (clock call) state → invariant (clock call) (step state call))
    {start : State} (initial : ∀ time, invariant time start) {calls : List Call}
    (ordered : calls.Pairwise fun first second => clock first ≤ clock second) {now : Time}
    (past : ∀ call ∈ calls, clock call ≤ now) : invariant now (run step start calls) := by
  -- the trace grows at its end, where the last call is the latest
  induction calls using List.reverseRecOn generalizing now with
  | nil => exact initial now
  | append_singleton calls call ih =>
      obtain ⟨earlier, -, before⟩ := List.pairwise_append.mp ordered
      rw [run_concat]
      have held := ih earlier fun other member => before other member call (by simp)
      exact passes _ _ _ (past call (by simp)) (keeps _ call held)

end Trace
