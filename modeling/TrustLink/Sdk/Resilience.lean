import Mathlib.Algebra.Order.Field.Rat
import Mathlib.Data.List.Basic
import TrustLink.Lib.Interleaving

/-!
`CircuitBreaker` and `withRetry` of resilience.ts. Calls that share a breaker run from one
await to the next: until the promise of the wrapped function settles, and until a pause is
over. The breaker is asked once for each call, before its first attempt.
-/
namespace TrustLink.Sdk
open Interleaving

inductive CircuitState where
  | closed
  | opened
  | halfOpen
  deriving DecidableEq, Repr

structure CircuitBreakerOptions where
  failureThreshold : Option ℚ
  resetTimeoutMs : Option ℚ

structure CircuitBreaker where
  state : CircuitState
  failures : Nat
  lastFailureTime : ℚ
  failureThreshold : ℚ
  resetTimeoutMs : ℚ

namespace CircuitBreaker

def new (opts : CircuitBreakerOptions) : CircuitBreaker :=
  ⟨.closed, 0, 0, opts.failureThreshold.getD 5, opts.resetTimeoutMs.getD 30000⟩

/-- The answer, and the breaker that asking leaves behind. -/
def isOpen (breaker : CircuitBreaker) (now : ℚ) : Bool × CircuitBreaker :=
  if breaker.state = .opened then
    if breaker.resetTimeoutMs ≤ now - breaker.lastFailureTime then
      (false, { breaker with state := .halfOpen })
    else (true, breaker)
  else (false, breaker)

def recordSuccess (breaker : CircuitBreaker) : CircuitBreaker :=
  { breaker with failures := 0, state := .closed }

def recordFailure (breaker : CircuitBreaker) (now : ℚ) : CircuitBreaker :=
  { breaker with
    failures := breaker.failures + 1
    lastFailureTime := now
    state := if breaker.failureThreshold ≤ (breaker.failures + 1 : Nat) then .opened
      else breaker.state }

/-- The state is open, and the timeout since the last failure has not passed. -/
def Blocks (breaker : CircuitBreaker) (now : ℚ) : Prop :=
  breaker.state = .opened ∧ now - breaker.lastFailureTime < breaker.resetTimeoutMs

end CircuitBreaker

/-- Of the options only the number of attempts is kept: delays and timeouts decide when an
event comes, and it may come at any time. -/
structure RetryOptions where
  maxAttempts : Option ℚ

/-- Where a call waits. -/
inductive Progress where
  | uncalled
  | attempting (attempt : Nat)
  | sleeping (attempt : Nat)
  | resolved
  | rejected
  deriving DecidableEq, Repr

inductive Signal where
  | call
  | succeed
  | fail
  | wake
  deriving DecidableEq, Repr

/-- What a call is woken by, and the reading of the clock. -/
structure Action where
  signal : Signal
  now : ℚ

def maxAttempts (retryOpts : RetryOptions) : ℚ := retryOpts.maxAttempts.getD 3

/-- The head of the loop: the wrapped function is invoked, or the last error is thrown. -/
def attemptOrThrow (retryOpts : RetryOptions) (attempt : Nat) : Progress :=
  if (attempt : ℚ) ≤ maxAttempts retryOpts then .attempting attempt else .rejected

/-- `withRetry` from one await to the next. A function that throws, rejects or runs out of time
fails. -/
def withRetry (retryOpts : RetryOptions) (breaker : CircuitBreaker) (progress : Progress)
    (action : Action) : Option (CircuitBreaker × Progress) :=
  match action.signal, progress with
  | .call, .uncalled =>
      match breaker.isOpen action.now with
      | (true, asked) => some (asked, .rejected)
      | (false, asked) => some (asked, attemptOrThrow retryOpts 1)
  | .succeed, .attempting _ => some (breaker.recordSuccess, .resolved)
  | .fail, .attempting attempt =>
      some (breaker.recordFailure action.now,
        if (attempt : ℚ) = maxAttempts retryOpts then .rejected else .sleeping attempt)
  -- the breaker is not asked again
  | .wake, .sleeping attempt => some (breaker, attemptOrThrow retryOpts (attempt + 1))
  | _, _ => none

section Histories

/-- What a breaker is told, and when it is asked. -/
inductive Report where
  | success
  | failure (now : ℚ)
  | question (now : ℚ)

def CircuitBreaker.take (breaker : CircuitBreaker) : Report → CircuitBreaker
  | .success => breaker.recordSuccess
  | .failure now => breaker.recordFailure now
  | .question now => (breaker.isOpen now).2

/-- The number of failures since the last success. -/
def failuresIn : List Report → Nat :=
  Trace.run (fun count report =>
    match report with
    | .success => 0
    | .failure _ => count + 1
    | .question _ => count) 0

/-- The failure at this time has reached the threshold, and nobody has asked since then at a
time when the timeout had passed. -/
def TrippedAt (opts : CircuitBreakerOptions) (history : List Report) (time : ℚ) : Prop :=
  ∃ early late, history = early ++ .failure time :: late ∧
    opts.failureThreshold.getD 5 ≤ (failuresIn early + 1 : Nat) ∧
    ∀ report ∈ late, ∃ now, report = .question now ∧ now - time < opts.resetTimeoutMs.getD 30000

/-- The breaker has tripped less than the timeout ago. -/
def Tripped (opts : CircuitBreakerOptions) (history : List Report) (now : ℚ) : Prop :=
  ∃ time, TrippedAt opts history time ∧ now - time < opts.resetTimeoutMs.getD 30000

def CircuitBreaker.after (opts : CircuitBreakerOptions) (history : List Report) :
    CircuitBreaker :=
  Trace.run CircuitBreaker.take (.new opts) history

variable {opts : CircuitBreakerOptions}

theorem parameters_after (history : List Report) :
    (CircuitBreaker.after opts history).failureThreshold = opts.failureThreshold.getD 5 ∧
      (CircuitBreaker.after opts history).resetTimeoutMs = opts.resetTimeoutMs.getD 30000 := by
  let parameters (breaker : CircuitBreaker) : ℚ × ℚ :=
    (breaker.failureThreshold, breaker.resetTimeoutMs)
  have kept : parameters (.after opts history) = parameters (.new opts) := by
    refine Trace.run_keeps CircuitBreaker.take parameters (fun breaker report => ?_) _ history
    cases report with
    | question now =>
        simp only [CircuitBreaker.take, CircuitBreaker.isOpen]
        split_ifs <;> rfl
    | _ => rfl
  exact Prod.mk.inj kept

theorem failures_after (history : List Report) :
    (CircuitBreaker.after opts history).failures = failuresIn history := by
  refine (Trace.run_view CircuitBreaker.failures id (fun breaker report => ?_) _ history).trans
    (by rw [List.map_id]; rfl)
  cases report with
  | question now =>
      simp only [CircuitBreaker.take, CircuitBreaker.isOpen, id]
      split_ifs <;> rfl
  | _ => rfl

theorem after_concat (history : List Report) (report : Report) :
    CircuitBreaker.after opts (history ++ [report]) =
      (CircuitBreaker.after opts history).take report :=
  Trace.run_concat ..

theorem threshold_of_opened (history : List Report)
    (opened : (CircuitBreaker.after opts history).state = .opened) :
    (CircuitBreaker.after opts history).failureThreshold ≤
      ((CircuitBreaker.after opts history).failures : ℚ) := by
  refine @Trace.invariant_of_steps _ _ CircuitBreaker.take
    (fun breaker => breaker.state = .opened → breaker.failureThreshold ≤ (breaker.failures : ℚ))
    (fun breaker report held opened => ?_) (.new opts) nofun history opened
  cases report with
  | success => cases opened
  | failure now =>
      have more : (breaker.failures : ℚ) ≤ (breaker.failures + 1 : Nat) :=
        Nat.cast_le.mpr (Nat.le_succ _)
      simp only [CircuitBreaker.take, CircuitBreaker.recordFailure] at opened ⊢
      split_ifs at opened with reached
      · exact reached
      · exact (held opened).trans more
  | question now =>
      simp only [CircuitBreaker.take, CircuitBreaker.isOpen] at opened ⊢
      split_ifs at opened ⊢ <;> exact held opened

/-- The last report is the failure, or the breaker had tripped and was asked too early. -/
theorem trippedAt_concat (history : List Report) (report : Report) (time : ℚ) :
    TrippedAt opts (history ++ [report]) time ↔
      report = .failure time ∧ opts.failureThreshold.getD 5 ≤ (failuresIn history + 1 : Nat) ∨
        TrippedAt opts history time ∧
          ∃ now, report = .question now ∧ now - time < opts.resetTimeoutMs.getD 30000 := by
  constructor
  · rintro ⟨early, late, split, reached, asked⟩
    rcases List.eq_nil_or_concat' late with rfl | ⟨before, last, rfl⟩
    · obtain ⟨rfl, same⟩ := List.append_inj' split rfl
      obtain rfl := List.singleton_inj.mp same
      exact .inl ⟨rfl, reached⟩
    · rw [← List.cons_append, ← List.append_assoc] at split
      obtain ⟨rfl, same⟩ := List.append_inj' split rfl
      obtain rfl := List.singleton_inj.mp same
      exact .inr ⟨⟨early, before, rfl, reached, fun other member => asked other (by simp [member])⟩,
        asked report (by simp)⟩
  · rintro (⟨rfl, reached⟩ | ⟨⟨early, late, rfl, reached, asked⟩, now, rfl, soon⟩)
    · exact ⟨history, [], rfl, reached, List.forall_mem_nil _⟩
    · refine ⟨early, late ++ [.question now], by simp, reached, fun report member => ?_⟩
      rcases List.mem_append.mp member with before | last
      · exact asked report before
      · exact ⟨now, List.mem_singleton.mp last, soon⟩

/-- The breaker is open exactly when it has tripped, and it remembers when. -/
theorem opened_iff (history : List Report) (time : ℚ) :
    (CircuitBreaker.after opts history).state = .opened ∧
        (CircuitBreaker.after opts history).lastFailureTime = time ↔
      TrippedAt opts history time := by
  induction history using List.reverseRecOn with
  | nil =>
      refine iff_of_false (fun opened => nomatch opened.1) ?_
      rintro ⟨early, late, split, -⟩
      simp at split
  | append_singleton history report ih =>
      rw [after_concat, trippedAt_concat]
      cases report with
      | success => simp [CircuitBreaker.take, CircuitBreaker.recordSuccess]
      | failure now =>
          -- an open breaker stays open, for it has reached the threshold before
          have trips : ((CircuitBreaker.after opts history).recordFailure now).state = .opened ↔
              opts.failureThreshold.getD 5 ≤ (failuresIn history + 1 : Nat) := by
            rw [← @failures_after opts, ← (parameters_after history).1]
            simp only [CircuitBreaker.recordFailure]
            split_ifs with reached
            · exact iff_of_true rfl reached
            · refine iff_of_false (fun opened => reached ?_) reached
              exact (threshold_of_opened history opened).trans (Nat.cast_le.mpr (Nat.le_succ _))
          simp only [CircuitBreaker.take, trips, reduceCtorEq, Report.failure.injEq, false_and,
            exists_false, and_false, or_false]
          exact and_comm
      | question now =>
          simp only [CircuitBreaker.take, reduceCtorEq, false_and, false_or, Report.question.injEq,
            exists_eq_left', ← ih, ← (parameters_after history).2, CircuitBreaker.isOpen]
          split_ifs with opened late
          · refine iff_of_false (fun half => nomatch half.1) ?_
            rintro ⟨⟨-, rfl⟩, soon⟩
            exact absurd late (not_le.mpr soon)
          · refine ⟨fun asked => ⟨asked, ?_⟩, And.left⟩
            rw [← asked.2]
            exact not_le.mp late
          · exact iff_of_false (fun asked => opened asked.1) fun asked => opened asked.1.1

theorem failuresIn_le_length (history : List Report) : failuresIn history ≤ history.length := by
  induction history using List.reverseRecOn with
  | nil => exact Nat.le_refl _
  | append_singleton history report ih =>
      rw [failuresIn, Trace.run_concat, ← failuresIn, List.length_append]
      cases report with
      | success => exact Nat.zero_le _
      | failure now => exact Nat.succ_le_succ ih
      | question now => exact Nat.le_succ_of_le ih

/-- A breaker that has been told less than the threshold has not tripped. -/
theorem Tripped.threshold_le {history : List Report} {now : ℚ}
    (tripped : Tripped opts history now) :
    opts.failureThreshold.getD 5 ≤ (history.length : ℚ) := by
  obtain ⟨time, ⟨early, late, rfl, reached, -⟩, -⟩ := tripped
  refine reached.trans (Nat.cast_le.mpr ?_)
  have counted := failuresIn_le_length early
  rw [List.length_append, List.length_cons]
  omega

theorem blocks_iff (history : List Report) (now : ℚ) :
    (CircuitBreaker.after opts history).Blocks now ↔ Tripped opts history now := by
  simp only [CircuitBreaker.Blocks, Tripped, ← opened_iff, (parameters_after history).2]
  constructor
  · rintro ⟨opened, soon⟩
    exact ⟨_, ⟨opened, rfl⟩, soon⟩
  · rintro ⟨_, ⟨opened, rfl⟩, soon⟩
    exact ⟨opened, soon⟩

end Histories

section Runs
variable {Call : Type}

/-- What an event that is possible reports to the breaker. -/
def report? (event : Arrival Call Action) : Option Report :=
  match event.action.signal with
  | .call => some (.question event.action.now)
  | .succeed => some .success
  | .fail => some (.failure event.action.now)
  | .wake => none

/-- The breaker is new and nobody has called. -/
def fresh (opts : CircuitBreakerOptions) : System Call CircuitBreaker Progress :=
  ⟨.new opts, fun _ => .uncalled⟩

/-- Each call has its own options. -/
def act (retryOpts : Call → RetryOptions) (call : Call) (breaker : CircuitBreaker)
    (progress : Progress) (action : Action) : Option (CircuitBreaker × Progress) :=
  withRetry (retryOpts call) breaker progress action

/-- The calls and their breaker after these events. -/
def runCalls [DecidableEq Call] (retryOpts : Call → RetryOptions) (opts : CircuitBreakerOptions)
    (events : List (Arrival Call Action)) : System Call CircuitBreaker Progress :=
  Trace.run (advance (act retryOpts)) (fresh opts) events

/-- Every event is one that its call waits for. -/
def Awaited [DecidableEq Call] (retryOpts : Call → RetryOptions) (opts : CircuitBreakerOptions)
    (events : List (Arrival Call Action)) : Prop :=
  Trace.Each (advance (act retryOpts)) (Possible (act retryOpts)) (fresh opts) events

instance [DecidableEq Call] (retryOpts : Call → RetryOptions) (opts : CircuitBreakerOptions) :
    DecidablePred (@Awaited Call _ retryOpts opts) := fun events =>
  inferInstanceAs (Decidable (Trace.Each _ (Possible (act retryOpts)) (fresh opts) events))

theorem runCalls_concat [DecidableEq Call] (retryOpts : Call → RetryOptions)
    (opts : CircuitBreakerOptions) (events : List (Arrival Call Action))
    (event : Arrival Call Action) :
    runCalls retryOpts opts (events ++ [event]) =
      advance (act retryOpts) (runCalls retryOpts opts events) event :=
  Trace.run_concat ..

variable (retryOpts : Call → RetryOptions) {opts : CircuitBreakerOptions}
  {system : System Call CircuitBreaker Progress} {event : Arrival Call Action}

/-- The event has the wrapped function invoked. -/
def Invokes (system : System Call CircuitBreaker Progress) (event : Arrival Call Action) : Prop :=
  (event.action.signal = .call ∨ event.action.signal = .wake) ∧
    ∃ breaker attempt, next (act retryOpts) system event = some (breaker, .attempting attempt)

/-- Whenever the wrapped function is invoked, the breaker does not block. -/
def StopsTraffic [DecidableEq Call] (opts : CircuitBreakerOptions)
    (events : List (Arrival Call Action)) : Prop :=
  ∀ early event late, events = early ++ event :: late →
    Invokes retryOpts (runCalls retryOpts opts early) event →
      ¬ (runCalls retryOpts opts (early ++ [event])).shared.Blocks event.action.now

/-- A pause is over, and there is an attempt left. -/
def Retries (system : System Call CircuitBreaker Progress) (event : Arrival Call Action) : Prop :=
  event.action.signal = .wake ∧ ∃ attempt : Nat, system.progress event.party = .sleeping attempt ∧
    ((attempt + 1 : Nat) : ℚ) ≤ maxAttempts (retryOpts event.party)

variable {retryOpts}

/-- The breaker after an event is the one that has taken its report. -/
theorem reported {breaker : CircuitBreaker} {progress : Progress}
    (taken : next (act retryOpts) system event = some (breaker, progress)) :
    breaker = (report? event).elim system.shared system.shared.take := by
  obtain ⟨call, signal, now⟩ := event
  simp only [next, act, withRetry] at taken
  split at taken
  · split at taken
    all_goals
      rename_i asked
      cases taken
      exact (congrArg Prod.snd asked).symm
  · cases taken
    rfl
  · cases taken
    rfl
  · cases taken
    rfl
  · cases taken

theorem breaker_of_run [DecidableEq Call] (events : List (Arrival Call Action))
    (awaited : Awaited retryOpts opts events) :
    (runCalls retryOpts opts events).shared =
      CircuitBreaker.after opts (events.filterMap report?) := by
  induction events using List.reverseRecOn with
  | nil => rfl
  | append_singleton events event ih =>
      obtain ⟨early, last, -⟩ := Trace.each_append.mp awaited
      obtain ⟨⟨breaker, progress⟩, taken⟩ := Option.isSome_iff_exists.mp last
      rw [← runCalls] at taken
      rw [runCalls_concat, shared_of_next taken, reported taken, ih early, List.filterMap_append]
      cases told : report? event with
      | none => simp [told]
      | some report =>
          rw [List.filterMap_cons_some told, List.filterMap_nil, after_concat]
          rfl

theorem not_opened_of_isOpen {breaker : CircuitBreaker} {now : ℚ}
    (passes : (breaker.isOpen now).1 = false) : (breaker.isOpen now).2.state ≠ .opened := by
  unfold CircuitBreaker.isOpen at passes ⊢
  split_ifs at passes ⊢ with opened
  · exact nofun
  · exact opened

/-- A call that has been let in finds a breaker that is not open. -/
theorem not_opened_at_call {breaker : CircuitBreaker} {attempt : Nat}
    (called : event.action.signal = .call)
    (taken : next (act retryOpts) system event = some (breaker, .attempting attempt)) :
    breaker.state ≠ .opened := by
  obtain ⟨call, signal, now⟩ := event
  obtain rfl : signal = .call := called
  cases place : system.progress call with
  | uncalled =>
      simp only [next, act, withRetry, place] at taken
      split at taken
      · cases taken
      · rename_i asked passes
        have unopened := not_opened_of_isOpen (congrArg Prod.fst passes)
        obtain ⟨rfl, -⟩ := Prod.mk.inj (Option.some.inj taken)
        rwa [passes] at unopened
  | _ => simp [next, act, withRetry, place] at taken

/-- A pause that ends without an attempt left ends the call. -/
theorem retries_iff :
    Retries retryOpts system event ↔
      event.action.signal = .wake ∧ Invokes retryOpts system event := by
  obtain ⟨call, signal, now⟩ := event
  constructor
  · rintro ⟨wakes, attempt, sleeps, left⟩
    obtain rfl : signal = .wake := wakes
    refine ⟨rfl, .inr rfl, system.shared, attempt + 1, ?_⟩
    simp only [next, act, sleeps, withRetry, attemptOrThrow, if_pos left]
  · rintro ⟨wakes, -, breaker, attempt, taken⟩
    obtain rfl : signal = .wake := wakes
    cases place : system.progress call with
    | sleeping past =>
        simp only [next, act, withRetry, place, attemptOrThrow] at taken
        split_ifs at taken with left
        · exact ⟨rfl, past, place, left⟩
        · cases taken
    | _ => simp [next, act, withRetry, place] at taken

/-- No retry comes up while the breaker, by what has been reported so far, has tripped. -/
theorem traffic_stopped_iff [DecidableEq Call] (retryOpts : Call → RetryOptions)
    (opts : CircuitBreakerOptions) (events : List (Arrival Call Action))
    (awaited : Awaited retryOpts opts events) :
    StopsTraffic retryOpts opts events ↔
      ∀ early event late, events = early ++ event :: late →
        Retries retryOpts (runCalls retryOpts opts early) event →
          ¬ Tripped opts (early.filterMap report?) event.action.now := by
  have retried : ∀ early event late, events = early ++ event :: late →
      event.action.signal = .wake →
        ((runCalls retryOpts opts (early ++ [event])).shared.Blocks event.action.now ↔
          Tripped opts (early.filterMap report?) event.action.now) := by
    rintro early event late rfl wakes
    rw [List.append_cons] at awaited
    have silent : report? event = none := by rw [report?, wakes]
    rw [breaker_of_run _ (Trace.each_append.mp awaited).1, List.filterMap_append,
      List.filterMap_cons_none silent, List.filterMap_nil, List.append_nil, blocks_iff]
  constructor
  · intro stops early event late split retries
    obtain ⟨wakes, invokes⟩ := retries_iff.mp retries
    rw [← retried early event late split wakes]
    exact stops early event late split invokes
  · intro quiet early event late split invokes
    rcases invokes.1 with called | wakes
    · obtain ⟨-, breaker, attempt, taken⟩ := invokes
      rw [runCalls_concat, shared_of_next taken]
      exact fun blocks => not_opened_at_call called taken blocks.1
    · rw [retried early event late split wakes]
      exact quiet early event late split (retries_iff.mpr ⟨wakes, invokes⟩)

end Runs

section Samples

/-- Who is woken by what, and when. -/
def arrivals (signals : List (Nat × Signal × ℚ)) : List (Arrival Nat Action) :=
  signals.map fun signal => ⟨signal.1, signal.2.1, signal.2.2⟩

theorem traffic_stopped_sample :
    StopsTraffic (fun _ => ⟨none⟩) ⟨none, none⟩
      (arrivals [(1, .call, 0), (1, .fail, 10), (1, .wake, 210), (1, .succeed, 220)]) := by
  refine (traffic_stopped_iff _ _ _ (by decide +kernel)).mpr ?_
  intro early event late split retries tripped
  -- four events are too few to reach the threshold
  have reported : (early.filterMap report?).length ≤ early.length := List.length_filterMap_le ..
  have size : early.length ≤ 4 := by
    have whole := congrArg List.length split
    rw [List.length_append] at whole
    exact (Nat.le_add_right ..).trans (Nat.le_of_eq whole.symm)
  have few : ((early.filterMap report?).length : ℚ) ≤ 4 := by exact_mod_cast reported.trans size
  exact absurd (tripped.threshold_le.trans few) (by decide +kernel)

/-- Three attempts of one call and two of another open the breaker, and the third attempt of the
second call comes up all the same. -/
def overload : List (Arrival Nat Action) :=
  arrivals [(1, .call, 0), (1, .fail, 10), (1, .wake, 210), (1, .fail, 220), (1, .wake, 620),
    (1, .fail, 630), (2, .call, 700), (2, .fail, 710), (2, .wake, 910), (2, .fail, 920),
    (2, .wake, 1320)]

theorem retry_passes_open_breaker :
    ¬ ∀ (retryOpts : Nat → RetryOptions) (opts : CircuitBreakerOptions)
      (events : List (Arrival Nat Action)),
      Awaited retryOpts opts events → StopsTraffic retryOpts opts events := by
  intro always
  have stops := always (fun _ => ⟨none⟩) ⟨none, none⟩ overload (by decide +kernel)
  have third : (next (act fun _ => ⟨none⟩) (runCalls (fun _ => ⟨none⟩) ⟨none, none⟩
      (overload.take 10)) ⟨2, .wake, 1320⟩).map Prod.snd = some (.attempting 3) := by
    decide +kernel
  obtain ⟨⟨breaker, progress⟩, taken, rfl⟩ := Option.map_eq_some_iff.mp third
  refine stops (overload.take 10) ⟨2, .wake, 1320⟩ [] rfl ⟨.inr rfl, breaker, 3, taken⟩ ⟨?_, ?_⟩
  · decide +kernel
  · decide +kernel

end Samples

end TrustLink.Sdk
