import TrustLink.Lib.Trace

/-!
Holdings in custody. A part of the state is in custody when no call changes it unless one of
those who keep it, as it stands, signs the call. Then the first change of any trace was signed by
somebody who kept the part from the start of the trace.
-/
namespace Custody
open Trace
variable {State Call Principal Holding : Type} {step : State → Call → State}
  {sound : State → Prop} {holding : State → Holding} {keeper : Holding → Principal → Prop}
  {signs : Call → Principal → Prop}

/-- Whatever call changes the holding, a keeper has signed it. -/
def Guarded (step : State → Call → State) (sound : State → Prop) (holding : State → Holding)
    (keeper : Holding → Principal → Prop) (signs : Call → Principal → Prop) : Prop :=
  ∀ state call, sound state → holding (step state call) ≠ holding state →
    ∃ principal, keeper (holding state) principal ∧ signs call principal

/-- The trace leaves the holding alone until a call that a keeper has signed. -/
def Released (step : State → Call → State) (holding : State → Holding)
    (keeper : Holding → Principal → Prop) (signs : Call → Principal → Prop) (start : State)
    (calls : List Call) : Prop :=
  ∃ early call late, calls = early ++ call :: late ∧
    holding (run step start early) = holding start ∧
    holding (step (run step start early) call) ≠ holding start ∧
    ∃ principal, keeper (holding start) principal ∧ signs call principal

theorem released_cons {start : State} {call : Call} {rest : List Call}
    (kept : holding (step start call) = holding start)
    (released : Released step holding keeper signs (step start call) rest) :
    Released step holding keeper signs start (call :: rest) := by
  obtain ⟨early, changing, late, rfl, calm, changed, signed⟩ := released
  exact ⟨call :: early, changing, late, rfl, calm.trans kept, kept ▸ changed, kept ▸ signed⟩

/-- A holding in custody is what it was, or has been released. -/
theorem kept_or_released (guarded : Guarded step sound holding keeper signs)
    (keeps : ∀ state call, sound state → sound (step state call)) {start : State}
    (initial : sound start) (calls : List Call) :
    holding (run step start calls) = holding start ∨
      Released step holding keeper signs start calls := by
  induction calls generalizing start with
  | nil => exact .inl rfl
  | cons call rest ih =>
      by_cases kept : holding (step start call) = holding start
      · rcases ih (keeps start call initial) with same | released
        · exact .inl (same.trans kept)
        · exact .inr (released_cons kept released)
      · exact .inr ⟨[], call, rest, rfl, rfl, kept, guarded start call initial kept⟩

end Custody
