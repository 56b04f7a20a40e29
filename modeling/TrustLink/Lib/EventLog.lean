import TrustLink.Lib.Trace

/-!
Systems that keep a log of what they do. A step may put entries at the end of the log, and the
log tells of a view of the state when every step changes the view as its new entries say. Whoever
folds the entries holds the view at any time, no matter when it joined and what else it was told.
-/
namespace EventLog
open Trace
variable {State Entry View : Type}

section Telling
variable (log : State → List Entry) (view : State → View) (absorb : View → Entry → View)

/-- The log has grown by entries that take the earlier view to the later one. -/
def Tells (before after : State) : Prop :=
  ∃ fresh, log after = log before ++ fresh ∧ view after = run absorb (view before) fresh

theorem tells_refl (state : State) : Tells log view absorb state state :=
  ⟨[], (List.append_nil _).symm, rfl⟩

variable {log view absorb} {before middle after : State}

theorem Tells.trans (early : Tells log view absorb before middle)
    (late : Tells log view absorb middle after) : Tells log view absorb before after := by
  obtain ⟨first, grown, seen⟩ := early
  obtain ⟨second, grownLater, seenLater⟩ := late
  refine ⟨first ++ second, ?_, ?_⟩
  · rw [grownLater, grown, List.append_assoc]
  · rw [seenLater, seen, run_append]

/-- The observer is left with what it has seen by entries that it passes over. -/
theorem run_ignored {entries : List Entry}
    (ignored : ∀ entry ∈ entries, ∀ seen, absorb seen entry = seen) (seen : View) :
    run absorb seen entries = seen := by
  induction entries with
  | nil => rfl
  | cons entry rest ih =>
      rw [run_cons, ignored entry (by simp)]
      exact ih fun other member => ignored other (by simp [member])

theorem tells_ignored {fresh : List Entry} (grown : log after = log before ++ fresh)
    (ignored : ∀ entry ∈ fresh, ∀ seen, absorb seen entry = seen)
    (same : view after = view before) : Tells log view absorb before after :=
  ⟨fresh, grown, same.trans (run_ignored ignored _).symm⟩

/-- An observer who holds the earlier view catches up by what the log has since gained. -/
theorem Tells.catch_up (told : Tells log view absorb before after) :
    view after = run absorb (view before) ((log after).drop (log before).length) := by
  obtain ⟨fresh, grown, seen⟩ := told
  rw [grown, List.drop_left, seen]

/-- From an empty log on, the whole log gives the view. -/
theorem Tells.rebuild (told : Tells log view absorb before after) (empty : log before = []) :
    view after = run absorb (view before) (log after) := by
  rw [told.catch_up, empty, List.length_nil, List.drop_zero]

end Telling

end EventLog
