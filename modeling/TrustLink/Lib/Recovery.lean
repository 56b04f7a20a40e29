import TrustLink.Lib.Trace

/-!
Recovery from a checkpoint. A reader works off a log and falls back, from time to time, to a
checkpoint behind which it has already read on; then it reads entries again whose effects are still
there. The state may be that of no prefix of the log in the meantime. But when a second reading of
the end of what was read changes nothing, all that counts is what is left behind the checkpoint.
-/
namespace Recovery
open Trace
variable {State Entry Event : Type}

/-- Reading the end of a log twice changes nothing, as long as the log is in order; and a log that
repeats a stretch is in order where the log without the repetition is. An entry is an event as it
is read, with the time for example. -/
structure Redoable (step : State → Entry → State) (event : Entry → Event) (start : State)
    (ordered : List Event → Prop) : Prop where
  again : ∀ early late repeated : List Entry, repeated.map event = late.map event →
    ordered ((early ++ late).map event) →
    run step (run step start (early ++ late)) repeated = run step start (early ++ late)
  repeats : ∀ early late rest, ordered (early ++ late ++ rest) →
    ordered (early ++ late ++ (late ++ rest))
  prefixed : ∀ early late, ordered (early ++ late) → ordered early

/-- Reading the pending events leads from the state to where a single pass over the whole log
leads from the start. -/
structure Resumable (step : State → Entry → State) (event : Entry → Event) (start : State)
    (ordered : List Event → Prop) (whole pending : List Event) (state : State) : Prop where
  reached : ∃ done : List Entry, state = run step start done ∧
    ordered (done.map event ++ pending)
  finishes : ∀ tail : List Entry, tail.map event = pending →
    ∃ pass : List Entry, pass.map event = whole ∧ run step state tail = run step start pass

variable {step : State → Entry → State} {event : Entry → Event} {start state : State}
  {ordered : List Event → Prop} {whole pending : List Event}

theorem resumable_start (inOrder : ordered whole) :
    Resumable step event start ordered whole whole start where
  reached := ⟨[], rfl, inOrder⟩
  finishes tail same := ⟨tail, same, rfl⟩

/-- An attempt reads two stretches of what is pending, and only the first of them is behind the
checkpoint it leaves. -/
theorem Resumable.attempt (redoable : Redoable step event start ordered)
    {first second third : List Event} (made : List Entry)
    (resumable : Resumable step event start ordered whole (first ++ second ++ third) state)
    (read : made.map event = first ++ second) :
    Resumable step event start ordered whole (second ++ third) (run step state made) := by
  obtain ⟨done, rfl, inOrder⟩ := resumable.reached
  obtain ⟨early, late, rfl, settled, unsettled⟩ := List.map_eq_append_iff.mp read
  have stretch : ordered (done.map event ++ first ++ second ++ third) := by
    simpa only [List.append_assoc] using inOrder
  constructor
  · refine ⟨done ++ (early ++ late), (run_append ..).symm, ?_⟩
    have twice := redoable.repeats (done.map event ++ first) second third stretch
    simpa only [List.map_append, settled, unsettled, List.append_assoc] using twice
  · intro tail pendingTail
    obtain ⟨repeated, rest, rfl, same, remaining⟩ := List.map_eq_append_iff.mp pendingTail
    obtain ⟨pass, passed, single⟩ := resumable.finishes (early ++ late ++ rest) (by
      rw [List.map_append, List.map_append, settled, unsettled, remaining])
    refine ⟨pass, passed, ?_⟩
    -- the second reading of the unsettled stretch is without effect
    have undone := redoable.again (done ++ early) late repeated (same.trans unsettled.symm) (by
      rw [List.map_append, List.map_append, settled, unsettled]
      exact redoable.prefixed _ third stretch)
    have behind : run step (run step start done) (early ++ late) =
        run step start (done ++ early ++ late) := by
      rw [List.append_assoc, ← run_append]
    rw [run_append, behind, undone, ← behind, ← run_append, single]

/-- With nothing pending, one pass has been made. -/
theorem Resumable.complete
    (resumable : Resumable step event start ordered whole [] state) :
    ∃ pass : List Entry, pass.map event = whole ∧ state = run step start pass :=
  resumable.finishes [] rfl

end Recovery
