import TrustLink.Lib.Trace
import Mathlib.Logic.Function.Basic
import Mathlib.Data.List.Forall2

/-!
Replaying the end of a log. A step is replayable when running any entries a second
time changes nothing. Columns that keep the last value written are replayable, so are
steps whose entries are done once and for all, and so are rows made of such columns.
Over tables, whose rows are created by some entries and changed by others, a replay is
without effect when no entry on a row stands before the one that creates it.
-/
namespace Replay
open Trace

section Steps
variable {State Entry : Type} {step : State → Entry → State}

def Replayable (step : State → Entry → State) : Prop :=
  ∀ state entries, run step (run step state entries) entries = run step state entries

theorem run_idle {state : State} {entries : List Entry}
    (idle : ∀ entry ∈ entries, step state entry = state) : run step state entries = state := by
  induction entries with
  | nil => rfl
  | cons entry rest ih =>
      rw [run_cons, idle entry (by simp)]
      exact ih fun later member => idle later (by simp [member])

theorem run_image {Column : Type} {columnStep : Column → Entry → Column} (column : State → Column)
    (acts : ∀ state entry, column (step state entry) = columnStep (column state) entry)
    (state : State) (entries : List Entry) :
    column (run step state entries) = run columnStep (column state) entries := by
  induction entries generalizing state with
  | nil => rfl
  | cons entry rest ih => rw [run_cons, run_cons, ih, acts]

/-- Every entry is done at once, stays done, and is idle from then on. -/
theorem replayable_of_done (Done : State → Entry → Prop)
    (does : ∀ state entry, Done (step state entry) entry)
    (stays : ∀ state entry other, Done state entry → Done (step state other) entry)
    (idle : ∀ state entry, Done state entry → step state entry = state) : Replayable step := by
  have lasts : ∀ (entries : List Entry) state entry, Done state entry →
      Done (run step state entries) entry := by
    intro entries state entry done
    exact invariant_of_steps (fun now other holds => stays now entry other holds) done entries
  have all : ∀ (entries : List Entry) state, ∀ entry ∈ entries,
      Done (run step state entries) entry := by
    intro entries
    induction entries with
    | nil => simp
    | cons first rest ih =>
        intro state entry member
        rw [run_cons]
        rcases List.mem_cons.mp member with same | later
        · subst same
          exact lasts rest _ entry (does state entry)
        · exact ih _ entry later
  intro state entries
  exact run_idle fun entry member => idle _ entry (all entries state entry member)

/-- A column that keeps the last value written to it. -/
def overwrite (write : Entry → Option State) (state : State) (entry : Entry) : State :=
  (write entry).getD state

theorem replayable_overwrite (write : Entry → Option State) : Replayable (overwrite write) := by
  have forgets : ∀ (entries : List Entry),
      (∀ entry ∈ entries, write entry = none) ∨
        ∀ first second, run (overwrite write) first entries =
          run (overwrite write) second entries := by
    intro entries
    induction entries with
    | nil => simp
    | cons entry rest ih =>
        cases written : write entry with
        | some value =>
            refine .inr fun first second => ?_
            rw [run_cons, run_cons, overwrite, overwrite, written]
            rfl
        | none =>
            rcases ih with silent | same
            · exact .inl (by simpa [written] using silent)
            · exact .inr fun first second => same _ _
  intro state entries
  rcases forgets entries with silent | same
  · exact run_idle fun entry member => by rw [overwrite, silent entry member]; rfl
  · exact same _ _

theorem Replayable.prod {Left Right : Type} {left : Left → Entry → Left}
    {right : Right → Entry → Right} (first : Replayable left) (second : Replayable right) :
    Replayable fun (pair : Left × Right) entry => (left pair.1 entry, right pair.2 entry) := by
  have halves : ∀ (entries : List Entry) (pair : Left × Right),
      run (fun (pair : Left × Right) entry => (left pair.1 entry, right pair.2 entry)) pair entries =
        (run left pair.1 entries, run right pair.2 entries) := by
    intro entries
    induction entries with
    | nil => exact fun _ => rfl
    | cons entry rest ih => exact fun pair => ih _
  intro pair entries
  rw [halves, halves, first, second]

/-- A row is replayable when its columns are. -/
theorem Replayable.of_columns {Columns : Type} {columnStep : Columns → Entry → Columns}
    (columns : State → Columns) (injective : Function.Injective columns)
    (acts : ∀ state entry, columns (step state entry) = columnStep (columns state) entry)
    (replayable : Replayable columnStep) : Replayable step := by
  intro state entries
  apply injective
  rw [run_image columns acts, run_image columns acts]
  exact replayable _ entries

/-- Entries of another kind in between, which do nothing. -/
theorem Replayable.option (replayable : Replayable step) :
    Replayable fun (state : State) (entry : Option Entry) => entry.elim state (step state) := by
  have skips : ∀ (entries : List (Option Entry)) state,
      run (fun (state : State) (entry : Option Entry) => entry.elim state (step state))
        state entries = run step state (entries.filterMap id) := by
    intro entries
    induction entries with
    | nil => exact fun _ => rfl
    | cons entry rest ih =>
        intro state
        cases entry with
        | none => exact ih state
        | some entry => exact ih (step state entry)
  intro state entries
  rw [skips, skips]
  exact replayable state _

end Steps

section Cells
variable {Row Write : Type} (create : Write → Option Row) (update : Row → Write → Row)

/-- What a write does to the place of a row. -/
def put : Option Row → Write → Option Row
  | none, write => create write
  | some row, write => some (update row write)

/-- As `put`, with entries that are not about this place. -/
def putAt (place : Option Row) (write : Option Write) : Option Row :=
  write.elim place (put create update place)

/-- Two writes that change rows alike and create rows alike, though not the same. -/
def Alike (write other : Write) : Prop :=
  (∀ row, update row write = update row other) ∧
    ((create write).isSome ↔ (create other).isSome)

variable {create update}

theorem run_putAt_some (row : Row) (writes : List (Option Write)) :
    run (putAt create update) (some row) writes =
      some (run (fun (row : Row) (write : Option Write) => write.elim row (update row))
        row writes) := by
  induction writes generalizing row with
  | nil => rfl
  | cons write rest ih =>
      cases write with
      | none => exact ih row
      | some write => exact ih (update row write)

theorem run_putAt_none {writes : List (Option Write)}
    (silent : ∀ write, some write ∈ writes → create write = none) :
    run (putAt create update) none writes = none := by
  apply run_idle
  intro write member
  cases write with
  | none => rfl
  | some write => exact silent write member

theorem run_putAt_alike {writes others : List (Option Write)}
    (alike : List.Forall₂ (Option.Rel (Alike create update)) writes others) (row : Row) :
    run (putAt create update) (some row) others = run (putAt create update) (some row) writes := by
  induction alike generalizing row with
  | nil => rfl
  | cons related _ ih =>
      cases related with
      | none => exact ih row
      | some related =>
          rw [run_cons, run_cons]
          simp only [putAt, put, Option.elim_some, related.1]
          exact ih _

theorem silent_of_alike {writes others : List (Option Write)}
    (alike : List.Forall₂ (Option.Rel (Alike create update)) writes others)
    (silent : ∀ write, some write ∈ writes → create write = none) :
    ∀ write, some write ∈ others → create write = none := by
  induction alike with
  | nil => simp
  | cons related _ ih =>
      intro write member
      rcases List.mem_cons.mp member with same | later
      · subst same
        cases related with
        | some related =>
            have both := related.2
            rw [silent _ (List.mem_cons_self)] at both
            simpa using both
      · exact ih (fun other there => silent other (List.mem_cons_of_mem _ there)) write later

/-- No write that changes the row only stands before the one that creates it. -/
def CreatedFirst (create : Write → Option Row) (writes : List (Option Write)) : Prop :=
  ∀ early write late, writes = early ++ some write :: late → create write = none →
    (∃ later, some later ∈ late ∧ (create later).isSome) →
      ∃ earlier, some earlier ∈ early ∧ (create earlier).isSome

/-- An empty place to which nothing has created a row takes the rest of the log as if
it were the whole. -/
theorem CreatedFirst.rest {early late : List (Option Write)}
    (ordered : CreatedFirst create (early ++ late))
    (uncreated : ∀ write, some write ∈ early → create write = none) :
    CreatedFirst create late := by
  intro before write after split created later
  obtain ⟨earlier, member, creates⟩ := ordered (early ++ before) write after
    (by rw [split, List.append_assoc]) created later
  rcases List.mem_append.mp member with left | right
  · rw [uncreated earlier left] at creates
    cases creates
  · exact ⟨earlier, right, creates⟩

theorem uncreated_of_run {place : Option Row} {writes : List (Option Write)}
    (empty : run (putAt create update) place writes = none) :
    ∀ write, some write ∈ writes → create write = none := by
  induction writes generalizing place with
  | nil => simp
  | cons first rest ih =>
      intro write member
      cases place with
      | some row =>
          rw [run_putAt_some] at empty
          cases empty
      | none =>
          rcases List.mem_cons.mp member with same | later
          · subst same
            cases created : create write with
            | none => rfl
            | some row =>
                rw [run_cons, putAt, Option.elim_some, put, created, run_putAt_some] at empty
                cases empty
          · exact ih empty write later

/-- Where something is created at an empty place, the row might as well have been
there from the start. -/
theorem run_putAt_created (fresh : ∀ write row, create write = some row → update row write = row)
    {writes : List (Option Write)} (ordered : CreatedFirst create writes)
    (creates : ∃ write, some write ∈ writes ∧ (create write).isSome) :
    ∃ row, run (putAt create update) none writes = run (putAt create update) (some row) writes := by
  induction writes with
  | nil => simp at creates
  | cons first rest ih =>
      cases first with
      | none =>
          have later : ∃ write, some write ∈ rest ∧ (create write).isSome := by
            simpa using creates
          have behind : CreatedFirst create ([none] ++ rest) := ordered
          exact ih (behind.rest (by simp)) later
      | some write =>
          cases created : create write with
          | some row =>
              refine ⟨row, ?_⟩
              simp only [run_cons, putAt, Option.elim_some, put, created,
                fresh write row created]
          | none =>
              obtain ⟨later, member, isCreated⟩ := creates
              have behind : some later ∈ rest := by
                rcases List.mem_cons.mp member with same | behind
                · rw [Option.some.inj same, created] at isCreated
                  cases isCreated
                · exact behind
              obtain ⟨earlier, none_there, -⟩ :=
                ordered [] write rest rfl created ⟨later, behind, isCreated⟩
              cases none_there

/-- One place of a table: the end of a log may be written to it again. -/
theorem replay_place (rows : Replayable update)
    (fresh : ∀ write row, create write = some row → update row write = row)
    {place : Option Row} {early late again : List (Option Write)}
    (alike : List.Forall₂ (Option.Rel (Alike create update)) late again)
    (ordered : CreatedFirst create (early ++ late)) :
    run (putAt create update) (run (putAt create update) place (early ++ late)) again =
      run (putAt create update) place (early ++ late) := by
  have repeats : ∀ row, run (putAt create update) (run (putAt create update) (some row) late)
      again = run (putAt create update) (some row) late := by
    intro row
    rw [run_putAt_some row late, run_putAt_alike alike, run_putAt_some, rows.option]
  rw [run_append]
  cases reached : run (putAt create update) place early with
  | some row => exact repeats row
  | none =>
      have ordered := ordered.rest (uncreated_of_run reached)
      by_cases creates : ∃ write, some write ∈ late ∧ (create write).isSome
      · obtain ⟨row, same⟩ := run_putAt_created fresh ordered creates
        rw [same, repeats]
      · have silent : ∀ write, some write ∈ late → create write = none := by
          intro write member
          by_contra created
          exact creates ⟨write, member, Option.isSome_iff_ne_none.mpr created⟩
        rw [run_putAt_none silent]
        exact run_putAt_none (silent_of_alike alike silent)

end Cells

section Tables
variable {Key Row Write Entry : Type} [DecidableEq Key] (create : Write → Option Row)
  (update : Row → Write → Row) (edit : Entry → Option (Key × Write))

/-- The step of a table whose entries are about one row at most. -/
def edited (table : Key → Option Row) (entry : Entry) : Key → Option Row :=
  match edit entry with
  | none => table
  | some (key, write) => Function.update table key (put create update (table key) write)

/-- What an entry writes to the row of a key. -/
def writeAt (key : Key) (entry : Entry) : Option Write :=
  (edit entry).bind fun (other, write) => if other = key then some write else none

variable {create update edit}

theorem edited_apply (table : Key → Option Row) (entry : Entry) (key : Key) :
    edited create update edit table entry key =
      putAt create update (table key) (writeAt edit key entry) := by
  unfold edited writeAt
  cases edit entry with
  | none => rfl
  | some pair =>
      obtain ⟨other, write⟩ := pair
      by_cases same : other = key
      · subst same
        simp [putAt]
      · simp [putAt, same, Function.update_of_ne (Ne.symm same)]

theorem run_edited (table : Key → Option Row) (entries : List Entry) (key : Key) :
    run (edited create update edit) table entries key =
      run (putAt create update) (table key) (entries.map (writeAt edit key)) := by
  induction entries generalizing table with
  | nil => rfl
  | cons entry rest ih => rw [run_cons, List.map_cons, run_cons, ih, edited_apply]

/-- The end of a log may be processed again. -/
theorem replay_table (rows : Replayable update)
    (fresh : ∀ write row, create write = some row → update row write = row)
    {early late again : List Entry}
    (alike : List.Forall₂ (fun entry other => Option.Rel
      (fun first second => first.1 = second.1 ∧ Alike create update first.2 second.2)
      (edit entry) (edit other)) late again)
    (ordered : ∀ key, CreatedFirst create ((early ++ late).map (writeAt edit key)))
    (table : Key → Option Row) :
    run (edited create update edit) (run (edited create update edit) table (early ++ late)) again =
      run (edited create update edit) table (early ++ late) := by
  funext key
  rw [run_edited, run_edited, List.map_append]
  apply replay_place rows fresh
  · rw [List.forall₂_map_left_iff, List.forall₂_map_right_iff]
    refine alike.imp fun entry other related => ?_
    unfold writeAt
    generalize edit entry = first at related ⊢
    generalize edit other = second at related ⊢
    cases related with
    | none => exact .none
    | some related =>
        obtain ⟨keys, writes⟩ := related
        simp only [Option.bind_some, keys]
        split
        · exact .some writes
        · exact .none
  · simpa only [List.map_append] using ordered key

end Tables

end Replay
