import Mathlib.Logic.Function.Basic
import Mathlib.Tactic.Common
import TrustLink.Lib.Trace

/-!
A store and a table that is to mirror it, under keys made from the ids of the store. A row shows a
value when it agrees with the value in what the table is about; it may say more, and less. What one
write does to the mirror shows in one row, as long as no other id of the store has its key.
-/
namespace Mirroring
variable {Id Key Value Row : Type} {key : Id → Key} {shows : Row → Value → Prop}
  {store : Id → Option Value} {table written : Key → Option Row}

/-- There is a row for every value of the store, which shows it, and no other row. -/
structure Displays (key : Id → Key) (shows : Row → Value → Prop) (store : Id → Option Value)
    (table : Key → Option Row) : Prop where
  shown : ∀ id value, store id = some value → ∃ row, table (key id) = some row ∧ shows row value
  backed : ∀ place row, table place = some row → ∃ id, place = key id ∧ (store id).isSome = true

/-- No other id of the store has the key of this one. -/
def KeyAlone (key : Id → Key) (store : Id → Option Value) (id : Id) : Prop :=
  ∀ other, (store other).isSome = true → key other = key id → other = id

theorem displays_empty : Displays key shows (fun _ => none) fun _ => none :=
  ⟨nofun, nofun⟩

theorem Displays.absent (displays : Displays key shows store table) {id : Id}
    (apart : KeyAlone key store id) (unknown : store id = none) : table (key id) = none := by
  cases found : table (key id) with
  | none => rfl
  | some row =>
      obtain ⟨other, same, stands⟩ := displays.backed _ row found
      obtain rfl := apart other stands same.symm
      rw [unknown] at stands
      cases stands

/-- Of the values only what the rows can show matters. -/
theorem displays_map {Part : Type} {part : Value → Part} {shown : Row → Part → Prop} :
    Displays key shown (fun id => (store id).map part) table ↔
      Displays key (fun row value => shown row (part value)) store table := by
  constructor
  · intro displays
    constructor
    · exact fun id value found => displays.shown id (part value) (by rw [found, Option.map_some])
    · intro place row found
      obtain ⟨id, same, stands⟩ := displays.backed place row found
      exact ⟨id, same, by rwa [Option.isSome_map] at stands⟩
  · intro displays
    constructor
    · intro id value found
      obtain ⟨whole, stored, rfl⟩ := Option.map_eq_some_iff.mp found
      exact displays.shown id whole stored
    · intro place row found
      obtain ⟨id, same, stands⟩ := displays.backed place row found
      exact ⟨id, same, by rwa [Option.isSome_map]⟩

variable [DecidableEq Id]

/-- After a write the table is a mirror when the row under the key of the id is. -/
theorem Displays.write_iff (displays : Displays key shows store table) {id : Id} {value : Value}
    (apart : KeyAlone key store id) (elsewhere : ∀ place, place ≠ key id → written place = table place) :
    Displays key shows (Function.update store id (some value)) written ↔
      ∃ row, written (key id) = some row ∧ shows row value := by
  constructor
  · exact fun after => after.shown id value (Function.update_self ..)
  · rintro ⟨row, here, agrees⟩
    constructor
    · intro other stored found
      by_cases same : other = id
      · rw [same, Function.update_self, Option.some.injEq] at found
        exact ⟨row, same ▸ here, found ▸ agrees⟩
      · rw [Function.update_of_ne same] at found
        have away : key other ≠ key id := fun alike => same (apart other (by simp [found]) alike)
        rw [elsewhere _ away]
        exact displays.shown other stored found
    · intro place old found
      by_cases same : place = key id
      · exact ⟨id, same, by simp⟩
      · rw [elsewhere place same] at found
        obtain ⟨other, alike, stands⟩ := displays.backed place old found
        have away : other ≠ id := fun equal => same (alike.trans (congrArg key equal))
        exact ⟨other, alike, by rwa [Function.update_of_ne away]⟩

/-- A value that is written anew needs no new row when its row shows it all the same. -/
theorem Displays.rewrite (displays : Displays key shows store table) {id : Id} {value : Value}
    (apart : KeyAlone key store id) {row : Row} (found : table (key id) = some row)
    (agrees : shows row value) :
    Displays key shows (Function.update store id (some value)) table :=
  (displays.write_iff apart fun _ _ => rfl).mpr ⟨row, found, agrees⟩

section Logs
variable {View Replica Stamp Entry : Type}

/-- A view of the source and its replica, after an entry of the log that tells of the source. The
replica stamps the entry, with the time for example. -/
def follow (absorb : View → Entry → View) (process : Replica → Stamp × Entry → Replica)
    (standing : View × Replica) (seen : Stamp × Entry) : View × Replica :=
  (absorb standing.1 seen.2, process standing.2 seen)

variable {absorb : View → Entry → View} {process : Replica → Stamp × Entry → Replica}

theorem run_follow (view : View) (replica : Replica) (seen : List (Stamp × Entry)) :
    Trace.run (follow absorb process) (view, replica) seen =
      (Trace.run absorb view (seen.map Prod.snd), Trace.run process replica seen) := by
  induction seen generalizing view replica with
  | nil => rfl
  | cons first rest ih => exact ih (absorb view first.2) (process replica first)

theorem each_follow (condition : View → Entry → Prop) (view : View) (replica : Replica)
    (seen : List (Stamp × Entry)) :
    Trace.Each (follow absorb process) (fun standing seen => condition standing.1 seen.2)
        (view, replica) seen ↔
      Trace.Each absorb condition view (seen.map Prod.snd) :=
  Trace.each_view Prod.fst Prod.snd (fun _ _ => rfl) condition (view, replica) seen

/-- When an entry that follows the earlier ones is mirrored exactly if it can be shown, the
replica mirrors the source at every moment exactly if every entry can be shown. -/
theorem always_mirrored_iff {follows shown : View → Entry → Prop} {sound : View → Prop}
    {mirrors : View → Replica → Prop}
    (keeps : ∀ view entry, sound view → follows view entry → sound (absorb view entry))
    (exact : ∀ view replica stamp entry, sound view → follows view entry → mirrors view replica →
      (mirrors (absorb view entry) (process replica (stamp, entry)) ↔ shown view entry))
    {view : View} {replica : Replica} (start : sound view) (initial : mirrors view replica)
    {seen : List (Stamp × Entry)} (log : Trace.Each absorb follows view (seen.map Prod.snd)) :
    (∀ early late, seen = early ++ late →
        mirrors (Trace.run absorb view (early.map Prod.snd)) (Trace.run process replica early)) ↔
      Trace.Each absorb shown view (seen.map Prod.snd) := by
  have guarded := log.invariant keeps start
  have always := @Trace.always_iff_each_where _ _ (follow absorb process) _ _
    (fun standing => mirrors standing.1 standing.2)
    (fun standing entry allowed mirrored =>
      exact standing.1 standing.2 entry.1 entry.2 allowed.1 allowed.2 mirrored)
    (view, replica) initial seen ((each_follow ..).mpr guarded)
  rw [each_follow] at always
  simpa only [run_follow] using always

end Logs

section Passes
variable {Replica Stamp Entry : Type} {process : Replica → Stamp × Entry → Replica}
  {log : List Entry} {holds : List Entry → Replica → Prop}

/-- A pass handles what is left of a log, and beside it entries of the log are handled at any time.
What each entry keeps and the next one of the pass carries on holds of the log in the end. -/
theorem holds_beside
    (next : ∀ early entry late, log = early ++ entry :: late → ∀ replica stamp,
      holds early replica → holds (early ++ [entry]) (process replica (stamp, entry)))
    (again : ∀ early replica stamp, ∀ entry ∈ log,
      holds early replica → holds early (process replica (stamp, entry)))
    {handled : List (Stamp × Entry)} (only : ∀ seen ∈ handled, seen.2 ∈ log)
    {early rest : List Entry} (whole : log = early ++ rest)
    (live : rest.Sublist (handled.map Prod.snd)) {replica : Replica}
    (initial : holds early replica) : holds log (Trace.run process replica handled) := by
  induction handled generalizing early rest replica with
  | nil =>
      rw [List.sublist_nil.mp live, List.append_nil] at whole
      exact whole ▸ initial
  | cons seen handled ih =>
      have later : ∀ other ∈ handled, other.2 ∈ log := fun other member =>
        only other (List.mem_cons_of_mem seen member)
      cases live with
      | cons _ live =>
          -- the pass has yet to come to its next entry
          exact ih later whole live (again early replica seen.1 seen.2 (only seen (by simp)) initial)
      | cons_cons _ live =>
          refine ih later (whole.trans (List.append_cons ..)) live ?_
          exact next early seen.2 _ whole replica seen.1 initial

end Passes

end Mirroring
