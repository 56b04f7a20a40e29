import Mathlib.Logic.Function.Basic
import Mathlib.Tactic.Common
import TrustLink.Lib.Trace

/-!
Parties that share a state and go on one at a time. Each has a progress of its own; an
action takes a party from one point at which it waits to the next and may change what is
shared. An action that is not the next one of its party changes nothing.
-/
namespace Interleaving
variable {Party Shared Progress Action : Type}

structure System (Party Shared Progress : Type) where
  shared : Shared
  progress : Party → Progress

structure Arrival (Party Action : Type) where
  party : Party
  action : Action

variable [DecidableEq Party] (act : Party → Shared → Progress → Action → Option (Shared × Progress))

/-- What becomes of the shared state and the party that the event is about. -/
def next (system : System Party Shared Progress) (event : Arrival Party Action) :
    Option (Shared × Progress) :=
  act event.party system.shared (system.progress event.party) event.action

def advance (system : System Party Shared Progress) (event : Arrival Party Action) :
    System Party Shared Progress :=
  match next act system event with
  | some (shared, progress) => ⟨shared, Function.update system.progress event.party progress⟩
  | none => system

/-- The party waits for this action. -/
def Possible (system : System Party Shared Progress) (event : Arrival Party Action) : Prop :=
  (next act system event).isSome

instance (system : System Party Shared Progress) : DecidablePred (Possible act system) :=
  fun event => inferInstanceAs (Decidable ((next act system event).isSome = true))

/-- No two parties are inside at once. -/
def Exclusive (inside : Progress → Prop) (system : System Party Shared Progress) : Prop :=
  ∀ one other, inside (system.progress one) → inside (system.progress other) → one = other

/-- Another party is inside. -/
def Occupied (inside : Progress → Prop) (system : System Party Shared Progress) (party : Party) :
    Prop :=
  ∃ other, other ≠ party ∧ inside (system.progress other)

/-- The event takes its party inside. -/
def Enters (inside : Progress → Prop) (system : System Party Shared Progress)
    (event : Arrival Party Action) : Prop :=
  ¬ inside (system.progress event.party) ∧
    ∃ shared progress, next act system event = some (shared, progress) ∧ inside progress

variable {act} {system : System Party Shared Progress} {event : Arrival Party Action}

theorem advance_of_next {shared : Shared} {progress : Progress}
    (taken : next act system event = some (shared, progress)) :
    advance act system event =
      ⟨shared, Function.update system.progress event.party progress⟩ := by
  rw [advance, taken]

/-- An event takes one party a step further, or changes nothing. -/
theorem advance_cases (system : System Party Shared Progress) (event : Arrival Party Action) :
    (∃ shared progress, next act system event = some (shared, progress) ∧
      advance act system event = ⟨shared, Function.update system.progress event.party progress⟩) ∨
      advance act system event = system := by
  cases taken : next act system event with
  | none => exact .inr (by rw [advance, taken])
  | some pair => exact .inl ⟨pair.1, pair.2, rfl, advance_of_next taken⟩

theorem shared_of_next {shared : Shared} {progress : Progress}
    (taken : next act system event = some (shared, progress)) :
    (advance act system event).shared = shared := by
  rw [advance_of_next taken]

/-- A party is the one that has gone on, or it is where it was. -/
theorem progress_cases {shared : Shared} {progress : Progress}
    (taken : next act system event = some (shared, progress)) (party : Party) :
    party = event.party ∧ (advance act system event).progress party = progress ∨
      party ≠ event.party ∧ (advance act system event).progress party = system.progress party := by
  rw [advance_of_next taken]
  by_cases here : party = event.party
  · exact .inl ⟨here, by rw [here]; exact Function.update_self ..⟩
  · exact .inr ⟨here, Function.update_of_ne here ..⟩

theorem progress_of_ne {party : Party} (apart : party ≠ event.party) :
    (advance act system event).progress party = system.progress party := by
  rcases advance_cases system event with ⟨shared, progress, -, stepped⟩ | same
  · rw [stepped]
    exact Function.update_of_ne apart ..
  · rw [same]

variable {inside : Progress → Prop}

/-- A party is inside because it was before or because it has just come in. -/
theorem inside_of_advance {party : Party}
    (present : inside ((advance act system event).progress party)) :
    inside (system.progress party) ∨ party = event.party ∧ Enters act inside system event := by
  by_cases here : party = event.party
  · subst here
    by_cases before : inside (system.progress event.party)
    · exact .inl before
    · rcases advance_cases system event with ⟨shared, progress, taken, stepped⟩ | same
      · rw [stepped] at present
        dsimp only at present
        rw [Function.update_self] at present
        exact .inr ⟨rfl, before, shared, progress, taken, present⟩
      · exact .inl (same ▸ present)
  · exact .inl (progress_of_ne here ▸ present)

/-- While at most one party is inside, a second one comes in by an event that finds the place
occupied, and in no other way. -/
theorem exclusive_advance_iff (exclusive : Exclusive inside system) :
    Exclusive inside (advance act system event) ↔
      ¬ (Enters act inside system event ∧ Occupied inside system event.party) := by
  constructor
  · rintro kept ⟨⟨-, shared, progress, taken, entered⟩, other, apart, present⟩
    refine apart (kept other event.party ?_ ?_)
    · rwa [progress_of_ne apart]
    · rw [advance_of_next taken]
      dsimp only
      rwa [Function.update_self]
  · intro free one other first second
    rcases inside_of_advance first with earlier | ⟨here, enters⟩ <;>
      rcases inside_of_advance second with before | ⟨there, comes⟩
    · exact exclusive one other earlier before
    · by_contra apart
      exact free ⟨comes, one, fun same => apart (same.trans there.symm), earlier⟩
    · by_contra apart
      exact free ⟨enters, other, fun same => apart (here.trans same.symm), before⟩
    · exact here.trans there.symm

section Beside
variable {Cell : Type} [DecidableEq Cell]
  (act : Cell → Party → Shared → Progress → Action → Option (Shared × Progress))

/-- Systems side by side: a party works in a cell, on what is shared there. -/
def beside (party : Cell × Party) (shared : Cell → Shared) (progress : Progress)
    (action : Action) : Option ((Cell → Shared) × Progress) :=
  (act party.1 party.2 (shared party.1) progress action).map fun after =>
    (Function.update shared party.1 after.1, after.2)

omit [DecidableEq Party] [DecidableEq Cell] in
def System.inCell (system : System (Cell × Party) (Cell → Shared) Progress) (cell : Cell) :
    System Party Shared Progress :=
  ⟨system.shared cell, fun party => system.progress (cell, party)⟩

omit [DecidableEq Party] in
def Arrival.inCell? (cell : Cell) (event : Arrival (Cell × Party) Action) :
    Option (Arrival Party Action) :=
  if event.party.1 = cell then some ⟨event.party.2, event.action⟩ else none

theorem inCell_advance (cell : Cell) (system : System (Cell × Party) (Cell → Shared) Progress)
    (event : Arrival (Cell × Party) Action) :
    (advance (beside act) system event).inCell cell =
      (event.inCell? cell).elim (system.inCell cell) (advance (act cell) (system.inCell cell)) := by
  obtain ⟨⟨place, party⟩, action⟩ := event
  cases taken : act place party (system.shared place) (system.progress (place, party)) action with
  | none =>
      have still : advance (beside act) system ⟨(place, party), action⟩ = system := by
        rw [advance, next, beside, taken, Option.map_none]
      rw [still, Arrival.inCell?]
      split
      case isTrue here =>
        obtain rfl : place = cell := here
        rw [Option.elim_some, advance, next, System.inCell, taken]
      case isFalse => rfl
  | some after =>
      have moved : next (beside act) system ⟨(place, party), action⟩ =
          some (Function.update system.shared place after.1, after.2) := by
        rw [next, beside, taken, Option.map_some]
      rw [advance_of_next moved, Arrival.inCell?]
      split
      case isTrue here =>
        obtain rfl : place = cell := here
        have here : next (act place) (system.inCell place) ⟨party, action⟩ =
            some (after.1, after.2) := taken
        rw [Option.elim_some, advance_of_next here, System.inCell]
        congr 1
        · exact Function.update_self ..
        · funext other
          by_cases same : other = party
          · simp [same]
          · simp [same, System.inCell]
      case isFalse away =>
        have apart : cell ≠ place := fun same => away same.symm
        rw [Option.elim_none, System.inCell]
        congr 1
        · exact Function.update_of_ne apart ..
        · funext other
          simp [apart]

/-- Of the events only those of its parties show in a cell. -/
theorem inCell_run (cell : Cell) (system : System (Cell × Party) (Cell → Shared) Progress)
    (events : List (Arrival (Cell × Party) Action)) :
    (Trace.run (advance (beside act)) system events).inCell cell =
      Trace.run (advance (act cell)) (system.inCell cell)
        (events.filterMap (Arrival.inCell? cell)) := by
  induction events generalizing system with
  | nil => rfl
  | cons event rest ih =>
      rw [Trace.run_cons, ih, inCell_advance]
      cases within : event.inCell? cell with
      | none => rw [List.filterMap_cons_none within, Option.elim_none]
      | some inner => rw [List.filterMap_cons_some within, Option.elim_some, Trace.run_cons]

end Beside

end Interleaving
