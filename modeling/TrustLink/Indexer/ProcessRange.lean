import TrustLink.Lib.Timeline

/-!
`processRange` of the indexer. It asks for pages by ledger number and is answered
by number of events; the statements behind its catch block advance the cursor a
second time. The RPC is taken to answer with the first events of the ledgers asked
for, and not to fail.
-/
namespace TrustLink.Indexer
open Timeline

def pageLimit : Nat := 200

/-- What the loop does: it passes an event to `handleEvent`, or writes a checkpoint. -/
inductive Action (Event : Type) where
  | handle (event : Nat × Event)
  | checkpoint (ledger : Nat)
  deriving DecidableEq

section Model
variable {Event : Type} (history : Nat → List Event) (toLedger startLedger : Nat)

/-- `rpc.getEvents`: the first `limit` events of a range of ledgers. -/
def getEvents (startLedger endLedger limit : Nat) : List (Nat × Event) :=
  (slice history startLedger endLedger).take limit

/-- The ledger of the last event of a response. -/
def lastProcessed (response : List (Nat × Event)) (endLedger : Nat) : Nat :=
  (response.getLast?.map (·.1)).getD endLedger

/-- The response to the request made at a position of the cursor. -/
def pageAt : List (Nat × Event) :=
  getEvents history startLedger (min (startLedger + pageLimit - 1) toLedger) pageLimit

/-- The first checkpoint of an iteration. -/
def fetchedTo : Nat :=
  lastProcessed (pageAt history toLedger startLedger)
    (min (startLedger + pageLimit - 1) toLedger)

/-- The second checkpoint, behind which the next iteration starts. On an empty page
it is computed from the cursor that has been advanced already. -/
def coveredTo : Nat :=
  let advanced := fetchedTo history toLedger startLedger + 1
  lastProcessed (pageAt history toLedger startLedger) (min (advanced + pageLimit - 1) toLedger)

variable {history toLedger startLedger}

theorem to_of_last {last : Nat × Event}
    (found : (pageAt history toLedger startLedger).getLast? = some last) :
    fetchedTo history toLedger startLedger = last.1 ∧
      coveredTo history toLedger startLedger = last.1 := by
  simp [fetchedTo, coveredTo, lastProcessed, found]

theorem to_of_empty (empty : (pageAt history toLedger startLedger).getLast? = none) :
    fetchedTo history toLedger startLedger = min (startLedger + pageLimit - 1) toLedger ∧
      coveredTo history toLedger startLedger = min (startLedger + 2 * pageLimit - 1) toLedger := by
  have fetched : fetchedTo history toLedger startLedger =
      min (startLedger + pageLimit - 1) toLedger := by
    simp [fetchedTo, lastProcessed, empty]
  refine ⟨fetched, ?_⟩
  rw [coveredTo, fetched]
  simp only [lastProcessed, empty, Option.map_none, Option.getD_none, pageLimit]
  omega

theorem page_within {entry : Nat × Event} (member : entry ∈ pageAt history toLedger startLedger) :
    startLedger ≤ entry.1 ∧ entry.1 ≤ toLedger := by
  obtain ⟨⟨low, high⟩, -⟩ := mem_slice.mp (List.mem_of_mem_take member)
  omega

variable (history) in
theorem to_within (inside : startLedger ≤ toLedger) :
    startLedger ≤ fetchedTo history toLedger startLedger ∧
      fetchedTo history toLedger startLedger ≤ coveredTo history toLedger startLedger ∧
      coveredTo history toLedger startLedger ≤ toLedger := by
  cases found : (pageAt history toLedger startLedger).getLast? with
  | some last =>
      obtain ⟨fetched, covered⟩ := to_of_last found
      obtain ⟨low, high⟩ := page_within (List.mem_of_getLast? found)
      omega
  | none =>
      obtain ⟨fetched, covered⟩ := to_of_empty found
      simp only [pageLimit] at fetched covered
      omega

variable (history toLedger startLedger)

/-- The loop, from a position of the cursor on. -/
def processFrom (startLedger : Nat) : List (Action Event) :=
  if startLedger ≤ toLedger then
    (pageAt history toLedger startLedger).map .handle ++
      .checkpoint (fetchedTo history toLedger startLedger) ::
      .checkpoint (coveredTo history toLedger startLedger) ::
      processFrom (coveredTo history toLedger startLedger + 1)
  else []
termination_by toLedger + 1 - startLedger
decreasing_by
  have within := to_within history (by assumption)
  omega

/-- The actions, and the cursor for the next range. -/
def processRange (fromLedger toLedger : Nat) : List (Action Event) × Nat :=
  (processFrom history toLedger fromLedger, toLedger + 1)

/-- The events passed to `handleEvent`. -/
def handled (actions : List (Action Event)) : List (Nat × Event) :=
  actions.filterMap fun action =>
    match action with
    | .handle event => some event
    | .checkpoint _ => none

/-- The events of the range are passed in order, each once, and a checkpoint is
written when all events up to it have been. -/
structure Faithful (fromLedger toLedger : Nat) (actions : List (Action Event)) : Prop where
  passed : handled actions = slice history fromLedger toLedger
  covered : ∀ early ledger late, actions = early ++ .checkpoint ledger :: late →
    slice history fromLedger ledger <+: handled early

end Model

section Steps
variable {Event : Type} {history : Nat → List Event} {toLedger startLedger : Nat}

@[simp] theorem handled_append (first second : List (Action Event)) :
    handled (first ++ second) = handled first ++ handled second :=
  List.filterMap_append

@[simp] theorem handled_nil : handled ([] : List (Action Event)) = [] := rfl

@[simp] theorem handled_checkpoint (ledger : Nat) (rest : List (Action Event)) :
    handled (.checkpoint ledger :: rest) = handled rest := rfl

@[simp] theorem handled_handles (page : List (Nat × Event)) :
    handled (page.map .handle) = page := by
  rw [handled, List.filterMap_map]
  exact List.filterMap_some

theorem processFrom_inside (inside : startLedger ≤ toLedger) :
    processFrom history toLedger startLedger =
      (pageAt history toLedger startLedger).map .handle ++
        .checkpoint (fetchedTo history toLedger startLedger) ::
        .checkpoint (coveredTo history toLedger startLedger) ::
        processFrom history toLedger (coveredTo history toLedger startLedger + 1) := by
  rw [processFrom, if_pos inside]

theorem processFrom_past (beyond : toLedger < startLedger) :
    processFrom history toLedger startLedger = [] := by
  rw [processFrom, if_neg (Nat.not_le.mpr beyond)]

variable (history toLedger) in
theorem checkpoint_within {ledger : Nat}
    (member : .checkpoint ledger ∈ processFrom history toLedger startLedger) :
    startLedger ≤ ledger := by
  induction startLedger using processFrom.induct history toLedger with
  | case1 startLedger inside ih =>
      have within := to_within history inside
      rw [processFrom_inside inside] at member
      simp only [List.mem_append, List.mem_map, reduceCtorEq, and_false, exists_false, false_or,
        List.mem_cons, Action.checkpoint.injEq] at member
      rcases member with rfl | rfl | later
      · exact within.1
      · omega
      · have later := ih later
        omega
  | case2 startLedger beyond =>
      rw [processFrom_past (Nat.lt_of_not_le beyond)] at member
      cases member

/-- A checkpoint comes behind the events of the page. -/
theorem split_behind_page {page : List (Nat × Event)} {early late rest : List (Action Event)}
    {ledger : Nat} (split : page.map .handle ++ rest = early ++ .checkpoint ledger :: late) :
    ∃ between, early = page.map .handle ++ between ∧ rest = between ++ .checkpoint ledger :: late := by
  rcases List.append_eq_append_iff.mp split with ⟨between, rfl, same⟩ | ⟨extra, same, behind⟩
  · exact ⟨between, rfl, same⟩
  · cases extra with
    | nil => exact ⟨[], by simpa using same.symm, by simpa using behind.symm⟩
    | cons head tail =>
        obtain ⟨rfl, -⟩ := List.cons.inj behind
        have listed : Action.checkpoint ledger ∈ page.map .handle := by
          rw [same]
          simp
        simp at listed

/-- A page that ends with the events of the ledger it covers ends there. -/
theorem page_of_prefix
    (prefixed : slice history startLedger (coveredTo history toLedger startLedger) <+:
      pageAt history toLedger startLedger) :
    pageAt history toLedger startLedger =
      slice history startLedger (coveredTo history toLedger startLedger) := by
  cases found : (pageAt history toLedger startLedger).getLast? with
  | none =>
      rw [List.getLast?_eq_none_iff.mp found] at prefixed ⊢
      exact (List.prefix_nil.mp prefixed).symm
  | some last =>
      obtain ⟨-, covered⟩ := to_of_last found
      obtain ⟨beyond, whole⟩ := prefixed
      cases beyond with
      | nil => rw [← whole, List.append_nil]
      | cons head tail =>
          -- the events behind the covered ones would lie in later ledgers
          exfalso
          obtain ⟨⟨low, high⟩, -⟩ := mem_slice.mp
            (List.mem_of_mem_take (List.mem_of_getLast? found) :
              last ∈ slice history startLedger (min (startLedger + pageLimit - 1) toLedger))
          have taken : pageAt history toLedger startLedger <+:
              slice history startLedger (min (startLedger + pageLimit - 1) toLedger) :=
            List.take_prefix ..
          have split := slice_append history
            (show startLedger ≤ coveredTo history toLedger startLedger + 1 by omega)
            (show coveredTo history toLedger startLedger ≤
              min (startLedger + pageLimit - 1) toLedger by omega)
          rw [← whole, split, List.prefix_append_right_inj] at taken
          have ends : (head :: tail).getLast? = some last := by
            rw [← whole, List.getLast?_append] at found
            simpa [List.getLast?_cons] using found
          obtain ⟨⟨later, -⟩, -⟩ := mem_slice.mp (taken.subset (List.mem_of_getLast? ends))
          omega

/-- An iteration is faithful when its page holds all events of the ledgers it covers. -/
theorem faithful_step (inside : startLedger ≤ toLedger) :
    Faithful history startLedger toLedger (processFrom history toLedger startLedger) ↔
      pageAt history toLedger startLedger =
          slice history startLedger (coveredTo history toLedger startLedger) ∧
        Faithful history (coveredTo history toLedger startLedger + 1) toLedger
          (processFrom history toLedger (coveredTo history toLedger startLedger + 1)) := by
  obtain ⟨low, middle, high⟩ := to_within history inside
  constructor
  · rintro ⟨passed, covered⟩
    rw [processFrom_inside inside] at passed covered
    have second := covered (List.map .handle (pageAt history toLedger startLedger) ++
      [.checkpoint (fetchedTo history toLedger startLedger)])
      (coveredTo history toLedger startLedger)
      (processFrom history toLedger (coveredTo history toLedger startLedger + 1)) (by simp)
    have page := page_of_prefix (by simpa using second)
    refine ⟨page, ?_, ?_⟩
    · rw [slice_append history (by omega) high, ← page] at passed
      simpa using passed
    · intro early ledger late split
      have later : coveredTo history toLedger startLedger + 1 ≤ ledger :=
        checkpoint_within history toLedger (by rw [split]; simp)
      have whole := covered (List.map .handle (pageAt history toLedger startLedger) ++
        .checkpoint (fetchedTo history toLedger startLedger) ::
        .checkpoint (coveredTo history toLedger startLedger) :: early) ledger late
        (by rw [split]; simp)
      have split := slice_append history
        (show startLedger ≤ coveredTo history toLedger startLedger + 1 by omega)
        (show coveredTo history toLedger startLedger ≤ ledger by omega)
      rw [split, ← page] at whole
      simpa using whole
  · rintro ⟨page, passed, covered⟩
    rw [processFrom_inside inside]
    refine ⟨?_, ?_⟩
    · rw [slice_append history (by omega) high, ← page]
      simpa using passed
    · intro early ledger late split
      obtain ⟨between, rfl, rest⟩ := split_behind_page split
      rw [handled_append, handled_handles]
      cases between with
      | nil =>
          obtain ⟨head, -⟩ := List.cons.inj rest
          rw [← Action.checkpoint.inj head, page, slice_append history (by omega) middle]
          simp
      | cons first others =>
          obtain ⟨here, behind⟩ := List.cons.inj rest
          subst here
          cases others with
          | nil =>
              obtain ⟨head, -⟩ := List.cons.inj behind
              rw [← Action.checkpoint.inj head, page]
              simp
          | cons second others =>
              obtain ⟨next, last⟩ := List.cons.inj behind
              subst next
              have later : coveredTo history toLedger startLedger + 1 ≤ ledger :=
                checkpoint_within history toLedger
                  (by rw [last]; simp)
              have split := slice_append history
                (show startLedger ≤ coveredTo history toLedger startLedger + 1 by omega)
                (show coveredTo history toLedger startLedger ≤ ledger by omega)
              rw [split, ← page]
              simpa using covered others ledger late last

end Steps

section Ranges
variable {Event : Type} (history : Nat → List Event) (toLedger : Nat)

/-- The ledgers from a cursor on can be gone through page by page: a page with events
holds all of the ledger it ends in, and behind an empty one nothing has happened
for as many ledgers again. -/
inductive Steady : Nat → Prop
  | past {startLedger : Nat} (beyond : toLedger < startLedger) : Steady startLedger
  | page {startLedger : Nat} (inside : startLedger ≤ toLedger) (last : Nat × Event)
      (found : (pageAt history toLedger startLedger).getLast? = some last)
      (whole : pageAt history toLedger startLedger = slice history startLedger last.1)
      (rest : Steady (last.1 + 1)) : Steady startLedger
  | gap {startLedger : Nat} (inside : startLedger ≤ toLedger)
      (quiet : slice history startLedger (min (startLedger + 2 * pageLimit - 1) toLedger) = [])
      (rest : Steady (min (startLedger + 2 * pageLimit - 1) toLedger + 1)) : Steady startLedger

variable {history toLedger}

theorem page_of_quiet {startLedger : Nat}
    (quiet : slice history startLedger (min (startLedger + 2 * pageLimit - 1) toLedger) = []) :
    pageAt history toLedger startLedger = [] := by
  rw [slice_eq_nil] at quiet
  have empty : slice history startLedger (min (startLedger + pageLimit - 1) toLedger) = [] :=
    slice_eq_nil.mpr fun ledger low high => quiet ledger low (by simp only [pageLimit] at *; omega)
  rw [pageAt, getEvents, empty, List.take_nil]

theorem steady_step {startLedger : Nat} (inside : startLedger ≤ toLedger) :
    Steady history toLedger startLedger ↔
      pageAt history toLedger startLedger =
          slice history startLedger (coveredTo history toLedger startLedger) ∧
        Steady history toLedger (coveredTo history toLedger startLedger + 1) := by
  constructor
  · intro steady
    cases steady with
    | past beyond => omega
    | page inside last found whole rest =>
        rw [(to_of_last found).2]
        exact ⟨whole, rest⟩
    | gap inside quiet rest =>
        have empty := page_of_quiet quiet
        rw [(to_of_empty (by rw [empty]; rfl)).2]
        exact ⟨empty.trans quiet.symm, rest⟩
  · rintro ⟨whole, rest⟩
    cases found : (pageAt history toLedger startLedger).getLast? with
    | some last =>
        rw [(to_of_last found).2] at whole rest
        exact .page inside last found whole rest
    | none =>
        rw [(to_of_empty found).2] at whole rest
        rw [List.getLast?_eq_none_iff.mp found] at whole
        exact .gap inside whole.symm rest

theorem faithful_iff (startLedger : Nat) :
    Faithful history startLedger toLedger (processFrom history toLedger startLedger) ↔
      Steady history toLedger startLedger := by
  induction startLedger using processFrom.induct history toLedger with
  | case1 startLedger inside ih => rw [faithful_step inside, steady_step inside, ih]
  | case2 startLedger beyond =>
      have past : toLedger < startLedger := Nat.lt_of_not_le beyond
      rw [processFrom_past past]
      refine iff_of_true ⟨(slice_empty past).symm, fun early ledger late split => ?_⟩ (.past past)
      cases early <;> cases split

/-- No event is lost and no checkpoint is ahead of the events in exactly the ranges whose
ledgers can be gone through page by page. -/
theorem processRange_faithful_iff (history : Nat → List Event) (fromLedger toLedger : Nat) :
    Faithful history fromLedger toLedger (processRange history fromLedger toLedger).1 ↔
      Steady history toLedger fromLedger :=
  faithful_iff fromLedger

/-- One event, behind 200 quiet ledgers. -/
def lateEvent (ledger : Nat) : List Unit := if ledger = 201 then [()] else []

/-- More events in every ledger than a page holds. -/
def crowdedLedgers (_ledger : Nat) : List Unit := List.replicate 201 ()

theorem processRange_loses_events :
    ¬ Faithful lateEvent 1 201 (processRange lateEvent 1 201).1 ∧
      ¬ Faithful crowdedLedgers 1 1 (processRange crowdedLedgers 1 1).1 := by
  refine ⟨fun faithful => ?_, fun faithful => ?_⟩
  · obtain ⟨whole, -⟩ := (faithful_step (by decide)).mp faithful
    have quiet : slice lateEvent 1 200 = [] := by
      refine slice_eq_nil.mpr fun ledger low high => ?_
      rw [lateEvent, if_neg (by omega)]
    have empty : pageAt lateEvent 201 1 = [] := by
      rw [pageAt, getEvents, show min (1 + pageLimit - 1) 201 = 200 from rfl, quiet, List.take_nil]
    rw [(to_of_empty (by rw [empty]; rfl)).2, empty] at whole
    have missed := slice_eq_nil.mp whole.symm 201 (by decide) (by decide)
    cases missed
  · obtain ⟨whole, -⟩ := (faithful_step (by decide)).mp faithful
    have covered : coveredTo crowdedLedgers 1 1 = 1 := by
      have within := to_within crowdedLedgers (Nat.le_refl 1)
      omega
    have short : (pageAt crowdedLedgers 1 1).length ≤ pageLimit := List.length_take_le ..
    have long : (slice crowdedLedgers 1 1).length = 201 := by
      change (((List.replicate 201 ()).map fun event => (1, event)) ++ []).length = 201
      rw [List.append_nil, List.length_map, List.length_replicate]
    rw [whole, covered, long] at short
    exact absurd short (by decide)

end Ranges

end TrustLink.Indexer
