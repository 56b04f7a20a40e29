import TrustLink.Indexer.ProcessRange
import TrustLink.Indexer.Reindex
import TrustLink.Lib.Recovery

/-!
`startIndexer` over its crashes and restarts. A session starts behind the stored checkpoint, works
through the ranges up to each tip it is told of, and may stop behind any of its actions. Events
behind the checkpoint are then handled again, possibly several times and not always to the end.
-/
namespace TrustLink.Indexer
open Timeline Trace Recovery

section Order
variable [JsRuntime]

/-- The event is about the row. -/
def EventResponse.About (row : RowKey) (ev : EventResponse) : Bool := ev.rowKey? = some row

theorem Creates.about {ev : EventResponse} {row : RowKey} (creates : Creates ev row) :
    ev.About row = true := by
  obtain ⟨edit, found, keyed, -⟩ := (creates_iff epoch ev row).mp creates
  rw [EventResponse.About, decide_eq_true_iff, ← keyed]
  exact row_of_edit found

/-- In other words: if anything creates a row, it is the first event about it. -/
theorem creationFirst_iff {log : List EventResponse} :
    CreationFirst log ↔
      ∀ row ev, log.find? (EventResponse.About row) = some ev → (∃ other ∈ log, Creates other row) →
        Creates ev row := by
  constructor
  · intro first row ev found creator
    obtain ⟨about, early, late, split, quiet⟩ := List.find?_eq_some_iff_append.mp found
    by_contra silent
    obtain ⟨other, member, creates⟩ := creator
    have unheard : ∀ event ∈ early, ¬ Creates event row := by
      intro event there created
      have heard := quiet event there
      rw [created.about] at heard
      cases heard
    rw [split, List.mem_append, List.mem_cons] at member
    rcases member with before | rfl | behind
    · exact unheard other before creates
    · exact silent creates
    · obtain ⟨earlier, there, created⟩ :=
        first early ev late row split (of_decide_eq_true about) silent ⟨other, behind, creates⟩
      exact unheard earlier there created
  · intro first early ev late row split keyed silent later
    obtain ⟨other, behind, creates⟩ := later
    have about : ev.About row = true := decide_eq_true keyed
    have creator : ∃ other ∈ log, Creates other row := ⟨other, by simp [split, behind], creates⟩
    cases found : early.find? (EventResponse.About row) with
    | some event =>
        refine ⟨event, List.mem_of_find?_eq_some found, first row event ?_ creator⟩
        rw [split, List.find?_append, found, Option.some_or]
    | none =>
        refine absurd (first row ev ?_ creator) silent
        rw [split, List.find?_append, found, Option.none_or, List.find?_cons_of_pos about]

theorem CreationFirst.prefixed {early late : List EventResponse}
    (first : CreationFirst (early ++ late)) : CreationFirst early := by
  rw [creationFirst_iff] at first ⊢
  intro row ev found creator
  obtain ⟨other, member, creates⟩ := creator
  refine first row ev ?_ ⟨other, List.mem_append_left late member, creates⟩
  rw [List.find?_append, found, Option.some_or]

/-- A repetition neither brings another event to the front nor creates anything new. -/
theorem CreationFirst.repeats {early late rest : List EventResponse}
    (first : CreationFirst (early ++ late ++ rest)) :
    CreationFirst (early ++ late ++ (late ++ rest)) := by
  rw [creationFirst_iff] at first ⊢
  intro row ev found creator
  obtain ⟨other, member, creates⟩ := creator
  refine first row ev ?_ ⟨other, by grind, creates⟩
  rw [← found]
  simp only [List.find?_append]
  cases early.find? (EventResponse.About row) with
  | some event => rfl
  | none => cases late.find? (EventResponse.About row) <;> rfl

theorem redoable_processEvent :
    Redoable processEvent Prod.snd Db.empty CreationFirst where
  again early late repeated same first := reindex_idempotent Db.empty early late repeated same first
  repeats _ _ _ first := first.repeats
  prefixed _ _ first := first.prefixed

end Order

section Model
variable [JsRuntime] (history : Nat → List EventResponse) (startLedger : Option Nat) (genesis : Nat)

/-- The tables, and the one row of the checkpoints. -/
structure Stored where
  db : Db
  checkpoint : Option Nat

def Stored.empty : Stored := ⟨Db.empty, none⟩

/-- An action, at the time the clock shows. -/
def perform (stored : Stored) : Clock × Action EventResponse → Stored
  | (clock, .handle event) => { stored with db := processEvent stored.db (clock, event.2) }
  | (_, .checkpoint ledger) => { stored with checkpoint := some ledger }

/-- `START_LEDGER` overrides the checkpoint. -/
def startCursor (checkpoint : Option Nat) : Nat :=
  startLedger.getD (checkpoint.elim genesis (· + 1))

omit [JsRuntime] in
/-- The backfill and the live polling, with the tip that the RPC names each time. -/
def pollFrom : Nat → List Nat → List (Action EventResponse)
  | _, [] => []
  | cursor, tip :: rest =>
      if cursor ≤ tip then
        (processRange history cursor tip).1 ++ pollFrom (processRange history cursor tip).2 rest
      else pollFrom cursor rest

/-- A session ends with the last of its clocks, be it in the middle of a range. -/
structure Session where
  tips : List Nat
  clocks : List Clock

def startIndexer (stored : Stored) (session : Session) : Stored :=
  run perform stored (session.clocks.zip
    (pollFrom history (startCursor startLedger genesis stored.checkpoint) session.tips))

omit [JsRuntime] in
/-- Each range that a session works through can be gone through page by page. -/
def Paced : Nat → List Nat → Prop
  | _, [] => True
  | cursor, tip :: rest =>
      if cursor ≤ tip then Steady history tip cursor ∧ Paced (tip + 1) rest else Paced cursor rest

/-- The events up to a ledger, without their ledgers. -/
def eventsFrom (first last : Nat) : List EventResponse := (slice history first last).map Prod.snd

end Model

section Tracking
variable {Event : Type} {history : Nat → List Event} {fromLedger toLedger ledger : Nat}

variable (history toLedger) in
theorem checkpoint_bounds {startLedger : Nat}
    (member : .checkpoint ledger ∈ processFrom history toLedger startLedger) :
    startLedger ≤ ledger ∧ ledger ≤ toLedger := by
  refine ⟨checkpoint_within history toLedger member, ?_⟩
  induction startLedger using processFrom.induct history toLedger with
  | case1 startLedger inside ih =>
      have within := to_within history inside
      rw [processFrom_inside inside] at member
      simp only [List.mem_append, List.mem_map, reduceCtorEq, and_false, exists_false, false_or,
        List.mem_cons, Action.checkpoint.injEq] at member
      rcases member with rfl | rfl | later
      · omega
      · exact within.2.2
      · exact ih later
  | case2 startLedger beyond =>
      rw [processFrom_past (Nat.lt_of_not_le beyond)] at member
      cases member

/-- Actions pass the first events from a ledger on, and each checkpoint stands behind the events
it covers. -/
structure Tracked (history : Nat → List Event) (fromLedger ledger : Nat)
    (actions : List (Action Event)) : Prop where
  passed : handled actions <+: slice history fromLedger ledger
  covered : ∀ early checkpoint late, actions = early ++ .checkpoint checkpoint :: late →
    fromLedger ≤ checkpoint ∧ checkpoint ≤ ledger ∧
      slice history fromLedger checkpoint <+: handled early

theorem Tracked.prefixed {actions done : List (Action Event)}
    (tracked : Tracked history fromLedger ledger actions) (part : done <+: actions) :
    Tracked history fromLedger ledger done := by
  refine ⟨(part.filterMap _).trans tracked.passed, fun early checkpoint late split => ?_⟩
  obtain ⟨rest, whole⟩ := part
  exact tracked.covered early checkpoint (late ++ rest) (by rw [← whole, split]; simp)

theorem Tracked.behind {first rest : List (Action Event)} {tip : Nat}
    (inside : fromLedger ≤ tip) (below : tip ≤ ledger)
    (bounds : ∀ checkpoint, .checkpoint checkpoint ∈ first →
      fromLedger ≤ checkpoint ∧ checkpoint ≤ tip)
    (faithful : Faithful history fromLedger tip first)
    (tracked : Tracked history (tip + 1) ledger rest) :
    Tracked history fromLedger ledger (first ++ rest) := by
  have low : fromLedger ≤ tip + 1 := by omega
  constructor
  · rw [handled_append, faithful.passed, slice_append history low below]
    exact (List.prefix_append_right_inj _).mpr tracked.passed
  · intro early checkpoint late split
    rcases List.append_eq_append_iff.mp split with ⟨between, rfl, behind⟩ | ⟨extra, whole, behind⟩
    · obtain ⟨above, under, covers⟩ := tracked.covered between checkpoint late behind
      refine ⟨by omega, under, ?_⟩
      rw [handled_append, faithful.passed, slice_append history low (by omega)]
      exact (List.prefix_append_right_inj _).mpr covers
    · cases extra with
      | nil =>
          obtain ⟨above, under, covers⟩ := tracked.covered [] checkpoint late (by simpa using behind.symm)
          refine ⟨by omega, under, ?_⟩
          rw [List.append_nil] at whole
          have same : slice history fromLedger checkpoint = handled early := by
            rw [← whole, faithful.passed, slice_append history low (by omega),
              List.prefix_nil.mp covers, List.append_nil]
          exact same ▸ List.prefix_rfl
      | cons head others =>
          obtain ⟨rfl, -⟩ := List.cons.inj behind
          obtain ⟨above, under⟩ := bounds checkpoint (by rw [whole]; simp)
          exact ⟨above, by omega, faithful.covered early checkpoint others whole⟩

end Tracking

section Sessions
variable {history : Nat → List EventResponse} {ledger : Nat}

theorem tracked_pollFrom {cursor : Nat} {tips : List Nat} (paced : Paced history cursor tips)
    (below : ∀ tip ∈ tips, tip ≤ ledger) :
    Tracked history cursor ledger (pollFrom history cursor tips) := by
  induction tips generalizing cursor with
  | nil => exact ⟨List.nil_prefix, fun early checkpoint late split => by simp [pollFrom] at split⟩
  | cons tip rest ih =>
      have later : ∀ other ∈ rest, other ≤ ledger := fun other member =>
        below other (List.mem_cons_of_mem tip member)
      rw [pollFrom]
      rw [Paced] at paced
      split at paced
      case isTrue inside =>
        rw [if_pos inside]
        exact Tracked.behind inside (below tip List.mem_cons_self)
          (fun _ member => checkpoint_bounds history tip member)
          ((processRange_faithful_iff history cursor tip).mpr paced.1) (ih paced.2 later)
      case isFalse beyond =>
        rw [if_neg beyond]
        exact ih paced later

variable [JsRuntime]

omit [JsRuntime] in
theorem zip_initial {First Second : Type} (firsts : List First) (seconds : List Second) :
    (firsts.zip seconds).map Prod.snd <+: seconds := by
  induction firsts generalizing seconds with
  | nil => exact List.nil_prefix
  | cons first rest ih =>
      cases seconds with
      | nil => exact List.nil_prefix
      | cons second others => exact (List.prefix_cons_inj second).mpr (ih others)

omit [JsRuntime] in
/-- The events that timed actions handle, each with its time. -/
def timed (stamped : List (Clock × Action EventResponse)) : List (Clock × EventResponse) :=
  stamped.filterMap fun action =>
    match action with
    | (clock, .handle event) => some (clock, event.2)
    | (_, .checkpoint _) => none

omit [JsRuntime] in
theorem events_timed (stamped : List (Clock × Action EventResponse)) :
    (timed stamped).map Prod.snd = (handled (stamped.map Prod.snd)).map Prod.snd := by
  induction stamped with
  | nil => rfl
  | cons action rest ih =>
      obtain ⟨clock, event | checkpoint⟩ := action
      · exact congrArg _ ih
      · exact ih

theorem db_of_perform (stored : Stored) (stamped : List (Clock × Action EventResponse)) :
    (run perform stored stamped).db = run processEvent stored.db (timed stamped) := by
  induction stamped generalizing stored with
  | nil => rfl
  | cons action rest ih =>
      rw [run_cons, ih]
      obtain ⟨clock, event | checkpoint⟩ := action <;> rfl

/-- The checkpoint is the last one written, if any. -/
theorem checkpoint_of_perform (stored : Stored) (stamped : List (Clock × Action EventResponse)) :
    (run perform stored stamped).checkpoint = stored.checkpoint ∨
      ∃ early checkpoint late, stamped.map Prod.snd = early ++ .checkpoint checkpoint :: late ∧
        (run perform stored stamped).checkpoint = some checkpoint := by
  induction stamped using List.reverseRecOn with
  | nil => exact .inl rfl
  | append_singleton stamped action ih =>
      rw [run_concat]
      obtain ⟨clock, event | checkpoint⟩ := action
      · rcases ih with kept | ⟨early, checkpoint, late, split, written⟩
        · exact .inl kept
        · exact .inr ⟨early, checkpoint, late ++ [.handle event], by simp [split], written⟩
      · exact .inr ⟨stamped.map Prod.snd, checkpoint, [], by simp, rfl⟩

/-- What is left behind the checkpoint leads to the state of a single pass. -/
def Catching (history : Nat → List EventResponse) (genesis ledger : Nat) (stored : Stored) : Prop :=
  Resumable processEvent Prod.snd Db.empty CreationFirst (eventsFrom history genesis ledger)
    (eventsFrom history (startCursor none genesis stored.checkpoint) ledger) stored.db

theorem catching_session {genesis : Nat} {stored : Stored} {session : Session}
    (paced : Paced history (startCursor none genesis stored.checkpoint) session.tips)
    (below : ∀ tip ∈ session.tips, tip ≤ ledger)
    (catching : Catching history genesis ledger stored) :
    Catching history genesis ledger (startIndexer history none genesis stored session) := by
  have tracked := (tracked_pollFrom paced below).prefixed (zip_initial session.clocks _)
  unfold startIndexer
  generalize session.clocks.zip (pollFrom history _ session.tips) = stamped at tracked ⊢
  have read := events_timed stamped
  obtain ⟨third, rest⟩ := tracked.passed
  have pending : eventsFrom history (startCursor none genesis stored.checkpoint) ledger =
      (handled (stamped.map Prod.snd)).map Prod.snd ++ third.map Prod.snd := by
    rw [eventsFrom, ← rest, List.map_append]
  unfold Catching at catching ⊢
  rw [pending] at catching
  rw [db_of_perform]
  rcases checkpoint_of_perform stored stamped with kept | ⟨early, checkpoint, late, split, written⟩
  · -- without a new checkpoint all that was handled is still pending
    rw [kept, pending]
    exact @Resumable.attempt _ _ _ _ _ _ _ _ _ redoable_processEvent [] _ _ _ catching read
  · obtain ⟨above, under, covers⟩ := tracked.covered early checkpoint late split
    have sooner : handled early <+: handled (stamped.map Prod.snd) := by
      rw [split, handled_append]
      exact List.prefix_append _ _
    obtain ⟨second, whole⟩ := covers.trans sooner
    have behind : slice history (checkpoint + 1) ledger = second ++ third := by
      rw [← whole, slice_append history (by omega) under, List.append_assoc] at rest
      exact (List.append_cancel_left rest).symm
    have left : eventsFrom history (startCursor none genesis (some checkpoint)) ledger =
        second.map Prod.snd ++ third.map Prod.snd := by
      rw [startCursor, Option.getD_none, Option.elim_some, eventsFrom, behind, List.map_append]
    rw [← whole, List.map_append] at catching read
    rw [written, left]
    exact catching.attempt redoable_processEvent (timed stamped) read

theorem catching_sessions {genesis : Nat} {sessions : List Session}
    (first : CreationFirst (eventsFrom history genesis ledger))
    (paced : Each (startIndexer history none genesis)
      (fun stored session =>
        Paced history (startCursor none genesis stored.checkpoint) session.tips)
      Stored.empty sessions)
    (below : ∀ session ∈ sessions, ∀ tip ∈ session.tips, tip ≤ ledger) :
    Catching history genesis ledger
      (run (startIndexer history none genesis) Stored.empty sessions) := by
  have within : Each (startIndexer history none genesis)
      (fun _ session => ∀ tip ∈ session.tips, tip ≤ ledger) Stored.empty sessions :=
    each_of_forall _ fun session member _ => below session member
  exact invariant_of_each (fun _ _ holds passed => catching_session passed.1 passed.2 holds)
    (resumable_start first) (paced.and within)

/-- At the highest ledger nothing is left to be read. -/
theorem Catching.caught_up {genesis : Nat} {stored : Stored}
    (catching : Catching history genesis ledger stored) (caughtUp : stored.checkpoint = some ledger) :
    ∃ pass : List (Clock × EventResponse), pass.map Prod.snd = eventsFrom history genesis ledger ∧
      stored.db = run processEvent Db.empty pass := by
  have nothing : eventsFrom history (startCursor none genesis (some ledger)) ledger = [] := by
    rw [startCursor, Option.getD_none, Option.elim_some, eventsFrom,
      slice_empty (Nat.lt_succ_self ledger), List.map_nil]
  unfold Catching at catching
  rw [caughtUp, nothing] at catching
  exact catching.complete

end Sessions

section Sample

attribute [local instance] decimalRuntime

/-- A proposal is made, signed and activated in three ledgers in a row. -/
def cosignedHistory (ledger : Nat) : List EventResponse :=
  if ledger = 1 then [proposedEvent]
  else if ledger = 2 then [signedEvent]
  else if ledger = 3 then [activatedEvent] else []

/-- The first session stops behind two events, before its first checkpoint. -/
def interruptedSessions : List Session :=
  [⟨[3], [midnight, midnight]⟩, ⟨[3], List.replicate 5 midnight⟩]

theorem steady_cosigned : Steady cosignedHistory 3 1 :=
  .page (by decide) (3, activatedEvent) rfl rfl (.past (by decide))

theorem pollFrom_cosigned :
    pollFrom cosignedHistory 1 [3] =
      [.handle (1, proposedEvent), .handle (2, signedEvent), .handle (3, activatedEvent),
        .checkpoint 3, .checkpoint 3] := by
  rw [pollFrom, if_pos (by decide), processRange, processFrom_inside (by decide), pollFrom,
    show coveredTo cosignedHistory 3 1 = 3 from rfl, processFrom_past (by decide)]
  rfl

end Sample

end TrustLink.Indexer
