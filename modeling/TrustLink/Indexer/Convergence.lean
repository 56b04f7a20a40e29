import TrustLink.Indexer.Records
import TrustLink.Indexer.Restarts

/-!
The whole way from the contract to the tables: the contract publishes what it does, the ledgers hold
the events, and an indexer that stops and starts again reads them page by page. In a log of the
contract the event that creates a row comes first, so that what is read again does no harm.
-/
namespace TrustLink.Indexer
open Trace Mirroring

section Creations
variable [JsRuntime]

omit [JsRuntime] in
theorem has_apply {db : Db} {edit : Edit} {row : RowKey} (has : (db.apply edit).has row) :
    db.has row ∨ edit.rowKey = row ∧ edit.creates = true := by
  have place : ∀ {Row Write : Type} (create : Write → Option Row) (update : Row → Write → Row)
      (table : Table Row) (id key : String) (write : Write),
      (putRow create update table id write key).isSome = true →
        (table key).isSome = true ∨ id = key ∧ (create write).isSome = true := by
    intro Row Write create update table id key write found
    by_cases same : id = key
    · subst same
      cases before : table id with
      | none => exact .inr ⟨rfl, by simpa [putRow, Replay.put, before] using found⟩
      | some old => exact .inl rfl
    · rw [putRow, Function.update_of_ne (Ne.symm same)] at found
      exact .inl found
  cases edit <;> cases row <;>
    simp only [Db.apply, Db.has, Edit.rowKey, Edit.creates, RowKey.attestation.injEq,
      RowKey.multisigProposal.injEq, RowKey.attestationRequest.injEq, RowKey.issuer.injEq,
      reduceCtorEq, false_and, or_false] at has ⊢ <;> first | exact has | exact place _ _ _ _ _ _ has

/-- A row goes back to an event that creates it. -/
theorem created_of_has {handled : List (Clock × EventResponse)} {row : RowKey}
    (has : (Trace.run processEvent Db.empty handled).has row) :
    ∃ seen ∈ handled, Creates seen.2 row := by
  induction handled using List.reverseRecOn with
  | nil => cases row <;> cases has
  | append_singleton handled seen ih =>
      rw [Trace.run_concat, processEvent_eq] at has
      have earlier : (Trace.run processEvent Db.empty handled).has row →
          ∃ other ∈ handled ++ [seen], Creates other.2 row := by
        intro before
        obtain ⟨other, member, creates⟩ := ih before
        exact ⟨other, List.mem_append_left _ member, creates⟩
      cases edit : editOf seen with
      | none =>
          rw [edit] at has
          exact earlier has
      | some written =>
          rw [edit] at has
          rcases has_apply has with before | ⟨keyed, creates⟩
          · exact earlier before
          · exact ⟨seen, by simp, (creates_iff seen.1 seen.2 row).mpr ⟨written, edit, keyed, creates⟩⟩

section Events
variable {Address : Type} [TextDecoder] [AddressDecoder Address]

theorem creates_announcement {attestation : Attestation Address}
    (storable : Storable attestation) :
    Creates (publish attestation.announcement) (.attestation (text attestation.id)) := by
  obtain ⟨after, handled⟩ := @announcement_handled _ _ _ _ Db.empty epoch attestation storable
  obtain ⟨-, base, extra, -, rfl⟩ := row_of_announcement handled
  refine ⟨epoch, ?_⟩
  rw [processEvent, handled, Option.getD_some, Db.has, withRow_self rfl]
  rfl

theorem creates_proposed {id : Str} (lettered : Lettered id) (proposer subject : Address)
    {threshold : Nat} (fits : threshold < intRange) :
    Creates (publish (.multisigProposed id proposer subject threshold))
      (.multisigProposal (text id)) := by
  refine ⟨epoch, ?_⟩
  rw [Db.has, process_proposed epoch lettered, if_pos fits]
  simp [Table.upsert, Db.empty]

theorem creates_registered (issuer admin : Address) (timestamp : Nat) :
    Creates (publish (.issuerRegistered issuer admin timestamp)) (.issuer (strkey admin)) := by
  refine ⟨epoch, ?_⟩
  rw [processEvent, handle_registered, Option.getD_some, Db.has]
  simp [Table.upsert, Db.empty]

/-- What the contract publishes of a request creates no row. -/
theorem creates_request (event : Event Address) (id : String) :
    ¬ Creates (publish event) (.attestationRequest id) := by
  intro creates
  have about := creates.about
  rw [EventResponse.About, decide_eq_true_iff] at about
  cases event with
  | attestationRequested requestId subject issuer claimType expiresAt =>
      obtain ⟨clock, has⟩ := creates
      rw [processEvent, handle_requested, Option.getD_none] at has
      cases has
  | _ => cases about

/-- The tables made of what was published are those made of the events. -/
theorem tablesAfter_eq (handled : List (Clock × Event Address)) :
    tablesAfter handled =
      Trace.run processEvent Db.empty (handled.map (Prod.map id publish)) := by
  rw [Trace.run, List.foldl_map]
  rfl

omit [JsRuntime] in
/-- A pass over what was published is one over the events. -/
theorem stamped_of_published {pass : List (Clock × EventResponse)} {events : List (Event Address)}
    (passed : pass.map Prod.snd = events.map publish) :
    ∃ handled : List (Clock × Event Address), handled.map Prod.snd = events ∧
      handled.map (Prod.map id publish) = pass := by
  induction events generalizing pass with
  | nil => exact ⟨[], rfl, (List.map_eq_nil_iff.mp passed).symm⟩
  | cons event rest ih =>
      obtain ⟨⟨clock, response⟩, others, rfl, same, later⟩ := List.map_eq_cons_iff.mp passed
      obtain ⟨handled, read, responses⟩ := ih later
      refine ⟨(clock, event) :: handled, congrArg _ read, ?_⟩
      rw [List.map_cons, responses]
      exact congrArg (fun response => (clock, response) :: others) same.symm

/-- A row of the tables goes back to a published event that creates it. -/
theorem published_of_has {events : List (Event Address)}
    {handled : List (Clock × Event Address)} {row : RowKey}
    (read : handled.map Prod.snd = events) (has : (tablesAfter handled).has row) :
    ∃ earlier ∈ events.map publish, Creates earlier row := by
  rw [tablesAfter_eq] at has
  obtain ⟨seen, member, creates⟩ := created_of_has has
  obtain ⟨entry, there, rfl⟩ := List.mem_map.mp member
  exact ⟨_, List.mem_map_of_mem (read ▸ List.mem_map_of_mem there), creates⟩

/-- An event that shows and does not create its row is about what is known already. -/
theorem creator_known {register : PublicRegister Address} {agenda : Agenda Address}
    {event : Event Address} {row : RowKey} (about : (publish event).rowKey? = some row)
    (grounded : Grounded register event) (sequel : Sequel agenda event)
    (noted : Noted register event) (shown : Shown agenda event) :
    Creates (publish event) row ∨ (∃ id, row = .attestation (text id) ∧
        (register.record id).isSome = true) ∨
      (∃ id, row = .multisigProposal (text id) ∧ (agenda.signing id).isSome = true) ∨
      ∃ id, row = .attestationRequest id := by
  have announced : ∀ attestation : Attestation Address,
      publish attestation.announcement = publish event → NotedAs register attestation →
        row = .attestation (text attestation.id) →
        Creates (publish event) row ∨ ∃ id, row = .attestation (text id) ∧
          (register.record id).isSome = true := by
    rintro attestation same fresh rfl
    unfold NotedAs at fresh
    cases known : register.record attestation.id with
    | none =>
        rw [known] at fresh
        exact .inl (same ▸ creates_announcement fresh)
    | some record => exact .inr ⟨attestation.id, rfl, by rw [known]; rfl⟩
  cases event with
  | attestationCreated attestation | attestationImported attestation
  | attestationBridged attestation =>
      have origin := grounded.2
      exact (announced attestation (by rw [Attestation.announcement, origin]) noted
        (Option.some.inj about.symm)).imp_right .inl
  | attestationRevoked id issuer reason | attestationRevokedWithReason id issuer reason =>
      exact .inr (.inl ⟨id, Option.some.inj about.symm, grounded⟩)
  | multisigProposed id proposer subject threshold =>
      obtain rfl : row = .multisigProposal (text id) := Option.some.inj about.symm
      rcases shown with ⟨-, fits⟩ | known
      · exact .inl (creates_proposed sequel proposer subject fits)
      · exact .inr (.inr (.inl ⟨id, rfl, by rw [known]; rfl⟩))
  | multisigCosigned id signer signaturesSoFar threshold =>
      obtain ⟨signing, known, -⟩ := sequel
      exact .inr (.inr (.inl ⟨id, Option.some.inj about.symm, by rw [known]; rfl⟩))
  | multisigActivated id attestationId =>
      exact .inr (.inr (.inl ⟨id, Option.some.inj about.symm, sequel⟩))
  | issuerRegistered issuer admin timestamp =>
      obtain rfl : row = .issuer (strkey admin) := Option.some.inj about.symm
      exact .inl (creates_registered issuer admin timestamp)
  | attestationRequested requestId subject issuer claimType expiresAt =>
      exact .inr (.inr (.inr ⟨text requestId, Option.some.inj about.symm⟩))
  | _ => cases about

end Events

section Logs
variable {Address : Type} [DecidableEq Address] [TextDecoder] [AddressDecoder Address]

/-- Each event follows the earlier ones, and it shows in the rows. -/
structure Legible (events : List (Event Address)) : Prop where
  grounded : Each PublicRegister.absorb Grounded (PublicRegister.empty Address) events
  sequel : Each Agenda.absorb Sequel (Storage.empty Address).agenda events
  noted : Each PublicRegister.absorb Noted (PublicRegister.empty Address) events
  shown : Each Agenda.absorb Shown (Storage.empty Address).agenda events

omit [JsRuntime] [AddressDecoder Address] in
theorem Legible.prefixed {early late : List (Event Address)} (legible : Legible (early ++ late)) :
    Legible early where
  grounded := (each_append.mp legible.grounded).1
  sequel := (each_append.mp legible.sequel).1
  noted := (each_append.mp legible.noted).1
  shown := (each_append.mp legible.shown).1

variable {events : List (Event Address)}

theorem Legible.records (legible : Legible events) {handled : List (Clock × Event Address)}
    (read : handled.map Prod.snd = events) :
    DisplaysRecords
      (Trace.run PublicRegister.absorb (PublicRegister.empty Address) events).record
      (tablesAfter handled).attestation := by
  subst read
  exact (records_shown_iff legible.grounded).mpr legible.noted handled []
    (List.append_nil _).symm

theorem Legible.signings (legible : Legible events) {handled : List (Clock × Event Address)}
    (read : handled.map Prod.snd = events) :
    DisplaysSignings
      (Trace.run Agenda.absorb (Storage.empty Address).agenda events).signing
      (tablesAfter handled).multisigProposal := by
  subst read
  exact (signings_shown_iff legible.sequel).mpr legible.shown handled []
    (List.append_nil _).symm

theorem Legible.announced (legible : Legible events) {id : Str}
    (known : ((Trace.run PublicRegister.absorb (PublicRegister.empty Address) events).record
      id).isSome = true) :
    ∃ earlier ∈ events.map publish, Creates earlier (.attestation (text id)) := by
  obtain ⟨record, found⟩ := Option.isSome_iff_exists.mp known
  have read : (events.map fun event => (epoch, event)).map Prod.snd = events := by
    simp [Function.comp_def]
  obtain ⟨row, there, -⟩ := (legible.records read).shown id record found
  exact published_of_has read (Option.isSome_iff_exists.mpr ⟨row, there⟩)

theorem Legible.proposed (legible : Legible events) {id : Str}
    (known : ((Trace.run Agenda.absorb (Storage.empty Address).agenda events).signing
      id).isSome = true) :
    ∃ earlier ∈ events.map publish, Creates earlier (.multisigProposal (text id)) := by
  obtain ⟨signing, found⟩ := Option.isSome_iff_exists.mp known
  have read : (events.map fun event => (epoch, event)).map Prod.snd = events := by
    simp [Function.comp_def]
  obtain ⟨row, there, -⟩ := (legible.signings read).shown id signing found
  exact published_of_has read (Option.isSome_iff_exists.mpr ⟨row, there⟩)

theorem Legible.creationFirst (legible : Legible events) :
    CreationFirst (events.map publish) := by
  intro early ev late row split about silent later
  obtain ⟨first, rest, rfl, rfl, behind⟩ := List.map_eq_append_iff.mp split
  obtain ⟨event, others, rfl, rfl, rfl⟩ := List.map_eq_cons_iff.mp behind
  have before := legible.prefixed
  rcases creator_known about (each_append.mp legible.grounded).2.1
    (each_append.mp legible.sequel).2.1 (each_append.mp legible.noted).2.1
    (each_append.mp legible.shown).2.1 with creates | ⟨id, rfl, known⟩ | ⟨id, rfl, known⟩ | ⟨id, rfl⟩
  · exact absurd creates silent
  · exact before.announced known
  · exact before.proposed known
  · obtain ⟨other, member, creates⟩ := later
    obtain ⟨published, -, rfl⟩ := List.mem_map.mp member
    exact absurd creates (creates_request published id)

end Logs

end Creations

section Ends
variable [JsRuntime] {Address : Type} [DecidableEq Address] [TextDecoder] [AddressDecoder Address]

omit [JsRuntime] [DecidableEq Address] in
/-- The endpoint answers for the records that are not revoked. -/
theorem answersValid_displayed {record : Str → Option (PublicRecord Address)} {db : Db}
    (displays : DisplaysRecords record db.attestation) (subject : Address) (claimType : Str) :
    AnswersValid db (strkey subject) (text claimType) ↔
      ∃ id known, record id = some known ∧ known.subject = subject ∧
        text known.claimType = text claimType ∧ known.revocation = none := by
  constructor
  · rintro ⟨place, row, found, owned, claims, active⟩
    obtain ⟨id, rfl, stands⟩ := displays.backed place row found
    obtain ⟨known, stored⟩ := Option.isSome_iff_exists.mp stands
    obtain ⟨same, there, tells⟩ := displays.shown id known stored
    obtain rfl := Option.some.inj (there.symm.trans found)
    have unrevoked : known.revocation.isSome = false := tells.isRevoked.symm.trans active
    refine ⟨id, known, stored, ?_, tells.claimType.symm.trans claims, by simpa using unrevoked⟩
    exact AddressDecoder.injective (tells.subject.symm.trans owned)
  · rintro ⟨id, known, stored, rfl, claims, active⟩
    obtain ⟨row, found, tells⟩ := displays.shown id known stored
    exact ⟨text id, row, found, tells.subject, tells.claimType.trans claims,
      by rw [tells.isRevoked, active]; rfl⟩

variable [Host Address]

omit [JsRuntime] [AddressDecoder Address] in
/-- What the contract publishes can be followed when it shows in the rows. -/
theorem legible_live {activities : List (Activity Address)}
    (noted : Each PublicRegister.absorb Noted (PublicRegister.empty Address)
      (live activities).events)
    (shown : Each Agenda.absorb Shown (Storage.empty Address).agenda (live activities).events) :
    Legible (live activities).events :=
  ⟨grounded_live activities, sequel_live activities, noted, shown⟩

end Ends

section Sample
open Xdr Timeline

attribute [local instance] decimalRuntime

/-- All events are in the first ledger. -/
def firstLedger (events : List EventResponse) (ledger : Nat) : List EventResponse :=
  if ledger = 1 then events else []

variable {events : List EventResponse}

omit events in
theorem slice_firstLedger (events : List EventResponse) :
    slice (firstLedger events) 1 1 = events.map fun event => (1, event) := by
  simp [slice, firstLedger]

theorem steady_firstLedger (short : events.length ≤ pageLimit) :
    Steady (firstLedger events) 1 1 ∧ pollFrom (firstLedger events) 1 [1] =
      (events.map fun event => (1, event)).map .handle ++ [.checkpoint 1, .checkpoint 1] := by
  have page : pageAt (firstLedger events) 1 1 = slice (firstLedger events) 1 1 := by
    refine List.take_of_length_le ?_
    rw [show min (1 + pageLimit - 1) 1 = 1 from rfl, slice_firstLedger, List.length_map]
    exact short
  obtain ⟨low, between, high⟩ := to_within (firstLedger events) (Nat.le_refl 1)
  have fetched : fetchedTo (firstLedger events) 1 1 = 1 := by omega
  have covered : coveredTo (firstLedger events) 1 1 = 1 := by omega
  constructor
  · rw [steady_step (Nat.le_refl 1), covered]
    exact ⟨page, .past (by decide)⟩
  · rw [pollFrom, if_pos (Nat.le_refl 1), processRange, processFrom_inside (Nat.le_refl 1), fetched,
      covered, processFrom_past (by decide), page, slice_firstLedger]
    simp [pollFrom]

/-- A session that stops among the events leaves the checkpoint. -/
theorem checkpoint_interrupted {clocks : List Clock} {page : List (Nat × EventResponse)}
    (short : clocks.length ≤ page.length) (rest : List (Action EventResponse)) (stored : Stored) :
    (Trace.run perform stored (clocks.zip (page.map .handle ++ rest))).checkpoint =
      stored.checkpoint := by
  induction clocks generalizing page stored with
  | nil => rfl
  | cons clock clocks ih =>
      cases page with
      | nil => cases short
      | cons event page => exact ih (Nat.le_of_succ_le_succ short) _

/-- A session that comes to the end leaves it at the last ledger. -/
theorem checkpoint_finished (page : List (Action EventResponse)) (ledger : Nat) (stored : Stored) :
    (Trace.run perform stored
        ((List.replicate (page.length + 1) midnight).zip (page ++ [.checkpoint ledger]))).checkpoint =
      some ledger := by
  rw [List.replicate_succ', List.zip_append List.length_replicate, List.zip_cons_cons,
    List.zip_nil_left, Trace.run_concat]
  rfl

/-- The first session stops behind two events, the second one comes to the end. -/
def resumedSessions (events : List EventResponse) : List Session :=
  [⟨[1], [midnight, midnight]⟩, ⟨[1], List.replicate (events.length + 2) midnight⟩]

theorem sessions_firstLedger (several : 2 ≤ events.length) (short : events.length ≤ pageLimit) :
    Each (startIndexer (firstLedger events) none 1)
        (fun stored session =>
          Paced (firstLedger events) (startCursor none 1 stored.checkpoint) session.tips)
        Stored.empty (resumedSessions events) ∧
      (Trace.run (startIndexer (firstLedger events) none 1) Stored.empty
        (resumedSessions events)).checkpoint = some 1 := by
  obtain ⟨steady, polled⟩ := steady_firstLedger short
  have paced : Paced (firstLedger events) 1 [1] := by
    rw [Paced, if_pos (Nat.le_refl 1)]
    exact ⟨steady, trivial⟩
  have stopped : (startIndexer (firstLedger events) none 1 Stored.empty
      ⟨[1], [midnight, midnight]⟩).checkpoint = none := by
    rw [startIndexer, show startCursor none 1 Stored.empty.checkpoint = 1 from rfl, polled]
    exact checkpoint_interrupted (by simpa using several) _ _
  constructor
  · refine ⟨paced, ?_, trivial⟩
    beta_reduce
    rw [stopped]
    exact paced
  · rw [resumedSessions, Trace.run_cons, Trace.run_cons, Trace.run_nil, startIndexer, stopped,
      show startCursor none 1 none = 1 from rfl, polled]
    have finished := checkpoint_finished
      ((events.map fun event => (1, event)).map .handle ++ [.checkpoint 1]) 1
    simpa using finished _

end Sample

end TrustLink.Indexer
