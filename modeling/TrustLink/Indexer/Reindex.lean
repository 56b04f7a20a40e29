import TrustLink.Lib.Replay
import TrustLink.Indexer.Handler

/-!
Reindexing from an earlier ledger. What a handler does is one write to one row; the
columns of the four tables are kept, overwritten, inserted into or settled for good, so
that the library on replays applies to each table.
-/
namespace TrustLink.Indexer
open Trace Replay

section Writes

inductive AttestationWrite where
  | upsert (row : AttestationRow) (extra : Extra)
  | revoke

def AttestationWrite.create : AttestationWrite → Option AttestationRow
  | .upsert row extra => some (extra.spread row)
  | .revoke => none

def AttestationWrite.update (row : AttestationRow) : AttestationWrite → AttestationRow
  | .upsert created extra => extra.spread { row with subject := created.subject }
  | .revoke => { row with isRevoked := true }

inductive ProposalWrite where
  | propose (row : MultisigProposalRow)
  | sign (signatureCount : Option Int) (signer : String)
  | activate

def ProposalWrite.create : ProposalWrite → Option MultisigProposalRow
  | .propose row => some row
  | _ => none

def insertSigner (signers : List String) (signer : String) : List String :=
  if signer ∈ signers then signers else signers ++ [signer]

/-- A signature whose count fits no column is not written. -/
def ProposalWrite.update (row : MultisigProposalRow) : ProposalWrite → MultisigProposalRow
  | .sign (some signatureCount) signer =>
      { row with signatureCount := signatureCount, signers := insertSigner row.signers signer }
  | .activate => { row with finalized := true }
  | _ => row

inductive RequestWrite where
  | file (row : AttestationRequestRow)
  | fulfil (attestationId : String)
  | reject (reason : Option String)

def RequestWrite.create : RequestWrite → Option AttestationRequestRow
  | .file row => some row
  | _ => none

def RequestWrite.update (row : AttestationRequestRow) : RequestWrite → AttestationRequestRow
  | .file _ => row
  | .fulfil attestationId =>
      if row.status = .pending then
        { row with status := .fulfilled, fulfillmentId := some attestationId }
      else row
  | .reject reason =>
      if row.status = .pending then { row with status := .rejected, rejectionReason := reason }
      else row

inductive IssuerWrite where
  | register (name : String) (url description : Option String)
  | retier (tier : String)

def IssuerWrite.create : IssuerWrite → Option IssuerRow
  | .register name url description =>
      some { name := name, url := url, description := description, tier := "basic" }
  | .retier _ => none

def IssuerWrite.update (row : IssuerRow) : IssuerWrite → IssuerRow
  | .register name url description =>
      { row with name := name, url := url, description := description }
  | .retier tier => { row with tier := tier }

end Writes

section Columns

theorem AttestationWrite.update_create (write : AttestationWrite) (row : AttestationRow)
    (created : write.create = some row) : AttestationWrite.update row write = row := by
  cases write with
  | upsert base extra =>
      cases created
      cases extra <;> rfl
  | revoke => cases created

theorem AttestationWrite.replayable : Replayable AttestationWrite.update := by
  have subject := replayable_overwrite fun write : AttestationWrite =>
    match write with
    | .upsert row _ => some row.subject
    | .revoke => none
  have metadata := replayable_overwrite fun write : AttestationWrite =>
    match write with
    | .upsert _ (.created metadata) => some metadata
    | _ => none
  have expiration := replayable_overwrite fun write : AttestationWrite =>
    match write with
    | .upsert _ (.imported expiration) => some expiration
    | _ => none
  have source := replayable_overwrite fun write : AttestationWrite =>
    match write with
    | .upsert _ (.bridged sourceChain sourceTx) => some (sourceChain, sourceTx)
    | _ => none
  have isRevoked := replayable_overwrite fun write : AttestationWrite =>
    match write with
    | .revoke => some true
    | _ => none
  have kept := replayable_overwrite fun _ : AttestationWrite =>
    (none : Option (String × String × Int × Bool × Bool))
  refine Replayable.of_columns
    (fun row => (row.subject, row.metadata, row.expiration, (row.sourceChain, row.sourceTx),
      row.isRevoked, (row.issuer, row.claimType, row.timestamp, row.imported, row.bridged)))
    ?_ ?_ (subject.prod (metadata.prod (expiration.prod (source.prod (isRevoked.prod kept)))))
  · intro first second same
    cases first
    cases second
    simp_all
  · intro row write
    cases write with
    | upsert base extra => cases extra <;> rfl
    | revoke => rfl

theorem ProposalWrite.update_create (write : ProposalWrite) (row : MultisigProposalRow)
    (created : write.create = some row) : ProposalWrite.update row write = row := by
  cases write with
  | propose base => rfl
  | sign => cases created
  | activate => cases created

theorem ProposalWrite.alike_propose (row other : MultisigProposalRow) :
    Replay.Alike ProposalWrite.create ProposalWrite.update (.propose row) (.propose other) :=
  ⟨fun _ => rfl, Iff.rfl⟩

theorem mem_insertSigner {signers : List String} {signer other : String} :
    other ∈ insertSigner signers signer ↔ other ∈ signers ∨ other = signer := by
  unfold insertSigner
  split
  · constructor
    · exact .inl
    · rintro (there | same)
      · exact there
      · rwa [same]
  · simp

theorem replayable_signers : Replayable fun (signers : List String) (write : ProposalWrite) =>
    match write with
    | .sign (some _) signer => insertSigner signers signer
    | _ => signers := by
  apply replayable_of_done fun signers write =>
    match write with
    | .sign (some _) signer => signer ∈ signers
    | _ => True
  · intro signers write
    split <;> simp [mem_insertSigner]
  · intro signers write other done
    split at done
    · split
      · exact mem_insertSigner.mpr (.inl done)
      · exact done
    · simp
  · intro signers write done
    split at done
    · simp [insertSigner, done]
    · simp

theorem ProposalWrite.replayable : Replayable ProposalWrite.update := by
  have signatureCount := replayable_overwrite fun write : ProposalWrite =>
    match write with
    | .sign signatureCount _ => signatureCount
    | _ => none
  have finalized := replayable_overwrite fun write : ProposalWrite =>
    match write with
    | .activate => some true
    | _ => none
  have kept := replayable_overwrite fun _ : ProposalWrite =>
    (none : Option (String × String × String × Int × Int))
  refine Replayable.of_columns
    (fun row => (row.signatureCount, row.signers, row.finalized,
      (row.subject, row.proposer, row.claimType, row.threshold, row.expiresAt)))
    ?_ ?_ (signatureCount.prod (replayable_signers.prod (finalized.prod kept)))
  · intro first second same
    cases first
    cases second
    simp_all
  · intro row write
    cases write with
    | propose base => rfl
    | sign count signer => cases count <;> rfl
    | activate => rfl

theorem RequestWrite.update_create (write : RequestWrite) (row : AttestationRequestRow)
    (created : write.create = some row) : RequestWrite.update row write = row := by
  cases write with
  | file base => rfl
  | fulfil => cases created
  | reject => cases created

/-- The first answer to a request settles it. -/
theorem RequestWrite.replayable : Replayable RequestWrite.update := by
  apply replayable_of_done fun row write =>
    match write with
    | .file _ => True
    | _ => row.status ≠ .pending
  · intro row write
    cases write <;> simp only [RequestWrite.update] <;> split <;> simp_all
  · intro row write other done
    cases other <;> simp only [RequestWrite.update] <;> split <;> simp_all
  · intro row write done
    cases write <;> simp_all [RequestWrite.update]

theorem IssuerWrite.update_create (write : IssuerWrite) (row : IssuerRow)
    (created : write.create = some row) : IssuerWrite.update row write = row := by
  cases write with
  | register => cases created; rfl
  | retier => cases created

theorem IssuerWrite.replayable : Replayable IssuerWrite.update := by
  have named := replayable_overwrite fun write : IssuerWrite =>
    match write with
    | .register name url description => some (name, url, description)
    | .retier _ => none
  have tier := replayable_overwrite fun write : IssuerWrite =>
    match write with
    | .register _ _ _ => none
    | .retier tier => some tier
  refine Replayable.of_columns (fun row => ((row.name, row.url, row.description), row.tier))
    ?_ ?_ (named.prod tier)
  · intro first second same
    cases first
    cases second
    simp_all
  · intro row write
    cases write <;> rfl

end Columns

section Edits

/-- A write to a row of one of the tables. -/
inductive Edit where
  | attestation (id : String) (write : AttestationWrite)
  | multisigProposal (id : String) (write : ProposalWrite)
  | attestationRequest (id : String) (write : RequestWrite)
  | issuer (address : String) (write : IssuerWrite)

def putRow {Row Write : Type} (create : Write → Option Row) (update : Row → Write → Row)
    (table : Table Row) (key : String) (write : Write) : Table Row :=
  Function.update table key (put create update (table key) write)

def Db.apply (db : Db) : Edit → Db
  | .attestation id write =>
      { db with attestation :=
          putRow AttestationWrite.create AttestationWrite.update db.attestation id write }
  | .multisigProposal id write =>
      { db with multisigProposal :=
          putRow ProposalWrite.create ProposalWrite.update db.multisigProposal id write }
  | .attestationRequest id write =>
      { db with attestationRequest :=
          putRow RequestWrite.create RequestWrite.update db.attestationRequest id write }
  | .issuer address write =>
      { db with issuer := putRow IssuerWrite.create IssuerWrite.update db.issuer address write }

/-- A row of the database by its table and key. -/
inductive RowKey where
  | attestation (id : String)
  | multisigProposal (id : String)
  | attestationRequest (id : String)
  | issuer (address : String)
  deriving DecidableEq

def Edit.rowKey : Edit → RowKey
  | .attestation id _ => .attestation id
  | .multisigProposal id _ => .multisigProposal id
  | .attestationRequest id _ => .attestationRequest id
  | .issuer address _ => .issuer address

def Edit.creates : Edit → Bool
  | .attestation _ write => write.create.isSome
  | .multisigProposal _ write => write.create.isSome
  | .attestationRequest _ write => write.create.isSome
  | .issuer _ write => write.create.isSome

def Edit.Alike : Edit → Edit → Prop
  | .multisigProposal id write, .multisigProposal id' write' =>
      id = id' ∧ Replay.Alike ProposalWrite.create ProposalWrite.update write write'
  | edit, other => edit = other

theorem Edit.alike_refl (edit : Edit) : edit.Alike edit := by
  cases edit with
  | multisigProposal id write => exact ⟨rfl, fun _ => rfl, Iff.rfl⟩
  | _ => rfl

theorem Edit.Alike.keeps {edit other : Edit} (alike : edit.Alike other) :
    edit.rowKey = other.rowKey ∧ edit.creates = other.creates := by
  cases edit with
  | multisigProposal id write =>
      cases other with
      | multisigProposal id' write' =>
          obtain ⟨same, -, creates⟩ := alike
          exact ⟨by rw [Edit.rowKey, Edit.rowKey, same], Bool.eq_iff_iff.mpr creates⟩
      | _ => cases alike
  | _ => cases alike; exact ⟨rfl, rfl⟩

def Db.has (db : Db) : RowKey → Prop
  | .attestation id => (db.attestation id).isSome
  | .multisigProposal id => (db.multisigProposal id).isSome
  | .attestationRequest id => (db.attestationRequest id).isSome
  | .issuer address => (db.issuer address).isSome

/-- The row an event is about. -/
def Watched.rowKey (kind : Watched) (id : String) : RowKey :=
  match kind with
  | .created | .revoked | .imported | .bridged => .attestation id
  | .msProp | .msSign | .msActv => .multisigProposal id
  | .issReg | .issuerTierUpdated => .issuer id
  | .attReq | .reqFul | .reqRej => .attestationRequest id

def EventResponse.rowKey? (ev : EventResponse) : Option RowKey := do
  let kind ← ev.watched?
  let data ← ev.data?
  return kind.rowKey (item data 0).toText

section Tables
variable {Row Write : Type} (create : Write → Option Row) (update : Row → Write → Row)
  (write : Write)

theorem upsert_eq_put {table : Table Row} {key : String} {row : Row}
    {change : Row → Row} (created : create write = some row)
    (changed : ∀ row, update row write = change row) :
    table.upsert key change row = putRow create update table key write := by
  unfold Table.upsert putRow
  cases table key <;> simp [put, created, changed]

theorem updateMany_eq_put {table : Table Row} {key : String} {condition : Row → Bool}
    {data : Row → Row} (created : create write = none)
    (changed : ∀ row, update row write = if condition row then data row else row) :
    table.updateMany key condition data = putRow create update table key write := by
  unfold Table.updateMany putRow
  cases table key <;> simp [put, created, changed]

theorem update_eq_put {table : Table Row} {key : String} {data : Row → Row}
    (created : create write = none) (changed : ∀ row, update row write = data row) :
    (table.update key data).getD table = putRow create update table key write := by
  unfold Table.update putRow
  cases found : table key with
  | none =>
      show table = Function.update table key (create write)
      rw [created, ← found, Function.update_eq_self]
  | some row => simp [put, changed]

end Tables

theorem textColumn_some {text stored : String} (stores : textColumn text = some stored) :
    stored = text := by
  unfold textColumn at stores
  split at stores
  · cases stores
  · exact (Option.some.inj stores).symm

theorem rawText_some {value : JsValue} {stored : String} (stores : rawText value = some stored) :
    stored = value.toText := by
  cases value <;> simp only [rawText, reduceCtorEq] at stores
  rw [JsValue.toText]
  exact textColumn_some stores

end Edits

theorem expiry_fits (clock : Clock) :
    bigIntColumn (proposalExpiry clock) = some (proposalExpiry clock) := by
  have inRange := clock.inRange
  rw [bigIntColumn, if_pos]
  simp only [proposalExpiry, Int.ofNat_eq_natCast, bigIntRange]
  omega

section Decoding

/-- The clock only shows in the row a new proposal gets. -/
structure Decodes (handler : Clock → Db → Option Db) (key : String → RowKey) (id : String)
    (edit : Clock → Option Edit) : Prop where
  processed : ∀ clock db, (handler clock db).getD db = (edit clock).elim db db.apply
  keyed : ∀ clock written, edit clock = some written → written.rowKey = key id
  alike : ∀ clock other, Option.Rel Edit.Alike (edit clock) (edit other)

variable {handler : Clock → Db → Option Db} {key : String → RowKey} {id : String}

theorem decodes_idle (idle : ∀ clock db, (handler clock db).getD db = db) :
    ∃ edit, Decodes handler key id edit :=
  ⟨fun _ => none, ⟨idle, fun _ _ written => (nomatch written), fun _ _ => .none⟩⟩

theorem decodes_edit (written : Edit) (keyed : written.rowKey = key id)
    (does : ∀ clock db, (handler clock db).getD db = db.apply written) :
    ∃ edit, Decodes handler key id edit :=
  ⟨fun _ => some written, ⟨does, fun _ other same => by rw [← Option.some.inj same, keyed],
    fun _ _ => .some written.alike_refl⟩⟩

/-- A conversion or a column that throws leaves the tables as they are. -/
theorem decodes_bind {Value : Type} {value : Option Value}
    {handler : Value → Clock → Db → Option Db}
    (each : ∀ converted, value = some converted → ∃ edit, Decodes (handler converted) key id edit) :
    ∃ edit, Decodes (fun clock db => value.bind fun converted => handler converted clock db)
      key id edit := by
  cases found : value with
  | none => exact decodes_idle fun _ _ => rfl
  | some converted => exact each converted found

theorem msActv_decodes (data : List JsValue) :
    ∃ edit, Decodes (fun _ db => handleMsActv db data) .multisigProposal
      (item data 0).toText edit := by
  refine decodes_bind fun proposalId stores => ?_
  refine decodes_edit (.multisigProposal proposalId .activate)
    (by rw [Edit.rowKey, textColumn_some stores]) fun clock db => ?_
  refine congrArg (fun table => { db with multisigProposal := table })
    (updateMany_eq_put ProposalWrite.create ProposalWrite.update .activate rfl fun row => ?_)
  cases row with
  | mk _ _ _ _ _ _ finalized => cases finalized <;> rfl

theorem attReq_decodes (party : String) (data : List JsValue) :
    ∃ edit, Decodes (fun _ db => handleAttReq db party data) .attestationRequest
      (item data 0).toText edit := by
  refine decodes_bind fun requestId stores => ?_
  refine decodes_bind fun issuer _ => ?_
  refine decodes_bind fun claimType _ => ?_
  refine decodes_bind fun requestedAt _ => ?_
  refine decodes_bind fun requestedAt _ => ?_
  refine decodes_bind fun expiresAt _ => ?_
  refine decodes_bind fun expiresAt _ => ?_
  refine decodes_bind fun subject _ => ?_
  refine decodes_edit (.attestationRequest requestId (.file
    { subject := subject, issuer := issuer, claimType := claimType, requestedAt := requestedAt,
      expiresAt := expiresAt, status := .pending, fulfillmentId := none,
      rejectionReason := none })) (by rw [Edit.rowKey, textColumn_some stores]) fun clock db => ?_
  exact congrArg (fun table => { db with attestationRequest := table })
    (upsert_eq_put RequestWrite.create RequestWrite.update (.file _) rfl fun _ => rfl)

theorem reqFul_decodes (data : List JsValue) :
    ∃ edit, Decodes (fun _ db => handleReqFul db data) .attestationRequest
      (item data 0).toText edit := by
  refine decodes_bind fun requestId stores => ?_
  refine decodes_bind fun attestationId _ => ?_
  refine decodes_edit (.attestationRequest requestId (.fulfil attestationId))
    (by rw [Edit.rowKey, textColumn_some stores]) fun clock db => ?_
  refine congrArg (fun table => { db with attestationRequest := table })
    (updateMany_eq_put RequestWrite.create RequestWrite.update (.fulfil _) rfl fun row => ?_)
  simp [RequestWrite.update]

theorem reqRej_decodes (data : List JsValue) :
    ∃ edit, Decodes (fun _ db => handleReqRej db data) .attestationRequest
      (item data 0).toText edit := by
  refine decodes_bind fun requestId stores => ?_
  refine decodes_bind fun reason _ => ?_
  refine decodes_edit (.attestationRequest requestId (.reject reason))
    (by rw [Edit.rowKey, textColumn_some stores]) fun clock db => ?_
  refine congrArg (fun table => { db with attestationRequest := table })
    (updateMany_eq_put RequestWrite.create RequestWrite.update (.reject _) rfl fun row => ?_)
  simp [RequestWrite.update]

theorem revoked_decodes (data : List JsValue) :
    ∃ edit, Decodes (fun _ db => handleRevoked db data) .attestation
      (item data 0).toText edit := by
  refine decodes_bind fun id stores => ?_
  refine decodes_edit (.attestation id .revoke)
    (by rw [Edit.rowKey, textColumn_some stores]) fun clock db => ?_
  refine congrArg (fun table => { db with attestation := table })
    (updateMany_eq_put AttestationWrite.create AttestationWrite.update .revoke rfl fun row => ?_)
  rfl

theorem issReg_decodes (data : List JsValue) :
    ∃ edit, Decodes (fun _ db => handleIssReg db data) .issuer (item data 0).toText edit := by
  refine decodes_bind fun address stores => ?_
  refine decodes_bind fun name _ => ?_
  refine decodes_bind fun url _ => ?_
  refine decodes_bind fun description _ => ?_
  refine decodes_edit (.issuer address (.register name url description))
    (by rw [Edit.rowKey, textColumn_some stores]) fun clock db => ?_
  exact congrArg (fun table => { db with issuer := table })
    (upsert_eq_put IssuerWrite.create IssuerWrite.update (.register _ _ _) rfl fun _ => rfl)

theorem issuerTierUpdated_decodes (data : List JsValue) :
    ∃ edit, Decodes (fun _ db => handleIssuerTierUpdated db data) .issuer
      (item data 0).toText edit := by
  refine decodes_bind fun address stores => ?_
  refine decodes_bind fun tier _ => ?_
  refine decodes_edit (.issuer address (.retier tier))
    (by rw [Edit.rowKey, textColumn_some stores]) fun clock db => ?_
  rw [Db.apply, ← update_eq_put IssuerWrite.create IssuerWrite.update (.retier tier) rfl fun _ => rfl]
  cases found : db.issuer.update address fun row => { row with tier := tier } with
  | none => simp [found, IssuerWrite.update]
  | some issuer => simp [found, IssuerWrite.update]

theorem attestation_decodes (kind : Watched) (party : String) (data : List JsValue) :
    ∃ edit, Decodes (fun _ db => handleAttestation db kind party data) .attestation
      (item data 0).toText edit := by
  refine decodes_bind fun timestamp _ => ?_
  refine decodes_bind fun timestamp _ => ?_
  refine decodes_bind fun extra _ => ?_
  refine decodes_bind fun subject _ => ?_
  refine decodes_bind fun id stores => ?_
  refine decodes_bind fun issuer _ => ?_
  refine decodes_bind fun claimType _ => ?_
  refine decodes_edit (.attestation id (.upsert
    { issuer := issuer, subject := subject, claimType := claimType, timestamp := timestamp,
      expiration := none, isRevoked := false, metadata := none, imported := kind = .imported,
      bridged := kind = .bridged, sourceChain := none, sourceTx := none } extra))
    (by rw [Edit.rowKey, rawText_some stores]) fun clock db => ?_
  exact congrArg (fun table => { db with attestation := table })
    (upsert_eq_put AttestationWrite.create AttestationWrite.update (.upsert _ extra) rfl fun _ => rfl)

variable [JsRuntime]

theorem msProp_decodes (party : String) (data : List JsValue) :
    ∃ edit, Decodes (fun clock db => handleMsProp db clock party data) .multisigProposal
      (item data 0).toText edit := by
  refine decodes_bind fun proposalId stores => ?_
  refine decodes_bind fun proposer _ => ?_
  refine decodes_bind fun threshold _ => ?_
  refine decodes_bind fun threshold _ => ?_
  refine decodes_bind fun subject _ => ?_
  refine ⟨fun clock => some (.multisigProposal proposalId (.propose
    { subject := subject, proposer := proposer, claimType := "", threshold := threshold,
      signers := [proposer], signatureCount := 1, finalized := false,
      expiresAt := proposalExpiry clock })), ?_, ?_, ?_⟩
  · intro clock db
    rw [expiry_fits]
    exact congrArg (fun table => { db with multisigProposal := table })
      (upsert_eq_put ProposalWrite.create ProposalWrite.update (.propose _) rfl fun _ => rfl)
  · intro clock written same
    rw [← Option.some.inj same, Edit.rowKey, textColumn_some stores]
  · exact fun _ _ => .some ⟨rfl, ProposalWrite.alike_propose _ _⟩

theorem msSign_decodes (party : String) (data : List JsValue) :
    ∃ edit, Decodes (fun _ db => handleMsSign db party data) .multisigProposal
      (item data 0).toText edit := by
  refine decodes_bind fun proposalId stores => ?_
  let count := do
    let _ ← textColumn party
    let signatureCount ← (item data 1).toNumber
    intColumn signatureCount
  refine decodes_edit (.multisigProposal proposalId (.sign count party))
    (by rw [Edit.rowKey, textColumn_some stores]) fun clock db => ?_
  cases found : db.multisigProposal proposalId with
  | none =>
      have silent : putRow ProposalWrite.create ProposalWrite.update db.multisigProposal
          proposalId (.sign count party) = db.multisigProposal := by
        rw [putRow, found, ← Function.update_eq_self proposalId db.multisigProposal, found]
        simp [put, ProposalWrite.create]
      rw [Db.apply, silent]
      rfl
  | some existing =>
      have writes : putRow ProposalWrite.create ProposalWrite.update db.multisigProposal
          proposalId (.sign count party) = Function.update db.multisigProposal proposalId
            (some (ProposalWrite.update existing (.sign count party))) := by
        rw [putRow, found]
        rfl
      rw [Db.apply, writes]
      cases text : textColumn party with
      | none => simp [count, text, ProposalWrite.update, ← found]
      | some signer =>
          cases converts : (item data 1).toNumber with
          | none => simp [count, text, converts, ProposalWrite.update, ← found]
          | some number =>
              cases fits : intColumn number with
              | none => simp [count, text, converts, fits, ProposalWrite.update, ← found]
              | some signatureCount =>
                  simp [count, text, converts, fits, ProposalWrite.update, Table.update, found,
                    insertSigner]

/-- Processing an event is one write to the row the event is about, or nothing. -/
structure Writes (ev : EventResponse) (edit : Clock → Option Edit) : Prop where
  processed : ∀ clock db, processEvent db (clock, ev) = (edit clock).elim db db.apply
  keyed : ∀ clock written, edit clock = some written → ev.rowKey? = some written.rowKey
  alike : ∀ clock other, Option.Rel Edit.Alike (edit clock) (edit other)

theorem writes_of_decodes {ev : EventResponse} {kind : Watched} {data : List JsValue}
    (watches : ev.watched? = some kind) (carries : ev.data? = some data)
    (decodes : ∃ edit, Decodes (fun clock db => handleKind db clock ev.party data kind)
      kind.rowKey (item data 0).toText edit) : ∃ edit, Writes ev edit := by
  obtain ⟨edit, decodes⟩ := decodes
  refine ⟨edit, fun clock db => ?_, fun clock written found => ?_, decodes.alike⟩
  · rw [← decodes.processed, processEvent, handleEvent, watches]
    simp only [carries]
    rfl
  · rw [decodes.keyed clock written found, EventResponse.rowKey?, watches, carries]
    rfl

theorem kind_decodes (party : String) (data : List JsValue) (kind : Watched) :
    ∃ edit, Decodes (fun clock db => handleKind db clock party data kind)
      kind.rowKey (item data 0).toText edit := by
  cases kind with
  | created => exact attestation_decodes .created party data
  | imported => exact attestation_decodes .imported party data
  | bridged => exact attestation_decodes .bridged party data
  | revoked => exact revoked_decodes data
  | msProp => exact msProp_decodes party data
  | msSign => exact msSign_decodes party data
  | msActv => exact msActv_decodes data
  | issReg => exact issReg_decodes data
  | issuerTierUpdated => exact issuerTierUpdated_decodes data
  | attReq => exact attReq_decodes party data
  | reqFul => exact reqFul_decodes data
  | reqRej => exact reqRej_decodes data

theorem writes_idle {ev : EventResponse}
    (idle : ∀ clock db, processEvent db (clock, ev) = db) : ∃ edit, Writes ev edit :=
  ⟨fun _ => none, ⟨idle, fun _ _ written => (nomatch written), fun _ _ => .none⟩⟩

theorem event_writes (ev : EventResponse) : ∃ edit, Writes ev edit := by
  cases watches : ev.watched? with
  | none =>
      refine writes_idle fun clock db => ?_
      rw [processEvent, handleEvent, watches]
      rfl
  | some kind =>
      cases carries : ev.data? with
      | none =>
          refine writes_idle fun clock db => ?_
          rw [processEvent, handleEvent, watches]
          simp only [carries]
          rfl
      | some data => exact writes_of_decodes watches carries (kind_decodes ev.party data kind)

end Decoding

section Replaying
variable [JsRuntime]

/-- An event that creates a row: in an empty database it does. -/
def Creates (ev : EventResponse) (row : RowKey) : Prop :=
  ∃ clock, (processEvent Db.empty (clock, ev)).has row

/-- In the log, the event that creates a row stands before the others on the same id. -/
def CreationFirst (log : List EventResponse) : Prop :=
  ∀ early ev late row, log = early ++ ev :: late → ev.rowKey? = some row → ¬ Creates ev row →
    (∃ later ∈ late, Creates later row) → ∃ earlier ∈ early, Creates earlier row

noncomputable def editOf (handled : Clock × EventResponse) : Option Edit :=
  (event_writes handled.2).choose handled.1

theorem processEvent_eq (db : Db) (handled : Clock × EventResponse) :
    processEvent db handled = (editOf handled).elim db db.apply :=
  (event_writes handled.2).choose_spec.processed handled.1 db

omit [JsRuntime] in
theorem has_apply_empty (edit : Edit) (row : RowKey) :
    (Db.empty.apply edit).has row ↔ edit.rowKey = row ∧ edit.creates = true := by
  have place : ∀ {Row Write : Type} (create : Write → Option Row) (update : Row → Write → Row)
      (id key : String) (write : Write),
      (putRow create update (fun _ => none) id write key).isSome = true ↔
        id = key ∧ (create write).isSome = true := by
    intro Row Write create update id key write
    by_cases same : id = key
    · subst same
      simp [putRow, put]
    · simp [putRow, same, Function.update_of_ne (Ne.symm same)]
  cases edit <;> cases row <;>
    simp [Db.apply, Db.has, Edit.rowKey, Edit.creates, Db.empty, place]

theorem creates_iff (clock : Clock) (ev : EventResponse) (row : RowKey) :
    Creates ev row ↔
      ∃ edit, editOf (clock, ev) = some edit ∧ edit.rowKey = row ∧ edit.creates = true := by
  have alike := (event_writes ev).choose_spec.alike
  have written : ∀ clock, (processEvent Db.empty (clock, ev)).has row ↔
      ∃ edit, editOf (clock, ev) = some edit ∧ edit.rowKey = row ∧ edit.creates = true := by
    intro clock
    rw [processEvent_eq]
    cases editOf (clock, ev) with
    | none => cases row <;> simp [Db.has, Db.empty]
    | some edit => simp [has_apply_empty]
  constructor
  · rintro ⟨other, has⟩
    obtain ⟨edit, found, keyed, creates⟩ := (written other).mp has
    have related : Option.Rel Edit.Alike (editOf (other, ev)) (editOf (clock, ev)) :=
      alike other clock
    rw [found] at related
    cases decoded : editOf (clock, ev) with
    | none => rw [decoded] at related; cases related
    | some second =>
        rw [decoded] at related
        cases related with
        | some related => exact ⟨second, rfl, related.keeps.1 ▸ keyed, related.keeps.2 ▸ creates⟩
  · exact fun decoded => ⟨clock, (written clock).mpr decoded⟩

theorem row_of_edit {handled : Clock × EventResponse} {edit : Edit}
    (found : editOf handled = some edit) : handled.2.rowKey? = some edit.rowKey :=
  (event_writes handled.2).choose_spec.keyed handled.1 edit found

end Replaying

section Views

/-- One of the four tables: its place in the database and the edits that go to it. -/
structure TableView (Row Write : Type) where
  table : Db → Table Row
  create : Write → Option Row
  update : Row → Write → Row
  rowKey : String → RowKey
  writeOf : Edit → Option (String × Write)
  applied : ∀ db edit, table (db.apply edit) = edited create update writeOf (table db) edit
  addressed : ∀ edit id, edit.rowKey = rowKey id ↔ ∃ write, writeOf edit = some (id, write)
  created : ∀ edit id write, writeOf edit = some (id, write) →
    edit.creates = (create write).isSome
  alike : ∀ edit other, edit.Alike other → Option.Rel
    (fun first second => first.1 = second.1 ∧ Replay.Alike create update first.2 second.2)
    (writeOf edit) (writeOf other)
  replayable : Replayable update
  fresh : ∀ write row, create write = some row → update row write = row

variable [JsRuntime] {Row Write : Type} (view : TableView Row Write)

/-- What a handled event writes to the table. -/
noncomputable def TableView.editAt (handled : Clock × EventResponse) : Option (String × Write) :=
  (editOf handled).bind view.writeOf

theorem TableView.run_processEvent (db : Db) (log : List (Clock × EventResponse)) :
    view.table (run processEvent db log) =
      run (edited view.create view.update view.editAt) (view.table db) log := by
  apply run_image
  intro db handled
  rw [processEvent_eq, edited, TableView.editAt]
  cases editOf handled with
  | none => rfl
  | some edit => exact view.applied db edit

theorem TableView.some_writeAt {handled : Clock × EventResponse} {id : String} {write : Write}
    (written : some write = writeAt view.editAt id handled) :
    ∃ edit, editOf handled = some edit ∧ view.writeOf edit = some (id, write) := by
  unfold writeAt TableView.editAt at written
  cases found : editOf handled with
  | none => simp [found] at written
  | some edit =>
      refine ⟨edit, rfl, ?_⟩
      cases writes : view.writeOf edit with
      | none => simp [found, writes] at written
      | some pair =>
          obtain ⟨other, written'⟩ := pair
          simp only [found, Option.bind_some, writes] at written
          split at written
          · rename_i same
            rw [same, Option.some.inj written]
          · cases written

theorem TableView.creates_iff_write {handled : Clock × EventResponse} {id : String} :
    Creates handled.2 (view.rowKey id) ↔
      ∃ write, writeAt view.editAt id handled = some write ∧ (view.create write).isSome := by
  rw [creates_iff handled.1]
  constructor
  · rintro ⟨edit, found, keyed, creates⟩
    obtain ⟨write, writes⟩ := (view.addressed edit id).mp keyed
    refine ⟨write, ?_, view.created edit id write writes ▸ creates⟩
    simp [writeAt, TableView.editAt, found, writes]
  · rintro ⟨write, written, creates⟩
    obtain ⟨edit, found, writes⟩ := view.some_writeAt written.symm
    exact ⟨edit, found, (view.addressed edit id).mpr ⟨write, writes⟩,
      (view.created edit id write writes).trans creates⟩

theorem TableView.createdFirst {log : List (Clock × EventResponse)}
    (first : CreationFirst (log.map Prod.snd)) (id : String) :
    CreatedFirst view.create (log.map (writeAt view.editAt id)) := by
  intro early write late split silent later
  obtain ⟨before, rest, log_eq, rfl, restWrites⟩ := List.map_eq_append_iff.mp split
  obtain ⟨handled, after, rfl, here, rfl⟩ := List.map_eq_cons_iff.mp restWrites
  obtain ⟨edit, found, writes⟩ := view.some_writeAt here.symm
  have keyed : edit.rowKey = view.rowKey id := (view.addressed edit id).mpr ⟨write, writes⟩
  have silentHere : ¬ Creates handled.2 (view.rowKey id) := by
    rw [view.creates_iff_write]
    rintro ⟨other, same, creates⟩
    rw [here] at same
    rw [← Option.some.inj same, silent] at creates
    cases creates
  obtain ⟨laterWrite, member, creates⟩ := later
  obtain ⟨laterHandled, there, laterHere⟩ := List.mem_map.mp member
  obtain ⟨earlierEv, earlierMember, earlierCreates⟩ :=
    first (before.map Prod.snd) handled.2 (after.map Prod.snd) (view.rowKey id)
      (by rw [log_eq]; simp) (by rw [row_of_edit found, keyed]) silentHere
      ⟨laterHandled.2, List.mem_map_of_mem there,
        view.creates_iff_write.mpr ⟨laterWrite, laterHere, creates⟩⟩
  obtain ⟨earlier, memberEarlier, rfl⟩ := List.mem_map.mp earlierMember
  obtain ⟨earlierWrite, earlierHere, earlierCreated⟩ := view.creates_iff_write.mp earlierCreates
  exact ⟨earlierWrite, List.mem_map.mpr ⟨earlier, memberEarlier, earlierHere⟩, earlierCreated⟩

theorem TableView.replay {early late again : List (Clock × EventResponse)}
    (same : again.map Prod.snd = late.map Prod.snd)
    (first : CreationFirst ((early ++ late).map Prod.snd)) (db : Db) :
    view.table (run processEvent (run processEvent db (early ++ late)) again) =
      view.table (run processEvent db (early ++ late)) := by
  rw [view.run_processEvent, view.run_processEvent]
  refine replay_table view.replayable view.fresh ?_ (view.createdFirst first) (view.table db)
  have paired : List.Forall₂ (fun first second : Clock × EventResponse => first.2 = second.2)
      late again := by
    have events : List.Forall₂ Eq (late.map Prod.snd) (again.map Prod.snd) :=
      List.forall₂_eq_eq_eq ▸ same.symm
    simpa using events
  refine paired.imp fun handled other sameEvent => ?_
  obtain ⟨clock, ev⟩ := handled
  obtain ⟨clock', ev'⟩ := other
  cases sameEvent
  have related : Option.Rel Edit.Alike (editOf (clock, ev)) (editOf (clock', ev)) :=
    (event_writes ev).choose_spec.alike clock clock'
  unfold TableView.editAt
  generalize editOf (clock, ev) = edit at related ⊢
  generalize editOf (clock', ev) = edit' at related ⊢
  cases related with
  | none => exact .none
  | some related => exact view.alike _ _ related

end Views

theorem writes_alike {Row Write : Type} (create : Write → Option Row) (update : Row → Write → Row)
    (written : Option (String × Write)) : Option.Rel
      (fun first second => first.1 = second.1 ∧ Replay.Alike create update first.2 second.2)
      written written := by
  cases written with
  | none => exact .none
  | some written => exact .some ⟨rfl, fun _ => rfl, Iff.rfl⟩

def attestationView : TableView AttestationRow AttestationWrite where
  table := Db.attestation
  create := AttestationWrite.create
  update := AttestationWrite.update
  rowKey := .attestation
  writeOf
    | .attestation id write => some (id, write)
    | _ => none
  applied db edit := by cases edit <;> rfl
  addressed edit id := by cases edit <;> simp [Edit.rowKey]
  created edit id write writes := by cases edit <;> simp_all [Edit.creates]
  alike edit other alike := by
    cases edit with
    | multisigProposal id write =>
        cases other with
        | multisigProposal id' write' => exact .none
        | _ => cases alike
    | _ => cases alike; exact writes_alike _ _ _
  replayable := AttestationWrite.replayable
  fresh := AttestationWrite.update_create

def multisigProposalView : TableView MultisigProposalRow ProposalWrite where
  table := Db.multisigProposal
  create := ProposalWrite.create
  update := ProposalWrite.update
  rowKey := .multisigProposal
  writeOf
    | .multisigProposal id write => some (id, write)
    | _ => none
  applied db edit := by cases edit <;> rfl
  addressed edit id := by cases edit <;> simp [Edit.rowKey]
  created edit id write writes := by cases edit <;> simp_all [Edit.creates]
  alike edit other alike := by
    cases edit with
    | multisigProposal id write =>
        cases other with
        | multisigProposal id' write' => exact .some alike
        | _ => cases alike
    | _ => cases alike; exact .none
  replayable := ProposalWrite.replayable
  fresh := ProposalWrite.update_create

def attestationRequestView : TableView AttestationRequestRow RequestWrite where
  table := Db.attestationRequest
  create := RequestWrite.create
  update := RequestWrite.update
  rowKey := .attestationRequest
  writeOf
    | .attestationRequest id write => some (id, write)
    | _ => none
  applied db edit := by cases edit <;> rfl
  addressed edit id := by cases edit <;> simp [Edit.rowKey]
  created edit id write writes := by cases edit <;> simp_all [Edit.creates]
  alike edit other alike := by
    cases edit with
    | multisigProposal id write =>
        cases other with
        | multisigProposal id' write' => exact .none
        | _ => cases alike
    | _ => cases alike; exact writes_alike _ _ _
  replayable := RequestWrite.replayable
  fresh := RequestWrite.update_create

def issuerView : TableView IssuerRow IssuerWrite where
  table := Db.issuer
  create := IssuerWrite.create
  update := IssuerWrite.update
  rowKey := .issuer
  writeOf
    | .issuer id write => some (id, write)
    | _ => none
  applied db edit := by cases edit <;> rfl
  addressed edit id := by cases edit <;> simp [Edit.rowKey]
  created edit id write writes := by cases edit <;> simp_all [Edit.creates]
  alike edit other alike := by
    cases edit with
    | multisigProposal id write =>
        cases other with
        | multisigProposal id' write' => exact .none
        | _ => cases alike
    | _ => cases alike; exact writes_alike _ _ _
  replayable := IssuerWrite.replayable
  fresh := IssuerWrite.update_create

/-- Processing the end of a log a second time leaves the four tables as they are. The
clock may show another time when it does. -/
theorem reindex_idempotent [JsRuntime] (db : Db) (early late again : List (Clock × EventResponse))
    (same : again.map Prod.snd = late.map Prod.snd)
    (first : CreationFirst ((early ++ late).map Prod.snd)) :
    run processEvent (run processEvent db (early ++ late)) again =
      run processEvent db (early ++ late) := by
  have attestation := attestationView.replay same first db
  have multisigProposal := multisigProposalView.replay same first db
  have attestationRequest := attestationRequestView.replay same first db
  have issuer := issuerView.replay same first db
  generalize run processEvent db (early ++ late) = once at *
  generalize run processEvent once again = twice at *
  cases once
  cases twice
  simp only [attestationView, multisigProposalView, attestationRequestView, issuerView] at *
  subst attestation multisigProposal attestationRequest issuer
  rfl

theorem creationFirst_cons [JsRuntime] {ev : EventResponse} {rest : List EventResponse}
    {row : RowKey} (creates : Creates ev row) (about : ∀ event ∈ ev :: rest, event.rowKey? = some row) :
    CreationFirst (ev :: rest) := by
  intro early event late other split keyed silent _
  have member : event ∈ ev :: rest := by rw [split]; simp
  have same : row = other := Option.some.inj ((about event member).symm.trans keyed)
  subst same
  cases early with
  | nil =>
      obtain ⟨rfl, -⟩ := List.cons.inj split
      exact absurd creates silent
  | cons first before =>
      obtain ⟨rfl, -⟩ := List.cons.inj split
      exact ⟨ev, by simp, creates⟩

section Replayed

local instance decimalRuntime : JsRuntime := ⟨String.toInt?⟩

def midnight : Clock := ⟨0, epoch.inRange⟩

def proposedEvent : EventResponse :=
  ⟨[.string "ms_prop", .string "S"], .array [.string "p", .string "A", .number 2]⟩

def signedEvent : EventResponse :=
  ⟨[.string "ms_sign", .string "B"], .array [.string "p", .number 2, .number 2]⟩

def activatedEvent : EventResponse :=
  ⟨[.string "ms_actv"], .array [.string "p", .string "a"]⟩

/-- A proposal is made, signed by a second party and activated; the last two events are
handled again. -/
theorem reindex_idempotent_proposal :
    let once := run processEvent Db.empty
      [(midnight, proposedEvent), (midnight, signedEvent), (midnight, activatedEvent)]
    run processEvent once [(midnight, signedEvent), (midnight, activatedEvent)] = once := by
  have creates : Creates proposedEvent (.multisigProposal "p") := by
    refine ⟨midnight, ?_⟩
    show ((processEvent Db.empty (midnight, proposedEvent)).multisigProposal "p").isSome = true
    decide
  have about : ∀ event ∈ [proposedEvent, signedEvent, activatedEvent],
      event.rowKey? = some (.multisigProposal "p") := by
    intro event member
    simp only [List.mem_cons, List.not_mem_nil, or_false] at member
    rcases member with rfl | rfl | rfl <;> decide
  exact reindex_idempotent Db.empty [(midnight, proposedEvent)]
    [(midnight, signedEvent), (midnight, activatedEvent)]
    [(midnight, signedEvent), (midnight, activatedEvent)] rfl (creationFirst_cons creates about)

end Replayed

end TrustLink.Indexer
