import TrustLink.Administration
import TrustLink.Issuance
import TrustLink.Lifecycle
import TrustLink.Register
import TrustLink.Workflows

/-!
Frame conditions of the operations: which parts of the world an accepted call
of each group leaves alone.
-/
namespace TrustLink
open Transaction Contract

section Administration
variable {Address : Type} [DecidableEq Address] {env : Env Address} {before after : World Address}

/-- A call left the register, its chunked indexes, the multi-sig proposals and
the announcements alone. -/
structure Untouched (before after : World Address) : Prop where
  register : after.storage.register = before.storage.register
  subjectChunk : after.storage.subjectAttestationChunk = before.storage.subjectAttestationChunk
  issuerChunk : after.storage.issuerAttestationChunk = before.storage.issuerAttestationChunk
  multisigProposal : after.storage.multisigProposal = before.storage.multisigProposal
  announced : after.announced = before.announced

omit [DecidableEq Address] in
theorem untouched_iff :
    Untouched before after ↔
      after.storage.register = before.storage.register ∧
        after.storage.subjectAttestationChunk = before.storage.subjectAttestationChunk ∧
        after.storage.issuerAttestationChunk = before.storage.issuerAttestationChunk ∧
        after.storage.multisigProposal = before.storage.multisigProposal ∧
        after.announced = before.announced :=
  ⟨fun kept => ⟨kept.1, kept.2, kept.3, kept.4, kept.5⟩,
    fun kept => ⟨kept.1, kept.2.1, kept.2.2.1, kept.2.2.2.1, kept.2.2.2.2⟩⟩

/-- A call left the counters of attestations, the logs, the requests and the times of
the last issuance alone. -/
structure Unrecorded (before after : World Address) : Prop where
  totalAttestations :
    after.storage.globalStats.totalAttestations = before.storage.globalStats.totalAttestations
  totalRevocations :
    after.storage.globalStats.totalRevocations = before.storage.globalStats.totalRevocations
  issuerStats : after.storage.issuerStats = before.storage.issuerStats
  auditLog : after.storage.auditLog = before.storage.auditLog
  request : after.storage.request = before.storage.request
  pendingRequests : after.storage.pendingRequests = before.storage.pendingRequests
  lastIssuanceTime : after.storage.lastIssuanceTime = before.storage.lastIssuanceTime

omit [DecidableEq Address] in
theorem unrecorded_iff :
    Unrecorded before after ↔
      after.storage.globalStats.totalAttestations =
          before.storage.globalStats.totalAttestations ∧
        after.storage.globalStats.totalRevocations =
          before.storage.globalStats.totalRevocations ∧
        after.storage.issuerStats = before.storage.issuerStats ∧
        after.storage.auditLog = before.storage.auditLog ∧
        after.storage.request = before.storage.request ∧
        after.storage.pendingRequests = before.storage.pendingRequests ∧
        after.storage.lastIssuanceTime = before.storage.lastIssuanceTime :=
  ⟨fun kept => ⟨kept.1, kept.2, kept.3, kept.4, kept.5, kept.6, kept.7⟩,
    fun kept => ⟨kept.1, kept.2.1, kept.2.2.1, kept.2.2.2.1, kept.2.2.2.2.1, kept.2.2.2.2.2.1,
      kept.2.2.2.2.2.2⟩⟩

/-- The council operations change nothing but the council and the hand-over. -/
theorem CouncilOp.keeps (op : CouncilOp Address) (accepted : Returns op.exec env before () after) :
    Untouched before after ∧ Unrecorded before after ∧
      after.storage.limits = before.storage.limits := by
  obtain ⟨storage, written, left⟩ := op.leaves accepted
  rw [untouched_iff, unrecorded_iff, left.storage]
  cases written <;>
    exact ⟨⟨rfl, rfl, rfl, rfl, left.announced⟩, ⟨rfl, rfl, rfl, rfl, rfl, rfl, rfl⟩, rfl⟩

theorem CouncilOp.untouched (op : CouncilOp Address)
    (accepted : Returns op.exec env before () after) : Untouched before after :=
  (op.keeps accepted).1

/-- An administrative call also leaves the council and the pending hand-over alone. -/
structure Administers (before after : World Address) : Prop extends Untouched before after where
  adminCouncil : after.storage.adminCouncil = before.storage.adminCouncil
  pendingAdminTransfer : after.storage.pendingAdminTransfer = before.storage.pendingAdminTransfer

omit [DecidableEq Address] in
theorem administers_iff :
    Administers before after ↔
      Untouched before after ∧ after.storage.adminCouncil = before.storage.adminCouncil ∧
        after.storage.pendingAdminTransfer = before.storage.pendingAdminTransfer :=
  ⟨fun kept => ⟨kept.toUntouched, kept.2, kept.3⟩, fun kept => ⟨kept.1, kept.2.1, kept.2.2⟩⟩

/-- Nothing but the registries and the configuration has changed. -/
structure Configures (before after : World Address) : Prop
    extends Administers before after, Unrecorded before after

omit [DecidableEq Address] in
theorem configures_iff :
    Configures before after ↔ Administers before after ∧ Unrecorded before after :=
  ⟨fun kept => ⟨kept.toAdministers, kept.toUnrecorded⟩, fun kept => ⟨kept.1, kept.2⟩⟩

/-- The rest of the administration; only `set_limits` changes the limits. -/
theorem AdminOp.keeps (op : AdminOp Address) (accepted : Returns op.exec env before () after) :
    Configures before after ∧
      ((∀ admin perIssuer perSubject, op ≠ .setLimits admin perIssuer perSubject) →
        after.storage.limits = before.storage.limits) := by
  obtain ⟨storage, written, left⟩ := op.leaves accepted
  rw [configures_iff, administers_iff, untouched_iff, unrecorded_iff, left.storage]
  cases written with
  | setLimits admin perIssuer perSubject =>
      exact ⟨⟨⟨⟨rfl, rfl, rfl, rfl, left.announced⟩, rfl, rfl⟩, rfl, rfl, rfl, rfl, rfl, rfl, rfl⟩,
        fun other => absurd rfl (other admin perIssuer perSubject)⟩
  | _ =>
      exact ⟨⟨⟨⟨rfl, rfl, rfl, rfl, left.announced⟩, rfl, rfl⟩, rfl, rfl, rfl, rfl, rfl, rfl, rfl⟩,
        fun _ => rfl⟩

theorem AdminOp.administers (op : AdminOp Address)
    (accepted : Returns op.exec env before () after) : Administers before after :=
  (op.keeps accepted).1.toAdministers

end Administration

section Books
variable {Address : Type}

/-- The fields in which the contract keeps the records: the register with its chunked indexes,
counters, logs and times of issuance. -/
structure Books (Address : Type) where
  attestation : Str → Option (Attestation Address)
  subjectAttestations : Address → List Str
  validAttestations : Address → List Str
  issuerAttestations : Address → List Str
  subjectAttestationChunk : Address → Nat → Option (List Str)
  issuerAttestationChunk : Address → Nat → Option (List Str)
  issuerStats : Address → IssuerStats
  totalAttestations : Nat
  totalRevocations : Nat
  auditLog : Str → List (AuditEntry Address)
  lastIssuanceTime : Address → Option Nat

def Storage.books (storage : Storage Address) : Books Address where
  attestation := storage.attestation
  subjectAttestations := storage.subjectAttestations
  validAttestations := storage.validAttestations
  issuerAttestations := storage.issuerAttestations
  subjectAttestationChunk := storage.subjectAttestationChunk
  issuerAttestationChunk := storage.issuerAttestationChunk
  issuerStats := storage.issuerStats
  totalAttestations := storage.globalStats.totalAttestations
  totalRevocations := storage.globalStats.totalRevocations
  auditLog := storage.auditLog
  lastIssuanceTime := storage.lastIssuanceTime

def Storage.withBooks (storage : Storage Address) (books : Books Address) : Storage Address :=
  { storage with
    attestation := books.attestation
    subjectAttestations := books.subjectAttestations
    validAttestations := books.validAttestations
    issuerAttestations := books.issuerAttestations
    subjectAttestationChunk := books.subjectAttestationChunk
    issuerAttestationChunk := books.issuerAttestationChunk
    issuerStats := books.issuerStats
    globalStats := { storage.globalStats with
      totalAttestations := books.totalAttestations
      totalRevocations := books.totalRevocations }
    auditLog := books.auditLog
    lastIssuanceTime := books.lastIssuanceTime }

/-- Only the books have changed. -/
def Booked (before after : Storage Address) : Prop := after = before.withBooks after.books

theorem Booked.refl (storage : Storage Address) : Booked storage storage := rfl

theorem Booked.trans {first second third : Storage Address} (early : Booked first second)
    (late : Booked second third) : Booked first third := by
  rw [Booked] at late
  rw [Booked, late, early]
  rfl

/-- What lies outside of the books keeps its value. -/
theorem Booked.kept {Part : Type} {before after : Storage Address} (booked : Booked before after)
    (part : Storage Address → Part)
    (aside : ∀ storage books, part (storage.withBooks books) = part storage) :
    part after = part before := by
  rw [Booked] at booked
  rw [booked, aside]

theorem booked_run {Item : Type} {write : Storage Address → Item → Storage Address}
    (booked : ∀ storage item, Booked storage (write storage item)) (storage : Storage Address)
    (items : List Item) : Booked storage (Trace.run write storage items) :=
  Trace.related_of_each Booked Booked.refl Booked.trans (fun storage item _ => booked storage item)
    (Trace.each_of_forall storage fun _ _ _ => trivial)

end Books

section Issuance
variable {Address : Type} [DecidableEq Address] [Host Address] {env : Env Address}
  {before after : World Address}

/-- The record of a direct issuance. -/
def nativeRecord (issuer subject : Address) (claimType : Str) (timestamp : Nat) :
    Attestation Address :=
  Attestation.issued (Attestation.generateId issuer subject claimType timestamp) issuer subject
    claimType timestamp .native

/-- The record of an operation that issues exactly one. -/
def AttestationOp.issued? (now : Nat) : AttestationOp Address → Option (Attestation Address)
  | .createAttestation issuer subject claimType expiration metadata tags =>
      some { nativeRecord issuer subject claimType now with expiration, metadata, tags }
  | .createAttestationValidFrom issuer subject claimType expiration metadata tags validFrom =>
      some { nativeRecord issuer subject claimType now with
        expiration, metadata, tags, validFrom := some validFrom }
  | .createAttestationJurisdiction issuer subject claimType expiration metadata jurisdiction
      tags =>
      some { nativeRecord issuer subject claimType now with
        expiration, metadata, jurisdiction, tags }
  | .importAttestation _ issuer subject claimType timestamp expiration =>
      some { nativeRecord issuer subject claimType timestamp with origin := .imported, expiration }
  | .bridgeAttestation bridge subject claimType sourceChain sourceTx =>
      some { Attestation.issued
        (Attestation.generateBridgeId bridge subject claimType sourceChain sourceTx now) bridge
        subject claimType now .bridged with
          sourceChain := some sourceChain, sourceTx := some sourceTx }
  | .createAttestationAsDelegate _ delegator subject claimType expiration metadata =>
      some { nativeRecord delegator subject claimType now with expiration, metadata }
  | _ => none

/-- What an operation that issued one record found, and what it left. -/
structure IssuesOne (before after : World Address) (record : Attestation Address) : Prop where
  running : before.storage.paused = false
  registered : record.origin ≠ .bridged → before.storage.issuer record.issuer = true
  flags : record.revoked = false ∧ record.deleted = false
  named : NativeName record.id record.subject ∨ BridgeName record.id record.subject
  fresh : before.storage.attestation record.id = none
  fits : StoreFits before.storage record
  left : ∃ entry event times payments, entry.action = .created ∧
    Event.creation? event = some record ∧
    after = ⟨{ before.storage.withIssued record with
        auditLog := Function.update before.storage.auditLog record.id
          (before.storage.auditLog record.id ++ [entry])
        lastIssuanceTime := times }, before.events ++ [event], payments⟩

theorem issues_createAttestationInternal {issuer subject : Address} {claimType : Str}
    {expiration : Option Nat} {metadata jurisdiction : Option Str} {tags : Option (List Str)}
    {validFrom : Option Nat} {id : Str}
    (accepted : Returns (createAttestationInternal issuer subject claimType expiration metadata
      jurisdiction tags validFrom) env before id after) :
    IssuesOne before after { nativeRecord issuer subject claimType env.timestamp with
      expiration, metadata, jurisdiction, tags, validFrom } := by
  obtain ⟨checks, -, paid, -, rfl⟩ :=
    (returns_createAttestationInternal _ _ _ _ _ _ _ _ _ _ rfl).mp accepted
  exact ⟨checks.running, fun _ => checks.registered, ⟨rfl, rfl⟩, .inl ⟨_, _, _, rfl⟩,
    checks.fresh, checks.fits, _, _, _, _, rfl, rfl, rfl⟩

/-- The three forms of a direct issuance, an import, a bridge and an issuance by a
delegate leave one record each. -/
theorem AttestationOp.issues_one {op : AttestationOp Address} {record : Attestation Address}
    (accepted : Returns op.exec env before () after)
    (issued : op.issued? env.timestamp = some record) : IssuesOne before after record := by
  cases op with
  | createAttestation issuer subject claimType expiration metadata tags =>
      obtain ⟨id, accepted⟩ := (returns_void ..).mp accepted
      obtain rfl := Option.some.inj issued
      exact issues_createAttestationInternal accepted
  | createAttestationValidFrom issuer subject claimType expiration metadata tags validFrom =>
      obtain ⟨id, accepted⟩ := (returns_void ..).mp accepted
      obtain rfl := Option.some.inj issued
      exact issues_createAttestationInternal accepted
  | createAttestationJurisdiction issuer subject claimType expiration metadata jurisdiction tags =>
      obtain ⟨id, accepted⟩ := (returns_void ..).mp accepted
      obtain rfl := Option.some.inj issued
      exact issues_createAttestationInternal accepted
  | importAttestation admin issuer subject claimType timestamp expiration =>
      obtain ⟨id, accepted⟩ := (returns_void ..).mp accepted
      obtain rfl := Option.some.inj issued
      obtain ⟨checks, -, rfl⟩ := (returns_importAttestation _ _ _ _ _ _ _ _ rfl).mp accepted
      exact ⟨checks.running, fun _ => checks.registered, ⟨rfl, rfl⟩, .inl ⟨_, _, _, rfl⟩,
        checks.fresh, checks.fits, _, _, _, _, rfl, rfl, rfl⟩
  | bridgeAttestation bridge subject claimType sourceChain sourceTx =>
      obtain ⟨id, accepted⟩ := (returns_void ..).mp accepted
      obtain rfl := Option.some.inj issued
      obtain ⟨checks, -, rfl⟩ := (returns_bridgeAttestation _ _ _ _ _ _ _ rfl).mp accepted
      -- a bridge issues in its own name and need not be registered as an issuer
      exact ⟨checks.running, fun native => absurd rfl native, ⟨rfl, rfl⟩,
        .inr ⟨_, _, _, _, _, rfl⟩, checks.fresh, checks.fits, _, _, _, _, rfl, rfl, rfl⟩
  | createAttestationAsDelegate delegate delegator subject claimType expiration metadata =>
      obtain ⟨id, accepted⟩ := (returns_void ..).mp accepted
      obtain rfl := Option.some.inj issued
      obtain ⟨checks, -, rfl⟩ := (returns_createAttestationAsDelegate _ _ _ _ _ _ _ _ rfl).mp accepted
      exact ⟨checks.running, fun _ => checks.registered, ⟨rfl, rfl⟩, .inl ⟨_, _, _, rfl⟩,
        checks.fresh, checks.fits, _, _, _, _, rfl, rfl, rfl⟩
  | _ => cases issued

/-- A call left the council, the hand-over and the limits alone. -/
structure Governed (before after : World Address) : Prop where
  adminCouncil : after.storage.adminCouncil = before.storage.adminCouncil
  pendingAdminTransfer : after.storage.pendingAdminTransfer = before.storage.pendingAdminTransfer
  limits : after.storage.limits = before.storage.limits

omit [DecidableEq Address] [Host Address] in
theorem governed_iff :
    Governed before after ↔
      after.storage.adminCouncil = before.storage.adminCouncil ∧
        after.storage.pendingAdminTransfer = before.storage.pendingAdminTransfer ∧
        after.storage.limits = before.storage.limits :=
  ⟨fun kept => ⟨kept.1, kept.2, kept.3⟩, fun kept => ⟨kept.1, kept.2.1, kept.2.2⟩⟩

/-- A call left the requests alone. -/
structure Unrequested (before after : World Address) : Prop where
  request : after.storage.request = before.storage.request
  pendingRequests : after.storage.pendingRequests = before.storage.pendingRequests

omit [DecidableEq Address] [Host Address] in
theorem unrequested_iff :
    Unrequested before after ↔
      after.storage.request = before.storage.request ∧
        after.storage.pendingRequests = before.storage.pendingRequests :=
  ⟨fun kept => ⟨kept.1, kept.2⟩, fun kept => ⟨kept.1, kept.2⟩⟩

/-- An endorsement is the only operation on attestations that writes outside of the books. -/
theorem AttestationOp.booked (op : AttestationOp Address)
    (accepted : Returns op.exec env before () after) :
    (∃ endorser id, op = .endorseAttestation endorser id ∧
      ∃ endorsements endorserIndex,
        after.storage = { before.storage with endorsements, endorserIndex }) ∨
      Booked before.storage after.storage := by
  cases op with
  | createAttestation | createAttestationValidFrom | createAttestationJurisdiction
  | importAttestation | bridgeAttestation | createAttestationAsDelegate =>
      obtain ⟨-, -, -, -, -, -, entry, event, times, payments, -, -, rfl⟩ :=
        AttestationOp.issues_one accepted rfl
      exact .inr rfl
  | createAttestationsBatch issuer subjects claimType expiration =>
      obtain ⟨ids, accepted⟩ := (returns_void ..).mp accepted
      obtain ⟨-, -, rfl⟩ := (returns_createAttestationsBatch _ _ _ _ _ _ rfl).mp accepted
      have listed := @booked_run _ _ withListed (fun _ _ => rfl) before.storage
        (subjects.map (batchRecord issuer claimType expiration env.timestamp))
      rw [Booked] at listed
      refine .inr ?_
      rw [Booked, listed]
      rfl
  | revokeAttestation issuer id reason =>
      obtain ⟨attestation, -, -, -, -, rfl⟩ := (returns_revokeAttestation ..).mp accepted
      exact .inr rfl
  | renewAttestation issuer id newExpiration =>
      obtain ⟨attestation, -, -, details, -, rfl⟩ := (returns_renewAttestation ..).mp accepted
      exact .inr rfl
  | revokeAttestationsBatch issuer ids reason =>
      obtain ⟨count, accepted⟩ := (returns_void ..).mp accepted
      obtain ⟨records, -, -, rfl⟩ := (returns_revokeAttestationsBatch ..).mp accepted
      have revoked := @booked_run _ _ (withBatchRevoked issuer reason env.timestamp)
        (fun _ _ => rfl) before.storage records
      rw [Booked] at revoked
      refine .inr ?_
      rw [Booked, revoked]
      by_cases none : records = [] <;> simp only [none, ↓reduceIte] <;> rfl
  | updateExpiration issuer id newExpiration =>
      obtain ⟨attestation, -, -, rfl⟩ := (returns_updateExpiration ..).mp accepted
      exact .inr rfl
  | transferAttestation admin id newIssuer =>
      obtain ⟨attestation, -, ⟨-, rfl⟩ | ⟨-, -, rfl⟩⟩ :=
        (returns_transferAttestation ..).mp accepted
      all_goals exact .inr rfl
  | requestDeletion subject id =>
      obtain ⟨attestation, -, rfl⟩ := (returns_requestDeletion ..).mp accepted
      exact .inr rfl
  | endorseAttestation endorser id =>
      obtain ⟨-, rfl⟩ := (returns_endorseAttestation ..).mp accepted
      exact .inl ⟨endorser, id, rfl, _, _, rfl⟩

/-- The operation is about stored records. -/
def AttestationOp.Amends : AttestationOp Address → Prop
  | .revokeAttestation .. | .renewAttestation .. | .revokeAttestationsBatch ..
  | .updateExpiration .. | .transferAttestation .. | .requestDeletion ..
  | .endorseAttestation .. => True
  | _ => False

/-- An operation on stored records is neither paid for nor counted as an issuance. -/
theorem AttestationOp.unissued {op : AttestationOp Address}
    (accepted : Returns op.exec env before () after) (amends : op.Amends) :
    after.payments = before.payments ∧
      after.storage.lastIssuanceTime = before.storage.lastIssuanceTime := by
  cases op with
  | revokeAttestation issuer id reason =>
      obtain ⟨attestation, -, -, -, -, rfl⟩ := (returns_revokeAttestation ..).mp accepted
      exact ⟨rfl, rfl⟩
  | renewAttestation issuer id newExpiration =>
      obtain ⟨attestation, -, -, details, -, rfl⟩ := (returns_renewAttestation ..).mp accepted
      exact ⟨rfl, rfl⟩
  | revokeAttestationsBatch issuer ids reason =>
      obtain ⟨count, accepted⟩ := (returns_void ..).mp accepted
      obtain ⟨records, -, -, rfl⟩ := (returns_revokeAttestationsBatch ..).mp accepted
      exact ⟨rfl, Trace.run_keeps (withBatchRevoked issuer reason env.timestamp)
        (·.lastIssuanceTime) (fun _ _ => rfl) _ _⟩
  | updateExpiration issuer id newExpiration =>
      obtain ⟨attestation, -, -, rfl⟩ := (returns_updateExpiration ..).mp accepted
      exact ⟨rfl, rfl⟩
  | transferAttestation admin id newIssuer =>
      obtain ⟨attestation, -, ⟨-, rfl⟩ | ⟨-, -, rfl⟩⟩ :=
        (returns_transferAttestation ..).mp accepted
      all_goals exact ⟨rfl, rfl⟩
  | requestDeletion subject id =>
      obtain ⟨attestation, -, rfl⟩ := (returns_requestDeletion ..).mp accepted
      exact ⟨rfl, rfl⟩
  | endorseAttestation endorser id =>
      obtain ⟨-, rfl⟩ := (returns_endorseAttestation ..).mp accepted
      exact ⟨rfl, rfl⟩
  | _ => exact amends.elim

/-- What lies outside of the books and of the endorsements keeps its value. -/
theorem AttestationOp.kept {Part : Type} (op : AttestationOp Address)
    (accepted : Returns op.exec env before () after) (part : Storage Address → Part)
    (aside : ∀ storage books, part (storage.withBooks books) = part storage)
    (unendorsed : ∀ (storage : Storage Address) endorsements endorserIndex,
      part { storage with endorsements, endorserIndex } = part storage) :
    part after.storage = part before.storage := by
  rcases op.booked accepted with ⟨-, -, -, endorsements, endorserIndex, same⟩ | booked
  · rw [same, unendorsed]
  · exact booked.kept part aside

theorem AttestationOp.keeps (op : AttestationOp Address)
    (accepted : Returns op.exec env before () after) :
    Governed before after ∧ Unrequested before after ∧
      after.storage.multisigProposal = before.storage.multisigProposal := by
  rcases op.booked accepted with ⟨-, -, -, endorsements, endorserIndex, same⟩ | booked
  · rw [governed_iff, unrequested_iff, same]
    exact ⟨⟨rfl, rfl, rfl⟩, ⟨rfl, rfl⟩, rfl⟩
  · rw [Booked] at booked
    rw [governed_iff, unrequested_iff, booked]
    exact ⟨⟨rfl, rfl, rfl⟩, ⟨rfl, rfl⟩, rfl⟩

/-- The operations on attestations leave the council and the proposals alone. -/
theorem AttestationOp.frame (op : AttestationOp Address)
    (accepted : Returns op.exec env before () after) :
    after.storage.adminCouncil = before.storage.adminCouncil ∧
      after.storage.pendingAdminTransfer = before.storage.pendingAdminTransfer ∧
      after.storage.multisigProposal = before.storage.multisigProposal := by
  obtain ⟨governed, -, proposals⟩ := op.keeps accepted
  exact ⟨governed.adminCouncil, governed.pendingAdminTransfer, proposals⟩

theorem RequestOp.keeps (op : RequestOp Address)
    (accepted : Returns op.exec env before () after) :
    Governed before after ∧ after.storage.lastIssuanceTime = before.storage.lastIssuanceTime ∧
      after.storage.auditLog = before.storage.auditLog ∧
      after.storage.multisigProposal = before.storage.multisigProposal := by
  cases op.outcome accepted <;> exact ⟨⟨rfl, rfl, rfl⟩, rfl, rfl, rfl⟩

theorem RequestOp.frame (op : RequestOp Address)
    (accepted : Returns op.exec env before () after) :
    after.storage.adminCouncil = before.storage.adminCouncil ∧
      after.storage.pendingAdminTransfer = before.storage.pendingAdminTransfer ∧
      after.storage.multisigProposal = before.storage.multisigProposal := by
  obtain ⟨governed, -, -, proposals⟩ := op.keeps accepted
  exact ⟨governed.adminCouncil, governed.pendingAdminTransfer, proposals⟩

theorem MultisigOp.keeps (op : MultisigOp Address)
    (accepted : Returns op.exec env before () after) :
    Governed before after ∧ Unrequested before after ∧
      after.storage.lastIssuanceTime = before.storage.lastIssuanceTime ∧
      after.storage.auditLog = before.storage.auditLog := by
  cases op.outcome accepted <;> exact ⟨⟨rfl, rfl, rfl⟩, ⟨rfl, rfl⟩, rfl, rfl⟩

theorem MultisigOp.frame (op : MultisigOp Address)
    (accepted : Returns op.exec env before () after) :
    after.storage.adminCouncil = before.storage.adminCouncil ∧
      after.storage.pendingAdminTransfer = before.storage.pendingAdminTransfer := by
  obtain ⟨governed, -⟩ := op.keeps accepted
  exact ⟨governed.adminCouncil, governed.pendingAdminTransfer⟩

end Issuance

section Registries
variable {Address : Type} {before after : World Address}

/-- A call left the issuer registry alone. -/
structure RegistryKept (before after : World Address) : Prop where
  issuer : after.storage.issuer = before.storage.issuer
  issuerList : after.storage.issuerList = before.storage.issuerList
  totalIssuers : after.storage.globalStats.totalIssuers = before.storage.globalStats.totalIssuers

theorem registryKept_iff :
    RegistryKept before after ↔
      after.storage.issuer = before.storage.issuer ∧
        after.storage.issuerList = before.storage.issuerList ∧
        after.storage.globalStats.totalIssuers = before.storage.globalStats.totalIssuers :=
  ⟨fun kept => ⟨kept.1, kept.2, kept.3⟩, fun kept => ⟨kept.1, kept.2.1, kept.2.2⟩⟩

/-- A call left the council's proposals alone. -/
structure ProposalsKept (before after : World Address) : Prop where
  councilProposal : after.storage.councilProposal = before.storage.councilProposal
  proposalCounter : after.storage.proposalCounter = before.storage.proposalCounter

theorem proposalsKept_iff :
    ProposalsKept before after ↔
      after.storage.councilProposal = before.storage.councilProposal ∧
        after.storage.proposalCounter = before.storage.proposalCounter :=
  ⟨fun kept => ⟨kept.1, kept.2⟩, fun kept => ⟨kept.1, kept.2⟩⟩

variable [DecidableEq Address] {env : Env Address}

theorem CouncilOp.registriesKept (op : CouncilOp Address)
    (accepted : Returns op.exec env before () after) :
    RegistryKept before after ∧ ProposalsKept before after := by
  obtain ⟨storage, written, left⟩ := op.leaves accepted
  rw [registryKept_iff, proposalsKept_iff, left.storage]
  cases written <;> exact ⟨⟨rfl, rfl, rfl⟩, rfl, rfl⟩

/-- The operations of admin.rs on the issuer registry, and the council actions. -/
inductive AdminOp.Staffs : AdminOp Address → Prop
  | registerIssuer (admin issuer : Address) : Staffs (.registerIssuer admin issuer)
  | removeIssuer (admin issuer : Address) : Staffs (.removeIssuer admin issuer)
  | proposeCouncilAction (proposer : Address) (operation : CouncilOperation Address) :
      Staffs (.proposeCouncilAction proposer operation)
  | approveCouncilAction (approver : Address) (proposalId : Nat) :
      Staffs (.approveCouncilAction approver proposalId)
  | executeCouncilAction (executor : Address) (proposalId : Nat) :
      Staffs (.executeCouncilAction executor proposalId)

theorem AdminOp.registriesKept (op : AdminOp Address) (other : ¬ op.Staffs)
    (accepted : Returns op.exec env before () after) :
    RegistryKept before after ∧ ProposalsKept before after := by
  obtain ⟨storage, written, left⟩ := op.leaves accepted
  rw [registryKept_iff, proposalsKept_iff, left.storage]
  cases written with
  | registerIssuer admin issuer => exact absurd (.registerIssuer admin issuer) other
  | removeIssuer admin issuer => exact absurd (.removeIssuer admin issuer) other
  | proposeCouncilAction proposer operation =>
      exact absurd (.proposeCouncilAction proposer operation) other
  | approveCouncilAction approver proposalId =>
      exact absurd (.approveCouncilAction approver proposalId) other
  | executeRemoval executor proposalId | executePause executor proposalId =>
      exact absurd (.executeCouncilAction executor proposalId) other
  | _ => exact ⟨⟨rfl, rfl, rfl⟩, rfl, rfl⟩

variable [Host Address]

theorem AttestationOp.registriesKept (op : AttestationOp Address)
    (accepted : Returns op.exec env before () after) :
    RegistryKept before after ∧ ProposalsKept before after := by
  rw [registryKept_iff, proposalsKept_iff]
  rcases op.booked accepted with ⟨-, -, -, endorsements, endorserIndex, same⟩ | booked
  · rw [same]
    exact ⟨⟨rfl, rfl, rfl⟩, rfl, rfl⟩
  · rw [Booked] at booked
    rw [booked]
    exact ⟨⟨rfl, rfl, rfl⟩, rfl, rfl⟩

theorem RequestOp.registriesKept (op : RequestOp Address)
    (accepted : Returns op.exec env before () after) :
    RegistryKept before after ∧ ProposalsKept before after := by
  cases op.outcome accepted <;> exact ⟨⟨rfl, rfl, rfl⟩, rfl, rfl⟩

theorem MultisigOp.registriesKept (op : MultisigOp Address)
    (accepted : Returns op.exec env before () after) :
    RegistryKept before after ∧ ProposalsKept before after := by
  cases op.outcome accepted <;> exact ⟨⟨rfl, rfl, rfl⟩, rfl, rfl⟩

/-- Only the operations that staff the contract change its registries. -/
theorem registriesKept_of_accepted {call : Call Address} (accepted : Accepted before call after)
    (other : ∀ op, call.op = .admin op → ¬ op.Staffs) :
    RegistryKept before after ∧ ProposalsKept before after := by
  obtain ⟨env, op⟩ := call
  cases op with
  | attestation op => exact op.registriesKept accepted
  | request op => exact op.registriesKept accepted
  | multisig op => exact op.registriesKept accepted
  | council op => exact op.registriesKept accepted
  | admin op => exact op.registriesKept (other op rfl) accepted

end Registries

end TrustLink
