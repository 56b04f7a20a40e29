import TrustLink.Issuance
import TrustLink.Lifecycle

/-!
The operations that lib.rs has bodies of its own for. `validate_claim_type`,
`validate_reason` and `validate_source_reference`, which lib.rs does not define, are taken
to be the ones the modules use.
-/
namespace TrustLink
open Transaction

namespace Entry

section Model
variable {Address : Type} [DecidableEq Address]

/-- The interval of a claim type is not looked at. -/
def checkRateLimit (issuer : Address) : Program Address Unit := do
  let config ← Storage.getRateLimitConfig
  let now ← ledgerTimestamp
  let last ← Storage.getLastIssuanceTime issuer
  failWhen (∃ limit ∈ config.map RateLimitConfig.minIssuanceInterval, limit ≠ 0 ∧
    ∃ time ∈ last, now - time < limit) .rateLimited

/-- Neither the valid-claim index nor the chunked indexes are written. -/
def storeAttestation (attestation : Attestation Address) : Program Address Unit := do
  Storage.setAttestation attestation
  Storage.addSubjectAttestation attestation.subject attestation.id
  Storage.addIssuerAttestation attestation.issuer attestation.id
  let stats ← Storage.getIssuerStats attestation.issuer
  let totalIssued ← checkedU64 (stats.totalIssued + 1)
  Storage.setIssuerStats attestation.issuer ⟨totalIssued⟩
  Storage.incrementTotalAttestations 1
  Storage.incrementClaimTypeCount attestation.claimType

def revokeAttestation (issuer : Address) (attestationId : Str) (reason : Option Str) :
    Program Address Unit := do
  requireAuth issuer
  Validation.requireNotPaused
  Validation.requireIssuer issuer
  validated (validateReason reason)
  let attestation ← Storage.getAttestation attestationId
  failWhen (attestation.issuer ≠ issuer) .unauthorized
  failWhen (attestation.revoked = true) .alreadyRevoked
  Storage.setAttestation { attestation with revoked := true, revocationReason := reason }
  Storage.removeSubjectAttestation attestation.subject attestationId
  Storage.removeValidAttestation attestation.subject attestationId
  Storage.removeIssuerAttestation issuer attestationId
  Storage.decrementClaimTypeCount attestation.claimType
  emit (.attestationRevoked attestationId issuer reason)
  let timestamp ← ledgerTimestamp
  Storage.appendAuditEntry attestationId ⟨.revoked, issuer, timestamp, reason⟩
  Storage.incrementTotalRevocations 1

/-- The body of the first loop of a batch revocation. -/
def revokeBatchCheck (issuer : Address) (id : Str) : Program Address Unit := do
  let attestation ← Storage.getAttestation id
  failWhen (attestation.issuer ≠ issuer) .unauthorized
  failWhen (attestation.revoked = true) .alreadyRevoked

/-- The second loop, which reads every record again. -/
def revokeBatchLoop (issuer : Address) (reason : Option Str) :
    List Str → Nat → Program Address Nat
  | [], count => pure count
  | id :: rest, count => do
      let attestation ← Storage.getAttestation id
      Storage.setAttestation { attestation with revoked := true, revocationReason := reason }
      Storage.removeSubjectAttestation attestation.subject id
      Storage.removeIssuerAttestation issuer id
      Storage.decrementClaimTypeCount attestation.claimType
      emit (.attestationRevokedWithReason id issuer reason)
      let timestamp ← ledgerTimestamp
      Storage.appendAuditEntry id ⟨.revoked, issuer, timestamp, reason⟩
      revokeBatchLoop issuer reason rest (count + 1)

/-- The pause is not looked at, ids may repeat, and no revocation is counted. -/
def revokeAttestationsBatch (issuer : Address) (attestationIds : List Str)
    (reason : Option Str) : Program Address Nat := do
  requireAuth issuer
  Validation.requireIssuer issuer
  validated (validateReason reason)
  failWhen (50 < attestationIds.length) .limitExceeded
  each (revokeBatchCheck issuer) attestationIds
  revokeBatchLoop issuer reason attestationIds 0

variable [Host Address]

def bridgeAttestation (bridge subject : Address) (claimType sourceChain sourceTx : Str) :
    Program Address Str := do
  requireAuth bridge
  Validation.requireBridge bridge
  Validation.requireNotPaused
  validated (validateSourceReference sourceChain sourceTx)
  let timestamp ← ledgerTimestamp
  let attestationId :=
    Attestation.generateBridgeId bridge subject claimType sourceChain sourceTx timestamp
  let stored ← Storage.hasAttestation attestationId
  failWhen (stored = true) .duplicateAttestation
  let attestation : Attestation Address :=
    { Attestation.issued attestationId bridge subject claimType timestamp .bridged with
      sourceChain := some sourceChain
      sourceTx := some sourceTx }
  storeAttestation attestation
  emit (.attestationBridged attestation)
  Storage.appendAuditEntry attestationId ⟨.created, attestation.issuer, timestamp, none⟩
  pure attestationId

/-- The body of the loop over the subjects of a batch. -/
def createBatchStep (issuer : Address) (claimType : Str) (expiration : Option Nat)
    (timestamp : Nat) (limits : StorageLimits) (subject : Address) : Program Address Str := do
  let attestationId := Attestation.generateId issuer subject claimType timestamp
  let stored ← Storage.hasAttestation attestationId
  failWhen (stored = true) .duplicateAttestation
  let subjectIds ← Storage.getSubjectAttestations subject
  failWhen (limits.maxAttestationsPerSubject ≤ subjectIds.length) .limitExceeded
  let attestation : Attestation Address :=
    { Attestation.issued attestationId issuer subject claimType timestamp .native with expiration }
  storeAttestation attestation
  emit (.attestationCreated attestation)
  Storage.appendAuditEntry attestationId ⟨.created, issuer, timestamp, none⟩
  pure attestationId

def createBatchLoop (issuer : Address) (claimType : Str) (expiration : Option Nat)
    (timestamp : Nat) (limits : StorageLimits) :
    List Address → List Str → Program Address (List Str)
  | [], ids => pure ids
  | subject :: rest, ids => do
      let attestationId ← createBatchStep issuer claimType expiration timestamp limits subject
      createBatchLoop issuer claimType expiration timestamp limits rest (ids ++ [attestationId])

def createAttestationsBatch (issuer : Address) (subjects : List Address) (claimType : Str)
    (expiration : Option Nat) : Program Address (List Str) := do
  requireAuth issuer
  Validation.requireIssuer issuer
  Validation.requireNotPaused
  validated (Validation.validateClaimType claimType)
  validateNativeExpiration expiration
  checkRateLimit issuer
  let timestamp ← ledgerTimestamp
  let limits ← Storage.getLimits
  let issuerIds ← Storage.getIssuerAttestations issuer
  failWhen (limits.maxAttestationsPerIssuer < saturatingAddU32 issuerIds.length subjects.length)
    .limitExceeded
  let ids ← createBatchLoop issuer claimType expiration timestamp limits subjects []
  Storage.setLastIssuanceTime issuer timestamp
  pure ids

end Model

section Switch
variable {Address : Type} [DecidableEq Address]

/-- Not the switch that `create_attestation` looks at, which admin.rs sets. -/
def setRequireRegisteredClaimType (admin : Address) (required : Bool) : Program Address Unit := do
  requireAuth admin
  Validation.requireAdmin admin
  Storage.setRequireRegisteredClaimType required

def getRequireRegisteredClaimType : Program Address Bool := Storage.getRequireRegisteredClaimType

end Switch

end Entry

section Returns
variable {Address : Type} [DecidableEq Address] [Host Address] {env : Env Address}
  {before after : World Address}

/-- The storage that `store_attestation` of lib.rs leaves. -/
def Storage.withEntered (storage : Storage Address) (attestation : Attestation Address) :
    Storage Address :=
  { storage with
    attestation := Function.update storage.attestation attestation.id (some attestation)
    subjectAttestations := Function.update storage.subjectAttestations attestation.subject
      (storage.subjectAttestations attestation.subject ++ [attestation.id])
    issuerAttestations := Function.update storage.issuerAttestations attestation.issuer
      (storage.issuerAttestations attestation.issuer ++ [attestation.id])
    issuerStats := Function.update storage.issuerStats attestation.issuer
      ⟨(storage.issuerStats attestation.issuer).totalIssued + 1⟩
    globalStats := { storage.globalStats with
      totalAttestations := saturatingAddU64 storage.globalStats.totalAttestations 1 }
    claimTypeCount := Function.update storage.claimTypeCount attestation.claimType
      (saturatingAddU64 (storage.claimTypeCount attestation.claimType) 1) }

omit [Host Address] in
@[simp] theorem returns_entryStore (attestation : Attestation Address) (done : Unit) :
    Returns (Entry.storeAttestation attestation) env before done after ↔
      (TtlFits before.storage.ttlConfig ∧
        (before.storage.issuerStats attestation.issuer).totalIssued + 1 < u64Range) ∧
        after = before.write (·.withEntered attestation) := by
  simp [Entry.storeAttestation, World.write, Storage.withEntered]
  tauto

/-- The checks of a bridge in lib.rs. -/
structure Entry.BridgeChecks (storage : Storage Address) (env : Env Address) (bridge : Address)
    (sourceChain sourceTx : Str) (attestation : Attestation Address) : Prop where
  auth : bridge ∈ env.auths
  known : storage.bridge bridge = true
  running : storage.paused = false
  source : validateSourceReference sourceChain sourceTx = .ok ()
  fresh : storage.attestation attestation.id = none
  ttl : TtlFits storage.ttlConfig
  counted : (storage.issuerStats bridge).totalIssued + 1 < u64Range

theorem returns_entryBridge (bridge subject : Address) (claimType sourceChain sourceTx : Str)
    (id : Str) (attestation : Attestation Address)
    (built : attestation = { Attestation.issued
      (Attestation.generateBridgeId bridge subject claimType sourceChain sourceTx env.timestamp)
      bridge subject claimType env.timestamp .bridged with
        sourceChain := some sourceChain, sourceTx := some sourceTx }) :
    Returns (Entry.bridgeAttestation bridge subject claimType sourceChain sourceTx)
        env before id after ↔
      Entry.BridgeChecks before.storage env bridge sourceChain sourceTx attestation ∧
      id = attestation.id ∧
      after = ⟨{ before.storage.withEntered attestation with
          auditLog := Function.update before.storage.auditLog attestation.id
            (before.storage.auditLog attestation.id ++ [⟨.created, bridge, env.timestamp, none⟩]) },
        before.events ++ [.attestationBridged attestation], before.payments⟩ := by
  subst built
  simp [Entry.bridgeAttestation]
  constructor
  · rintro ⟨auth, known, running, source, fresh, ⟨ttl, counted⟩, ⟨-, left⟩, same⟩
    exact ⟨⟨auth, known, running, source, fresh, ttl, counted⟩, same, left⟩
  · rintro ⟨⟨auth, known, running, source, fresh, ttl, counted⟩, same, left⟩
    exact ⟨auth, known, running, source, fresh, ⟨ttl, counted⟩, ⟨ttl, left⟩, same⟩

omit [Host Address] in
theorem returns_entrySwitch (admin : Address) (required : Bool) (done : Unit) :
    Returns (Entry.setRequireRegisteredClaimType admin required) env before done after ↔
      (admin ∈ env.auths ∧ admin ∈ before.storage.council ∧ TtlFits before.storage.ttlConfig) ∧
        after = before.write fun storage =>
          { storage with requireRegisteredClaimType := required } := by
  simp [Entry.setRequireRegisteredClaimType, and_assoc]

end Returns

section Batches
variable {Address : Type} [DecidableEq Address]

/-- The storage that one turn of the batch loop of lib.rs leaves. -/
def withEntryListed (storage : Storage Address) (attestation : Attestation Address) :
    Storage Address :=
  { storage.withEntered attestation with
    auditLog := Function.update storage.auditLog attestation.id
      (storage.auditLog attestation.id ++
        [⟨.created, attestation.issuer, attestation.timestamp, none⟩]) }

/-- One turn of the batch loop of lib.rs passes its checks. -/
structure Entry.Listable (limits : StorageLimits) (storage : Storage Address)
    (attestation : Attestation Address) : Prop where
  fresh : storage.attestation attestation.id = none
  room : (storage.subjectAttestations attestation.subject).length <
    limits.maxAttestationsPerSubject
  ttl : TtlFits storage.ttlConfig
  counted : (storage.issuerStats attestation.issuer).totalIssued + 1 < u64Range

/-- The interval `check_rate_limit` of lib.rs asks for has passed. -/
def Entry.RateAllows (storage : Storage Address) (now : Nat) (issuer : Address) : Prop :=
  ∀ limit ∈ storage.rateLimitConfig.map RateLimitConfig.minIssuanceInterval, limit ≠ 0 →
    ∀ time ∈ storage.lastIssuanceTime issuer, limit ≤ now - time

structure Entry.BatchChecks (storage : Storage Address) (env : Env Address) (issuer : Address)
    (subjects : List Address) (claimType : Str) (expiration : Option Nat)
    (records : List (Attestation Address)) : Prop where
  auth : issuer ∈ env.auths
  registered : storage.issuer issuer = true
  running : storage.paused = false
  claim : Validation.validateClaimType claimType = .ok ()
  expires : ∀ time ∈ expiration, env.timestamp < time
  rate : Entry.RateAllows storage env.timestamp issuer
  room : saturatingAddU32 (storage.issuerAttestations issuer).length subjects.length ≤
    storage.limits.maxAttestationsPerIssuer
  listable : Trace.Each withEntryListed (Entry.Listable storage.limits) storage records
  ttl : TtlFits storage.ttlConfig

variable {env : Env Address} {before after : World Address}

omit [DecidableEq Address] in
theorem returns_entryRateLimit (issuer : Address) (done : Unit) :
    Returns (Entry.checkRateLimit issuer) env before done after ↔
      Entry.RateAllows before.storage env.timestamp issuer ∧ after = before := by
  simp [Entry.checkRateLimit, Entry.RateAllows]
  exact and_comm

@[simp] theorem run_withEntryListed_ttlConfig (storage : Storage Address)
    (records : List (Attestation Address)) :
    (Trace.run withEntryListed storage records).ttlConfig = storage.ttlConfig :=
  Trace.run_keeps withEntryListed (·.ttlConfig) (fun _ _ => rfl) storage records

@[simp] theorem run_withEntryListed_lastIssuanceTime (storage : Storage Address)
    (records : List (Attestation Address)) :
    (Trace.run withEntryListed storage records).lastIssuanceTime = storage.lastIssuanceTime :=
  Trace.run_keeps withEntryListed (·.lastIssuanceTime) (fun _ _ => rfl) storage records

variable [Host Address]

theorem returns_entryBatchStep (issuer : Address) (claimType : Str) (expiration : Option Nat)
    (timestamp : Nat) (limits : StorageLimits) (subject : Address) (id : Str)
    (record : Attestation Address)
    (built : record = Contract.batchRecord issuer claimType expiration timestamp subject) :
    Returns (Entry.createBatchStep issuer claimType expiration timestamp limits subject)
        env before id after ↔
      Entry.Listable limits before.storage record ∧ id = record.id ∧
        after = ⟨withEntryListed before.storage record,
          before.events ++ [.attestationCreated record], before.payments⟩ := by
  subst built
  simp [Entry.createBatchStep]
  constructor
  · rintro ⟨fresh, room, ⟨ttl, counted⟩, ⟨-, left⟩, same⟩
    exact ⟨⟨fresh, room, ttl, counted⟩, same, left⟩
  · rintro ⟨⟨fresh, room, ttl, counted⟩, same, left⟩
    exact ⟨fresh, room, ⟨ttl, counted⟩, ⟨ttl, left⟩, same⟩

theorem returns_entryBatchLoop (issuer : Address) (claimType : Str) (expiration : Option Nat)
    (timestamp : Nat) (limits : StorageLimits) (subjects : List Address) (ids result : List Str)
    (records : List (Attestation Address))
    (built : records = subjects.map
      (Contract.batchRecord issuer claimType expiration timestamp)) :
    Returns (Entry.createBatchLoop issuer claimType expiration timestamp limits subjects ids)
        env before result after ↔
      Trace.Each withEntryListed (Entry.Listable limits) before.storage records ∧
        result = ids ++ records.map (·.id) ∧
        after = ⟨Trace.run withEntryListed before.storage records,
          before.events ++ records.map .attestationCreated, before.payments⟩ := by
  subst built
  induction subjects generalizing ids before with
  | nil => simp [Entry.createBatchLoop, Trace.Each]
  | cons subject rest ih =>
      simp only [Entry.createBatchLoop, returns_bind, returns_entryBatchStep _ _ _ _ _ _ _ _ rfl,
        ih, List.map_cons, Trace.Each, Trace.run_cons]
      constructor
      · rintro ⟨_, _, ⟨listable, rfl, rfl⟩, remaining, rfl, rfl⟩
        exact ⟨⟨listable, remaining⟩, by simp, by simp⟩
      · rintro ⟨⟨listable, remaining⟩, rfl, rfl⟩
        exact ⟨_, _, ⟨listable, rfl, rfl⟩, remaining, by simp, by simp⟩

theorem returns_entryBatch (issuer : Address) (subjects : List Address) (claimType : Str)
    (expiration : Option Nat) (ids : List Str) (records : List (Attestation Address))
    (built : records = subjects.map
      (Contract.batchRecord issuer claimType expiration env.timestamp)) :
    Returns (Entry.createAttestationsBatch issuer subjects claimType expiration)
        env before ids after ↔
      Entry.BatchChecks before.storage env issuer subjects claimType expiration records ∧
      ids = records.map (·.id) ∧
      after = ⟨{ Trace.run withEntryListed before.storage records with
          lastIssuanceTime :=
            Function.update before.storage.lastIssuanceTime issuer (some env.timestamp) },
        before.events ++ records.map .attestationCreated, before.payments⟩ := by
  simp [Entry.createAttestationsBatch, returns_entryRateLimit,
    returns_entryBatchLoop _ _ _ _ _ _ _ _ records built]
  constructor
  · rintro ⟨auth, registered, running, claim, expires, rate, room, ⟨listable, rfl⟩, ttl, left⟩
    refine ⟨⟨auth, registered, running, claim, expires, rate, room, listable, ttl⟩, rfl,
      left.trans ?_⟩
    simp only [World.write, run_withEntryListed_ttlConfig, run_withEntryListed_lastIssuanceTime]
  · rintro ⟨⟨auth, registered, running, claim, expires, rate, room, listable, ttl⟩, rfl, left⟩
    refine ⟨auth, registered, running, claim, expires, rate, room, ⟨listable, rfl⟩, ttl,
      left.trans ?_⟩
    simp only [World.write, run_withEntryListed_ttlConfig, run_withEntryListed_lastIssuanceTime]

end Batches

/-- Every record is stored under its own id, which is the key `set_attestation` uses. -/
def OwnIds {Address : Type} (storage : Storage Address) : Prop :=
  ∀ id attestation, storage.attestation id = some attestation → attestation.id = id

section Revocations
variable {Address : Type} [DecidableEq Address] {env : Env Address} {before after : World Address}

/-- The storage that a revocation leaves, but for the chunked indexes. -/
def Storage.withRevoked (storage : Storage Address) (issuer : Address) (id : Str)
    (reason : Option Str) (timestamp : Nat) (attestation : Attestation Address) :
    Storage Address :=
  { storage with
    attestation := Function.update storage.attestation attestation.id
      (some { attestation with revoked := true, revocationReason := reason })
    subjectAttestations := Function.update storage.subjectAttestations attestation.subject
      ((storage.subjectAttestations attestation.subject).filter (· ≠ id))
    validAttestations := Function.update storage.validAttestations attestation.subject
      ((storage.validAttestations attestation.subject).filter (· ≠ id))
    issuerAttestations := Function.update storage.issuerAttestations issuer
      ((storage.issuerAttestations issuer).filter (· ≠ id))
    auditLog := Function.update storage.auditLog id
      (storage.auditLog id ++ [⟨.revoked, issuer, timestamp, reason⟩])
    globalStats := { storage.globalStats with
      totalRevocations := saturatingAddU64 storage.globalStats.totalRevocations 1 } }

theorem returns_entryRevoke (issuer : Address) (id : Str) (reason : Option Str) (done : Unit) :
    Returns (Entry.revokeAttestation issuer id reason) env before done after ↔
      ∃ attestation, Contract.Managed before.storage env issuer id attestation ∧
        validateReason reason = .ok () ∧
        after = ⟨{ before.storage.withRevoked issuer id reason env.timestamp attestation with
            claimTypeCount := Function.update before.storage.claimTypeCount attestation.claimType
              (before.storage.claimTypeCount attestation.claimType - 1) },
          before.events ++ [.attestationRevoked id issuer reason], before.payments⟩ := by
  simp [Entry.revokeAttestation, World.write, World.publish, Storage.withRevoked]
  constructor
  · rintro ⟨auth, running, registered, valid, attestation, found, own, active, ttl, left⟩
    exact ⟨attestation, ⟨auth, running, registered, found, own, active, ttl⟩, valid, left⟩
  · rintro ⟨attestation, ⟨auth, running, registered, found, own, active, ttl⟩, valid, left⟩
    exact ⟨auth, running, registered, valid, attestation, found, own, active, ttl, left⟩

/-- The storage that one turn of the second loop of lib.rs leaves. -/
def withEntryRevoked (issuer : Address) (reason : Option Str) (timestamp : Nat)
    (storage : Storage Address) (attestation : Attestation Address) : Storage Address :=
  { Contract.withBatchRevoked issuer reason timestamp storage attestation with
    claimTypeCount := Function.update storage.claimTypeCount attestation.claimType
      (storage.claimTypeCount attestation.claimType - 1) }

def Storage.withCounts (storage : Storage Address) (counts : Str → Nat) : Storage Address :=
  { storage with claimTypeCount := counts }

/-- The storage that a turn of the second loop leaves, for the id it was given. -/
def withEntryTurn (issuer : Address) (reason : Option Str) (timestamp : Nat) (id : Str)
    (storage : Storage Address) (attestation : Attestation Address) : Storage Address :=
  { storage with
    attestation := Function.update storage.attestation attestation.id
      (some { attestation with revoked := true, revocationReason := reason })
    subjectAttestations := Function.update storage.subjectAttestations attestation.subject
      ((storage.subjectAttestations attestation.subject).filter (· ≠ id))
    issuerAttestations := Function.update storage.issuerAttestations issuer
      ((storage.issuerAttestations issuer).filter (· ≠ id))
    auditLog := Function.update storage.auditLog id
      (storage.auditLog id ++ [⟨.revoked, issuer, timestamp, reason⟩])
    claimTypeCount := Function.update storage.claimTypeCount attestation.claimType
      (storage.claimTypeCount attestation.claimType - 1) }

/-- A turn reads its record again. -/
def Entry.revokeTurn (issuer : Address) (reason : Option Str) (timestamp : Nat)
    (storage : Storage Address) (id : Str) : Storage Address :=
  match storage.attestation id with
  | none => storage
  | some attestation => withEntryTurn issuer reason timestamp id storage attestation

theorem revokeTurn_of_found {issuer : Address} {reason : Option Str} {timestamp : Nat}
    {storage : Storage Address} {id : Str} {attestation : Attestation Address}
    (found : storage.attestation id = some attestation) :
    Entry.revokeTurn issuer reason timestamp storage id =
      withEntryTurn issuer reason timestamp id storage attestation := by
  rw [Entry.revokeTurn, found]

theorem returns_entryRevokeTurns (issuer : Address) (reason : Option Str) {ids : List Str}
    (count total : Nat) (stored : ∀ id ∈ ids, before.storage.attestation id ≠ none) :
    Returns (Entry.revokeBatchLoop issuer reason ids count) env before total after ↔
      (ids ≠ [] → TtlFits before.storage.ttlConfig) ∧ total = count + ids.length ∧
        after = ⟨Trace.run (Entry.revokeTurn issuer reason env.timestamp) before.storage ids,
          before.events ++ ids.map (.attestationRevokedWithReason · issuer reason),
          before.payments⟩ := by
  induction ids generalizing before count with
  | nil => simp [Entry.revokeBatchLoop]
  | cons id rest ih =>
      obtain ⟨attestation, found⟩ := Option.ne_none_iff_exists'.mp (stored id List.mem_cons_self)
      have turn : Entry.revokeTurn issuer reason env.timestamp before.storage id = _ :=
        revokeTurn_of_found found
      simp [Entry.revokeBatchLoop, found, World.write, World.publish, turn]
      intro ttl
      have others : ∀ other ∈ rest, (Entry.revokeTurn issuer reason env.timestamp before.storage
          id).attestation other ≠ none := by
        intro other member
        rw [turn, withEntryTurn]
        by_cases here : other = attestation.id
        · simp [here]
        · simpa [here] using stored other (List.mem_cons_of_mem _ member)
      have next := @ih ⟨Entry.revokeTurn issuer reason env.timestamp before.storage id,
        before.events ++ [.attestationRevokedWithReason id issuer reason], before.payments⟩
        (count + 1) others
      simpa [turn, withEntryTurn, ttl, Nat.add_assoc, Nat.add_comm 1] using next

theorem returns_entryRevokeBatch (issuer : Address) (ids : List Str) (reason : Option Str)
    (total : Nat) :
    Returns (Entry.revokeAttestationsBatch issuer ids reason) env before total after ↔
      (issuer ∈ env.auths ∧ before.storage.issuer issuer = true ∧ validateReason reason = .ok () ∧
        ids.length ≤ 50 ∧
        (∀ id ∈ ids, ∃ record, Contract.Revocable issuer before.storage id record) ∧
        (ids ≠ [] → TtlFits before.storage.ttlConfig)) ∧
      total = ids.length ∧
      after = ⟨Trace.run (Entry.revokeTurn issuer reason env.timestamp) before.storage ids,
        before.events ++ ids.map (.attestationRevokedWithReason · issuer reason),
        before.payments⟩ := by
  have check : ∀ id (middle : World Address),
      Returns (Entry.revokeBatchCheck issuer id) env before () middle ↔
        (∃ record, Contract.Revocable issuer before.storage id record) ∧ middle = before := by
    intro id middle
    simp [Entry.revokeBatchCheck]
    constructor
    · rintro ⟨record, found, ⟨own, same⟩, active⟩
      exact ⟨⟨record, found, own, active⟩, same⟩
    · rintro ⟨⟨record, found, own, active⟩, same⟩
      exact ⟨record, found, ⟨own, same⟩, active⟩
  have loop : ∀ middle : World Address, (∀ id ∈ ids, ∃ record,
      Contract.Revocable issuer before.storage id record) →
        (Returns (Entry.revokeBatchLoop issuer reason ids 0) env before total middle ↔ _) :=
    fun middle revocable => @returns_entryRevokeTurns _ _ env before middle issuer reason ids 0
      total fun id member => by
        obtain ⟨record, revoked⟩ := revocable id member
        rw [revoked.found]
        exact Option.some_ne_none _
  simp [Entry.revokeAttestationsBatch, returns_each_check _ _ check]
  constructor
  · rintro ⟨auth, registered, valid, short, revocable, ran⟩
    obtain ⟨ttl, counted, left⟩ := (loop after revocable).mp ran
    exact ⟨⟨auth, registered, valid, short, revocable, ttl⟩, counted.trans (Nat.zero_add _), left⟩
  · rintro ⟨⟨auth, registered, valid, short, revocable, ttl⟩, rfl, left⟩
    exact ⟨auth, registered, valid, short, revocable,
      (loop after revocable).mpr ⟨ttl, (Nat.zero_add _).symm, left⟩⟩

end Revocations

end TrustLink
