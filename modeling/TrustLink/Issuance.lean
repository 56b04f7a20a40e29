import TrustLink.Attestation
import TrustLink.Lib.Trace

/-!
What the creating operations of attestation.rs do when they return: the checks
that passed, and the world that was left. The attestation an operation builds
is a parameter with its defining equation.
-/
namespace TrustLink.Contract
open Transaction

section Single
variable {Address : Type} [DecidableEq Address] [Host Address]
  {env : Env Address} {before after : World Address}

/-- The checks of a direct issuance. -/
structure CreateChecks (storage : Storage Address) (env : Env Address) (issuer subject : Address)
    (claimType : Str) (expiration : Option Nat) (metadata jurisdiction : Option Str)
    (tags : Option (List Str)) (validFrom : Option Nat) (attestation : Attestation Address) :
    Prop where
  auth : issuer ∈ env.auths
  running : storage.paused = false
  registered : storage.issuer issuer = true
  claim : Validation.validateClaimType claimType = .ok ()
  known : storage.contractConfig.any (·.requireRegisteredClaimType) →
    storage.claimType claimType ≠ none
  metadata : Validation.validateMetadata metadata = .ok ()
  jurisdiction : validateJurisdiction jurisdiction = .ok ()
  tags : validateTags tags = .ok ()
  expires : ∀ time ∈ expiration, env.timestamp < time
  starts : ∀ time ∈ validFrom, env.timestamp < time
  distinct : issuer ≠ subject
  listed : storage.whitelistEnabled issuer = true → storage.whitelist issuer subject = true
  rate : RateAllows storage env.timestamp issuer claimType
  issuerRoom : (storage.issuerAttestations issuer).length < storage.limits.maxAttestationsPerIssuer
  subjectRoom : (storage.subjectAttestations subject).length <
    storage.limits.maxAttestationsPerSubject
  fresh : storage.attestation attestation.id = none
  fits : StoreFits storage attestation

/-- The checks of an import. -/
structure ImportChecks (storage : Storage Address) (env : Env Address) (admin issuer : Address)
    (timestamp : Nat) (expiration : Option Nat) (attestation : Attestation Address) : Prop where
  auth : admin ∈ env.auths
  member : admin ∈ storage.council
  running : storage.paused = false
  registered : storage.issuer issuer = true
  past : timestamp ≤ env.timestamp
  expires : ∀ time ∈ expiration, timestamp < time
  fresh : storage.attestation attestation.id = none
  fits : StoreFits storage attestation

/-- The checks of a bridge. -/
structure BridgeChecks (storage : Storage Address) (env : Env Address) (bridge : Address)
    (sourceChain sourceTx : Str) (attestation : Attestation Address) : Prop where
  auth : bridge ∈ env.auths
  known : storage.bridge bridge = true
  running : storage.paused = false
  source : validateSourceReference sourceChain sourceTx = .ok ()
  fresh : storage.attestation attestation.id = none
  fits : StoreFits storage attestation

/-- The checks of an issuance by a delegate. -/
structure DelegateChecks (storage : Storage Address) (env : Env Address)
    (delegate delegator subject : Address) (claimType : Str) (expiration : Option Nat)
    (metadata : Option Str) (attestation : Attestation Address) : Prop where
  auth : delegate ∈ env.auths
  running : storage.paused = false
  registered : storage.issuer delegator = true
  claim : Validation.validateClaimType claimType = .ok ()
  metadata : Validation.validateMetadata metadata = .ok ()
  expires : ∀ time ∈ expiration, env.timestamp < time
  delegation : ∃ delegation, storage.delegation delegator delegate claimType = some delegation ∧
    ∀ time ∈ delegation.expiration, env.timestamp < time
  distinct : delegator ≠ subject
  issuerRoom : (storage.issuerAttestations delegator).length <
    storage.limits.maxAttestationsPerIssuer
  subjectRoom : (storage.subjectAttestations subject).length <
    storage.limits.maxAttestationsPerSubject
  fresh : storage.attestation attestation.id = none
  fits : StoreFits storage attestation

theorem returns_createAttestationInternal (issuer subject : Address) (claimType : Str)
    (expiration : Option Nat) (metadata jurisdiction : Option Str) (tags : Option (List Str))
    (validFrom : Option Nat) (id : Str) (attestation : Attestation Address)
    (built : attestation = { Attestation.issued
      (Attestation.generateId issuer subject claimType env.timestamp) issuer subject claimType
      env.timestamp .native with expiration, metadata, jurisdiction, validFrom, tags }) :
    Returns (createAttestationInternal issuer subject claimType expiration metadata jurisdiction
        tags validFrom) env before id after ↔
      CreateChecks before.storage env issuer subject claimType expiration metadata jurisdiction tags
        validFrom attestation ∧
      id = attestation.id ∧
      ∃ paid, FeePaid before.storage.feeConfig env issuer paid ∧
        after = ⟨{ before.storage.withIssued attestation with
            auditLog := Function.update before.storage.auditLog attestation.id
              (before.storage.auditLog attestation.id ++ [⟨.created, issuer, env.timestamp, none⟩])
            lastIssuanceTime :=
              Function.update before.storage.lastIssuanceTime issuer (some env.timestamp) },
          before.events ++ [.attestationCreated attestation], before.payments ++ paid⟩ := by
  subst built
  simp [createAttestationInternal]
  constructor
  · rintro ⟨auth, running, registered, claim, known, metadata, jurisdiction, tags, expires, starts,
      distinct, listed, rate, issuerRoom, subjectRoom, fresh, fits, -, paid, fee, same, left⟩
    exact ⟨⟨auth, running, registered, claim, known, metadata, jurisdiction, tags, expires, starts,
      distinct, listed, rate, issuerRoom, subjectRoom, fresh, fits⟩, same, paid, fee, left⟩
  · rintro ⟨⟨auth, running, registered, claim, known, metadata, jurisdiction, tags, expires, starts,
      distinct, listed, rate, issuerRoom, subjectRoom, fresh, fits⟩, same, paid, fee, left⟩
    exact ⟨auth, running, registered, claim, known, metadata, jurisdiction, tags, expires, starts,
      distinct, listed, rate, issuerRoom, subjectRoom, fresh, fits, fits.ttl, paid, fee, same, left⟩

theorem returns_importAttestation (admin issuer subject : Address) (claimType : Str)
    (timestamp : Nat) (expiration : Option Nat) (id : Str) (attestation : Attestation Address)
    (built : attestation = { Attestation.issued
      (Attestation.generateId issuer subject claimType timestamp) issuer subject claimType
      timestamp .imported with expiration }) :
    Returns (importAttestation admin issuer subject claimType timestamp expiration)
        env before id after ↔
      ImportChecks before.storage env admin issuer timestamp expiration attestation ∧
      id = attestation.id ∧
      after = ⟨{ before.storage.withIssued attestation with
          auditLog := Function.update before.storage.auditLog attestation.id
            (before.storage.auditLog attestation.id ++ [⟨.created, admin, timestamp, none⟩]) },
        before.events ++ [.attestationImported attestation], before.payments⟩ := by
  subst built
  simp [importAttestation]
  constructor
  · rintro ⟨auth, admin, running, registered, ⟨past, expires⟩, fresh, fits, ⟨-, left⟩, same⟩
    exact ⟨⟨auth, admin, running, registered, past, expires, fresh, fits⟩, same, left⟩
  · rintro ⟨⟨auth, admin, running, registered, past, expires, fresh, fits⟩, same, left⟩
    exact ⟨auth, admin, running, registered, ⟨past, expires⟩, fresh, fits, ⟨fits.ttl, left⟩, same⟩

theorem returns_bridgeAttestation (bridge subject : Address)
    (claimType sourceChain sourceTx : Str) (id : Str) (attestation : Attestation Address)
    (built : attestation = { Attestation.issued
      (Attestation.generateBridgeId bridge subject claimType sourceChain sourceTx env.timestamp)
      bridge subject claimType env.timestamp .bridged with
        sourceChain := some sourceChain, sourceTx := some sourceTx }) :
    Returns (bridgeAttestation bridge subject claimType sourceChain sourceTx)
        env before id after ↔
      BridgeChecks before.storage env bridge sourceChain sourceTx attestation ∧
      id = attestation.id ∧
      after = ⟨{ before.storage.withIssued attestation with
          auditLog := Function.update before.storage.auditLog attestation.id
            (before.storage.auditLog attestation.id ++ [⟨.created, bridge, env.timestamp, none⟩]) },
        before.events ++ [.attestationBridged attestation], before.payments⟩ := by
  subst built
  simp [bridgeAttestation]
  constructor
  · rintro ⟨auth, known, running, source, fresh, fits, ⟨-, left⟩, same⟩
    exact ⟨⟨auth, known, running, source, fresh, fits⟩, same, left⟩
  · rintro ⟨⟨auth, known, running, source, fresh, fits⟩, same, left⟩
    exact ⟨auth, known, running, source, fresh, fits, ⟨fits.ttl, left⟩, same⟩

theorem returns_createAttestationAsDelegate (delegate delegator subject : Address)
    (claimType : Str) (expiration : Option Nat) (metadata : Option Str) (id : Str)
    (attestation : Attestation Address)
    (built : attestation = { Attestation.issued
      (Attestation.generateId delegator subject claimType env.timestamp) delegator subject
      claimType env.timestamp .native with expiration, metadata }) :
    Returns (createAttestationAsDelegate delegate delegator subject claimType expiration metadata)
        env before id after ↔
      DelegateChecks before.storage env delegate delegator subject claimType expiration metadata
        attestation ∧
      id = attestation.id ∧
      after = ⟨{ before.storage.withIssued attestation with
          auditLog := Function.update before.storage.auditLog attestation.id
            (before.storage.auditLog attestation.id ++
              [⟨.created, delegate, env.timestamp, none⟩]) },
        before.events ++ [.attestationCreated attestation], before.payments⟩ := by
  subst built
  simp [createAttestationAsDelegate]
  constructor
  · rintro ⟨auth, running, registered, claim, metadata, expires, delegation, found, granted,
      distinct, issuerRoom, subjectRoom, fresh, fits, -, same, left⟩
    exact ⟨⟨auth, running, registered, claim, metadata, expires, ⟨delegation, found, granted⟩,
      distinct, issuerRoom, subjectRoom, fresh, fits⟩, same, left⟩
  · rintro ⟨⟨auth, running, registered, claim, metadata, expires, ⟨delegation, found, granted⟩,
      distinct, issuerRoom, subjectRoom, fresh, fits⟩, same, left⟩
    exact ⟨auth, running, registered, claim, metadata, expires, delegation, found, granted,
      distinct, issuerRoom, subjectRoom, fresh, fits, fits.ttl, same, left⟩

end Single

/-- The storage one turn of the batch loop leaves: everything `store_attestation`
writes but the issuer's half, and the audit entry. -/
def withListed {Address : Type} [DecidableEq Address] (storage : Storage Address)
    (attestation : Attestation Address) : Storage Address :=
  { storage with
    attestation := Function.update storage.attestation attestation.id (some attestation)
    subjectAttestations := Function.update storage.subjectAttestations attestation.subject
      (storage.subjectAttestations attestation.subject ++ [attestation.id])
    validAttestations := Function.update storage.validAttestations attestation.subject
      (storage.validAttestations attestation.subject ++ [attestation.id])
    subjectAttestationChunk := Function.update storage.subjectAttestationChunk attestation.subject
      (ChunkedIndex.rewritten (· ++ [attestation.id])
        (storage.subjectAttestationChunk attestation.subject))
    auditLog := Function.update storage.auditLog attestation.id
      (storage.auditLog attestation.id ++
        [⟨.created, attestation.issuer, attestation.timestamp, none⟩]) }

/-- One turn of the batch loop passes its checks. -/
structure Listable {Address : Type} (limits : StorageLimits) (storage : Storage Address)
    (attestation : Attestation Address) : Prop where
  fresh : storage.attestation attestation.id = none
  room : (storage.subjectAttestations attestation.subject).length <
    limits.maxAttestationsPerSubject
  ttl : TtlFits storage.ttlConfig
  subject : ChunkedIndex.Rewritable (· ++ [attestation.id])
    (storage.subjectAttestationChunk attestation.subject)

section Frame
variable {Address : Type} [DecidableEq Address] (storage : Storage Address)
  (records : List (Attestation Address))

@[simp] theorem run_withListed_ttlConfig :
    (Trace.run withListed storage records).ttlConfig = storage.ttlConfig :=
  Trace.run_keeps withListed (·.ttlConfig) (fun _ _ => rfl) storage records

@[simp] theorem run_withListed_issuerAttestations :
    (Trace.run withListed storage records).issuerAttestations = storage.issuerAttestations :=
  Trace.run_keeps withListed (·.issuerAttestations) (fun _ _ => rfl) storage records

@[simp] theorem run_withListed_issuerAttestationChunk :
    (Trace.run withListed storage records).issuerAttestationChunk =
      storage.issuerAttestationChunk :=
  Trace.run_keeps withListed (·.issuerAttestationChunk) (fun _ _ => rfl) storage records

@[simp] theorem run_withListed_issuerStats :
    (Trace.run withListed storage records).issuerStats = storage.issuerStats :=
  Trace.run_keeps withListed (·.issuerStats) (fun _ _ => rfl) storage records

@[simp] theorem run_withListed_globalStats :
    (Trace.run withListed storage records).globalStats = storage.globalStats :=
  Trace.run_keeps withListed (·.globalStats) (fun _ _ => rfl) storage records

@[simp] theorem run_withListed_lastIssuanceTime :
    (Trace.run withListed storage records).lastIssuanceTime = storage.lastIssuanceTime :=
  Trace.run_keeps withListed (·.lastIssuanceTime) (fun _ _ => rfl) storage records

end Frame

section Batch
variable {Address : Type} [DecidableEq Address] [Host Address]
  {env : Env Address} {before after : World Address}

def batchRecord (issuer : Address) (claimType : Str) (expiration : Option Nat) (timestamp : Nat)
    (subject : Address) : Attestation Address :=
  { Attestation.issued (Attestation.generateId issuer subject claimType timestamp) issuer subject
      claimType timestamp .native with expiration }

/-- The checks of a batch of issuances. -/
structure BatchChecks (storage : Storage Address) (env : Env Address) (issuer : Address)
    (subjects : List Address) (claimType : Str) (expiration : Option Nat)
    (records : List (Attestation Address)) : Prop where
  auth : issuer ∈ env.auths
  registered : storage.issuer issuer = true
  running : storage.paused = false
  claim : Validation.validateClaimType claimType = .ok ()
  expires : ∀ time ∈ expiration, env.timestamp < time
  rate : RateAllows storage env.timestamp issuer claimType
  room : saturatingAddU32 (storage.issuerAttestations issuer).length subjects.length ≤
    storage.limits.maxAttestationsPerIssuer
  listable : Trace.Each withListed (Listable storage.limits) storage records
  ttl : TtlFits storage.ttlConfig
  chunks : ChunkedIndex.Rewritable (· ++ records.map (·.id))
    (storage.issuerAttestationChunk issuer)

theorem returns_createBatchStep (issuer : Address) (claimType : Str) (expiration : Option Nat)
    (timestamp : Nat) (limits : StorageLimits) (subject : Address) (id : Str)
    (record : Attestation Address)
    (built : record = batchRecord issuer claimType expiration timestamp subject) :
    Returns (createBatchStep issuer claimType expiration timestamp limits subject)
        env before id after ↔
      Listable limits before.storage record ∧ id = record.id ∧
        after = ⟨withListed before.storage record,
          before.events ++ [.attestationCreated record], before.payments⟩ := by
  subst built
  simp [createBatchStep]
  constructor
  · rintro ⟨fresh, room, ttl, ⟨-, chunks⟩, -, same, left⟩
    refine ⟨⟨fresh, room, ttl, chunks⟩, same, left.trans ?_⟩
    simp only [World.write, World.publish, ChunkedIndex.Side.write_subject, withListed,
      batchRecord, Attestation.issued]
  · rintro ⟨⟨fresh, room, ttl, chunks⟩, same, left⟩
    refine ⟨fresh, room, ttl, ⟨ttl, chunks⟩, ttl, same, left.trans ?_⟩
    simp only [World.write, World.publish, ChunkedIndex.Side.write_subject, withListed,
      batchRecord, Attestation.issued]

theorem returns_createBatchLoop (issuer : Address) (claimType : Str) (expiration : Option Nat)
    (timestamp : Nat) (limits : StorageLimits) (subjects : List Address) (ids result : List Str)
    (records : List (Attestation Address))
    (built : records = subjects.map (batchRecord issuer claimType expiration timestamp)) :
    Returns (createBatchLoop issuer claimType expiration timestamp limits subjects ids)
        env before result after ↔
      Trace.Each withListed (Listable limits) before.storage records ∧
        result = ids ++ records.map (·.id) ∧
        after = ⟨Trace.run withListed before.storage records,
          before.events ++ records.map .attestationCreated, before.payments⟩ := by
  subst built
  induction subjects generalizing ids before with
  | nil => simp [createBatchLoop, Trace.Each]
  | cons subject rest ih =>
      simp only [createBatchLoop, returns_bind, returns_createBatchStep _ _ _ _ _ _ _ _ rfl, ih,
        List.map_cons, Trace.Each, Trace.run_cons]
      constructor
      · rintro ⟨_, _, ⟨listable, rfl, rfl⟩, remaining, rfl, rfl⟩
        exact ⟨⟨listable, remaining⟩, by simp, by simp⟩
      · rintro ⟨⟨listable, remaining⟩, rfl, rfl⟩
        exact ⟨_, _, ⟨listable, rfl, rfl⟩, remaining, by simp, by simp⟩

theorem returns_createAttestationsBatch (issuer : Address) (subjects : List Address)
    (claimType : Str) (expiration : Option Nat) (ids : List Str)
    (records : List (Attestation Address))
    (built : records = subjects.map (batchRecord issuer claimType expiration env.timestamp)) :
    Returns (createAttestationsBatch issuer subjects claimType expiration) env before ids after ↔
      BatchChecks before.storage env issuer subjects claimType expiration records ∧
      ids = records.map (·.id) ∧
      after = ⟨{ Trace.run withListed before.storage records with
          issuerAttestations := Function.update before.storage.issuerAttestations issuer
            (before.storage.issuerAttestations issuer ++ records.map (·.id))
          issuerAttestationChunk := Function.update before.storage.issuerAttestationChunk issuer
            (ChunkedIndex.rewritten (· ++ records.map (·.id))
              (before.storage.issuerAttestationChunk issuer))
          issuerStats := Function.update before.storage.issuerStats issuer
            ⟨saturatingAddU64 (before.storage.issuerStats issuer).totalIssued records.length⟩
          globalStats := { before.storage.globalStats with
            totalAttestations :=
              saturatingAddU64 before.storage.globalStats.totalAttestations records.length }
          lastIssuanceTime :=
            Function.update before.storage.lastIssuanceTime issuer (some env.timestamp) },
        before.events ++ records.map .attestationCreated, before.payments⟩ := by
  simp [createAttestationsBatch, returns_createBatchLoop _ _ _ _ _ _ _ _ records built]
  constructor
  · rintro ⟨auth, registered, running, claim, expires, rate, room, ⟨listable, rfl⟩, -,
      ⟨ttl, chunks⟩, -, left⟩
    refine ⟨⟨auth, registered, running, claim, expires, rate, room, listable, ttl, chunks⟩, rfl,
      left.trans ?_⟩
    simp only [World.write, ChunkedIndex.Side.write_issuer, run_withListed_ttlConfig,
      run_withListed_issuerAttestations, run_withListed_issuerAttestationChunk,
      run_withListed_issuerStats, run_withListed_globalStats, run_withListed_lastIssuanceTime,
      List.length_map]
  · rintro ⟨⟨auth, registered, running, claim, expires, rate, room, listable, ttl, chunks⟩, rfl,
      left⟩
    refine ⟨auth, registered, running, claim, expires, rate, room, ⟨listable, rfl⟩, fun _ => ttl,
      ⟨ttl, chunks⟩, ttl, left.trans ?_⟩
    simp only [World.write, ChunkedIndex.Side.write_issuer, run_withListed_ttlConfig,
      run_withListed_issuerAttestations, run_withListed_issuerAttestationChunk,
      run_withListed_issuerStats, run_withListed_globalStats, run_withListed_lastIssuanceTime,
      List.length_map]

end Batch

end TrustLink.Contract
