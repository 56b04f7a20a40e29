import TrustLink.ChunkedIndex
import TrustLink.Identifiers
import TrustLink.Validation

/-!
The operations of attestation.rs: issuance in its six forms, revocation,
renewal, transfer, deletion and endorsement. Each follows its source line by line.
-/
namespace TrustLink
open Transaction

def maxSourceChainLen : Nat := 32

def maxSourceTxLen : Nat := 128

/-- The loop of `u64_to_string` over its 20-byte buffer; `none` is a position below zero. -/
def u64DigitLoop : Nat → Nat → Str → Option (Nat × Str)
  | 0, val, buf => if val = 0 then some (0, buf) else none
  | pos + 1, val, buf =>
      if val = 0 then some (pos + 1, buf)
      else u64DigitLoop pos (val / 10) (buf.set pos (48 + (val % 10).toUInt8))

def u64ToString (n : Nat) : Option Str :=
  if n = 0 then some (ascii "0")
  else (u64DigitLoop 20 n (List.replicate 20 0)).map fun (pos, buf) => buf.drop pos

/-- The part shared by all records a creating operation builds: not revoked, not
deleted, optional fields absent. -/
@[simp] def Attestation.issued {Address : Type} (id : Str) (issuer subject : Address) (claimType : Str)
    (timestamp : Nat) (origin : AttestationOrigin) : Attestation Address where
  id := id
  issuer := issuer
  subject := subject
  claimType := claimType
  timestamp := timestamp
  expiration := none
  revoked := false
  metadata := none
  jurisdiction := none
  validFrom := none
  origin := origin
  sourceChain := none
  sourceTx := none
  tags := none
  revocationReason := none
  deleted := false

section Checks

def validateReason (reason : Option Str) : Except Error Unit :=
  if reason.any fun reason => 128 < reason.length then .error .reasonTooLong else .ok ()

def validateSourceReference (sourceChain sourceTx : Str) : Except Error Unit :=
  if sourceChain = [] ∨ sourceTx = [] then .error .invalidSourceReference
  else if maxSourceChainLen < sourceChain.length ∨ maxSourceTxLen < sourceTx.length then
    .error .metadataTooLong
  else .ok ()

def validateTags (tags : Option (List Str)) : Except Error Unit :=
  match tags with
  | none => .ok ()
  | some tags =>
      if 5 < tags.length then .error .tooManyTags
      else if tags.any fun tag => 32 < tag.length then .error .tagTooLong
      else .ok ()

def validJurisdictions : List Str := [
  "AF", "AX", "AL", "DZ", "AS", "AD", "AO", "AI", "AQ", "AG", "AR", "AM", "AW", "AU", "AT", "AZ",
  "BS", "BH", "BD", "BB", "BY", "BE", "BZ", "BJ", "BM", "BT", "BO", "BQ", "BA", "BW", "BV", "BR",
  "IO", "BN", "BG", "BF", "BI", "CV", "KH", "CM", "CA", "KY", "CF", "TD", "CL", "CN", "CX", "CC",
  "CO", "KM", "CG", "CD", "CK", "CR", "CI", "HR", "CU", "CW", "CY", "CZ", "DK", "DJ", "DM", "DO",
  "EC", "EG", "SV", "GQ", "ER", "EE", "SZ", "ET", "FK", "FO", "FJ", "FI", "FR", "GF", "PF", "TF",
  "GA", "GM", "GE", "DE", "GH", "GI", "GR", "GL", "GD", "GP", "GU", "GT", "GG", "GN", "GW", "GY",
  "HT", "HM", "VA", "HN", "HK", "HU", "IS", "IN", "ID", "IR", "IQ", "IE", "IM", "IL", "IT", "JM",
  "JP", "JE", "JO", "KZ", "KE", "KI", "KP", "KR", "KW", "KG", "LA", "LV", "LB", "LS", "LR", "LY",
  "LI", "LT", "LU", "MO", "MK", "MG", "MW", "MY", "MV", "ML", "MT", "MH", "MQ", "MR", "MU", "YT",
  "MX", "FM", "MD", "MC", "MN", "ME", "MS", "MA", "MZ", "MM", "NA", "NR", "NP", "NL", "NC", "NZ",
  "NI", "NE", "NG", "NU", "NF", "MP", "NO", "OM", "PK", "PW", "PS", "PA", "PG", "PY", "PE", "PH",
  "PN", "PL", "PT", "PR", "QA", "RE", "RO", "RU", "RW", "BL", "SH", "KN", "LC", "MF", "PM", "VC",
  "WS", "SM", "ST", "SA", "SN", "RS", "SC", "SL", "SG", "SX", "SK", "SI", "SB", "SO", "ZA", "GS",
  "SS", "ES", "LK", "SD", "SR", "SJ", "SE", "CH", "SY", "TW", "TJ", "TZ", "TH", "TL", "TG", "TK",
  "TO", "TT", "TN", "TR", "TM", "TC", "TV", "UG", "UA", "AE", "GB", "US", "UM", "UY", "UZ", "VU",
  "VE", "VN", "VG", "VI", "WF", "EH", "YE", "ZM", "ZW"].map ascii

def isAsciiUppercase (byte : UInt8) : Bool := 65 ≤ byte && byte ≤ 90

def validateJurisdiction (jurisdiction : Option Str) : Except Error Unit :=
  match jurisdiction with
  | none => .ok ()
  | some code =>
      if code.length ≠ 2 then .error .invalidJurisdiction
      else if !code.all isAsciiUppercase then .error .invalidJurisdiction
      else if code ∉ validJurisdictions then .error .invalidJurisdiction
      else .ok ()

variable {Address : Type}

@[simp] def validateNativeExpiration (expiration : Option Nat) : Program Address Unit := do
  let now ← ledgerTimestamp
  failWhen (∃ value ∈ expiration, value ≤ now) .invalidExpiration

@[simp] def validateValidFrom (validFrom : Option Nat) : Program Address Unit := do
  let now ← ledgerTimestamp
  failWhen (∃ value ∈ validFrom, value ≤ now) .invalidValidFrom

@[simp] def validateImportTimestamps (timestamp : Nat) (expiration : Option Nat) :
    Program Address Unit := do
  let now ← ledgerTimestamp
  failWhen (now < timestamp) .invalidTimestamp
  failWhen (∃ value ∈ expiration, value ≤ timestamp) .invalidExpiration

/-- The interval that applies to a claim type: its own, else the global one. -/
@[simp] def issuanceInterval (claimType : Str) : Program Address (Option Nat) := do
  let claimLimit ← Storage.getClaimTypeRateLimit claimType
  let config ← Storage.getRateLimitConfig
  pure (claimLimit.or (config.map (·.minIssuanceInterval)))

def checkRateLimit (issuer : Address) (claimType : Str) : Program Address Unit := do
  let interval ← issuanceInterval claimType
  let now ← ledgerTimestamp
  let last ← Storage.getLastIssuanceTime issuer
  -- the difference saturates at zero, as `saturating_sub` does
  failWhen (∃ limit ∈ interval, limit ≠ 0 ∧ ∃ time ∈ last, now - time < limit) .rateLimited

@[simp] def loadFeeConfig : Program Address (FeeConfig Address) := do
  let config ← Storage.getFeeConfig
  orError .notInitialized config

def chargeAttestationFee (issuer : Address) : Program Address Unit := do
  let feeConfig ← loadFeeConfig
  if feeConfig.attestationFee = 0 then pure ()
  else do
    let feeToken ← orError .feeTokenRequired feeConfig.feeToken
    tokenTransfer ⟨feeToken, issuer, feeConfig.feeCollector, feeConfig.attestationFee⟩

/-- The condition under which `check_rate_limit` passes. -/
def RateAllows (storage : Storage Address) (now : Nat) (issuer : Address) (claimType : Str) :
    Prop :=
  ∀ limit ∈ (storage.claimTypeRateLimit claimType).or
      (storage.rateLimitConfig.map (·.minIssuanceInterval)),
    limit ≠ 0 → ∀ time ∈ storage.lastIssuanceTime issuer, limit ≤ now - time

/-- The payments `charge_attestation_fee` makes. -/
def FeePaid (feeConfig : Option (FeeConfig Address)) (env : Env Address) (issuer : Address)
    (paid : List (Payment Address)) : Prop :=
  ∃ config, feeConfig = some config ∧
    ((config.attestationFee = 0 ∧ paid = []) ∨
      (config.attestationFee ≠ 0 ∧ ∃ token, config.feeToken = some token ∧
        env.transferSucceeds ⟨token, issuer, config.feeCollector, config.attestationFee⟩ = true ∧
        paid = [⟨token, issuer, config.feeCollector, config.attestationFee⟩]))

variable {env : Env Address} {before after : World Address}

@[simp] theorem returns_checkRateLimit (issuer : Address) (claimType : Str) (done : Unit) :
    Returns (checkRateLimit issuer claimType) env before done after ↔
      RateAllows before.storage env.timestamp issuer claimType ∧ after = before := by
  simp [checkRateLimit, RateAllows]
  exact and_comm

@[simp] theorem returns_chargeAttestationFee (issuer : Address) (done : Unit) :
    Returns (chargeAttestationFee issuer) env before done after ↔
      ∃ paid, FeePaid before.storage.feeConfig env issuer paid ∧
        after = before.pay paid := by
  simp only [chargeAttestationFee, FeePaid, returns_bind, loadFeeConfig, Storage.getFeeConfig,
    load, returns_reads, orError, returns_orFail, returns_ite, returns_pure, returns_tokenTransfer]
  constructor
  · rintro ⟨config, _, ⟨_, _, ⟨rfl, rfl⟩, found, rfl⟩, ⟨free, _, rfl⟩ |
      ⟨charged, token, _, ⟨known, rfl⟩, transferred, rfl⟩⟩
    · exact ⟨[], ⟨config, found, .inl ⟨free, rfl⟩⟩, by simp [World.pay]⟩
    · exact ⟨_, ⟨config, found, .inr ⟨charged, token, known, transferred, rfl⟩⟩, rfl⟩
  · rintro ⟨paid, ⟨config, found, ⟨free, rfl⟩ | ⟨charged, token, known, transferred, rfl⟩⟩, rfl⟩
    · exact ⟨config, _, ⟨_, _, ⟨rfl, rfl⟩, found, rfl⟩, .inl ⟨free, trivial, by simp [World.pay]⟩⟩
    · exact ⟨config, _, ⟨_, _, ⟨rfl, rfl⟩, found, rfl⟩,
        .inr ⟨charged, token, _, ⟨known, rfl⟩, transferred, rfl⟩⟩

end Checks

section Store
variable {Address : Type} [DecidableEq Address]

def storeAttestation (attestation : Attestation Address) : Program Address Unit := do
  Storage.setAttestation attestation
  Storage.addSubjectAttestation attestation.subject attestation.id
  Storage.addIssuerAttestation attestation.issuer attestation.id
  Storage.addValidAttestation attestation.subject attestation.id
  ChunkedIndex.addSubject attestation.subject attestation.id
  ChunkedIndex.addIssuer attestation.issuer attestation.id
  let stats ← Storage.getIssuerStats attestation.issuer
  let totalIssued ← checkedU64 (stats.totalIssued + 1)
  Storage.setIssuerStats attestation.issuer ⟨totalIssued⟩
  Storage.incrementTotalAttestations 1

/-- The storage `store_attestation` leaves. -/
def Storage.withIssued (storage : Storage Address) (attestation : Attestation Address) :
    Storage Address :=
  { storage with
    attestation := Function.update storage.attestation attestation.id (some attestation)
    subjectAttestations := Function.update storage.subjectAttestations attestation.subject
      (storage.subjectAttestations attestation.subject ++ [attestation.id])
    issuerAttestations := Function.update storage.issuerAttestations attestation.issuer
      (storage.issuerAttestations attestation.issuer ++ [attestation.id])
    validAttestations := Function.update storage.validAttestations attestation.subject
      (storage.validAttestations attestation.subject ++ [attestation.id])
    subjectAttestationChunk := Function.update storage.subjectAttestationChunk attestation.subject
      (ChunkedIndex.rewritten (· ++ [attestation.id])
        (storage.subjectAttestationChunk attestation.subject))
    issuerAttestationChunk := Function.update storage.issuerAttestationChunk attestation.issuer
      (ChunkedIndex.rewritten (· ++ [attestation.id])
        (storage.issuerAttestationChunk attestation.issuer))
    issuerStats := Function.update storage.issuerStats attestation.issuer
      ⟨(storage.issuerStats attestation.issuer).totalIssued + 1⟩
    globalStats := { storage.globalStats with
      totalAttestations := saturatingAddU64 storage.globalStats.totalAttestations 1 } }

/-- Nothing in `store_attestation` traps. -/
structure StoreFits (storage : Storage Address) (attestation : Attestation Address) : Prop where
  ttl : TtlFits storage.ttlConfig
  total : (storage.issuerStats attestation.issuer).totalIssued + 1 < u64Range
  subject : ChunkedIndex.Rewritable (· ++ [attestation.id])
    (storage.subjectAttestationChunk attestation.subject)
  issuer : ChunkedIndex.Rewritable (· ++ [attestation.id])
    (storage.issuerAttestationChunk attestation.issuer)

section Rules
variable {env : Env Address} {before after : World Address}
  (storage : Storage Address) (attestation : Attestation Address)

@[simp] theorem Storage.withIssued_ttlConfig :
    (storage.withIssued attestation).ttlConfig = storage.ttlConfig := rfl

@[simp] theorem Storage.withIssued_feeConfig :
    (storage.withIssued attestation).feeConfig = storage.feeConfig := rfl

@[simp] theorem returns_storeAttestation (done : Unit) :
    Returns (storeAttestation attestation) env before done after ↔
      StoreFits before.storage attestation ∧ after = before.write (·.withIssued attestation) := by
  simp [storeAttestation]
  constructor
  · rintro ⟨ttl, ⟨-, subject⟩, ⟨-, issuer⟩, total, -, same⟩
    refine ⟨⟨ttl, total, subject, issuer⟩, same.trans ?_⟩
    simp only [World.write, Storage.withIssued, ChunkedIndex.Side.write_subject,
      ChunkedIndex.Side.write_issuer]
  · rintro ⟨⟨ttl, total, subject, issuer⟩, same⟩
    refine ⟨ttl, ⟨ttl, subject⟩, ⟨ttl, issuer⟩, total, ttl, same.trans ?_⟩
    simp only [World.write, Storage.withIssued, ChunkedIndex.Side.write_subject,
      ChunkedIndex.Side.write_issuer]

end Rules

end Store

namespace Contract

section Issuance
variable {Address : Type} [DecidableEq Address] [Host Address]

def createAttestationInternal (issuer subject : Address) (claimType : Str)
    (expiration : Option Nat) (metadata jurisdiction : Option Str) (tags : Option (List Str))
    (validFrom : Option Nat) : Program Address Str := do
  requireAuth issuer
  Validation.requireNotPaused
  Validation.requireIssuer issuer
  validated (Validation.validateClaimType claimType)
  Validation.requireRegisteredClaimType claimType
  validated (Validation.validateMetadata metadata)
  validated (validateJurisdiction jurisdiction)
  validated (validateTags tags)
  validateNativeExpiration expiration
  validateValidFrom validFrom
  failWhen (issuer = subject) .unauthorized
  let whitelistMode ← Storage.isWhitelistMode issuer
  let whitelisted ← Storage.isWhitelisted issuer subject
  failWhen (whitelistMode = true ∧ whitelisted = false) .subjectNotWhitelisted
  checkRateLimit issuer claimType
  let limits ← Storage.getLimits
  let issuerIds ← Storage.getIssuerAttestations issuer
  failWhen (limits.maxAttestationsPerIssuer ≤ issuerIds.length) .limitExceeded
  let subjectIds ← Storage.getSubjectAttestations subject
  failWhen (limits.maxAttestationsPerSubject ≤ subjectIds.length) .limitExceeded
  let timestamp ← ledgerTimestamp
  let attestationId := Attestation.generateId issuer subject claimType timestamp
  let stored ← Storage.hasAttestation attestationId
  failWhen (stored = true) .duplicateAttestation
  let attestation : Attestation Address :=
    { Attestation.issued attestationId issuer subject claimType timestamp .native with
      expiration, metadata, jurisdiction, validFrom, tags }
  storeAttestation attestation
  Storage.appendAuditEntry attestationId ⟨.created, attestation.issuer, timestamp, none⟩
  Storage.setLastIssuanceTime issuer timestamp
  -- charged after the writes; a payment that fails undoes them
  chargeAttestationFee issuer
  emit (.attestationCreated attestation)
  pure attestationId

def createAttestation (issuer subject : Address) (claimType : Str) (expiration : Option Nat)
    (metadata : Option Str) (tags : Option (List Str)) : Program Address Str :=
  createAttestationInternal issuer subject claimType expiration metadata none tags none

def createAttestationValidFrom (issuer subject : Address) (claimType : Str)
    (expiration : Option Nat) (metadata : Option Str) (tags : Option (List Str))
    (validFrom : Nat) : Program Address Str :=
  createAttestationInternal issuer subject claimType expiration metadata none tags (some validFrom)

def createAttestationJurisdiction (issuer subject : Address) (claimType : Str)
    (expiration : Option Nat) (metadata jurisdiction : Option Str) (tags : Option (List Str)) :
    Program Address Str :=
  createAttestationInternal issuer subject claimType expiration metadata jurisdiction tags none

def importAttestation (admin issuer subject : Address) (claimType : Str) (timestamp : Nat)
    (expiration : Option Nat) : Program Address Str := do
  requireAuth admin
  Validation.requireAdmin admin
  Validation.requireNotPaused
  Validation.requireIssuer issuer
  validateImportTimestamps timestamp expiration
  let attestationId := Attestation.generateId issuer subject claimType timestamp
  let stored ← Storage.hasAttestation attestationId
  failWhen (stored = true) .duplicateAttestation
  let attestation : Attestation Address :=
    { Attestation.issued attestationId issuer subject claimType timestamp .imported with
      expiration }
  storeAttestation attestation
  emit (.attestationImported attestation)
  -- logged as done by the administrator, at the time the record was issued
  Storage.appendAuditEntry attestationId ⟨.created, admin, timestamp, none⟩
  pure attestationId

def bridgeAttestation (bridge subject : Address) (claimType sourceChain sourceTx : Str) :
    Program Address Str := do
  requireAuth bridge
  Validation.requireBridge bridge
  Validation.requireNotPaused
  validated (validateSourceReference sourceChain sourceTx)
  let timestamp ← ledgerTimestamp
  let attestationId :=
    Attestation.generateBridgeId bridge subject claimType sourceChain sourceTx timestamp
  let stored ← Storage.hasAttestation attestationId
  failWhen (stored = true) .duplicateAttestation
  let attestation : Attestation Address :=
    { Attestation.issued attestationId bridge subject claimType timestamp .bridged with
      sourceChain := some sourceChain
      sourceTx := some sourceTx }
  storeAttestation attestation
  emit (.attestationBridged attestation)
  Storage.appendAuditEntry attestationId ⟨.created, attestation.issuer, timestamp, none⟩
  pure attestationId

/-- The body of the loop over the subjects of a batch. -/
def createBatchStep (issuer : Address) (claimType : Str) (expiration : Option Nat)
    (timestamp : Nat) (limits : StorageLimits) (subject : Address) : Program Address Str := do
  let attestationId := Attestation.generateId issuer subject claimType timestamp
  let stored ← Storage.hasAttestation attestationId
  failWhen (stored = true) .duplicateAttestation
  let subjectIds ← Storage.getSubjectAttestations subject
  failWhen (limits.maxAttestationsPerSubject ≤ subjectIds.length) .limitExceeded
  let attestation : Attestation Address :=
    { Attestation.issued attestationId issuer subject claimType timestamp .native with expiration }
  Storage.setAttestation attestation
  Storage.addSubjectAttestation subject attestationId
  Storage.addValidAttestation subject attestationId
  ChunkedIndex.addSubject subject attestationId
  Storage.appendAuditEntry attestationId ⟨.created, issuer, timestamp, none⟩
  emit (.attestationCreated attestation)
  pure attestationId

/-- `ids` and `new_issuer_ids` of the source receive the same elements and are
one accumulator here. -/
def createBatchLoop (issuer : Address) (claimType : Str) (expiration : Option Nat)
    (timestamp : Nat) (limits : StorageLimits) :
    List Address → List Str → Program Address (List Str)
  | [], ids => pure ids
  | subject :: rest, ids => do
      let attestationId ← createBatchStep issuer claimType expiration timestamp limits subject
      createBatchLoop issuer claimType expiration timestamp limits rest (ids ++ [attestationId])

def createAttestationsBatch (issuer : Address) (subjects : List Address) (claimType : Str)
    (expiration : Option Nat) : Program Address (List Str) := do
  requireAuth issuer
  Validation.requireIssuer issuer
  Validation.requireNotPaused
  validated (Validation.validateClaimType claimType)
  validateNativeExpiration expiration
  checkRateLimit issuer claimType
  let timestamp ← ledgerTimestamp
  let limits ← Storage.getLimits
  let issuerIds ← Storage.getIssuerAttestations issuer
  failWhen (limits.maxAttestationsPerIssuer < saturatingAddU32 issuerIds.length subjects.length)
    .limitExceeded
  let ids ← createBatchLoop issuer claimType expiration timestamp limits subjects []
  -- what `storeAttestation` would write for the issuer each time is written once here
  Storage.addIssuerAttestationsBulk issuer ids
  ChunkedIndex.addIssuerBulk issuer ids
  Storage.incrementIssuerStats issuer ids.length
  Storage.incrementTotalAttestations ids.length
  Storage.setLastIssuanceTime issuer timestamp
  pure ids

def createAttestationAsDelegate (delegate delegator subject : Address) (claimType : Str)
    (expiration : Option Nat) (metadata : Option Str) : Program Address Str := do
  requireAuth delegate
  Validation.requireNotPaused
  Validation.requireIssuer delegator
  validated (Validation.validateClaimType claimType)
  validated (Validation.validateMetadata metadata)
  validateNativeExpiration expiration
  let delegation ← Storage.getDelegation delegator delegate claimType
  let delegation ← orError .unauthorized delegation
  let timestamp ← ledgerTimestamp
  failWhen (∃ expiration ∈ delegation.expiration, expiration ≤ timestamp) .unauthorized
  -- the delegator's whitelist and rate limit are not looked at
  failWhen (delegator = subject) .unauthorized
  let limits ← Storage.getLimits
  let issuerIds ← Storage.getIssuerAttestations delegator
  failWhen (limits.maxAttestationsPerIssuer ≤ issuerIds.length) .limitExceeded
  let subjectIds ← Storage.getSubjectAttestations subject
  failWhen (limits.maxAttestationsPerSubject ≤ subjectIds.length) .limitExceeded
  let attestationId := Attestation.generateId delegator subject claimType timestamp
  let stored ← Storage.hasAttestation attestationId
  failWhen (stored = true) .duplicateAttestation
  let attestation : Attestation Address :=
    { Attestation.issued attestationId delegator subject claimType timestamp .native with
      expiration, metadata }
  storeAttestation attestation
  Storage.appendAuditEntry attestationId ⟨.created, delegate, timestamp, none⟩
  emit (.attestationCreated attestation)
  pure attestationId

end Issuance

section Lifecycle
variable {Address : Type} [DecidableEq Address]

def revokeAttestation (issuer : Address) (attestationId : Str) (reason : Option Str) :
    Program Address Unit := do
  requireAuth issuer
  Validation.requireNotPaused
  Validation.requireIssuer issuer
  validated (validateReason reason)
  let attestation ← Storage.getAttestation attestationId
  failWhen (attestation.issuer ≠ issuer) .unauthorized
  failWhen (attestation.revoked = true) .alreadyRevoked
  Storage.setAttestation { attestation with revoked := true, revocationReason := reason }
  Storage.removeSubjectAttestation attestation.subject attestationId
  Storage.removeValidAttestation attestation.subject attestationId
  Storage.removeIssuerAttestation issuer attestationId
  ChunkedIndex.removeSubject attestation.subject attestationId
  ChunkedIndex.removeIssuer issuer attestationId
  emit (.attestationRevoked attestationId issuer reason)
  let timestamp ← ledgerTimestamp
  Storage.appendAuditEntry attestationId ⟨.revoked, issuer, timestamp, reason⟩
  Storage.incrementTotalRevocations 1

def renewAttestation (issuer : Address) (attestationId : Str) (newExpiration : Option Nat) :
    Program Address Unit := do
  requireAuth issuer
  Validation.requireIssuer issuer
  Validation.requireNotPaused
  validateNativeExpiration newExpiration
  let attestation ← Storage.getAttestation attestationId
  failWhen (attestation.issuer ≠ issuer) .unauthorized
  failWhen (attestation.revoked = true) .alreadyRevoked
  Storage.setAttestation { attestation with expiration := newExpiration }
  emit (.attestationRenewed attestationId issuer newExpiration)
  let details ← orFail .trap (newExpiration.mapM u64ToString)
  let timestamp ← ledgerTimestamp
  Storage.appendAuditEntry attestationId ⟨.renewed, issuer, timestamp, details⟩

/-- The first loop of a batch revocation, which reads and checks every record. -/
def revokeBatchLoad (issuer : Address) :
    List Str → List Str → List (Attestation Address) → Program Address (List (Attestation Address))
  | [], _, attestations => pure attestations
  | id :: rest, seenIds, attestations => do
      failWhen (id ∈ seenIds) .duplicateAttestation
      let attestation ← Storage.getAttestation id
      failWhen (attestation.issuer ≠ issuer) .unauthorized
      failWhen (attestation.revoked = true) .alreadyRevoked
      revokeBatchLoad issuer rest (seenIds ++ [id]) (attestations ++ [attestation])

/-- The body of the second loop. It updates neither the valid-claim index nor
the chunked indexes. -/
def revokeBatchWrite (issuer : Address) (reason : Option Str) (attestation : Attestation Address) :
    Program Address Unit := do
  Storage.setAttestation { attestation with revoked := true, revocationReason := reason }
  Storage.removeSubjectAttestation attestation.subject attestation.id
  Storage.removeIssuerAttestation issuer attestation.id
  emit (.attestationRevokedWithReason attestation.id issuer reason)
  let timestamp ← ledgerTimestamp
  Storage.appendAuditEntry attestation.id ⟨.revoked, issuer, timestamp, reason⟩

def revokeAttestationsBatch (issuer : Address) (attestationIds : List Str)
    (reason : Option Str) : Program Address Nat := do
  requireAuth issuer
  Validation.requireNotPaused
  Validation.requireIssuer issuer
  validated (validateReason reason)
  failWhen (50 < attestationIds.length) .limitExceeded
  let attestations ← revokeBatchLoad issuer attestationIds [] []
  each (revokeBatchWrite issuer reason) attestations
  let count := attestations.length
  if 0 < count then Storage.incrementTotalRevocations count else pure ()
  pure count

def updateExpiration (issuer : Address) (attestationId : Str) (newExpiration : Option Nat) :
    Program Address Unit := do
  requireAuth issuer
  Validation.requireIssuer issuer
  Validation.requireNotPaused
  validateNativeExpiration newExpiration
  let attestation ← Storage.getAttestation attestationId
  failWhen (attestation.issuer ≠ issuer) .unauthorized
  failWhen (attestation.revoked = true) .alreadyRevoked
  Storage.setAttestation { attestation with expiration := newExpiration }
  emit (.attestationRenewed attestationId issuer newExpiration)
  let timestamp ← ledgerTimestamp
  Storage.appendAuditEntry attestationId ⟨.updated, issuer, timestamp, none⟩

/-- Moves only the flat issuer index; the revoked flag is not looked at. -/
def transferAttestation [Host Address] (admin : Address) (attestationId : Str)
    (newIssuer : Address) : Program Address Unit := do
  requireAuth admin
  Validation.requireAdmin admin
  Validation.requireIssuer newIssuer
  let attestation ← Storage.getAttestation attestationId
  let oldIssuer := attestation.issuer
  if oldIssuer = newIssuer then pure ()
  else do
    Storage.removeIssuerAttestation oldIssuer attestationId
    Storage.addIssuerAttestation newIssuer attestationId
    let oldStats ← Storage.getIssuerStats oldIssuer
    -- neither counter traps: one stops at zero, the other at the largest `u64`
    Storage.setIssuerStats oldIssuer ⟨oldStats.totalIssued - 1⟩
    let newStats ← Storage.getIssuerStats newIssuer
    Storage.setIssuerStats newIssuer ⟨saturatingAddU64 newStats.totalIssued 1⟩
    Storage.setAttestation { attestation with issuer := newIssuer }
    let timestamp ← ledgerTimestamp
    Storage.appendAuditEntry attestationId
      ⟨.transferred, admin, timestamp, some (Host.addressToString newIssuer)⟩
    emit (.attestationTransferred attestationId oldIssuer newIssuer)

def requestDeletion (subject : Address) (attestationId : Str) : Program Address Unit := do
  requireAuth subject
  let attestation ← Storage.getAttestation attestationId
  failWhen (attestation.subject ≠ subject) .unauthorized
  -- the issuer's list and chunks keep the id
  Storage.setAttestation { attestation with deleted := true }
  Storage.removeSubjectAttestation subject attestationId
  Storage.removeValidAttestation subject attestationId
  ChunkedIndex.removeSubject subject attestationId
  let timestamp ← ledgerTimestamp
  emit (.deletionRequested subject attestationId timestamp)
  Storage.appendAuditEntry attestationId ⟨.deleted, subject, timestamp, none⟩

def endorseAttestation (endorser : Address) (attestationId : Str) : Program Address Unit := do
  requireAuth endorser
  Validation.requireIssuer endorser
  Validation.requireNotPaused
  let attestation ← Storage.getAttestation attestationId
  failWhen (attestation.issuer = endorser) .cannotEndorseOwn
  failWhen (attestation.revoked = true) .alreadyRevoked
  let existing ← Storage.getEndorsements attestationId
  failWhen (∃ endorsement ∈ existing, endorsement.endorser = endorser) .alreadyEndorsed
  let timestamp ← ledgerTimestamp
  Storage.addEndorsement attestationId ⟨attestationId, endorser, timestamp⟩

end Lifecycle

end Contract

end TrustLink
