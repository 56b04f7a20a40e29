import TrustLink.Frame

/-!
Which fields of the storage each group of operations can write. What lies outside of them
is as it was, whatever a later property reads.
-/
namespace TrustLink
open Transaction Contract

section Groups
variable {Address : Type}

/-- The fields of the workflows: the register, its chunked indexes, counters and logs, the
requests and the proposals. -/
structure Work (Address : Type) where
  attestation : Str → Option (Attestation Address)
  subjectAttestations : Address → List Str
  validAttestations : Address → List Str
  issuerAttestations : Address → List Str
  subjectAttestationChunk : Address → Nat → Option (List Str)
  issuerAttestationChunk : Address → Nat → Option (List Str)
  issuerStats : Address → IssuerStats
  globalStats : GlobalStats
  auditLog : Str → List (AuditEntry Address)
  lastIssuanceTime : Address → Option Nat
  request : Str → Option (AttestationRequest Address)
  pendingRequests : Address → List Str
  multisigProposal : Str → Option (MultiSigProposal Address)

def Storage.work (storage : Storage Address) : Work Address where
  attestation := storage.attestation
  subjectAttestations := storage.subjectAttestations
  validAttestations := storage.validAttestations
  issuerAttestations := storage.issuerAttestations
  subjectAttestationChunk := storage.subjectAttestationChunk
  issuerAttestationChunk := storage.issuerAttestationChunk
  issuerStats := storage.issuerStats
  globalStats := storage.globalStats
  auditLog := storage.auditLog
  lastIssuanceTime := storage.lastIssuanceTime
  request := storage.request
  pendingRequests := storage.pendingRequests
  multisigProposal := storage.multisigProposal

def Storage.withWork (storage : Storage Address) (work : Work Address) : Storage Address :=
  { storage with
    attestation := work.attestation
    subjectAttestations := work.subjectAttestations
    validAttestations := work.validAttestations
    issuerAttestations := work.issuerAttestations
    subjectAttestationChunk := work.subjectAttestationChunk
    issuerAttestationChunk := work.issuerAttestationChunk
    issuerStats := work.issuerStats
    globalStats := work.globalStats
    auditLog := work.auditLog
    lastIssuanceTime := work.lastIssuanceTime
    request := work.request
    pendingRequests := work.pendingRequests
    multisigProposal := work.multisigProposal }

/-- Only fields of the workflows have changed. -/
def Works (before after : Storage Address) : Prop := after = before.withWork after.work

/-- What the workflows cannot write keeps its value. -/
theorem Works.kept {Part : Type} {before after : Storage Address} (works : Works before after)
    (part : Storage Address → Part)
    (aside : ∀ storage work, part (storage.withWork work) = part storage) :
    part after = part before := by
  rw [Works] at works
  rw [works, aside]

/-- The books are kept by the workflows. -/
theorem Booked.works {before after : Storage Address} (booked : Booked before after) :
    Works before after := by
  rw [Booked] at booked
  rw [Works, booked]
  rfl

/-- The fields of the administration: the council with its proposals, the registries and the
configuration, and of the statistics the number of issuers. -/
structure Office (Address : Type) where
  adminCouncil : Option (List Address)
  version : Option Str
  feeConfig : Option (FeeConfig Address)
  ttlConfig : Option TtlConfig
  contractConfig : Option (ContractConfig Address)
  issuer : Address → Bool
  issuerList : List Address
  bridge : Address → Bool
  bridgeList : List Address
  claimType : Str → Option ClaimTypeInfo
  claimTypeList : List Str
  issuerTier : Address → Option IssuerTier
  globalStats : GlobalStats
  expirationHook : Address → Option (ExpirationHook Address)
  limits : StorageLimits
  rateLimitConfig : Option RateLimitConfig
  claimTypeRateLimit : Str → Option Nat
  whitelistEnabled : Address → Bool
  whitelist : Address → Address → Bool
  paused : Bool
  councilProposal : Nat → Option (CouncilProposal Address)
  proposalCounter : Nat
  pendingAdminTransfer : Option (PendingAdminTransfer Address)
  delegation : Address → Address → Str → Option (Delegation Address)
  delegatorIndex : Address → List (Address × Str)

def Storage.office (storage : Storage Address) : Office Address where
  adminCouncil := storage.adminCouncil
  version := storage.version
  feeConfig := storage.feeConfig
  ttlConfig := storage.ttlConfig
  contractConfig := storage.contractConfig
  issuer := storage.issuer
  issuerList := storage.issuerList
  bridge := storage.bridge
  bridgeList := storage.bridgeList
  claimType := storage.claimType
  claimTypeList := storage.claimTypeList
  issuerTier := storage.issuerTier
  globalStats := storage.globalStats
  expirationHook := storage.expirationHook
  limits := storage.limits
  rateLimitConfig := storage.rateLimitConfig
  claimTypeRateLimit := storage.claimTypeRateLimit
  whitelistEnabled := storage.whitelistEnabled
  whitelist := storage.whitelist
  paused := storage.paused
  councilProposal := storage.councilProposal
  proposalCounter := storage.proposalCounter
  pendingAdminTransfer := storage.pendingAdminTransfer
  delegation := storage.delegation
  delegatorIndex := storage.delegatorIndex

def Storage.withOffice (storage : Storage Address) (office : Office Address) : Storage Address :=
  { storage with
    adminCouncil := office.adminCouncil
    version := office.version
    feeConfig := office.feeConfig
    ttlConfig := office.ttlConfig
    contractConfig := office.contractConfig
    issuer := office.issuer
    issuerList := office.issuerList
    bridge := office.bridge
    bridgeList := office.bridgeList
    claimType := office.claimType
    claimTypeList := office.claimTypeList
    issuerTier := office.issuerTier
    globalStats := office.globalStats
    expirationHook := office.expirationHook
    limits := office.limits
    rateLimitConfig := office.rateLimitConfig
    claimTypeRateLimit := office.claimTypeRateLimit
    whitelistEnabled := office.whitelistEnabled
    whitelist := office.whitelist
    paused := office.paused
    councilProposal := office.councilProposal
    proposalCounter := office.proposalCounter
    pendingAdminTransfer := office.pendingAdminTransfer
    delegation := office.delegation
    delegatorIndex := office.delegatorIndex }

/-- Only fields of the administration have changed. -/
def Governs (before after : Storage Address) : Prop := after = before.withOffice after.office

/-- What the administration cannot write keeps its value. -/
theorem Governs.kept {Part : Type} {before after : Storage Address}
    (governs : Governs before after) (part : Storage Address → Part)
    (aside : ∀ storage office, part (storage.withOffice office) = part storage) :
    part after = part before := by
  rw [Governs] at governs
  rw [governs, aside]

end Groups

section Workflows
variable {Address : Type} [DecidableEq Address] [Host Address] {env : Env Address}
  {before after : World Address}

/-- An endorsement is the only operation on attestations that writes elsewhere. -/
theorem AttestationOp.works (op : AttestationOp Address)
    (accepted : Returns op.exec env before () after)
    (other : ∀ endorser id, op ≠ .endorseAttestation endorser id) :
    Works before.storage after.storage := by
  rcases op.booked accepted with ⟨endorser, id, same, -⟩ | booked
  · exact absurd same (other endorser id)
  · exact booked.works

theorem RequestOp.works (op : RequestOp Address) (accepted : Returns op.exec env before () after) :
    Works before.storage after.storage := by
  cases op.outcome accepted <;> rfl

theorem MultisigOp.works (op : MultisigOp Address)
    (accepted : Returns op.exec env before () after) : Works before.storage after.storage := by
  cases op.outcome accepted <;> rfl

end Workflows

section Administration
variable {Address : Type} [DecidableEq Address] {env : Env Address} {before after : World Address}

/-- The administration takes no payments. -/
theorem CouncilOp.governs_unpaid (op : CouncilOp Address)
    (accepted : Returns op.exec env before () after) :
    Governs before.storage after.storage ∧ after.payments = before.payments := by
  obtain ⟨storage, written, left⟩ := op.leaves accepted
  refine ⟨?_, left.payments⟩
  rw [left.storage]
  cases written <;> rfl

theorem CouncilOp.governs (op : CouncilOp Address)
    (accepted : Returns op.exec env before () after) : Governs before.storage after.storage :=
  (op.governs_unpaid accepted).1

theorem AdminOp.governs_unpaid (op : AdminOp Address)
    (accepted : Returns op.exec env before () after) :
    Governs before.storage after.storage ∧ after.payments = before.payments := by
  obtain ⟨storage, written, left⟩ := op.leaves accepted
  refine ⟨?_, left.payments⟩
  rw [left.storage]
  cases written <;> rfl

theorem AdminOp.governs (op : AdminOp Address) (accepted : Returns op.exec env before () after) :
    Governs before.storage after.storage :=
  (op.governs_unpaid accepted).1

end Administration

end TrustLink
