import Mathlib.Algebra.Group.Nat.Defs
import Mathlib.Tactic.Common

/-!
Data types of types.rs and errors.rs. A Soroban `String` is a byte string, an
`Address` is opaque and stays a type parameter, `u32` and `u64` are naturals
whose bounds are checked where the code computes with them, `i128` is `Int`.
-/
namespace TrustLink

abbrev Str := List UInt8

instance : LawfulBEq Str := inferInstance

/-- The bytes of an ASCII literal. -/
def ascii (literal : String) : Str := literal.toList.map fun letter => letter.toNat.toUInt8

/-- One past the largest `u32`. -/
def u32Range : Nat := 2 ^ 32

/-- One past the largest `u64`. -/
def u64Range : Nat := 2 ^ 64

inductive Error where
  | alreadyInitialized
  | notInitialized
  | unauthorized
  | notFound
  | duplicateAttestation
  | alreadyRevoked
  | invalidValidFrom
  | invalidExpiration
  | metadataTooLong
  | invalidSourceReference
  | invalidTimestamp
  | invalidFee
  | feeTokenRequired
  | tooManyTags
  | tagTooLong
  | invalidThreshold
  | notRequiredSigner
  | alreadySigned
  | proposalFinalized
  | proposalExpired
  | reasonTooLong
  | cannotEndorseOwn
  | alreadyEndorsed
  | contractPaused
  | subjectNotWhitelisted
  | cannotDelegateToSelf
  | lastAdminCannotBeRemoved
  | rateLimited
  | invalidClaimType
  | invalidJurisdiction
  | limitExceeded
  | invalidFeeToken
  | duplicateRequest
  | requestAlreadyProcessed
  | requestExpired
  deriving DecidableEq, Repr

/-- How a call fails: with an error code of the contract, or by a trap of the
host (a missing signature, an arithmetic overflow, a failing token transfer). -/
inductive Fault where
  | error (code : Error)
  | trap
  deriving DecidableEq, Repr

inductive RequestStatus where
  | pending
  | fulfilled
  | rejected
  | cancelled
  deriving DecidableEq, Repr

inductive IssuerTier where
  | basic
  | verified
  | premium
  deriving DecidableEq, Repr

inductive AttestationOrigin where
  | native
  | imported
  | bridged
  deriving DecidableEq, Repr

inductive AttestationStatus where
  | valid
  | expired
  | revoked
  | pending
  deriving DecidableEq, Repr

inductive AuditAction where
  | created
  | revoked
  | renewed
  | updated
  | transferred
  | deleted
  deriving DecidableEq, Repr

section Records
variable (Address : Type)

structure AttestationRequest where
  id : Str
  subject : Address
  issuer : Address
  claimType : Str
  timestamp : Nat
  expiresAt : Nat
  status : RequestStatus
  rejectionReason : Option Str
  deriving DecidableEq, Repr

structure FeeConfig where
  attestationFee : Int
  feeCollector : Address
  feeToken : Option Address
  deriving DecidableEq, Repr

structure GlobalStats where
  totalAttestations : Nat
  totalRevocations : Nat
  totalIssuers : Nat
  deriving DecidableEq, Repr

structure IssuerStats where
  totalIssued : Nat
  deriving DecidableEq, Repr

structure TtlConfig where
  ttlDays : Nat
  deriving DecidableEq, Repr

structure RateLimitConfig where
  minIssuanceInterval : Nat
  deriving DecidableEq, Repr

structure StorageLimits where
  maxAttestationsPerIssuer : Nat
  maxAttestationsPerSubject : Nat
  deriving DecidableEq, Repr

/-- `StorageLimits::default`. -/
def StorageLimits.default : StorageLimits where
  maxAttestationsPerIssuer := 10000
  maxAttestationsPerSubject := 100

/-- The configuration record as `set_require_registered_claim_type` builds it. -/
structure ContractConfig where
  ttlConfig : TtlConfig
  limits : StorageLimits
  feeConfig : FeeConfig Address
  requireRegisteredClaimType : Bool
  deriving DecidableEq, Repr

structure ClaimTypeInfo where
  claimType : Str
  description : Str
  deriving DecidableEq, Repr

inductive CouncilOperation where
  | removeIssuer (issuer : Address)
  | pauseContract
  deriving DecidableEq, Repr

structure CouncilProposal where
  id : Nat
  operation : CouncilOperation Address
  proposer : Address
  approvals : List Address
  executed : Bool
  deriving DecidableEq, Repr

structure Attestation where
  id : Str
  issuer : Address
  subject : Address
  claimType : Str
  timestamp : Nat
  expiration : Option Nat
  revoked : Bool
  metadata : Option Str
  jurisdiction : Option Str
  validFrom : Option Nat
  origin : AttestationOrigin
  sourceChain : Option Str
  sourceTx : Option Str
  tags : Option (List Str)
  revocationReason : Option Str
  deleted : Bool
  deriving DecidableEq, Repr

structure AuditEntry where
  action : AuditAction
  actor : Address
  timestamp : Nat
  details : Option Str
  deriving DecidableEq, Repr

structure Endorsement where
  attestationId : Str
  endorser : Address
  timestamp : Nat
  deriving DecidableEq, Repr

structure MultiSigProposal where
  id : Str
  proposer : Address
  subject : Address
  claimType : Str
  requiredSigners : List Address
  threshold : Nat
  signers : List Address
  createdAt : Nat
  expiresAt : Nat
  finalized : Bool
  deriving DecidableEq, Repr

structure ExpirationHook where
  callbackContract : Address
  notifyDaysBefore : Nat
  deriving DecidableEq, Repr

structure Delegation where
  delegator : Address
  delegate : Address
  claimType : Str
  expiration : Option Nat
  deriving DecidableEq, Repr

structure PendingAdminTransfer where
  proposedBy : Address
  newAdmin : Address
  deriving DecidableEq, Repr

end Records

/-- Seven days, the lifetime of a multi-sig proposal in seconds. -/
def multisigProposalTtlSecs : Nat := 7 * 24 * 60 * 60

def attestationRequestTtlSecs : Nat := 7 * 24 * 60 * 60

def secsPerDay : Nat := 86400

def dayInLedgers : Nat := 17280

def defaultTtlDays : Nat := 30

def defaultInstanceLifetime : Nat := dayInLedgers * defaultTtlDays

section Status
variable {Address : Type}

def Attestation.getStatus (attestation : Attestation Address) (currentTime : Nat) :
    AttestationStatus :=
  if attestation.validFrom.any (fun validFrom => currentTime < validFrom) then .pending
  else if attestation.revoked then .revoked
  else if attestation.expiration.any (fun expiration => expiration ≤ currentTime) then .expired
  else .valid

/-- Valid is the only status in which every test of `get_status` has passed. -/
theorem Attestation.getStatus_eq_valid (attestation : Attestation Address) (currentTime : Nat) :
    attestation.getStatus currentTime = .valid ↔
      (∀ validFrom ∈ attestation.validFrom, validFrom ≤ currentTime) ∧
        attestation.revoked = false ∧
        ∀ expiration ∈ attestation.expiration, currentTime < expiration := by
  unfold Attestation.getStatus
  cases attestation.validFrom <;> cases attestation.revoked <;> cases attestation.expiration <;>
    simp <;> grind

end Status

end TrustLink
