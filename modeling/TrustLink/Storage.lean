import Mathlib.Logic.Function.Basic
import TrustLink.Events
import TrustLink.Lib.Transaction

/-!
Contract storage and the helpers of storage.rs. Each field of `Storage` stands
for one `StorageKey`; where every reader falls back to a default, the field
holds the default for an absent key. Every helper that extends a TTL computes
`get_ttl_lifetime` first and so traps when that product overflows.
-/
namespace TrustLink
open Transaction

structure Storage (Address : Type) where
  adminCouncil : Option (List Address)
  version : Option Str
  feeConfig : Option (FeeConfig Address)
  ttlConfig : Option TtlConfig
  contractConfig : Option (ContractConfig Address)
  issuer : Address → Bool
  issuerList : List Address
  bridge : Address → Bool
  bridgeList : List Address
  attestation : Str → Option (Attestation Address)
  subjectAttestations : Address → List Str
  validAttestations : Address → List Str
  issuerAttestations : Address → List Str
  subjectAttestationChunk : Address → Nat → Option (List Str)
  issuerAttestationChunk : Address → Nat → Option (List Str)
  claimType : Str → Option ClaimTypeInfo
  claimTypeList : List Str
  issuerTier : Address → Option IssuerTier
  issuerStats : Address → IssuerStats
  globalStats : GlobalStats
  expirationHook : Address → Option (ExpirationHook Address)
  endorsements : Str → List (Endorsement Address)
  endorserIndex : Address → List (Endorsement Address)
  limits : StorageLimits
  rateLimitConfig : Option RateLimitConfig
  claimTypeRateLimit : Str → Option Nat
  lastIssuanceTime : Address → Option Nat
  whitelistEnabled : Address → Bool
  whitelist : Address → Address → Bool
  request : Str → Option (AttestationRequest Address)
  pendingRequests : Address → List Str
  paused : Bool
  councilProposal : Nat → Option (CouncilProposal Address)
  proposalCounter : Nat
  multisigProposal : Str → Option (MultiSigProposal Address)
  auditLog : Str → List (AuditEntry Address)
  pendingAdminTransfer : Option (PendingAdminTransfer Address)
  delegation : Address → Address → Str → Option (Delegation Address)
  delegatorIndex : Address → List (Address × Str)
  claimTypeCount : Str → Nat
  requireRegisteredClaimType : Bool

/-- Storage of a freshly deployed contract. -/
def Storage.empty (Address : Type) : Storage Address where
  adminCouncil := none
  version := none
  feeConfig := none
  ttlConfig := none
  contractConfig := none
  issuer := fun _ => false
  issuerList := []
  bridge := fun _ => false
  bridgeList := []
  attestation := fun _ => none
  subjectAttestations := fun _ => []
  validAttestations := fun _ => []
  issuerAttestations := fun _ => []
  subjectAttestationChunk := fun _ _ => none
  issuerAttestationChunk := fun _ _ => none
  claimType := fun _ => none
  claimTypeList := []
  issuerTier := fun _ => none
  issuerStats := fun _ => ⟨0⟩
  globalStats := ⟨0, 0, 0⟩
  expirationHook := fun _ => none
  endorsements := fun _ => []
  endorserIndex := fun _ => []
  limits := StorageLimits.default
  rateLimitConfig := none
  claimTypeRateLimit := fun _ => none
  lastIssuanceTime := fun _ => none
  whitelistEnabled := fun _ => false
  whitelist := fun _ _ => false
  request := fun _ => none
  pendingRequests := fun _ => []
  paused := false
  councilProposal := fun _ => none
  proposalCounter := 0
  multisigProposal := fun _ => none
  auditLog := fun _ => []
  pendingAdminTransfer := none
  delegation := fun _ _ _ => none
  delegatorIndex := fun _ => []
  claimTypeCount := fun _ => 0
  requireRegisteredClaimType := false

/-- A token payment made on behalf of the contract. -/
structure Payment (Address : Type) where
  token : Address
  payer : Address
  payee : Address
  amount : Int
  deriving DecidableEq, Repr

/-- What a call can change: storage, published events, token payments. -/
structure World (Address : Type) where
  storage : Storage Address
  events : List (Event Address)
  payments : List (Payment Address)

def World.empty (Address : Type) : World Address := ⟨Storage.empty Address, [], []⟩

section Writes
variable {Address : Type} (world : World Address)

def World.write (change : Storage Address → Storage Address) : World Address :=
  { world with storage := change world.storage }

def World.publish (event : Event Address) : World Address :=
  { world with events := world.events ++ [event] }

def World.pay (paid : List (Payment Address)) : World Address :=
  { world with payments := world.payments ++ paid }

@[simp] theorem World.storage_write (change : Storage Address → Storage Address) :
    (world.write change).storage = change world.storage := rfl

@[simp] theorem World.events_write (change : Storage Address → Storage Address) :
    (world.write change).events = world.events := rfl

@[simp] theorem World.payments_write (change : Storage Address → Storage Address) :
    (world.write change).payments = world.payments := rfl

@[simp] theorem World.storage_publish (event : Event Address) :
    (world.publish event).storage = world.storage := rfl

@[simp] theorem World.events_publish (event : Event Address) :
    (world.publish event).events = world.events ++ [event] := rfl

@[simp] theorem World.payments_publish (event : Event Address) :
    (world.publish event).payments = world.payments := rfl

@[simp] theorem World.storage_pay (paid : List (Payment Address)) :
    (world.pay paid).storage = world.storage := rfl

@[simp] theorem World.events_pay (paid : List (Payment Address)) :
    (world.pay paid).events = world.events := rfl

end Writes

/-- The environment of one call: ledger time, the addresses that signed, and
the answers of token contracts (does the transfer succeed, does the token respond). -/
structure Env (Address : Type) where
  timestamp : Nat
  auths : List Address
  transferSucceeds : Payment Address → Bool
  tokenResponds : Address → Bool

abbrev Program (Address : Type) := Tx Fault (Env Address) (World Address)

section Host
variable {Address α : Type}

@[simp] def load (field : Storage Address → α) : Program Address α :=
  reads fun world => field world.storage

def store (change : Storage Address → Storage Address) : Program Address Unit :=
  modify (·.write change)

def emit (event : Event Address) : Program Address Unit := modify (·.publish event)

@[simp] def ledgerTimestamp : Program Address Nat := do
  let env ← ask
  pure env.timestamp

@[simp] def failWhen (condition : Prop) [Decidable condition] (code : Error) :
    Program Address Unit :=
  failIf condition (.error code)

@[simp] def orError (code : Error) (option : Option α) : Program Address α :=
  orFail (.error code) option

/-- Runs a validation that reads nothing from the ledger. -/
def validated (outcome : Except Error Unit) : Program Address Unit :=
  ofExcept (outcome.mapError Fault.error)

@[simp] def requireAuth [DecidableEq Address] (address : Address) : Program Address Unit := do
  let env ← ask
  failIf (address ∉ env.auths) .trap

/-- Arithmetic of a release build, which traps on overflow. -/
def checkedU32 (value : Nat) : Program Address Nat := do
  failIf (u32Range ≤ value) .trap
  pure value

def checkedU64 (value : Nat) : Program Address Nat := do
  failIf (u64Range ≤ value) .trap
  pure value

def saturatingAddU64 (left right : Nat) : Nat := min (left + right) (u64Range - 1)

def saturatingAddU32 (left right : Nat) : Nat := min (left + right) (u32Range - 1)

/-- `TokenClient::transfer`. -/
def tokenTransfer (payment : Payment Address) : Program Address Unit := do
  let env ← ask
  failIf (env.transferSucceeds payment = false) .trap
  modify (·.pay [payment])

/-- The TTL lifetime can be computed without overflow. -/
def TtlFits : Option TtlConfig → Prop
  | some config => dayInLedgers * config.ttlDays < u32Range
  | none => True

instance : DecidablePred TtlFits := fun config => by
  cases config <;> unfold TtlFits <;> infer_instance

def getTtlLifetime : Program Address Nat := do
  let config ← load (·.ttlConfig)
  match config with
  | some config => checkedU32 (dayInLedgers * config.ttlDays)
  | none => pure defaultInstanceLifetime

/-- A write followed by a TTL extension. -/
def persist (change : Storage Address → Storage Address) : Program Address Unit := do
  let _ ← getTtlLifetime
  store change

variable {env : Env Address} {before after : World Address}

@[simp] theorem returns_store (change : Storage Address → Storage Address) (done : Unit) :
    Returns (store change) env before done after ↔ after = before.write change := by
  simp [store]

@[simp] theorem returns_emit (event : Event Address) (done : Unit) :
    Returns (emit event) env before done after ↔ after = before.publish event := by
  simp [emit]

@[simp] theorem returns_validated (outcome : Except Error Unit) (done : Unit) :
    Returns (validated outcome) env before done after ↔ outcome = .ok () ∧ after = before := by
  cases outcome <;> simp [validated, Except.mapError]

@[simp] theorem returns_checkedU32 (value result : Nat) :
    Returns (checkedU32 value) env before result after ↔
      value < u32Range ∧ result = value ∧ after = before := by
  simp [checkedU32]
  exact and_right_comm.trans and_assoc

@[simp] theorem returns_checkedU64 (value result : Nat) :
    Returns (checkedU64 value) env before result after ↔
      value < u64Range ∧ result = value ∧ after = before := by
  simp [checkedU64]
  exact and_right_comm.trans and_assoc

@[simp] theorem returns_tokenTransfer (payment : Payment Address) (done : Unit) :
    Returns (tokenTransfer payment) env before done after ↔
      env.transferSucceeds payment = true ∧ after = before.pay [payment] := by
  simp [tokenTransfer]

@[simp] theorem returns_getTtlLifetime (ttl : Nat) :
    Returns getTtlLifetime env before ttl after ↔
      (TtlFits before.storage.ttlConfig ∧
        ttl = (before.storage.ttlConfig.elim defaultInstanceLifetime
          fun config => dayInLedgers * config.ttlDays)) ∧ after = before := by
  cases config : before.storage.ttlConfig <;>
    simp [getTtlLifetime, config, TtlFits, and_assoc]

@[simp] theorem returns_persist (change : Storage Address → Storage Address) (done : Unit) :
    Returns (persist change) env before done after ↔
      TtlFits before.storage.ttlConfig ∧ after = before.write change := by
  simp [persist]

end Host

namespace Storage
variable {Address : Type}

section AdminCouncil

/-- The stored council, empty before initialization. -/
def council (storage : Storage Address) : List Address := storage.adminCouncil.getD []

@[simp] def hasAdmin : Program Address Bool :=
  load fun storage => !storage.council.isEmpty

@[simp] def getAdminCouncil : Program Address (List Address) := do
  let council ← load (·.adminCouncil)
  orError .notInitialized council

@[simp] def setAdminCouncil (council : List Address) : Program Address Unit :=
  persist fun storage => { storage with adminCouncil := some council }

@[simp] def getCouncil : Program Address (Option (List Address)) := load (·.adminCouncil)

@[simp] def setCouncil (council : List Address) : Program Address Unit := setAdminCouncil council

@[simp] def setVersion (version : Str) : Program Address Unit :=
  store fun storage => { storage with version := some version }

@[simp] def getFeeConfig : Program Address (Option (FeeConfig Address)) := load (·.feeConfig)

@[simp] def setFeeConfig (config : FeeConfig Address) : Program Address Unit :=
  persist fun storage => { storage with feeConfig := some config }

@[simp] def getTtlConfig : Program Address (Option TtlConfig) := load (·.ttlConfig)

@[simp] def setTtlConfig (config : TtlConfig) : Program Address Unit :=
  persist fun storage => { storage with ttlConfig := some config }

@[simp] def getContractConfig : Program Address (Option (ContractConfig Address)) :=
  load (·.contractConfig)

@[simp] def setContractConfig (config : ContractConfig Address) : Program Address Unit :=
  persist fun storage => { storage with contractConfig := some config }

/-- Whether templates need a registered claim type; not the switch in `ContractConfig`. -/
@[simp] def getRequireRegisteredClaimType : Program Address Bool :=
  load (·.requireRegisteredClaimType)

@[simp] def setRequireRegisteredClaimType (required : Bool) : Program Address Unit :=
  persist fun storage => { storage with requireRegisteredClaimType := required }

@[simp] def getPendingAdminTransfer : Program Address (Option (PendingAdminTransfer Address)) :=
  load (·.pendingAdminTransfer)

@[simp] def setPendingAdminTransfer (transfer : PendingAdminTransfer Address) :
    Program Address Unit :=
  persist fun storage => { storage with pendingAdminTransfer := some transfer }

@[simp] def removePendingAdminTransfer : Program Address Unit :=
  store fun storage => { storage with pendingAdminTransfer := none }

@[simp] def setPaused (paused : Bool) : Program Address Unit :=
  persist fun storage => { storage with paused }

@[simp] def getLimits : Program Address StorageLimits := load (·.limits)

@[simp] def setLimits (limits : StorageLimits) : Program Address Unit :=
  persist fun storage => { storage with limits }

@[simp] def getRateLimitConfig : Program Address (Option RateLimitConfig) :=
  load (·.rateLimitConfig)

@[simp] def setRateLimitConfig (config : RateLimitConfig) : Program Address Unit :=
  persist fun storage => { storage with rateLimitConfig := some config }

@[simp] def getClaimTypeRateLimit (claimType : Str) : Program Address (Option Nat) :=
  load (·.claimTypeRateLimit claimType)

@[simp] def setClaimTypeRateLimit (claimType : Str) (intervalSecs : Nat) : Program Address Unit :=
  persist fun storage => { storage with
    claimTypeRateLimit := Function.update storage.claimTypeRateLimit claimType (some intervalSecs) }

end AdminCouncil

section Registry
variable [DecidableEq Address]

@[simp] def isAdmin (address : Address) : Program Address Bool :=
  load fun storage => decide (address ∈ storage.council)

def addAdmin (admin : Address) : Program Address Unit := do
  let council ← load council
  if admin ∈ council then pure () else setAdminCouncil (council ++ [admin])

/-- The council with a seat for the address. -/
def seated (admin : Address) (council : Option (List Address)) : Option (List Address) :=
  if admin ∈ council.getD [] then council else some (council.getD [] ++ [admin])

@[simp] theorem returns_addAdmin (admin : Address) {env : Env Address}
    {before after : World Address} (done : Unit) :
    Returns (addAdmin admin) env before done after ↔
      (admin ∉ before.storage.council → TtlFits before.storage.ttlConfig) ∧
        after = before.write fun storage => { storage with
          adminCouncil := seated admin storage.adminCouncil } := by
  by_cases member : admin ∈ before.storage.council
  · have present : admin ∈ before.storage.adminCouncil.getD [] := member
    simp [addAdmin, member, seated, World.write, present]
  · have absent : admin ∉ before.storage.adminCouncil.getD [] := member
    simp [addAdmin, seated, World.write, Storage.council, absent]

@[simp] def removeAdmin (admin : Address) : Program Address Unit := do
  let council ← load council
  setAdminCouncil (council.filter (· ≠ admin))

@[simp] def isIssuer (address : Address) : Program Address Bool := load (·.issuer address)

/-- The presence key is always set; the ordered list grows only by new addresses. -/
@[simp] def addIssuer (issuer : Address) : Program Address Unit :=
  persist fun storage => { storage with
    issuer := Function.update storage.issuer issuer true
    issuerList := if issuer ∈ storage.issuerList then storage.issuerList
      else storage.issuerList ++ [issuer] }

@[simp] def removeIssuer (issuer : Address) : Program Address Unit :=
  -- the ordered list keeps the address
  store fun storage => { storage with issuer := Function.update storage.issuer issuer false }

@[simp] def isBridge (address : Address) : Program Address Bool := load (·.bridge address)

@[simp] def addBridge (bridge : Address) : Program Address Unit :=
  persist fun storage => { storage with
    bridge := Function.update storage.bridge bridge true
    bridgeList := if bridge ∈ storage.bridgeList then storage.bridgeList
      else storage.bridgeList ++ [bridge] }

@[simp] def getIssuerTier (issuer : Address) : Program Address (Option IssuerTier) :=
  load (·.issuerTier issuer)

@[simp] def setIssuerTier (issuer : Address) (tier : IssuerTier) : Program Address Unit :=
  persist fun storage => { storage with
    issuerTier := Function.update storage.issuerTier issuer (some tier) }

@[simp] def getIssuerStats (issuer : Address) : Program Address IssuerStats :=
  load (·.issuerStats issuer)

@[simp] def setIssuerStats (issuer : Address) (stats : IssuerStats) : Program Address Unit :=
  persist fun storage => { storage with
    issuerStats := Function.update storage.issuerStats issuer stats }

@[simp] def incrementIssuerStats (issuer : Address) (count : Nat) : Program Address Unit := do
  let stats ← getIssuerStats issuer
  setIssuerStats issuer ⟨saturatingAddU64 stats.totalIssued count⟩

@[simp] def setClaimType (info : ClaimTypeInfo) : Program Address Unit :=
  persist fun storage => { storage with
    claimType := Function.update storage.claimType info.claimType (some info)
    claimTypeList := if (storage.claimType info.claimType).isSome then storage.claimTypeList
      else storage.claimTypeList ++ [info.claimType] }

@[simp] def getClaimType (claimType : Str) : Program Address (Option ClaimTypeInfo) :=
  load (·.claimType claimType)

@[simp] def isWhitelistMode (issuer : Address) : Program Address Bool :=
  load (·.whitelistEnabled issuer)

@[simp] def setWhitelistEnabled (issuer : Address) (enabled : Bool) : Program Address Unit :=
  persist fun storage => { storage with
    whitelistEnabled := Function.update storage.whitelistEnabled issuer enabled }

@[simp] def setWhitelistMode (issuer : Address) (enabled : Bool) : Program Address Unit :=
  setWhitelistEnabled issuer enabled

@[simp] def isWhitelisted (issuer subject : Address) : Program Address Bool :=
  load (·.whitelist issuer subject)

@[simp] def addToWhitelist (issuer subject : Address) : Program Address Unit :=
  persist fun storage => { storage with
    whitelist := Function.update storage.whitelist issuer
      (Function.update (storage.whitelist issuer) subject true) }

@[simp] def removeFromWhitelist (issuer subject : Address) : Program Address Unit :=
  store fun storage => { storage with
    whitelist := Function.update storage.whitelist issuer
      (Function.update (storage.whitelist issuer) subject false) }

@[simp] def getDelegation (delegator delegate : Address) (claimType : Str) :
    Program Address (Option (Delegation Address)) :=
  load (·.delegation delegator delegate claimType)

instance : LawfulBEq (Address × Str) := inferInstance

/-- The version of `set_delegation` that maintains the delegator index. -/
@[simp] def setDelegation (delegation : Delegation Address) : Program Address Unit :=
  persist fun storage => { storage with
    delegation := Function.update storage.delegation delegation.delegator
      (Function.update (storage.delegation delegation.delegator) delegation.delegate
        (Function.update (storage.delegation delegation.delegator delegation.delegate)
          delegation.claimType (some delegation)))
    delegatorIndex :=
      if (delegation.delegate, delegation.claimType) ∈
          storage.delegatorIndex delegation.delegator then storage.delegatorIndex
      else Function.update storage.delegatorIndex delegation.delegator
        (storage.delegatorIndex delegation.delegator ++
          [(delegation.delegate, delegation.claimType)]) }

@[simp] def removeDelegation (delegator delegate : Address) (claimType : Str) :
    Program Address Unit :=
  persist fun storage => { storage with
    delegation := Function.update storage.delegation delegator
      (Function.update (storage.delegation delegator) delegate
        (Function.update (storage.delegation delegator delegate) claimType none))
    delegatorIndex := Function.update storage.delegatorIndex delegator
      ((storage.delegatorIndex delegator).filter fun entry =>
        entry.1 ≠ delegate ∨ entry.2 ≠ claimType) }

@[simp] def setExpirationHook (subject : Address) (hook : ExpirationHook Address) :
    Program Address Unit :=
  persist fun storage => { storage with
    expirationHook := Function.update storage.expirationHook subject (some hook) }

@[simp] def removeExpirationHook (subject : Address) : Program Address Unit :=
  store fun storage => { storage with
    expirationHook := Function.update storage.expirationHook subject none }

end Registry

section Records
variable [DecidableEq Address]

@[simp] def isPaused : Program Address Bool := load (·.paused)

@[simp] def hasAttestation (id : Str) : Program Address Bool :=
  load fun storage => (storage.attestation id).isSome

@[simp] def setAttestation (attestation : Attestation Address) : Program Address Unit :=
  persist fun storage => { storage with
    attestation := Function.update storage.attestation attestation.id (some attestation) }

def getAttestation (id : Str) : Program Address (Attestation Address) := do
  let attestation ← load (·.attestation id)
  orError .notFound attestation

omit [DecidableEq Address] in
@[simp] theorem returns_getAttestation (id : Str) (attestation : Attestation Address)
    {env : Env Address} {before after : World Address} :
    Returns (getAttestation id) env before attestation after ↔
      before.storage.attestation id = some attestation ∧ after = before := by
  simp [getAttestation]
  exact fun _ => eq_comm

@[simp] def getSubjectAttestations (subject : Address) : Program Address (List Str) :=
  load (·.subjectAttestations subject)

@[simp] def addSubjectAttestation (subject : Address) (id : Str) : Program Address Unit :=
  persist fun storage => { storage with
    subjectAttestations := Function.update storage.subjectAttestations subject
      (storage.subjectAttestations subject ++ [id]) }

@[simp] def removeSubjectAttestation (subject : Address) (id : Str) : Program Address Unit :=
  persist fun storage => { storage with
    subjectAttestations := Function.update storage.subjectAttestations subject
      ((storage.subjectAttestations subject).filter (· ≠ id)) }

@[simp] def getIssuerAttestations (issuer : Address) : Program Address (List Str) :=
  load (·.issuerAttestations issuer)

@[simp] def addIssuerAttestation (issuer : Address) (id : Str) : Program Address Unit :=
  persist fun storage => { storage with
    issuerAttestations := Function.update storage.issuerAttestations issuer
      (storage.issuerAttestations issuer ++ [id]) }

def addIssuerAttestationsBulk (issuer : Address) (ids : List Str) :
    Program Address Unit :=
  -- an empty batch writes nothing, so no TTL is extended
  if ids = [] then pure ()
  else persist fun storage => { storage with
    issuerAttestations := Function.update storage.issuerAttestations issuer
      (storage.issuerAttestations issuer ++ ids) }

@[simp] theorem returns_addIssuerAttestationsBulk (issuer : Address) (ids : List Str)
    {env : Env Address} {before after : World Address} (done : Unit) :
    Returns (addIssuerAttestationsBulk issuer ids) env before done after ↔
      (ids ≠ [] → TtlFits before.storage.ttlConfig) ∧
        after = before.write fun storage => { storage with
          issuerAttestations := Function.update storage.issuerAttestations issuer
            (storage.issuerAttestations issuer ++ ids) } := by
  by_cases empty : ids = []
  · subst empty
    simp [addIssuerAttestationsBulk, World.write]
  · simp [addIssuerAttestationsBulk, empty]

@[simp] def removeIssuerAttestation (issuer : Address) (id : Str) : Program Address Unit :=
  persist fun storage => { storage with
    issuerAttestations := Function.update storage.issuerAttestations issuer
      ((storage.issuerAttestations issuer).filter (· ≠ id)) }

@[simp] def addValidAttestation (subject : Address) (id : Str) : Program Address Unit :=
  persist fun storage => { storage with
    validAttestations := Function.update storage.validAttestations subject
      (storage.validAttestations subject ++ [id]) }

@[simp] def removeValidAttestation (subject : Address) (id : Str) : Program Address Unit :=
  persist fun storage => { storage with
    validAttestations := Function.update storage.validAttestations subject
      ((storage.validAttestations subject).filter (· ≠ id)) }

/-- Changes one counter of the global statistics. -/
@[simp] def setGlobalStats (change : GlobalStats → GlobalStats) : Program Address Unit :=
  persist fun storage => { storage with globalStats := change storage.globalStats }

@[simp] def incrementTotalAttestations (count : Nat) : Program Address Unit :=
  setGlobalStats fun stats =>
    { stats with totalAttestations := saturatingAddU64 stats.totalAttestations count }

@[simp] def incrementTotalRevocations (count : Nat) : Program Address Unit :=
  setGlobalStats fun stats =>
    { stats with totalRevocations := saturatingAddU64 stats.totalRevocations count }

@[simp] def incrementTotalIssuers : Program Address Unit :=
  setGlobalStats fun stats => { stats with totalIssuers := saturatingAddU64 stats.totalIssuers 1 }

@[simp] def decrementTotalIssuers : Program Address Unit :=
  -- `saturating_sub`, which is subtraction of naturals
  setGlobalStats fun stats => { stats with totalIssuers := stats.totalIssuers - 1 }

@[simp] def incrementClaimTypeCount (claimType : Str) : Program Address Unit :=
  persist fun storage => { storage with
    claimTypeCount := Function.update storage.claimTypeCount claimType
      (saturatingAddU64 (storage.claimTypeCount claimType) 1) }

@[simp] def decrementClaimTypeCount (claimType : Str) : Program Address Unit :=
  persist fun storage => { storage with
    claimTypeCount := Function.update storage.claimTypeCount claimType
      (storage.claimTypeCount claimType - 1) }

@[simp] def appendAuditEntry (id : Str) (entry : AuditEntry Address) : Program Address Unit :=
  persist fun storage => { storage with
    auditLog := Function.update storage.auditLog id (storage.auditLog id ++ [entry]) }

@[simp] def getLastIssuanceTime (issuer : Address) : Program Address (Option Nat) :=
  load (·.lastIssuanceTime issuer)

@[simp] def setLastIssuanceTime (issuer : Address) (timestamp : Nat) : Program Address Unit :=
  persist fun storage => { storage with
    lastIssuanceTime := Function.update storage.lastIssuanceTime issuer (some timestamp) }

@[simp] def getEndorsements (id : Str) : Program Address (List (Endorsement Address)) :=
  load (·.endorsements id)

@[simp] def addEndorsement (id : Str) (endorsement : Endorsement Address) :
    Program Address Unit :=
  persist fun storage => { storage with
    endorsements := Function.update storage.endorsements id
      (storage.endorsements id ++ [endorsement])
    endorserIndex := Function.update storage.endorserIndex endorsement.endorser
      (storage.endorserIndex endorsement.endorser ++ [endorsement]) }

def getRequest (id : Str) : Program Address (AttestationRequest Address) := do
  let request ← load (·.request id)
  orError .notFound request

omit [DecidableEq Address] in
@[simp] theorem returns_getRequest (id : Str) (request : AttestationRequest Address)
    {env : Env Address} {before after : World Address} :
    Returns (getRequest id) env before request after ↔
      before.storage.request id = some request ∧ after = before := by
  simp [getRequest]
  exact fun _ => eq_comm

@[simp] def setRequest (request : AttestationRequest Address) : Program Address Unit :=
  persist fun storage => { storage with
    request := Function.update storage.request request.id (some request) }

@[simp] def addPendingRequest (issuer : Address) (id : Str) : Program Address Unit :=
  persist fun storage => { storage with
    pendingRequests := Function.update storage.pendingRequests issuer
      (storage.pendingRequests issuer ++ [id]) }

@[simp] def removePendingRequest (issuer : Address) (id : Str) : Program Address Unit :=
  persist fun storage => { storage with
    pendingRequests := Function.update storage.pendingRequests issuer
      ((storage.pendingRequests issuer).filter (· ≠ id)) }

def getMultisigProposal (id : Str) : Program Address (MultiSigProposal Address) := do
  let proposal ← load (·.multisigProposal id)
  orError .notFound proposal

omit [DecidableEq Address] in
@[simp] theorem returns_getMultisigProposal (id : Str) (proposal : MultiSigProposal Address)
    {env : Env Address} {before after : World Address} :
    Returns (getMultisigProposal id) env before proposal after ↔
      before.storage.multisigProposal id = some proposal ∧ after = before := by
  simp [getMultisigProposal]
  exact fun _ => eq_comm

@[simp] def setMultisigProposal (proposal : MultiSigProposal Address) : Program Address Unit :=
  persist fun storage => { storage with
    multisigProposal := Function.update storage.multisigProposal proposal.id (some proposal) }

@[simp] def getProposal (id : Nat) : Program Address (Option (CouncilProposal Address)) :=
  load (·.councilProposal id)

@[simp] def setProposal (proposal : CouncilProposal Address) : Program Address Unit :=
  persist fun storage => { storage with
    councilProposal := Function.update storage.councilProposal proposal.id (some proposal) }

@[simp] def nextProposalId : Program Address Nat := do
  let current ← load (·.proposalCounter)
  let next ← checkedU32 (current + 1)
  store fun storage => { storage with proposalCounter := next }
  pure next

end Records

end Storage

end TrustLink
