import TrustLink.Attestation

/-!
The administration of admin.rs: the admin council and its hand-over, the issuer
and bridge registries, configuration, delegations and hooks.
-/
namespace TrustLink.Contract
open Transaction

section Council
variable {Address : Type} [DecidableEq Address]

/-- `initialize` of admin.rs, whose name is a keyword here. -/
def initializeContract (admin : Address) (ttlDays : Option Nat) : Program Address Unit := do
  requireAuth admin
  let initialized ← Storage.hasAdmin
  failWhen (initialized = true) .alreadyInitialized
  Storage.setAdminCouncil [admin]
  Storage.setVersion (ascii "1.0.0")
  Storage.setFeeConfig ⟨0, admin, none⟩
  Storage.setTtlConfig ⟨ttlDays.getD 30⟩
  let timestamp ← ledgerTimestamp
  emit (.adminInitialized admin timestamp)

def transferAdmin (currentAdmin newAdmin : Address) : Program Address Unit := do
  requireAuth currentAdmin
  Validation.requireAdmin currentAdmin
  Storage.addAdmin newAdmin
  Storage.removeAdmin currentAdmin
  emit (.adminTransferred currentAdmin newAdmin)

def proposeAdminTransfer (currentAdmin newAdmin : Address) : Program Address Unit := do
  requireAuth currentAdmin
  Validation.requireAdmin currentAdmin
  Storage.setPendingAdminTransfer ⟨currentAdmin, newAdmin⟩
  emit (.adminTransferProposed currentAdmin newAdmin)

def cancelAdminTransfer (currentAdmin : Address) : Program Address Unit := do
  requireAuth currentAdmin
  Validation.requireAdmin currentAdmin
  let pending ← Storage.getPendingAdminTransfer
  let pending ← orError .notFound pending
  failWhen (pending.proposedBy ≠ currentAdmin) .unauthorized
  Storage.removePendingAdminTransfer

/-- The proposer's own seat is not looked up again. -/
def acceptAdminTransfer (newAdmin : Address) : Program Address Unit := do
  requireAuth newAdmin
  let pending ← Storage.getPendingAdminTransfer
  let pending ← orError .notFound pending
  failWhen (pending.newAdmin ≠ newAdmin) .unauthorized
  Storage.addAdmin newAdmin
  Storage.removeAdmin pending.proposedBy
  Storage.removePendingAdminTransfer
  emit (.adminTransferred pending.proposedBy newAdmin)

def addAdmin (existingAdmin newAdmin : Address) : Program Address Unit := do
  requireAuth existingAdmin
  Validation.requireAdmin existingAdmin
  let member ← Storage.isAdmin newAdmin
  if member = true then pure ()
  else do
    Storage.addAdmin newAdmin
    let timestamp ← ledgerTimestamp
    emit (.adminAdded existingAdmin newAdmin timestamp)

def removeAdmin (existingAdmin adminToRemove : Address) : Program Address Unit := do
  requireAuth existingAdmin
  Validation.requireAdmin existingAdmin
  let council ← Storage.getAdminCouncil
  failWhen (council.length ≤ 1) .lastAdminCannotBeRemoved
  let member ← Storage.isAdmin adminToRemove
  if member = false then pure ()
  else do
    Storage.removeAdmin adminToRemove
    let timestamp ← ledgerTimestamp
    emit (.adminRemoved existingAdmin adminToRemove timestamp)

end Council

section Returns
variable {Address : Type} [DecidableEq Address] {env : Env Address} {before after : World Address}

/-- The council after a seat has passed from one address to another. The new
address is seated first, so handing a seat to oneself gives it up. -/
def handedOver (oldAdmin newAdmin : Address) (council : Option (List Address)) :
    Option (List Address) :=
  some (((Storage.seated newAdmin council).getD []).filter (· ≠ oldAdmin))

theorem returns_initializeContract (admin : Address) (ttlDays : Option Nat) (done : Unit) :
    Returns (initializeContract admin ttlDays) env before done after ↔
      (admin ∈ env.auths ∧ before.storage.council = [] ∧ TtlFits before.storage.ttlConfig) ∧
      after = ⟨{ before.storage with
          adminCouncil := some [admin]
          version := some (ascii "1.0.0")
          feeConfig := some ⟨0, admin, none⟩
          ttlConfig := some ⟨ttlDays.getD 30⟩ },
        before.events ++ [.adminInitialized admin env.timestamp], before.payments⟩ := by
  simp [initializeContract, World.write, World.publish, and_assoc]

theorem returns_transferAdmin (currentAdmin newAdmin : Address) (done : Unit) :
    Returns (transferAdmin currentAdmin newAdmin) env before done after ↔
      (currentAdmin ∈ env.auths ∧ currentAdmin ∈ before.storage.council ∧
        TtlFits before.storage.ttlConfig) ∧
      after = ⟨{ before.storage with
          adminCouncil := handedOver currentAdmin newAdmin before.storage.adminCouncil },
        before.events ++ [.adminTransferred currentAdmin newAdmin], before.payments⟩ := by
  simp [transferAdmin, World.write, World.publish, handedOver, Storage.council]
  constructor
  · rintro ⟨auth, member, -, ttl, left⟩
    exact ⟨⟨auth, member, ttl⟩, left⟩
  · rintro ⟨⟨auth, member, ttl⟩, left⟩
    exact ⟨auth, member, fun _ => ttl, ttl, left⟩

theorem returns_proposeAdminTransfer (currentAdmin newAdmin : Address) (done : Unit) :
    Returns (proposeAdminTransfer currentAdmin newAdmin) env before done after ↔
      (currentAdmin ∈ env.auths ∧ currentAdmin ∈ before.storage.council ∧
        TtlFits before.storage.ttlConfig) ∧
      after = ⟨{ before.storage with pendingAdminTransfer := some ⟨currentAdmin, newAdmin⟩ },
        before.events ++ [.adminTransferProposed currentAdmin newAdmin], before.payments⟩ := by
  simp [proposeAdminTransfer, World.write, World.publish, and_assoc]

theorem returns_cancelAdminTransfer (currentAdmin : Address) (done : Unit) :
    Returns (cancelAdminTransfer currentAdmin) env before done after ↔
      ∃ pending, (currentAdmin ∈ env.auths ∧ currentAdmin ∈ before.storage.council ∧
        before.storage.pendingAdminTransfer = some pending ∧
        pending.proposedBy = currentAdmin) ∧
      after = ⟨{ before.storage with pendingAdminTransfer := none },
        before.events, before.payments⟩ := by
  simp [cancelAdminTransfer, World.write, and_assoc]

theorem returns_acceptAdminTransfer (newAdmin : Address) (done : Unit) :
    Returns (acceptAdminTransfer newAdmin) env before done after ↔
      ∃ pending, (newAdmin ∈ env.auths ∧
        before.storage.pendingAdminTransfer = some pending ∧ pending.newAdmin = newAdmin ∧
        TtlFits before.storage.ttlConfig) ∧
      after = ⟨{ before.storage with
          adminCouncil := handedOver pending.proposedBy newAdmin before.storage.adminCouncil
          pendingAdminTransfer := none },
        before.events ++ [.adminTransferred pending.proposedBy newAdmin], before.payments⟩ := by
  simp [acceptAdminTransfer, World.write, World.publish, handedOver, Storage.council]
  constructor
  · rintro ⟨auth, pending, found, named, -, ttl, left⟩
    exact ⟨pending, ⟨auth, found, named, ttl⟩, left⟩
  · rintro ⟨pending, ⟨auth, found, named, ttl⟩, left⟩
    exact ⟨auth, pending, found, named, fun _ => ttl, ttl, left⟩

theorem returns_addAdmin (existingAdmin newAdmin : Address) (done : Unit) :
    Returns (addAdmin existingAdmin newAdmin) env before done after ↔
      (existingAdmin ∈ env.auths ∧ existingAdmin ∈ before.storage.council) ∧
      ((newAdmin ∈ before.storage.council ∧ after = before) ∨
        (newAdmin ∉ before.storage.council ∧ TtlFits before.storage.ttlConfig ∧
          after = ⟨{ before.storage with
              adminCouncil := some (before.storage.council ++ [newAdmin]) },
            before.events ++ [.adminAdded existingAdmin newAdmin env.timestamp],
            before.payments⟩)) := by
  simp [addAdmin, World.write, World.publish, and_assoc, Storage.seated]
  refine fun _ _ => or_congr_right (and_congr_right fun absent => ?_)
  have outside : newAdmin ∉ before.storage.adminCouncil.getD [] := absent
  simp [outside, Storage.council]

theorem returns_removeAdmin (existingAdmin adminToRemove : Address) (done : Unit) :
    Returns (removeAdmin existingAdmin adminToRemove) env before done after ↔
      (existingAdmin ∈ env.auths ∧ existingAdmin ∈ before.storage.council ∧
        1 < before.storage.council.length) ∧
      ((adminToRemove ∉ before.storage.council ∧ after = before) ∨
        (adminToRemove ∈ before.storage.council ∧ TtlFits before.storage.ttlConfig ∧
          after = ⟨{ before.storage with
              adminCouncil := some (before.storage.council.filter (· ≠ adminToRemove)) },
            before.events ++ [.adminRemoved existingAdmin adminToRemove env.timestamp],
            before.payments⟩)) := by
  cases stored : before.storage.adminCouncil <;>
    simp [removeAdmin, World.write, World.publish, and_assoc, Storage.council, stored]

end Returns

section Registries
variable {Address : Type} [DecidableEq Address]

def registerIssuer (admin issuer : Address) : Program Address Unit := do
  requireAuth admin
  Validation.requireAdmin admin
  Validation.requireNotPaused
  let bridge ← Storage.isBridge issuer
  failWhen (bridge = true) .unauthorized
  -- counted once more even when the issuer is registered already
  Storage.addIssuer issuer
  Storage.incrementTotalIssuers
  let timestamp ← ledgerTimestamp
  emit (.issuerRegistered issuer admin timestamp)

def removeIssuer (admin issuer : Address) : Program Address Unit := do
  requireAuth admin
  Validation.requireAdmin admin
  -- counted down even when there was nothing to remove
  Storage.removeIssuer issuer
  Storage.decrementTotalIssuers
  let timestamp ← ledgerTimestamp
  emit (.issuerRemoved issuer admin timestamp)

def registerBridge (admin bridgeContract : Address) : Program Address Unit := do
  requireAuth admin
  Validation.requireAdmin admin
  let issuer ← Storage.isIssuer bridgeContract
  failWhen (issuer = true) .unauthorized
  Storage.addBridge bridgeContract

def setIssuerTier (admin issuer : Address) (tier : IssuerTier) : Program Address Unit := do
  requireAuth admin
  Validation.requireAdmin admin
  Validation.requireIssuer issuer
  Storage.setIssuerTier issuer tier
  emit (.issuerTierUpdated issuer tier)

def addToWhitelist (issuer subject : Address) : Program Address Unit := do
  requireAuth issuer
  Validation.requireIssuer issuer
  Storage.addToWhitelist issuer subject

def bulkAddToWhitelist (issuer : Address) (subjects : List Address) : Program Address Unit := do
  requireAuth issuer
  Validation.requireIssuer issuer
  failWhen (50 < subjects.length) .limitExceeded
  each (Storage.addToWhitelist issuer) subjects

def removeFromWhitelist (issuer subject : Address) : Program Address Unit := do
  requireAuth issuer
  Validation.requireIssuer issuer
  Storage.removeFromWhitelist issuer subject

def setWhitelistEnabled (issuer : Address) (enabled : Bool) : Program Address Unit := do
  requireAuth issuer
  Validation.requireIssuer issuer
  Storage.setWhitelistEnabled issuer enabled

def enableWhitelistMode (issuer : Address) : Program Address Unit := do
  requireAuth issuer
  Validation.requireIssuer issuer
  Storage.setWhitelistMode issuer true
  emit (.whitelistModeEnabled issuer)

end Registries

section Configuration
variable {Address : Type} [DecidableEq Address]

def validateFeeConfig (fee : Int) (feeToken : Option Address) : Program Address Unit := do
  let env ← ask
  failWhen (fee < 0) .invalidFee
  failWhen (0 < fee ∧ feeToken.isNone) .feeTokenRequired
  failWhen (∃ token ∈ feeToken, env.tokenResponds token = false) .invalidFeeToken

def setFee (admin : Address) (fee : Int) (collector : Address) (feeToken : Option Address) :
    Program Address Unit := do
  requireAuth admin
  Validation.requireAdmin admin
  validateFeeConfig fee feeToken
  failWhen (admin = collector) .unauthorized
  Storage.setFeeConfig ⟨fee, collector, feeToken⟩

def setRateLimit (admin : Address) (minIssuanceInterval : Nat) : Program Address Unit := do
  requireAuth admin
  Validation.requireAdmin admin
  Storage.setRateLimitConfig ⟨minIssuanceInterval⟩

def setRateLimitForClaimType (admin : Address) (claimType : Str) (intervalSecs : Nat) :
    Program Address Unit := do
  requireAuth admin
  Validation.requireAdmin admin
  validated (Validation.validateClaimType claimType)
  Storage.setClaimTypeRateLimit claimType intervalSecs

def pause (admin : Address) : Program Address Unit := do
  requireAuth admin
  Validation.requireAdmin admin
  Storage.setPaused true
  let timestamp ← ledgerTimestamp
  emit (.contractPaused admin timestamp)

def unpause (admin : Address) : Program Address Unit := do
  requireAuth admin
  Validation.requireAdmin admin
  Storage.setPaused false
  let timestamp ← ledgerTimestamp
  emit (.contractUnpaused admin timestamp)

def setRequireRegisteredClaimType (admin : Address) (required : Bool) :
    Program Address Unit := do
  requireAuth admin
  Validation.requireAdmin admin
  let config ← Storage.getContractConfig
  let ttlConfig ← Storage.getTtlConfig
  let limits ← Storage.getLimits
  let feeConfig ← Storage.getFeeConfig
  let config := config.getD
    ⟨ttlConfig.getD ⟨30⟩, limits, feeConfig.getD ⟨0, admin, none⟩, false⟩
  Storage.setContractConfig { config with requireRegisteredClaimType := required }

def setLimits (admin : Address) (maxAttestationsPerIssuer maxAttestationsPerSubject : Nat) :
    Program Address Unit := do
  requireAuth admin
  Validation.requireAdmin admin
  Storage.setLimits ⟨maxAttestationsPerIssuer, maxAttestationsPerSubject⟩

def registerClaimType (admin : Address) (claimType description : Str) :
    Program Address Unit := do
  requireAuth admin
  Validation.requireAdmin admin
  validated (Validation.validateClaimType claimType)
  Storage.setClaimType ⟨claimType, description⟩
  emit (.claimTypeRegistered claimType description)

def delegateClaimType (issuer delegate : Address) (claimType : Str) (expiration : Option Nat) :
    Program Address Unit := do
  requireAuth issuer
  Validation.requireIssuer issuer
  failWhen (issuer = delegate) .cannotDelegateToSelf
  validateNativeExpiration expiration
  Storage.setDelegation ⟨issuer, delegate, claimType, expiration⟩
  emit (.delegationCreated issuer delegate claimType expiration)

def revokeDelegation (issuer delegate : Address) (claimType : Str) : Program Address Unit := do
  requireAuth issuer
  Validation.requireIssuer issuer
  let delegation ← Storage.getDelegation issuer delegate claimType
  failWhen (delegation.isNone = true) .notFound
  Storage.removeDelegation issuer delegate claimType
  emit (.delegationRevoked issuer delegate claimType)

def registerExpirationHook (subject callbackContract : Address) (notifyDaysBefore : Nat) :
    Program Address Unit := do
  failWhen (notifyDaysBefore = 0) .invalidExpiration
  requireAuth subject
  Storage.setExpirationHook subject ⟨callbackContract, notifyDaysBefore⟩

def removeExpirationHook (subject : Address) : Program Address Unit := do
  requireAuth subject
  Storage.removeExpirationHook subject

end Configuration

end TrustLink.Contract
