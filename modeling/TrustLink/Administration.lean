import TrustLink.Contract

/-!
What the operations of the council and the rest of the administration write. Each of them leaves
one storage, given by its arguments, and tells of no attestation; what a later module needs to
know of the administration it reads off that storage.
-/
namespace TrustLink
open Transaction Contract

section Publishing
variable {Address : Type} {before : World Address} {storage : Storage Address}
  {event : Event Address}

theorem creation?_eq_none (silent : event.isNotice = false) : event.creation? = none := by
  cases event <;> first | rfl | cases silent

/-- Only the notices announce anything. -/
theorem announced_eq_notices (world : World Address) :
    world.announced = world.notices.filterMap Event.creation? := by
  rw [World.announced, World.notices, List.filterMap_filter]
  refine List.filterMap_congr fun event _ => ?_
  cases told : event.isNotice with
  | true => rfl
  | false => exact creation?_eq_none told

/-- A call has written the storage. It made no payment, and told of no attestation. -/
structure Leaves (before : World Address) (storage : Storage Address) (after : World Address) :
    Prop where
  storage : after.storage = storage
  notices : after.notices = before.notices
  payments : after.payments = before.payments

theorem Leaves.announced {after : World Address} (left : Leaves before storage after) :
    after.announced = before.announced := by
  rw [announced_eq_notices, left.notices, ← announced_eq_notices]

theorem leaves_silent : Leaves before storage ⟨storage, before.events, before.payments⟩ :=
  ⟨rfl, rfl, rfl⟩

theorem leaves_publish (silent : event.isNotice = false) :
    Leaves before storage ⟨storage, before.events ++ [event], before.payments⟩ :=
  ⟨rfl, by simp [World.notices, silent], rfl⟩

end Publishing

section Council
variable {Address : Type} [DecidableEq Address] {env : Env Address} {before after : World Address}

/-- The storage that a council operation leaves. -/
inductive CouncilOp.Writes (storage : Storage Address) : CouncilOp Address → Storage Address → Prop
  | initializeContract (admin : Address) (ttlDays : Option Nat) :
      Writes storage (.initializeContract admin ttlDays)
        { storage with
          adminCouncil := some [admin]
          version := some (ascii "1.0.0")
          feeConfig := some ⟨0, admin, none⟩
          ttlConfig := some ⟨ttlDays.getD 30⟩ }
  | transferAdmin (currentAdmin newAdmin : Address) :
      Writes storage (.transferAdmin currentAdmin newAdmin)
        { storage with adminCouncil := handedOver currentAdmin newAdmin storage.adminCouncil }
  | proposeAdminTransfer (currentAdmin newAdmin : Address) :
      Writes storage (.proposeAdminTransfer currentAdmin newAdmin)
        { storage with pendingAdminTransfer := some ⟨currentAdmin, newAdmin⟩ }
  | cancelAdminTransfer (currentAdmin : Address) :
      Writes storage (.cancelAdminTransfer currentAdmin)
        { storage with pendingAdminTransfer := none }
  | acceptAdminTransfer (newAdmin proposedBy : Address) :
      Writes storage (.acceptAdminTransfer newAdmin)
        { storage with
          adminCouncil := handedOver proposedBy newAdmin storage.adminCouncil
          pendingAdminTransfer := none }
  | addSeated (existingAdmin newAdmin : Address) :
      Writes storage (.addAdmin existingAdmin newAdmin) storage
  | addAdmin (existingAdmin newAdmin : Address) :
      Writes storage (.addAdmin existingAdmin newAdmin)
        { storage with adminCouncil := some (storage.council ++ [newAdmin]) }
  | removeUnseated (existingAdmin adminToRemove : Address) :
      Writes storage (.removeAdmin existingAdmin adminToRemove) storage
  | removeAdmin (existingAdmin adminToRemove : Address) :
      Writes storage (.removeAdmin existingAdmin adminToRemove)
        { storage with adminCouncil := some (storage.council.filter (· ≠ adminToRemove)) }
  | initCouncil (admin : Address) (members : List Address) (quorum : Nat) :
      Writes storage (.initCouncil admin members quorum)
        { storage with adminCouncil := some members }

theorem CouncilOp.leaves (op : CouncilOp Address) (accepted : Returns op.exec env before () after) :
    ∃ storage, op.Writes before.storage storage ∧ Leaves before storage after := by
  cases op with
  | initializeContract admin ttlDays =>
      obtain ⟨-, rfl⟩ := (returns_initializeContract ..).mp accepted
      exact ⟨_, .initializeContract .., leaves_publish rfl⟩
  | transferAdmin currentAdmin newAdmin =>
      obtain ⟨-, rfl⟩ := (returns_transferAdmin ..).mp accepted
      exact ⟨_, .transferAdmin .., leaves_publish rfl⟩
  | proposeAdminTransfer currentAdmin newAdmin =>
      obtain ⟨-, rfl⟩ := (returns_proposeAdminTransfer ..).mp accepted
      exact ⟨_, .proposeAdminTransfer .., leaves_publish rfl⟩
  | cancelAdminTransfer currentAdmin =>
      obtain ⟨pending, -, rfl⟩ := (returns_cancelAdminTransfer ..).mp accepted
      exact ⟨_, .cancelAdminTransfer .., leaves_silent⟩
  | acceptAdminTransfer newAdmin =>
      obtain ⟨pending, -, rfl⟩ := (returns_acceptAdminTransfer ..).mp accepted
      exact ⟨_, .acceptAdminTransfer .., leaves_publish rfl⟩
  | addAdmin existingAdmin newAdmin =>
      obtain ⟨-, ⟨-, rfl⟩ | ⟨-, -, rfl⟩⟩ := (returns_addAdmin ..).mp accepted
      · exact ⟨_, .addSeated .., leaves_silent⟩
      · exact ⟨_, .addAdmin .., leaves_publish rfl⟩
  | removeAdmin existingAdmin adminToRemove =>
      obtain ⟨-, ⟨-, rfl⟩ | ⟨-, -, rfl⟩⟩ := (returns_removeAdmin ..).mp accepted
      · exact ⟨_, .removeUnseated .., leaves_silent⟩
      · exact ⟨_, .removeAdmin .., leaves_publish rfl⟩
  | initCouncil admin members quorum =>
      obtain ⟨-, rfl⟩ := (returns_initCouncil ..).mp accepted
      exact ⟨_, .initCouncil .., leaves_publish rfl⟩

end Council

section Administration
variable {Address : Type} [DecidableEq Address] {env : Env Address} {before after : World Address}

-- simp reads through the operations, except for the two whose effect a loop or a stored
-- proposal decides
attribute [simp] CouncilOp.exec Contract.initializeContract Contract.transferAdmin
  Contract.proposeAdminTransfer Contract.cancelAdminTransfer Contract.acceptAdminTransfer
  Contract.addAdmin Contract.removeAdmin Contract.initCouncil

attribute [simp] AdminOp.exec Contract.registerIssuer Contract.removeIssuer
  Contract.registerBridge Contract.setIssuerTier Contract.addToWhitelist
  Contract.removeFromWhitelist Contract.setWhitelistEnabled Contract.enableWhitelistMode
  Contract.setFee Contract.validateFeeConfig Contract.setRateLimit
  Contract.setRateLimitForClaimType Contract.pause Contract.unpause
  Contract.setRequireRegisteredClaimType Contract.setLimits Contract.registerClaimType
  Contract.delegateClaimType Contract.revokeDelegation Contract.registerExpirationHook
  Contract.removeExpirationHook Contract.proposeCouncilAction Contract.approveCouncilAction

/-- A bulk addition changes nothing but the whitelist. -/
theorem whitelisted_of_bulk {issuer : Address} {subjects : List Address}
    (accepted : Returns (Contract.bulkAddToWhitelist issuer subjects) env before () after) :
    ∃ whitelist, after = before.write fun storage => { storage with whitelist } := by
  simp [Contract.bulkAddToWhitelist] at accepted
  obtain ⟨-, -, -, listed⟩ := accepted
  induction subjects generalizing before with
  | nil =>
      simp [each] at listed
      exact ⟨before.storage.whitelist, listed⟩
  | cons subject rest ih =>
      simp [each] at listed
      obtain ⟨whitelist, left⟩ := ih listed.2
      exact ⟨whitelist, left⟩

/-- The storage that an operation of the rest of the administration leaves. -/
inductive AdminOp.Writes (storage : Storage Address) : AdminOp Address → Storage Address → Prop
  | registerIssuer (admin issuer : Address) :
      Writes storage (.registerIssuer admin issuer)
        { storage with
          issuer := Function.update storage.issuer issuer true
          issuerList := if issuer ∈ storage.issuerList then storage.issuerList
            else storage.issuerList ++ [issuer]
          globalStats := { storage.globalStats with
            totalIssuers := saturatingAddU64 storage.globalStats.totalIssuers 1 } }
  | removeIssuer (admin issuer : Address) :
      Writes storage (.removeIssuer admin issuer)
        { storage with
          issuer := Function.update storage.issuer issuer false
          globalStats := { storage.globalStats with
            totalIssuers := storage.globalStats.totalIssuers - 1 } }
  | registerBridge (admin bridgeContract : Address) :
      Writes storage (.registerBridge admin bridgeContract)
        { storage with
          bridge := Function.update storage.bridge bridgeContract true
          bridgeList := if bridgeContract ∈ storage.bridgeList then storage.bridgeList
            else storage.bridgeList ++ [bridgeContract] }
  | setIssuerTier (admin issuer : Address) (tier : IssuerTier) :
      Writes storage (.setIssuerTier admin issuer tier)
        { storage with issuerTier := Function.update storage.issuerTier issuer (some tier) }
  | addToWhitelist (issuer subject : Address) :
      Writes storage (.addToWhitelist issuer subject)
        { storage with
          whitelist := Function.update storage.whitelist issuer
            (Function.update (storage.whitelist issuer) subject true) }
  | bulkAddToWhitelist (issuer : Address) (subjects : List Address)
      (whitelist : Address → Address → Bool) :
      Writes storage (.bulkAddToWhitelist issuer subjects) { storage with whitelist }
  | removeFromWhitelist (issuer subject : Address) :
      Writes storage (.removeFromWhitelist issuer subject)
        { storage with
          whitelist := Function.update storage.whitelist issuer
            (Function.update (storage.whitelist issuer) subject false) }
  | setWhitelistEnabled (issuer : Address) (enabled : Bool) :
      Writes storage (.setWhitelistEnabled issuer enabled)
        { storage with
          whitelistEnabled := Function.update storage.whitelistEnabled issuer enabled }
  | enableWhitelistMode (issuer : Address) :
      Writes storage (.enableWhitelistMode issuer)
        { storage with
          whitelistEnabled := Function.update storage.whitelistEnabled issuer true }
  | setFee (admin : Address) (fee : Int) (collector : Address) (feeToken : Option Address) :
      Writes storage (.setFee admin fee collector feeToken)
        { storage with feeConfig := some ⟨fee, collector, feeToken⟩ }
  | setRateLimit (admin : Address) (minIssuanceInterval : Nat) :
      Writes storage (.setRateLimit admin minIssuanceInterval)
        { storage with rateLimitConfig := some ⟨minIssuanceInterval⟩ }
  | setRateLimitForClaimType (admin : Address) (claimType : Str) (intervalSecs : Nat) :
      Writes storage (.setRateLimitForClaimType admin claimType intervalSecs)
        { storage with
          claimTypeRateLimit :=
            Function.update storage.claimTypeRateLimit claimType (some intervalSecs) }
  | pause (admin : Address) : Writes storage (.pause admin) { storage with paused := true }
  | unpause (admin : Address) : Writes storage (.unpause admin) { storage with paused := false }
  | setRequireRegisteredClaimType (admin : Address) (required : Bool) :
      Writes storage (.setRequireRegisteredClaimType admin required)
        { storage with
          contractConfig := some
            { storage.contractConfig.getD ⟨storage.ttlConfig.getD ⟨30⟩, storage.limits,
                storage.feeConfig.getD ⟨0, admin, none⟩, false⟩ with
              requireRegisteredClaimType := required } }
  | setLimits (admin : Address) (maxAttestationsPerIssuer maxAttestationsPerSubject : Nat) :
      Writes storage (.setLimits admin maxAttestationsPerIssuer maxAttestationsPerSubject)
        { storage with limits := ⟨maxAttestationsPerIssuer, maxAttestationsPerSubject⟩ }
  | registerClaimType (admin : Address) (claimType description : Str) :
      Writes storage (.registerClaimType admin claimType description)
        { storage with
          claimType := Function.update storage.claimType claimType (some ⟨claimType, description⟩)
          claimTypeList := if (storage.claimType claimType).isSome then storage.claimTypeList
            else storage.claimTypeList ++ [claimType] }
  | delegateClaimType (issuer delegate : Address) (claimType : Str) (expiration : Option Nat) :
      Writes storage (.delegateClaimType issuer delegate claimType expiration)
        { storage with
          delegation := Function.update storage.delegation issuer
            (Function.update (storage.delegation issuer) delegate
              (Function.update (storage.delegation issuer delegate) claimType
                (some ⟨issuer, delegate, claimType, expiration⟩)))
          delegatorIndex :=
            if (delegate, claimType) ∈ storage.delegatorIndex issuer then storage.delegatorIndex
            else Function.update storage.delegatorIndex issuer
              (storage.delegatorIndex issuer ++ [(delegate, claimType)]) }
  | revokeDelegation (issuer delegate : Address) (claimType : Str) :
      Writes storage (.revokeDelegation issuer delegate claimType)
        { storage with
          delegation := Function.update storage.delegation issuer
            (Function.update (storage.delegation issuer) delegate
              (Function.update (storage.delegation issuer delegate) claimType none))
          delegatorIndex := Function.update storage.delegatorIndex issuer
            ((storage.delegatorIndex issuer).filter fun entry =>
              entry.1 ≠ delegate ∨ entry.2 ≠ claimType) }
  | registerExpirationHook (subject callbackContract : Address) (notifyDaysBefore : Nat) :
      Writes storage (.registerExpirationHook subject callbackContract notifyDaysBefore)
        { storage with
          expirationHook := Function.update storage.expirationHook subject
            (some ⟨callbackContract, notifyDaysBefore⟩) }
  | removeExpirationHook (subject : Address) :
      Writes storage (.removeExpirationHook subject)
        { storage with expirationHook := Function.update storage.expirationHook subject none }
  | proposeCouncilAction (proposer : Address) (operation : CouncilOperation Address) :
      Writes storage (.proposeCouncilAction proposer operation)
        (Storage.withProposal { storage with proposalCounter := storage.proposalCounter + 1 }
          ⟨storage.proposalCounter + 1, operation, proposer, [proposer], false⟩)
  | approveCouncilAction (approver : Address) (proposalId : Nat)
      (proposal : CouncilProposal Address) :
      Writes storage (.approveCouncilAction approver proposalId)
        (storage.withProposal { proposal with approvals := proposal.approvals ++ [approver] })
  | executeRemoval (executor : Address) (proposalId : Nat) (proposal : CouncilProposal Address)
      (issuer : Address) :
      Writes storage (.executeCouncilAction executor proposalId)
        (Storage.withProposal
          { storage with issuer := Function.update storage.issuer issuer false }
          { proposal with executed := true })
  | executePause (executor : Address) (proposalId : Nat) (proposal : CouncilProposal Address) :
      Writes storage (.executeCouncilAction executor proposalId)
        (Storage.withProposal { storage with paused := true } { proposal with executed := true })

theorem leaves_executeCouncilAction (executor : Address) (proposalId : Nat)
    (accepted : Returns (Contract.executeCouncilAction executor proposalId) env before () after) :
    ∃ storage, AdminOp.Writes before.storage (.executeCouncilAction executor proposalId) storage ∧
      Leaves before storage after := by
  obtain ⟨⟨id, operation, proposer, approvals, executed⟩, -, rfl⟩ :=
    (returns_executeCouncilAction ..).mp accepted
  cases operation with
  | removeIssuer issuer =>
      refine ⟨_, .executeRemoval executor proposalId
        ⟨id, .removeIssuer issuer, proposer, approvals, executed⟩ issuer, rfl, ?_, rfl⟩
      cases first : before.storage.council.head? <;>
        simp [World.notices, performedEvents, first, Event.isNotice]
  | pauseContract =>
      refine ⟨_, .executePause executor proposalId
        ⟨id, .pauseContract, proposer, approvals, executed⟩, rfl, ?_, rfl⟩
      simp [World.notices, performedEvents, Event.isNotice]

theorem AdminOp.leaves (op : AdminOp Address) (accepted : Returns op.exec env before () after) :
    ∃ storage, op.Writes before.storage storage ∧ Leaves before storage after := by
  cases op with
  | registerIssuer admin issuer =>
      simp at accepted
      obtain ⟨-, -, -, -, -, rfl⟩ := accepted
      exact ⟨_, .registerIssuer .., leaves_publish rfl⟩
  | removeIssuer admin issuer =>
      simp at accepted
      obtain ⟨-, -, -, rfl⟩ := accepted
      exact ⟨_, .removeIssuer .., leaves_publish rfl⟩
  | registerBridge admin bridgeContract =>
      simp at accepted
      obtain ⟨-, -, -, -, rfl⟩ := accepted
      exact ⟨_, .registerBridge .., leaves_silent⟩
  | setIssuerTier admin issuer tier =>
      simp at accepted
      obtain ⟨-, -, -, -, rfl⟩ := accepted
      exact ⟨_, .setIssuerTier .., leaves_publish rfl⟩
  | addToWhitelist issuer subject =>
      simp at accepted
      obtain ⟨-, -, -, rfl⟩ := accepted
      exact ⟨_, .addToWhitelist .., leaves_silent⟩
  | bulkAddToWhitelist issuer subjects =>
      obtain ⟨whitelist, rfl⟩ := whitelisted_of_bulk accepted
      exact ⟨_, .bulkAddToWhitelist issuer subjects whitelist, leaves_silent⟩
  | removeFromWhitelist issuer subject =>
      simp at accepted
      obtain ⟨-, -, rfl⟩ := accepted
      exact ⟨_, .removeFromWhitelist .., leaves_silent⟩
  | setWhitelistEnabled issuer enabled =>
      simp at accepted
      obtain ⟨-, -, -, rfl⟩ := accepted
      exact ⟨_, .setWhitelistEnabled .., leaves_silent⟩
  | enableWhitelistMode issuer =>
      simp at accepted
      obtain ⟨-, -, -, rfl⟩ := accepted
      exact ⟨_, .enableWhitelistMode .., leaves_publish rfl⟩
  | setFee admin fee collector feeToken =>
      simp at accepted
      obtain ⟨-, -, -, -, -, -, -, rfl⟩ := accepted
      exact ⟨_, .setFee .., leaves_silent⟩
  | setRateLimit admin minIssuanceInterval =>
      simp at accepted
      obtain ⟨-, -, -, rfl⟩ := accepted
      exact ⟨_, .setRateLimit .., leaves_silent⟩
  | setRateLimitForClaimType admin claimType intervalSecs =>
      simp at accepted
      obtain ⟨-, -, -, -, rfl⟩ := accepted
      exact ⟨_, .setRateLimitForClaimType .., leaves_silent⟩
  | pause admin =>
      simp at accepted
      obtain ⟨-, -, -, rfl⟩ := accepted
      exact ⟨_, .pause .., leaves_publish rfl⟩
  | unpause admin =>
      simp at accepted
      obtain ⟨-, -, -, rfl⟩ := accepted
      exact ⟨_, .unpause .., leaves_publish rfl⟩
  | setRequireRegisteredClaimType admin required =>
      simp at accepted
      obtain ⟨-, -, -, rfl⟩ := accepted
      exact ⟨_, .setRequireRegisteredClaimType .., leaves_silent⟩
  | setLimits admin maxAttestationsPerIssuer maxAttestationsPerSubject =>
      simp at accepted
      obtain ⟨-, -, -, rfl⟩ := accepted
      exact ⟨_, .setLimits .., leaves_silent⟩
  | registerClaimType admin claimType description =>
      simp at accepted
      obtain ⟨-, -, -, -, rfl⟩ := accepted
      exact ⟨_, .registerClaimType .., leaves_publish rfl⟩
  | delegateClaimType issuer delegate claimType expiration =>
      simp at accepted
      obtain ⟨-, -, -, -, -, rfl⟩ := accepted
      exact ⟨_, .delegateClaimType .., leaves_publish rfl⟩
  | revokeDelegation issuer delegate claimType =>
      simp at accepted
      obtain ⟨-, -, -, -, rfl⟩ := accepted
      exact ⟨_, .revokeDelegation .., by simp, by simp [World.notices, Event.isNotice], rfl⟩
  | registerExpirationHook subject callbackContract notifyDaysBefore =>
      simp at accepted
      obtain ⟨-, -, -, rfl⟩ := accepted
      exact ⟨_, .registerExpirationHook .., leaves_silent⟩
  | removeExpirationHook subject =>
      simp at accepted
      obtain ⟨-, rfl⟩ := accepted
      exact ⟨_, .removeExpirationHook .., leaves_silent⟩
  | proposeCouncilAction proposer operation =>
      obtain ⟨id, accepted⟩ := (returns_void ..).mp accepted
      obtain ⟨-, -, rfl⟩ := (returns_proposeCouncilAction ..).mp accepted
      exact ⟨_, .proposeCouncilAction .., leaves_publish rfl⟩
  | approveCouncilAction approver proposalId =>
      obtain ⟨proposal, -, rfl⟩ := (returns_approveCouncilAction ..).mp accepted
      exact ⟨_, .approveCouncilAction approver proposalId proposal, leaves_publish rfl⟩
  | executeCouncilAction executor proposalId =>
      exact leaves_executeCouncilAction executor proposalId accepted

end Administration

end TrustLink
