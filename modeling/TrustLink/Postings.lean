import TrustLink.Lib.EventLog
import TrustLink.Notices

/-!
Everything an accepted call publishes, in order. The log of the contract only ever grows, and by
nothing but these events.
-/
namespace TrustLink
open Transaction Contract

section Postings
variable {Address : Type} [DecidableEq Address] [Host Address]

/-- The event of a change; that of an amendment depends on the operation. -/
def Change.posting? (now : Nat) : Change Address → Option (Event Address)
  | .transfer attestation newIssuer =>
      some (.attestationTransferred attestation.id attestation.issuer newIssuer)
  | .erase attestation => some (.deletionRequested attestation.subject attestation.id now)
  | change => change.notice?

/-- A new expiration is announced as a renewal; an endorsement is not announced. -/
def AttestationOp.postings (storage : Storage Address) (now : Nat) (op : AttestationOp Address) :
    List (Event Address) :=
  match op with
  | .renewAttestation issuer id newExpiration | .updateExpiration issuer id newExpiration =>
      [.attestationRenewed id issuer newExpiration]
  | _ => (op.changes storage now).filterMap (Change.posting? now)

def RequestOp.postings (storage : Storage Address) (now : Nat) :
    RequestOp Address → List (Event Address)
  | .requestAttestation subject issuer claimType =>
      [.attestationRequested (AttestationRequest.generateId subject issuer claimType now) subject
        issuer claimType (now + attestationRequestTtlSecs)]
  | .fulfillRequest issuer requestId expiration =>
      (storage.request requestId).toList.flatMap fun request =>
        [.attestationCreated { nativeRecord issuer request.subject request.claimType now with
            expiration },
          .requestFulfilled requestId issuer
            (nativeRecord issuer request.subject request.claimType now).id]
  | .rejectRequest issuer requestId reason => [.requestRejected requestId issuer reason]
  | .cancelRequest subject requestId => [.requestCancelled requestId subject]

def MultisigOp.postings (storage : Storage Address) (now : Nat) :
    MultisigOp Address → List (Event Address)
  | .proposeAttestation proposer subject claimType _ threshold =>
      if Bypasses storage proposer claimType then
        [.attestationCreated (nativeRecord proposer subject claimType now)]
      else
        [.multisigProposed (MultiSigProposal.generateId proposer subject claimType now) proposer
          subject threshold]
  | .cosignAttestation issuer proposalId =>
      (storage.multisigProposal proposalId).toList.flatMap fun proposal =>
        .multisigCosigned proposalId issuer (proposal.signers.length + 1) proposal.threshold ::
          if proposal.threshold ≤ proposal.signers.length + 1 then
            [.attestationCreated (proposedRecord proposal),
              .multisigActivated proposalId (proposedRecord proposal).id]
          else []

def CouncilOp.postings (storage : Storage Address) (now : Nat) :
    CouncilOp Address → List (Event Address)
  | .initializeContract admin _ => [.adminInitialized admin now]
  | .transferAdmin currentAdmin newAdmin => [.adminTransferred currentAdmin newAdmin]
  | .proposeAdminTransfer currentAdmin newAdmin => [.adminTransferProposed currentAdmin newAdmin]
  | .cancelAdminTransfer _ => []
  | .acceptAdminTransfer newAdmin =>
      storage.pendingAdminTransfer.toList.map fun pending =>
        .adminTransferred pending.proposedBy newAdmin
  | .addAdmin existingAdmin newAdmin =>
      if newAdmin ∈ storage.council then [] else [.adminAdded existingAdmin newAdmin now]
  | .removeAdmin existingAdmin adminToRemove =>
      if adminToRemove ∈ storage.council then [.adminRemoved existingAdmin adminToRemove now]
      else []
  | .initCouncil _ members quorum => [.councilInitialized quorum members.length]

def AdminOp.postings (storage : Storage Address) (now : Nat) :
    AdminOp Address → List (Event Address)
  | .registerIssuer admin issuer => [.issuerRegistered issuer admin now]
  | .removeIssuer admin issuer => [.issuerRemoved issuer admin now]
  | .setIssuerTier _ issuer tier => [.issuerTierUpdated issuer tier]
  | .enableWhitelistMode issuer => [.whitelistModeEnabled issuer]
  | .pause admin => [.contractPaused admin now]
  | .unpause admin => [.contractUnpaused admin now]
  | .registerClaimType _ claimType description => [.claimTypeRegistered claimType description]
  | .delegateClaimType issuer delegate claimType expiration =>
      [.delegationCreated issuer delegate claimType expiration]
  | .revokeDelegation issuer delegate claimType => [.delegationRevoked issuer delegate claimType]
  | .proposeCouncilAction proposer _ => [.proposalCreated (storage.proposalCounter + 1) proposer]
  | .approveCouncilAction approver proposalId => [.proposalApproved proposalId approver]
  | .executeCouncilAction _ proposalId =>
      (storage.councilProposal proposalId).toList.flatMap fun proposal =>
        performedEvents storage proposal.operation now ++ [.proposalExecuted proposalId]
  | .registerBridge _ _ | .addToWhitelist _ _ | .bulkAddToWhitelist _ _
  | .removeFromWhitelist _ _ | .setWhitelistEnabled _ _ | .setFee _ _ _ _ | .setRateLimit _ _
  | .setRateLimitForClaimType _ _ _ | .setRequireRegisteredClaimType _ _ | .setLimits _ _ _
  | .registerExpirationHook _ _ _ | .removeExpirationHook _ => []

def Call.postings (storage : Storage Address) (call : Call Address) : List (Event Address) :=
  match call.op with
  | .attestation op => op.postings storage call.env.timestamp
  | .request op => op.postings storage call.env.timestamp
  | .multisig op => op.postings storage call.env.timestamp
  | .council op => op.postings storage call.env.timestamp
  | .admin op => op.postings storage call.env.timestamp

end Postings

section Topics
variable {Address : Type}

/-- The part of the contract that an event is about. -/
inductive Topic where
  | register | directory | requests | proposals | actions | office | reports
  deriving DecidableEq

def Event.topic : Event Address → Topic
  | .attestationCreated _ | .attestationImported _ | .attestationBridged _
  | .attestationRevoked _ _ _ | .attestationRevokedWithReason _ _ _ | .attestationRenewed _ _ _
  | .attestationTransferred _ _ _ | .deletionRequested _ _ _ => .register
  | .attestationExpired _ _ | .expirationHookTriggered _ _ _ => .reports
  | .issuerRegistered _ _ _ | .issuerRemoved _ _ _ | .issuerTierUpdated _ _
  | .claimTypeRegistered _ _ | .delegationCreated _ _ _ _ | .delegationRevoked _ _ _ => .directory
  | .attestationRequested _ _ _ _ _ | .requestFulfilled _ _ _ | .requestRejected _ _ _
  | .requestCancelled _ _ => .requests
  | .multisigProposed _ _ _ _ | .multisigCosigned _ _ _ _ | .multisigActivated _ _ => .proposals
  | .proposalCreated _ _ | .proposalApproved _ _ | .proposalExecuted _ => .actions
  | .adminInitialized _ _ | .adminTransferred _ _ | .adminTransferProposed _ _
  | .adminAdded _ _ _ | .adminRemoved _ _ _ | .contractPaused _ _ | .contractUnpaused _ _
  | .whitelistModeEnabled _ | .councilInitialized _ _ => .office

theorem topic_posting {change : Change Address} {now : Nat} {event : Event Address}
    (posted : change.posting? now = some event) : event.topic = .register := by
  cases change with
  | issue attestation =>
      obtain rfl := Option.some.inj posted
      cases origin : attestation.origin <;> simp [Attestation.announcement, origin, Event.topic]
  | amend attestation expiration => cases posted
  | revoke | revokeInBatch | transfer | erase =>
      obtain rfl := Option.some.inj posted
      rfl

theorem AttestationOp.topic_postings [DecidableEq Address] [Host Address]
    (op : AttestationOp Address) (storage : Storage Address) (now : Nat) :
    ∀ event ∈ op.postings storage now, event.topic = .register := by
  intro event member
  have ofChanges : event ∈ (op.changes storage now).filterMap (Change.posting? now) →
      event.topic = .register := by
    intro listed
    obtain ⟨change, -, posted⟩ := List.mem_filterMap.mp listed
    exact topic_posting posted
  cases op with
  | renewAttestation | updateExpiration =>
      obtain rfl := List.mem_singleton.mp member
      rfl
  | _ => exact ofChanges member

theorem CouncilOp.topic_postings [DecidableEq Address] (op : CouncilOp Address)
    (storage : Storage Address) (now : Nat) :
    ∀ event ∈ op.postings storage now, event.topic = .office := by
  intro event member
  cases op with
  | cancelAdminTransfer currentAdmin => cases member
  | acceptAdminTransfer newAdmin =>
      obtain ⟨pending, -, rfl⟩ := List.mem_map.mp member
      rfl
  | addAdmin existingAdmin newAdmin =>
      rw [CouncilOp.postings] at member
      split at member
      · cases member
      · obtain rfl := List.mem_singleton.mp member
        rfl
  | removeAdmin existingAdmin adminToRemove =>
      rw [CouncilOp.postings] at member
      split at member
      · obtain rfl := List.mem_singleton.mp member
        rfl
      · cases member
  | initializeContract | transferAdmin | proposeAdminTransfer | initCouncil =>
      obtain rfl := List.mem_singleton.mp member
      rfl

theorem AdminOp.topic_postings [DecidableEq Address] (op : AdminOp Address)
    (storage : Storage Address) (now : Nat) :
    ∀ event ∈ op.postings storage now, event.topic ∈ [.directory, .actions, .office] := by
  cases op with
  | executeCouncilAction executor proposalId =>
      intro event member
      obtain ⟨proposal, -, listed⟩ := List.mem_flatMap.mp member
      rcases List.mem_append.mp listed with performed | done
      · cases operation : proposal.operation with
        | removeIssuer issuer =>
            simp [operation, performedEvents] at performed
            obtain ⟨first, -, rfl⟩ := performed
            simp [Event.topic]
        | pauseContract => simp [operation, performedEvents] at performed
      · obtain rfl := List.mem_singleton.mp done
        simp [Event.topic]
  | _ => simp [AdminOp.postings, Event.topic]

end Topics

section Logs
variable {Address : Type} [DecidableEq Address] {env : Env Address} {before after : World Address}

theorem CouncilOp.events_of_returns (op : CouncilOp Address)
    (accepted : Returns op.exec env before () after) :
    after.events = before.events ++ op.postings before.storage env.timestamp := by
  cases op with
  | initializeContract admin ttlDays =>
      obtain ⟨-, rfl⟩ := (returns_initializeContract ..).mp accepted
      rfl
  | transferAdmin currentAdmin newAdmin =>
      obtain ⟨-, rfl⟩ := (returns_transferAdmin ..).mp accepted
      rfl
  | proposeAdminTransfer currentAdmin newAdmin =>
      obtain ⟨-, rfl⟩ := (returns_proposeAdminTransfer ..).mp accepted
      rfl
  | cancelAdminTransfer currentAdmin =>
      obtain ⟨pending, -, rfl⟩ := (returns_cancelAdminTransfer ..).mp accepted
      exact (List.append_nil _).symm
  | acceptAdminTransfer newAdmin =>
      obtain ⟨pending, ⟨-, found, -⟩, rfl⟩ := (returns_acceptAdminTransfer ..).mp accepted
      simp [CouncilOp.postings, found]
  | addAdmin existingAdmin newAdmin =>
      obtain ⟨-, ⟨seated, rfl⟩ | ⟨outside, -, rfl⟩⟩ := (returns_addAdmin ..).mp accepted
      · simp [CouncilOp.postings, seated]
      · simp [CouncilOp.postings, outside]
  | removeAdmin existingAdmin adminToRemove =>
      obtain ⟨-, ⟨outside, rfl⟩ | ⟨seated, -, rfl⟩⟩ := (returns_removeAdmin ..).mp accepted
      · simp [CouncilOp.postings, outside]
      · simp [CouncilOp.postings, seated]
  | initCouncil admin members quorum =>
      obtain ⟨-, rfl⟩ := (returns_initCouncil ..).mp accepted
      rfl

theorem AdminOp.events_of_returns (op : AdminOp Address)
    (accepted : Returns op.exec env before () after) :
    after.events = before.events ++ op.postings before.storage env.timestamp := by
  cases op with
  | bulkAddToWhitelist issuer subjects =>
      obtain ⟨whitelist, rfl⟩ := whitelisted_of_bulk accepted
      exact (List.append_nil _).symm
  | revokeDelegation issuer delegate claimType =>
      simp at accepted
      obtain ⟨-, -, -, -, rfl⟩ := accepted
      simp [AdminOp.postings]
  | proposeCouncilAction proposer operation =>
      obtain ⟨id, accepted⟩ := (returns_void ..).mp accepted
      obtain ⟨-, -, rfl⟩ := (returns_proposeCouncilAction ..).mp accepted
      rfl
  | approveCouncilAction approver proposalId =>
      obtain ⟨proposal, -, rfl⟩ := (returns_approveCouncilAction ..).mp accepted
      rfl
  | executeCouncilAction executor proposalId =>
      obtain ⟨proposal, ⟨-, -, found, -⟩, rfl⟩ := (returns_executeCouncilAction ..).mp accepted
      simp [AdminOp.postings, found]
  | _ =>
      simp at accepted
      simp [accepted, AdminOp.postings]

variable [Host Address]

theorem RequestOp.events_of_returns (op : RequestOp Address)
    (accepted : Returns op.exec env before () after) :
    after.events = before.events ++ op.postings before.storage env.timestamp := by
  cases op.outcome accepted with
  | requestAttestation built => rw [built, RequestOp.postings]
  | fulfillRequest built checks =>
      subst built
      simp [RequestOp.postings, checks.found, nativeRecord, Attestation.issued]
  | rejectRequest | cancelRequest => rfl

theorem MultisigOp.events_of_returns (op : MultisigOp Address)
    (accepted : Returns op.exec env before () after) :
    after.events = before.events ++ op.postings before.storage env.timestamp := by
  cases op.outcome accepted with
  | bypass built _ bypasses =>
      subst built
      simp [MultisigOp.postings, bypasses, nativeRecord]
  | proposal built _ stays =>
      subst built
      simp [MultisigOp.postings, stays]
  | completion cosignable reached => simp [MultisigOp.postings, cosignable.found, reached]
  | cosignature cosignable short =>
      simp [MultisigOp.postings, cosignable.found, Nat.not_le_of_lt short]

theorem AttestationOp.events_of_returns (op : AttestationOp Address)
    (keyed : Keyed before.storage.register) (accepted : Returns op.exec env before () after) :
    after.events = before.events ++ op.postings before.storage env.timestamp := by
  cases op with
  | createAttestation | createAttestationValidFrom | createAttestationJurisdiction =>
      obtain ⟨id, accepted⟩ := (returns_void ..).mp accepted
      obtain ⟨-, -, paid, -, rfl⟩ :=
        (returns_createAttestationInternal _ _ _ _ _ _ _ _ _ _ rfl).mp accepted
      rfl
  | importAttestation admin issuer subject claimType timestamp expiration =>
      obtain ⟨id, accepted⟩ := (returns_void ..).mp accepted
      obtain ⟨-, -, rfl⟩ := (returns_importAttestation _ _ _ _ _ _ _ _ rfl).mp accepted
      rfl
  | bridgeAttestation bridge subject claimType sourceChain sourceTx =>
      obtain ⟨id, accepted⟩ := (returns_void ..).mp accepted
      obtain ⟨-, -, rfl⟩ := (returns_bridgeAttestation _ _ _ _ _ _ _ rfl).mp accepted
      rfl
  | createAttestationAsDelegate delegate delegator subject claimType expiration metadata =>
      obtain ⟨id, accepted⟩ := (returns_void ..).mp accepted
      obtain ⟨-, -, rfl⟩ := (returns_createAttestationAsDelegate _ _ _ _ _ _ _ _ rfl).mp accepted
      rfl
  | createAttestationsBatch issuer subjects claimType expiration =>
      obtain ⟨ids, accepted⟩ := (returns_void ..).mp accepted
      obtain ⟨-, -, rfl⟩ := (returns_createAttestationsBatch _ _ _ _ _ _ rfl).mp accepted
      simp [AttestationOp.postings, AttestationOp.changes, List.filterMap_map, Function.comp_def,
        Change.posting?, Change.notice?, Attestation.announcement, batchRecord, Attestation.issued]
  | revokeAttestation issuer id reason =>
      obtain ⟨attestation, managed, -, -, -, rfl⟩ := (returns_revokeAttestation ..).mp accepted
      obtain rfl := (keyed id attestation managed.found).1
      obtain rfl := managed.own
      simp [AttestationOp.postings, changes_revokeAttestation _ reason managed.found,
        Change.posting?, Change.notice?]
  | renewAttestation issuer id newExpiration =>
      obtain ⟨attestation, -, -, details, -, rfl⟩ := (returns_renewAttestation ..).mp accepted
      rfl
  | revokeAttestationsBatch issuer ids reason =>
      obtain ⟨count, accepted⟩ := (returns_void ..).mp accepted
      obtain ⟨records, ⟨-, -, -, -, -, -, revocable, -⟩, -, rfl⟩ :=
        (returns_revokeAttestationsBatch _ _ _ _).mp accepted
      have own : ∀ record ∈ records, record.issuer = issuer :=
        fun record member => (found_of_revocable keyed revocable record member).1
      refine congrArg (before.events ++ ·) ?_
      rw [AttestationOp.postings, AttestationOp.changes, map_of_revocable _ revocable,
        List.filterMap_map, ← List.filterMap_eq_map]
      · refine List.filterMap_congr fun record member => ?_
        simp [Change.posting?, Change.notice?, own record member]
      all_goals simp
  | updateExpiration issuer id newExpiration =>
      obtain ⟨attestation, -, -, rfl⟩ := (returns_updateExpiration ..).mp accepted
      rfl
  | transferAttestation admin id newIssuer =>
      obtain ⟨attestation, ⟨-, -, -, found⟩, ⟨same, rfl⟩ | ⟨moved, -, rfl⟩⟩ :=
        (returns_transferAttestation ..).mp accepted
      · simp [AttestationOp.postings, changes_transfer_same admin found same]
      · obtain rfl := (keyed id attestation found).1
        simp [AttestationOp.postings, changes_transferAttestation admin found moved,
          Change.posting?]
  | requestDeletion subject id =>
      obtain ⟨attestation, ⟨-, found, rfl, -, -⟩, rfl⟩ := (returns_requestDeletion ..).mp accepted
      obtain rfl := (keyed id attestation found).1
      simp [AttestationOp.postings, changes_requestDeletion _ found, Change.posting?]
  | endorseAttestation endorser id =>
      obtain ⟨-, rfl⟩ := (returns_endorseAttestation ..).mp accepted
      exact (List.append_nil _).symm

/-- The log grows by what the call posts. -/
theorem events_of_accepted {call : Call Address} (keyed : Keyed before.storage.register)
    (accepted : Accepted before call after) :
    after.events = before.events ++ call.postings before.storage := by
  obtain ⟨env, op⟩ := call
  cases op with
  | attestation op => exact op.events_of_returns keyed accepted
  | request op => exact op.events_of_returns accepted
  | multisig op => exact op.events_of_returns accepted
  | council op => exact op.events_of_returns accepted
  | admin op => exact op.events_of_returns accepted

end Logs

section Silence
variable {Address View : Type} [DecidableEq Address] [Host Address] {env : Env Address}
  {before after : World Address} {view : World Address → View}
  {absorb : View → Event Address → View} {topic : Topic}

/-- Operations on attestations tell nothing to an observer of another topic. -/
theorem AttestationOp.tells_elsewhere (op : AttestationOp Address)
    (keyed : Keyed before.storage.register) (accepted : Returns op.exec env before () after)
    (other : topic ≠ .register)
    (ignores : ∀ event : Event Address, event.topic ≠ topic → ∀ seen, absorb seen event = seen)
    (same : view after = view before) : EventLog.Tells World.events view absorb before after := by
  refine EventLog.tells_ignored (op.events_of_returns keyed accepted) (fun event member => ?_) same
  refine ignores event ?_
  rw [op.topic_postings _ _ event member]
  exact other.symm

omit [Host Address] in
theorem CouncilOp.tells_elsewhere (op : CouncilOp Address)
    (accepted : Returns op.exec env before () after) (other : topic ≠ .office)
    (ignores : ∀ event : Event Address, event.topic ≠ topic → ∀ seen, absorb seen event = seen)
    (same : view after = view before) : EventLog.Tells World.events view absorb before after := by
  refine EventLog.tells_ignored (op.events_of_returns accepted) (fun event member => ?_) same
  refine ignores event ?_
  rw [op.topic_postings _ _ event member]
  exact other.symm

omit [Host Address] in
theorem AdminOp.tells_elsewhere (op : AdminOp Address)
    (accepted : Returns op.exec env before () after)
    (other : topic ∉ [.directory, .actions, .office])
    (ignores : ∀ event : Event Address, event.topic ≠ topic → ∀ seen, absorb seen event = seen)
    (same : view after = view before) : EventLog.Tells World.events view absorb before after := by
  refine EventLog.tells_ignored (op.events_of_returns accepted) (fun event member => ?_) same
  refine ignores event fun here => other ?_
  rw [← here]
  exact op.topic_postings _ _ event member

end Silence

end TrustLink
