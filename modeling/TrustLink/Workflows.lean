import TrustLink.Contract

/-!
The two workflows that end in an attestation, the requests and the multi-sig proposals: the ways
in which an operation of each succeeds, with the checks it has passed and the world it leaves.
-/
namespace TrustLink
open Transaction Contract

section Requests
variable {Address : Type} [DecidableEq Address] [Host Address] {env : Env Address}
  {before after : World Address}

/-- How an operation on requests succeeds. -/
inductive RequestOp.Outcome (env : Env Address) (before : World Address) :
    RequestOp Address → World Address → Prop
  | requestAttestation {subject issuer : Address} {claimType : Str}
      {request : AttestationRequest Address}
      (built : request = ⟨AttestationRequest.generateId subject issuer claimType env.timestamp,
        subject, issuer, claimType, env.timestamp, env.timestamp + attestationRequestTtlSecs,
        .pending, none⟩)
      (auth : subject ∈ env.auths) (running : before.storage.paused = false)
      (registered : before.storage.issuer issuer = true)
      (claim : Validation.validateClaimType claimType = .ok ())
      (fresh : before.storage.request request.id = none) (fits : request.expiresAt < u64Range)
      (ttl : TtlFits before.storage.ttlConfig) :
      Outcome env before (.requestAttestation subject issuer claimType)
        ⟨{ before.storage with
            request := Function.update before.storage.request request.id (some request)
            pendingRequests := Function.update before.storage.pendingRequests issuer
              (before.storage.pendingRequests issuer ++ [request.id]) },
          before.events ++ [.attestationRequested request.id subject issuer claimType
            request.expiresAt], before.payments⟩
  | fulfillRequest {issuer : Address} {requestId : Str} {expiration : Option Nat}
      {request : AttestationRequest Address} {attestation : Attestation Address}
      (built : attestation = { Attestation.issued
        (Attestation.generateId issuer request.subject request.claimType env.timestamp) issuer
        request.subject request.claimType env.timestamp .native with expiration })
      (checks : FulfillChecks before.storage env issuer requestId expiration request attestation) :
      Outcome env before (.fulfillRequest issuer requestId expiration)
        ⟨{ before.storage.withIssued attestation with
            request := Function.update before.storage.request request.id
              (some { request with status := .fulfilled })
            pendingRequests := Function.update before.storage.pendingRequests issuer
              ((before.storage.pendingRequests issuer).filter (· ≠ requestId)) },
          before.events ++ [.attestationCreated attestation,
            .requestFulfilled requestId issuer attestation.id], before.payments⟩
  | rejectRequest {issuer : Address} {requestId : Str} {reason : Option Str}
      {request : AttestationRequest Address} (auth : issuer ∈ env.auths)
      (running : before.storage.paused = false) (registered : before.storage.issuer issuer = true)
      (explained : validateReason reason = .ok ())
      (found : before.storage.request requestId = some request) (own : request.issuer = issuer)
      (pending : request.status = .pending) (early : env.timestamp < request.expiresAt)
      (ttl : TtlFits before.storage.ttlConfig) :
      Outcome env before (.rejectRequest issuer requestId reason)
        ⟨{ before.storage with
            request := Function.update before.storage.request request.id
              (some { request with status := .rejected, rejectionReason := reason })
            pendingRequests := Function.update before.storage.pendingRequests issuer
              ((before.storage.pendingRequests issuer).filter (· ≠ requestId)) },
          before.events ++ [.requestRejected requestId issuer reason], before.payments⟩
  | cancelRequest {subject : Address} {requestId : Str} {request : AttestationRequest Address}
      (auth : subject ∈ env.auths) (running : before.storage.paused = false)
      (found : before.storage.request requestId = some request) (own : request.subject = subject)
      (pending : request.status = .pending) (ttl : TtlFits before.storage.ttlConfig) :
      Outcome env before (.cancelRequest subject requestId)
        ⟨{ before.storage with
            request := Function.update before.storage.request request.id
              (some { request with status := .cancelled })
            pendingRequests := Function.update before.storage.pendingRequests request.issuer
              ((before.storage.pendingRequests request.issuer).filter (· ≠ requestId)) },
          before.events ++ [.requestCancelled requestId subject], before.payments⟩

theorem RequestOp.outcome (op : RequestOp Address)
    (accepted : Returns op.exec env before () after) : op.Outcome env before after := by
  cases op with
  | requestAttestation subject issuer claimType =>
      obtain ⟨id, accepted⟩ := (returns_void ..).mp accepted
      obtain ⟨⟨auth, running, registered, claim, fresh, fits, ttl⟩, -, rfl⟩ :=
        (returns_requestAttestation _ _ _ _ _ rfl).mp accepted
      exact .requestAttestation rfl auth running registered claim fresh fits ttl
  | fulfillRequest issuer requestId expiration =>
      obtain ⟨id, accepted⟩ := (returns_void ..).mp accepted
      obtain ⟨request, attestation, built, checks, -, rfl⟩ :=
        (returns_fulfillRequest ..).mp accepted
      exact .fulfillRequest built checks
  | rejectRequest issuer requestId reason =>
      obtain ⟨request, ⟨auth, running, registered, explained, found, own, pending, early, ttl⟩,
        rfl⟩ := (returns_rejectRequest ..).mp accepted
      exact .rejectRequest auth running registered explained found own pending early ttl
  | cancelRequest subject requestId =>
      obtain ⟨request, ⟨auth, running, found, own, pending, ttl⟩, rfl⟩ :=
        (returns_cancelRequest ..).mp accepted
      exact .cancelRequest auth running found own pending ttl

end Requests

section Proposals
variable {Address : Type} [DecidableEq Address] [Host Address] {env : Env Address}
  {before after : World Address}

/-- How an operation on multi-sig proposals succeeds. -/
inductive MultisigOp.Outcome (env : Env Address) (before : World Address) :
    MultisigOp Address → World Address → Prop
  | bypass {proposer subject : Address} {claimType : Str} {requiredSigners : List Address}
      {threshold : Nat} {record : Attestation Address}
      (built : record = Attestation.issued
        (Attestation.generateId proposer subject claimType env.timestamp) proposer subject claimType
        env.timestamp .native)
      (active : Active before.storage env proposer)
      (bypasses : Bypasses before.storage proposer claimType)
      (fits : StoreFits before.storage record) :
      Outcome env before (.proposeAttestation proposer subject claimType requiredSigners threshold)
        ⟨before.storage.withIssued record, before.events ++ [.attestationCreated record],
          before.payments⟩
  | proposal {proposer subject : Address} {claimType : Str} {requiredSigners : List Address}
      {threshold : Nat} {proposal : MultiSigProposal Address}
      (built : proposal = ⟨MultiSigProposal.generateId proposer subject claimType env.timestamp,
        proposer, subject, claimType, requiredSigners, threshold, [proposer], env.timestamp,
        env.timestamp + multisigProposalTtlSecs, false⟩)
      (active : Active before.storage env proposer)
      (stays : ¬ Bypasses before.storage proposer claimType)
      (registered : ∀ signer ∈ requiredSigners, before.storage.issuer signer = true)
      (positive : 0 < threshold) (enough : threshold ≤ requiredSigners.length)
      (fits : env.timestamp + multisigProposalTtlSecs < u64Range)
      (ttl : TtlFits before.storage.ttlConfig) :
      Outcome env before (.proposeAttestation proposer subject claimType requiredSigners threshold)
        ⟨{ before.storage with
            multisigProposal :=
              Function.update before.storage.multisigProposal proposal.id (some proposal) },
          before.events ++ [.multisigProposed proposal.id proposer subject threshold],
          before.payments⟩
  | completion {issuer : Address} {proposalId : Str} {proposal : MultiSigProposal Address}
      (cosignable : Cosignable before.storage env issuer proposalId proposal)
      (reached : proposal.threshold ≤ proposal.signers.length + 1)
      (fits : StoreFits before.storage (proposedRecord proposal)) :
      Outcome env before (.cosignAttestation issuer proposalId)
        ⟨{ before.storage.withIssued (proposedRecord proposal) with
            multisigProposal := Function.update before.storage.multisigProposal proposal.id
              (some { proposal with
                signers := proposal.signers ++ [issuer], finalized := true }) },
          before.events ++
            [.multisigCosigned proposalId issuer (proposal.signers.length + 1) proposal.threshold,
              .attestationCreated (proposedRecord proposal),
              .multisigActivated proposalId (proposedRecord proposal).id],
          before.payments⟩
  | cosignature {issuer : Address} {proposalId : Str} {proposal : MultiSigProposal Address}
      (cosignable : Cosignable before.storage env issuer proposalId proposal)
      (short : proposal.signers.length + 1 < proposal.threshold) :
      Outcome env before (.cosignAttestation issuer proposalId)
        ⟨{ before.storage with
            multisigProposal := Function.update before.storage.multisigProposal proposal.id
              (some { proposal with signers := proposal.signers ++ [issuer] }) },
          before.events ++
            [.multisigCosigned proposalId issuer (proposal.signers.length + 1) proposal.threshold],
          before.payments⟩

theorem MultisigOp.outcome (op : MultisigOp Address)
    (accepted : Returns op.exec env before () after) : op.Outcome env before after := by
  cases op with
  | proposeAttestation proposer subject claimType requiredSigners threshold =>
      obtain ⟨id, accepted⟩ := (returns_void ..).mp accepted
      obtain ⟨active, ⟨bypasses, issued⟩ | ⟨stays, stored⟩⟩ :=
        (returns_proposeAttestation ..).mp accepted
      · obtain ⟨fits, -, rfl⟩ := (returns_issueAsPremium _ _ _ _ _ rfl).mp issued
        exact .bypass rfl active bypasses fits
      · obtain ⟨⟨registered, positive, enough, fits, ttl⟩, -, rfl⟩ :=
          (returns_storeProposal _ _ _ _ _ _ _ rfl).mp stored
        exact .proposal rfl active stays registered positive enough fits ttl
  | cosignAttestation issuer proposalId =>
      obtain ⟨proposal, cosignable, ⟨reached, fits, rfl⟩ | ⟨short, rfl⟩⟩ :=
        (returns_cosignAttestation ..).mp accepted
      · exact .completion cosignable reached fits
      · exact .cosignature cosignable short

end Proposals

end TrustLink
