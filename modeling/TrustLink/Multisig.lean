import TrustLink.Attestation

/-!
The multi-sig attestations of multisig.rs and what the two operations do when
they return. A proposal is completed by the co-signature that reaches its
threshold; a premium issuer skips the proposal for one claim type.
-/
namespace TrustLink

def accreditedInvestor : Str := ascii "ACCREDITED_INVESTOR"

namespace Contract
open Transaction

section Operations
variable {Address : Type} [DecidableEq Address] [Host Address]

/-- The bypass of premium issuers. It does not look for a stored record. -/
def issueAsPremium (proposer subject : Address) (claimType : Str) : Program Address Str := do
  let timestamp ← ledgerTimestamp
  let attestationId := Attestation.generateId proposer subject claimType timestamp
  let attestation : Attestation Address :=
    Attestation.issued attestationId proposer subject claimType timestamp .native
  storeAttestation attestation
  emit (.attestationCreated attestation)
  pure attestationId

def storeProposal (proposer subject : Address) (claimType : Str)
    (requiredSigners : List Address) (threshold : Nat) : Program Address Str := do
  each Validation.requireIssuer requiredSigners
  failWhen (threshold = 0 ∨ requiredSigners.length < threshold) .invalidThreshold
  let timestamp ← ledgerTimestamp
  let proposalId := MultiSigProposal.generateId proposer subject claimType timestamp
  let expiresAt ← checkedU64 (timestamp + multisigProposalTtlSecs)
  Storage.setMultisigProposal ⟨proposalId, proposer, subject, claimType, requiredSigners,
    threshold, [proposer], timestamp, expiresAt, false⟩
  emit (.multisigProposed proposalId proposer subject threshold)
  pure proposalId

def proposeAttestation (proposer subject : Address) (claimType : Str)
    (requiredSigners : List Address) (threshold : Nat) : Program Address Str := do
  requireAuth proposer
  Validation.requireIssuer proposer
  Validation.requireNotPaused
  let tier ← Storage.getIssuerTier proposer
  if claimType = accreditedInvestor ∧ tier = some .premium then
    issueAsPremium proposer subject claimType
  else storeProposal proposer subject claimType requiredSigners threshold

/-- The record a completed proposal stands for; its id is that of a direct
issuance at the time of the proposal. -/
def proposedRecord (proposal : MultiSigProposal Address) : Attestation Address :=
  Attestation.issued
    (Attestation.generateId proposal.proposer proposal.subject proposal.claimType
      proposal.createdAt)
    proposal.proposer proposal.subject proposal.claimType proposal.createdAt .native

def cosignAttestation (issuer : Address) (proposalId : Str) : Program Address Unit := do
  requireAuth issuer
  Validation.requireIssuer issuer
  Validation.requireNotPaused
  let proposal ← Storage.getMultisigProposal proposalId
  failWhen (proposal.finalized = true) .proposalFinalized
  let currentTime ← ledgerTimestamp
  failWhen (proposal.expiresAt ≤ currentTime) .proposalExpired
  failWhen (issuer ∉ proposal.requiredSigners) .notRequiredSigner
  failWhen (issuer ∈ proposal.signers) .alreadySigned
  let signers := proposal.signers ++ [issuer]
  emit (.multisigCosigned proposalId issuer signers.length proposal.threshold)
  if proposal.threshold ≤ signers.length then do
    Storage.setMultisigProposal { proposal with signers, finalized := true }
    -- stored without asking whether the id is taken
    storeAttestation (proposedRecord proposal)
    emit (.attestationCreated (proposedRecord proposal))
    emit (.multisigActivated proposalId (proposedRecord proposal).id)
  else Storage.setMultisigProposal { proposal with signers }

end Operations

section Returns
variable {Address : Type} [DecidableEq Address] [Host Address]
  {env : Env Address} {before after : World Address}

/-- The proposer takes the bypass. -/
def Bypasses (storage : Storage Address) (proposer : Address) (claimType : Str) : Prop :=
  claimType = accreditedInvestor ∧ storage.issuerTier proposer = some .premium

instance (storage : Storage Address) (proposer : Address) (claimType : Str) :
    Decidable (Bypasses storage proposer claimType) := by
  unfold Bypasses
  infer_instance

/-- The checks at the start of both operations. -/
structure Active (storage : Storage Address) (env : Env Address) (caller : Address) : Prop where
  auth : caller ∈ env.auths
  registered : storage.issuer caller = true
  running : storage.paused = false

theorem returns_issueAsPremium (proposer subject : Address) (claimType : Str) (id : Str)
    (record : Attestation Address)
    (built : record = Attestation.issued
      (Attestation.generateId proposer subject claimType env.timestamp) proposer subject claimType
      env.timestamp .native) :
    Returns (issueAsPremium proposer subject claimType) env before id after ↔
      StoreFits before.storage record ∧ id = record.id ∧
        after = ⟨before.storage.withIssued record, before.events ++ [.attestationCreated record],
          before.payments⟩ := by
  subst built
  simp only [issueAsPremium, returns_bind]
  simp
  exact fun _ _ => Iff.rfl

omit [DecidableEq Address] [Host Address] in
theorem returns_requireIssuers (signers : List Address) (done : Unit) :
    Returns (each Validation.requireIssuer signers) env before done after ↔
      (∀ signer ∈ signers, before.storage.issuer signer = true) ∧ after = before :=
  returns_each_check _ (fun signer => before.storage.issuer signer = true)
    (fun signer _ => Validation.returns_requireIssuer signer ()) signers

omit [DecidableEq Address] in
theorem returns_storeProposal (proposer subject : Address) (claimType : Str)
    (requiredSigners : List Address) (threshold : Nat) (id : Str)
    (proposal : MultiSigProposal Address)
    (built : proposal = ⟨MultiSigProposal.generateId proposer subject claimType env.timestamp,
      proposer, subject, claimType, requiredSigners, threshold, [proposer], env.timestamp,
      env.timestamp + multisigProposalTtlSecs, false⟩) :
    Returns (storeProposal proposer subject claimType requiredSigners threshold)
        env before id after ↔
      ((∀ signer ∈ requiredSigners, before.storage.issuer signer = true) ∧
        0 < threshold ∧ threshold ≤ requiredSigners.length ∧
        env.timestamp + multisigProposalTtlSecs < u64Range ∧
        TtlFits before.storage.ttlConfig) ∧
      id = proposal.id ∧
      after = ⟨{ before.storage with
          multisigProposal :=
            Function.update before.storage.multisigProposal proposal.id (some proposal) },
        before.events ++ [.multisigProposed proposal.id proposer subject threshold],
        before.payments⟩ := by
  subst built
  simp only [storeProposal, returns_bind, returns_requireIssuers]
  simp
  constructor
  · rintro ⟨registered, ⟨some_needed, enough⟩, time, ttl, same, left⟩
    refine ⟨⟨registered, Nat.pos_of_ne_zero some_needed, enough, time, ttl⟩, same, left.trans ?_⟩
    simp only [World.write, World.publish]
  · rintro ⟨⟨registered, some_needed, enough, time, ttl⟩, same, left⟩
    refine ⟨registered, ⟨Nat.ne_of_gt some_needed, enough⟩, time, ttl, same, left.trans ?_⟩
    simp only [World.write, World.publish]

theorem returns_proposeAttestation (proposer subject : Address) (claimType : Str)
    (requiredSigners : List Address) (threshold : Nat) (id : Str) :
    Returns (proposeAttestation proposer subject claimType requiredSigners threshold)
        env before id after ↔
      Active before.storage env proposer ∧
        ((Bypasses before.storage proposer claimType ∧
          Returns (issueAsPremium proposer subject claimType) env before id after) ∨
        (¬ Bypasses before.storage proposer claimType ∧
          Returns (storeProposal proposer subject claimType requiredSigners threshold)
            env before id after)) := by
  simp only [proposeAttestation, returns_bind]
  simp [Bypasses]
  constructor
  · rintro ⟨auth, registered, running, branch⟩
    exact ⟨⟨auth, registered, running⟩, branch⟩
  · rintro ⟨⟨auth, registered, running⟩, branch⟩
    exact ⟨auth, registered, running, branch⟩

/-- The checks of a co-signature. -/
structure Cosignable (storage : Storage Address) (env : Env Address) (issuer : Address)
    (proposalId : Str) (proposal : MultiSigProposal Address) : Prop where
  active : Active storage env issuer
  found : storage.multisigProposal proposalId = some proposal
  unfinished : proposal.finalized = false
  early : env.timestamp < proposal.expiresAt
  required : issuer ∈ proposal.requiredSigners
  unsigned : issuer ∉ proposal.signers
  ttl : TtlFits storage.ttlConfig

theorem returns_cosignAttestation (issuer : Address) (proposalId : Str) (done : Unit) :
    Returns (cosignAttestation issuer proposalId) env before done after ↔
      ∃ proposal, Cosignable before.storage env issuer proposalId proposal ∧
        ((proposal.threshold ≤ proposal.signers.length + 1 ∧
          StoreFits before.storage (proposedRecord proposal) ∧
          after = ⟨{ before.storage.withIssued (proposedRecord proposal) with
              multisigProposal := Function.update before.storage.multisigProposal proposal.id
                (some { proposal with
                  signers := proposal.signers ++ [issuer], finalized := true }) },
            before.events ++
              [.multisigCosigned proposalId issuer (proposal.signers.length + 1)
                proposal.threshold,
                .attestationCreated (proposedRecord proposal),
                .multisigActivated proposalId (proposedRecord proposal).id],
            before.payments⟩) ∨
        (proposal.signers.length + 1 < proposal.threshold ∧
          after = ⟨{ before.storage with
              multisigProposal := Function.update before.storage.multisigProposal proposal.id
                (some { proposal with signers := proposal.signers ++ [issuer] }) },
            before.events ++
              [.multisigCosigned proposalId issuer (proposal.signers.length + 1)
                proposal.threshold],
            before.payments⟩)) := by
  constructor
  · intro accepted
    simp only [cosignAttestation, returns_bind] at accepted
    simp at accepted
    obtain ⟨auth, registered, running, proposal, found, unfinished, early, required, unsigned,
      branch⟩ := accepted
    have active : Active before.storage env issuer := ⟨auth, registered, running⟩
    rcases branch with ⟨reached, ttl, fits, left⟩ | ⟨short, ttl, left⟩
    · refine ⟨proposal, ⟨active, found, unfinished, early, required, unsigned, ttl⟩,
        .inl ⟨reached, ⟨fits.ttl, fits.total, fits.subject, fits.issuer⟩, left.trans ?_⟩⟩
      simp [World.write, World.publish, Storage.withIssued]
    · refine ⟨proposal, ⟨active, found, unfinished, early, required, unsigned, ttl⟩,
        .inr ⟨short, left.trans ?_⟩⟩
      simp only [World.write, World.publish]
  · rintro ⟨proposal, ⟨⟨auth, registered, running⟩, found, unfinished, early, required, unsigned,
      ttl⟩, branch⟩
    simp only [cosignAttestation, returns_bind]
    simp
    refine ⟨auth, registered, running, proposal, found, unfinished, early, required, unsigned, ?_⟩
    rcases branch with ⟨reached, fits, left⟩ | ⟨short, left⟩
    · refine .inl ⟨reached, ttl, ⟨fits.ttl, fits.total, fits.subject, fits.issuer⟩,
        left.trans ?_⟩
      simp [World.write, World.publish, Storage.withIssued]
    · refine .inr ⟨short, ttl, left.trans ?_⟩
      simp only [World.write, World.publish]

end Returns

end Contract

end TrustLink
