import Mathlib.Data.List.Induction
import TrustLink.Effects
import TrustLink.Lib.Threshold

/-!
The multi-sig proposals over whole runs. A step stores a fresh proposal, adds
one signature to a stored one, or leaves them alone; every signature on a stored
proposal was made by its signer, as a registered issuer.
-/
namespace TrustLink
open Transaction Contract Threshold

section Steps
variable {Address : Type} [DecidableEq Address] [Host Address]

omit [DecidableEq Address] [Host Address] in
/-- The checks of a proposal that is stored. -/
structure Proposable (storage : Storage Address) (env : Env Address) (proposer : Address)
    (claimType : Str) (requiredSigners : List Address) (threshold : Nat) : Prop where
  active : Active storage env proposer
  ordinary : ¬ Bypasses storage proposer claimType
  registered : ∀ signer ∈ requiredSigners, storage.issuer signer = true
  positive : 0 < threshold
  enough : threshold ≤ requiredSigners.length
  time : env.timestamp + multisigProposalTtlSecs < u64Range
  ttl : TtlFits storage.ttlConfig

/-- The proposal as it is first stored, signed by its proposer. -/
def proposed (timestamp : Nat) (proposer subject : Address) (claimType : Str)
    (requiredSigners : List Address) (threshold : Nat) : MultiSigProposal Address :=
  ⟨MultiSigProposal.generateId proposer subject claimType timestamp, proposer, subject, claimType,
    requiredSigners, threshold, [proposer], timestamp, timestamp + multisigProposalTtlSecs, false⟩

omit [DecidableEq Address] [Host Address] in
/-- The proposal with one more signature. -/
def cosigned (proposal : MultiSigProposal Address) (issuer : Address) : MultiSigProposal Address :=
  { proposal with
    signers := proposal.signers ++ [issuer]
    finalized := decide (proposal.threshold ≤ proposal.signers.length + 1) }

/-- What an accepted call does to the stored proposals. -/
inductive ProposalStep (before after : Storage Address) : Call Address → Prop
  | kept (call : Call Address) (same : after.multisigProposal = before.multisigProposal) :
      ProposalStep before after call
  | propose (env : Env Address) (proposer subject : Address) (claimType : Str)
      (requiredSigners : List Address) (threshold : Nat)
      (proposable : Proposable before env proposer claimType requiredSigners threshold)
      (stored : after.multisigProposal = Function.update before.multisigProposal
        (MultiSigProposal.generateId proposer subject claimType env.timestamp)
        (some (proposed env.timestamp proposer subject claimType requiredSigners threshold))) :
      ProposalStep before after ⟨env, .multisig
        (.proposeAttestation proposer subject claimType requiredSigners threshold)⟩
  | cosign (env : Env Address) (issuer : Address) (proposalId : Str)
      (proposal : MultiSigProposal Address)
      (cosignable : Cosignable before env issuer proposalId proposal)
      (stored : after.multisigProposal = Function.update before.multisigProposal proposal.id
        (some (cosigned proposal issuer))) :
      ProposalStep before after ⟨env, .multisig (.cosignAttestation issuer proposalId)⟩

variable {env : Env Address} {before after : World Address} {call : Call Address}

theorem returns_propose_ordinary (proposer subject : Address) (claimType : Str)
    (requiredSigners : List Address) (threshold : Nat)
    (ordinary : ¬ Bypasses before.storage proposer claimType) :
    Accepted before ⟨env, .multisig
        (.proposeAttestation proposer subject claimType requiredSigners threshold)⟩ after ↔
      Proposable before.storage env proposer claimType requiredSigners threshold ∧
        after = ⟨{ before.storage with
            multisigProposal := Function.update before.storage.multisigProposal
              (MultiSigProposal.generateId proposer subject claimType env.timestamp)
              (some (proposed env.timestamp proposer subject claimType requiredSigners
                threshold)) },
          before.events ++ [.multisigProposed
            (MultiSigProposal.generateId proposer subject claimType env.timestamp) proposer
            subject threshold],
          before.payments⟩ := by
  constructor
  · intro accepted
    obtain ⟨id, returned⟩ := (returns_void ..).mp accepted
    obtain ⟨active, ⟨bypasses, -⟩ | ⟨-, stores⟩⟩ := (returns_proposeAttestation ..).mp returned
    · exact absurd bypasses ordinary
    · obtain ⟨⟨registered, positive, enough, time, ttl⟩, -, left⟩ :=
        (returns_storeProposal _ _ _ _ _ _ _ rfl).mp stores
      exact ⟨⟨active, ordinary, registered, positive, enough, time, ttl⟩, left⟩
  · rintro ⟨proposable, left⟩
    refine (returns_void ..).mpr
      ⟨MultiSigProposal.generateId proposer subject claimType env.timestamp,
        (returns_proposeAttestation ..).mpr ⟨proposable.active, .inr ⟨ordinary, ?_⟩⟩⟩
    exact (returns_storeProposal _ _ _ _ _ _ _ rfl).mpr ⟨⟨proposable.registered,
      proposable.positive, proposable.enough, proposable.time, proposable.ttl⟩, rfl, left⟩

theorem proposalStep_of_accepted (accepted : Accepted before call after) :
    ProposalStep before.storage after.storage call := by
  obtain ⟨env, op⟩ := call
  cases op with
  | attestation op => exact .kept _ (op.frame accepted).2.2
  | request op => exact .kept _ (op.frame accepted).2.2
  | council op => exact .kept _ (op.untouched accepted).multisigProposal
  | admin op => exact .kept _ (op.administers accepted).multisigProposal
  | multisig op =>
      cases op.outcome accepted with
      | bypass => exact .kept _ rfl
      | proposal built active stays registered positive enough fits ttl =>
          subst built
          exact .propose env _ _ _ _ _
            ⟨active, stays, registered, positive, enough, fits, ttl⟩ rfl
      | completion cosignable reached =>
          refine .cosign env _ _ _ cosignable ?_
          simp [cosigned, reached]
      | cosignature cosignable short =>
          refine .cosign env _ _ _ cosignable ?_
          simp [cosigned, Nat.not_le_of_lt short, cosignable.unfinished]

end Steps

section Signers
variable {Address : Type} [DecidableEq Address] [Host Address]

omit [DecidableEq Address] [Host Address] in
/-- A stored proposal has its own id, and is signed by its proposer and then by
distinct required signers. -/
structure WellSigned (id : Str) (proposal : MultiSigProposal Address) : Prop where
  own : proposal.id = id
  signed : Signed proposal.proposer proposal.requiredSigners proposal.signers

/-- Every stored proposal is well signed. -/
def ProposalsSigned (storage : Storage Address) : Prop :=
  ∀ id proposal, storage.multisigProposal id = some proposal → WellSigned id proposal

omit [DecidableEq Address] in
theorem wellSigned_proposed (timestamp : Nat) (proposer subject : Address) (claimType : Str)
    (requiredSigners : List Address) (threshold : Nat) :
    WellSigned (MultiSigProposal.generateId proposer subject claimType timestamp)
      (proposed timestamp proposer subject claimType requiredSigners threshold) :=
  ⟨rfl, signed_first proposer requiredSigners⟩

variable {id : Str} {proposal : MultiSigProposal Address} {storage : Storage Address}
  {env : Env Address} {issuer : Address} {before after : World Address} {call : Call Address}

omit [DecidableEq Address] [Host Address] in
theorem WellSigned.cosigned (well : WellSigned id proposal)
    (cosignable : Cosignable storage env issuer id proposal) :
    WellSigned id (cosigned proposal issuer) :=
  ⟨well.own, well.signed.sign cosignable.required cosignable.unsigned⟩

theorem proposals_signed (signed : ProposalsSigned before.storage)
    (accepted : Accepted before call after) : ProposalsSigned after.storage := by
  intro id stored found
  cases proposalStep_of_accepted accepted with
  | kept call same => exact signed id stored (same ▸ found)
  | propose env proposer subject claimType requiredSigners threshold proposable left =>
      rw [left, Function.update_apply] at found
      split at found
      · rename_i here
        obtain rfl := Option.some.inj found
        exact here ▸ wellSigned_proposed ..
      · exact signed id stored found
  | cosign env issuer proposalId proposal cosignable left =>
      have well := signed proposalId proposal cosignable.found
      rw [left, Function.update_apply] at found
      split at found
      · rename_i here
        obtain rfl := Option.some.inj found
        exact (here.trans well.own) ▸ well.cosigned cosignable
      · exact signed id stored found

theorem proposals_signed_run (calls : List (Call Address)) :
    ProposalsSigned (run calls).storage := by
  refine invariant_of_run ?_ (fun _ _ _ signed accepted => proposals_signed signed accepted) calls
  intro id proposal found
  cases found

end Signers

section Signatures
variable {Address : Type} [DecidableEq Address] [Host Address]

/-- The call is the signer's own signature under the proposal. -/
def Call.signs (call : Call Address) (id : Str) (signer : Address) : Prop :=
  match call.op with
  | .multisig (.proposeAttestation proposer subject claimType _ _) =>
      proposer = signer ∧
        MultiSigProposal.generateId proposer subject claimType call.env.timestamp = id
  | .multisig (.cosignAttestation issuer proposalId) => issuer = signer ∧ proposalId = id
  | _ => False

/-- At some step of the run the signer signed the proposal, authorized the call
and was a registered issuer, and the signature has been on the proposal since. -/
def SignedAsIssuer (calls : List (Call Address)) (id : Str) (signer : Address) : Prop :=
  ∃ early call late, calls = early ++ call :: late ∧
    Accepted (run early) call (step (run early) call) ∧
    call.signs id signer ∧ signer ∈ call.env.auths ∧ (run early).storage.issuer signer = true ∧
    ∀ since, since <+: late → ∃ proposal,
      (run (early ++ call :: since)).storage.multisigProposal id = some proposal ∧
        signer ∈ proposal.signers

variable {calls : List (Call Address)} {call : Call Address} {id : Str} {signer : Address}
  {proposal : MultiSigProposal Address}

theorem SignedAsIssuer.later (signed : SignedAsIssuer calls id signer)
    (stored : (run (calls ++ [call])).storage.multisigProposal id = some proposal)
    (member : signer ∈ proposal.signers) : SignedAsIssuer (calls ++ [call]) id signer := by
  obtain ⟨early, own, late, rfl, accepted, signs, auth, registered, stays⟩ := signed
  refine ⟨early, own, late ++ [call], by simp, accepted, signs, auth, registered, ?_⟩
  intro since part
  rcases List.prefix_concat_iff.mp part with whole | shorter
  · exact ⟨proposal, by simpa [whole] using stored, member⟩
  · exact stays since shorter

theorem SignedAsIssuer.now (accepted : Accepted (run calls) call (step (run calls) call))
    (signs : call.signs id signer) (active : Active (run calls).storage call.env signer)
    (stored : (run (calls ++ [call])).storage.multisigProposal id = some proposal)
    (member : signer ∈ proposal.signers) : SignedAsIssuer (calls ++ [call]) id signer := by
  refine ⟨calls, call, [], rfl, accepted, signs, active.auth, active.registered, ?_⟩
  intro since part
  rw [List.prefix_nil.mp part]
  exact ⟨proposal, stored, member⟩

/-- Every signature on a stored proposal was made by an issuer. -/
theorem signed_as_issuer (calls : List (Call Address)) (id : Str)
    (proposal : MultiSigProposal Address)
    (stored : (run calls).storage.multisigProposal id = some proposal) (signer : Address)
    (member : signer ∈ proposal.signers) : SignedAsIssuer calls id signer := by
  induction calls using List.reverseRecOn generalizing id proposal signer with
  | nil => cases stored
  | append_singleton calls call ih =>
      have left := stored
      rw [run_concat] at left
      -- a signature is new in the step that adds it, and is only kept by later ones
      rcases step_cases (run calls) call with accepted | same
      · cases proposalStep_of_accepted accepted with
        | kept call same =>
            exact (ih id proposal (same ▸ left) signer member).later stored member
        | propose env proposer subject claimType requiredSigners threshold proposable written =>
            rw [written, Function.update_apply] at left
            split at left
            · rename_i here
              obtain rfl := Option.some.inj left
              obtain rfl := List.mem_singleton.mp member
              exact .now accepted ⟨rfl, here.symm⟩ proposable.active stored member
            · exact (ih id proposal left signer member).later stored member
        | cosign env issuer proposalId earlier cosignable written =>
            rw [written, Function.update_apply] at left
            split at left
            · rename_i here
              have own := (proposals_signed_run calls proposalId earlier cosignable.found).own
              obtain rfl := here.trans own
              obtain rfl := Option.some.inj left
              rcases List.mem_append.mp member with before | last
              · exact (ih id earlier cosignable.found signer before).later stored member
              · obtain rfl := List.mem_singleton.mp last
                exact .now accepted ⟨rfl, rfl⟩ cosignable.active stored member
            · exact (ih id proposal left signer member).later stored member
      · rw [same] at left
        exact (ih id proposal left signer member).later stored member

/-- The proposal a creation completes: enough distinct signatures, first the
proposer's and then those of required signers, all made by issuers, in time. -/
structure CompletedSoundly (calls : List (Call Address)) (timestamp : Nat) (proposalId : Str)
    (proposal : MultiSigProposal Address) : Prop where
  stored : (run calls).storage.multisigProposal proposalId = some proposal
  nodup : proposal.signers.Nodup
  enough : proposal.threshold ≤ proposal.signers.length
  first : proposal.signers.head? = some proposal.proposer
  required : ∀ signer ∈ proposal.signers.tail, signer ∈ proposal.requiredSigners
  issuers : ∀ signer ∈ proposal.signers, SignedAsIssuer calls proposalId signer
  early : timestamp < proposal.expiresAt

/-- The step announces the record as new, or writes it. -/
def Creates (before after : World Address) (record : Attestation Address) : Prop :=
  record ∈ created before after ∨
    ∃ id, after.storage.attestation id = some record ∧
      before.storage.attestation id ≠ some record

/-- A co-signature that creates an attestation completes the proposal it is for. -/
theorem completes_of_creates {before after : World Address} {env : Env Address} {issuer : Address}
    {proposalId : Str} {record : Attestation Address}
    (accepted : Accepted before ⟨env, .multisig (.cosignAttestation issuer proposalId)⟩ after)
    (creates : Creates before after record) :
    ∃ proposal, Cosignable before.storage env issuer proposalId proposal ∧
      proposal.threshold ≤ proposal.signers.length + 1 ∧ record = proposedRecord proposal ∧
      after.storage.multisigProposal proposal.id = some (cosigned proposal issuer) := by
  have follows := MultisigOp.follows (.cosignAttestation issuer proposalId) accepted
  obtain ⟨proposal, cosignable, branch⟩ := (returns_cosignAttestation ..).mp accepted
  rw [Creates, follows.created] at creates
  simp only [MultisigOp.changes, cosignable.found, Option.toList_some] at creates
  rcases branch with ⟨reached, -, rfl⟩ | ⟨short, rfl⟩
  · refine ⟨proposal, cosignable, reached, ?_, by simp [cosigned, reached]⟩
    rcases creates with announced | ⟨id, written, other⟩
    · simpa [reached, Change.issued?] using announced
    · simp only [Storage.withIssued, Function.update_apply] at written
      split at written
      · exact (Option.some.inj written).symm
      · exact absurd written other
  · rcases creates with announced | ⟨id, written, other⟩
    · simp [Nat.not_le_of_lt short] at announced
    · exact absurd written other

/-- Whatever attestation a co-signature creates is that of a proposal completed
soundly. -/
theorem cosigned_soundly (early : List (Call Address)) (env : Env Address) (issuer : Address)
    (proposalId : Str) (record : Attestation Address)
    (creates : Creates (run early)
      (step (run early) ⟨env, .multisig (.cosignAttestation issuer proposalId)⟩) record) :
    ∃ proposal, record = proposedRecord proposal ∧
      CompletedSoundly (early ++ [⟨env, .multisig (.cosignAttestation issuer proposalId)⟩])
        env.timestamp proposalId proposal := by
  rcases step_cases (run early) ⟨env, .multisig (.cosignAttestation issuer proposalId)⟩ with
    accepted | same
  · obtain ⟨proposal, cosignable, reached, rfl, left⟩ := completes_of_creates accepted creates
    have own := (proposals_signed_run early proposalId proposal cosignable.found).own
    have stored : (run (early ++
        [⟨env, .multisig (.cosignAttestation issuer proposalId)⟩])).storage.multisigProposal
          proposalId = some (cosigned proposal issuer) := by
      rw [run_concat]
      exact own ▸ left
    have well := proposals_signed_run _ proposalId _ stored
    refine ⟨cosigned proposal issuer, rfl, stored, well.signed.nodup, ?_, well.signed.first,
      well.signed.required, signed_as_issuer _ proposalId _ stored, cosignable.early⟩
    simpa [cosigned] using reached
  · rw [same] at creates
    rcases creates with announced | ⟨id, written, other⟩
    · simp [created] at announced
    · exact absurd written other

end Signatures

section Sample
open Xdr

/-- The second issuer completes the sample proposal. -/
theorem cosigned_soundly_sample :
    ∃ record proposal,
      (step (run (sampleDeployment ++ [sampleProposal])) sampleCosignature).storage.attestation
        sampleId = some record ∧ record = proposedRecord proposal ∧
      CompletedSoundly (sampleDeployment ++ [sampleProposal] ++ [sampleCosignature]) 1002
        sampleProposalId proposal := by
  have free : (run (sampleDeployment ++ [sampleProposal])).storage.attestation sampleId = none := by
    decide +kernel
  have present : ((step (run (sampleDeployment ++ [sampleProposal]))
      sampleCosignature).storage.attestation sampleId).isSome = true := by decide +kernel
  obtain ⟨record, stored⟩ := Option.isSome_iff_exists.mp present
  obtain ⟨proposal, same, sound⟩ := cosigned_soundly (sampleDeployment ++ [sampleProposal])
    sampleCosignature.env (contractId 3) sampleProposalId record
    (.inr ⟨sampleId, stored, fun taken => nomatch free.symm.trans taken⟩)
  exact ⟨record, proposal, stored, same, sound⟩

end Sample

end TrustLink
