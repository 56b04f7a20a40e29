import TrustLink.MultisigProtocol

/-!
Whether a stored proposal can be completed. The check at the proposal counts the
entries of its list; a completion needs distinct signers other than the
proposer, and at least one of them.
-/
namespace TrustLink
open Transaction Contract Threshold

section Completion
variable {Address : Type} [DecidableEq Address] [Host Address]

omit [DecidableEq Address] [Host Address] in
/-- The call is a co-signature of a required signer, made while the proposal is
open. -/
def CosignsInTime (proposal : MultiSigProposal Address) (call : Call Address) : Prop :=
  ∃ signer ∈ proposal.requiredSigners,
    call.op = .multisig (.cosignAttestation signer proposal.id) ∧
      proposal.createdAt ≤ call.env.timestamp ∧ call.env.timestamp < proposal.expiresAt

/-- Some co-signatures finalize the proposal and store its attestation. -/
def Completable (world : World Address) (proposalId : Str) : Prop :=
  ∃ proposal, world.storage.multisigProposal proposalId = some proposal ∧
    ∃ cosignatures : List (Call Address), (∀ call ∈ cosignatures, CosignsInTime proposal call) ∧
      (∃ final, (runFrom world cosignatures).storage.multisigProposal proposalId = some final ∧
        final.finalized = true) ∧
      (runFrom world cosignatures).storage.attestation (proposedRecord proposal).id =
        some (proposedRecord proposal)

end Completion

section Sufficient
variable {Address : Type} [DecidableEq Address] [Host Address]

/-- The proposal is open and its missing signatures are those of the rest. -/
structure Awaits (storage : Storage Address) (proposal : MultiSigProposal Address)
    (rest : List Address) : Prop where
  stored : storage.multisigProposal proposal.id = some proposal
  unfinished : proposal.finalized = false
  early : proposal.createdAt < proposal.expiresAt
  running : storage.paused = false
  fits : StoreFits storage (proposedRecord proposal)
  registered : ∀ signer ∈ rest, storage.issuer signer = true
  required : ∀ signer ∈ rest, signer ∈ proposal.requiredSigners
  distinct : (proposal.signers ++ rest).Nodup
  count : proposal.signers.length + rest.length = proposal.threshold

omit [DecidableEq Address] [Host Address] in
/-- The co-signature of one signer, made when the proposal was. -/
def cosignature (proposal : MultiSigProposal Address) (signer : Address) : Call Address :=
  signed proposal.createdAt signer (.multisig (.cosignAttestation signer proposal.id))

variable {world : World Address} {proposal : MultiSigProposal Address} {signer : Address}
  {rest : List Address}

omit [DecidableEq Address] in
theorem Awaits.cosignable (awaits : Awaits world.storage proposal (signer :: rest)) :
    Cosignable world.storage (cosignature proposal signer).env signer proposal.id proposal where
  active := ⟨List.mem_singleton_self signer, awaits.registered signer (by simp), awaits.running⟩
  found := awaits.stored
  unfinished := awaits.unfinished
  early := awaits.early
  required := awaits.required signer (by simp)
  unsigned := fun member => List.disjoint_of_nodup_append awaits.distinct member (by simp)
  ttl := awaits.fits.ttl

/-- The last missing signature completes the proposal. -/
theorem Awaits.last (awaits : Awaits world.storage proposal [signer]) :
    (step world (cosignature proposal signer)).storage.multisigProposal proposal.id =
        some { proposal with signers := proposal.signers ++ [signer], finalized := true } ∧
      (step world (cosignature proposal signer)).storage.attestation (proposedRecord proposal).id =
        some (proposedRecord proposal) := by
  have accepted : Accepted world (cosignature proposal signer) _ :=
    (returns_cosignAttestation signer proposal.id ()).mpr ⟨proposal, awaits.cosignable,
      .inl ⟨Nat.le_of_eq awaits.count.symm, awaits.fits, rfl⟩⟩
  rw [step_of_accepted accepted]
  simp [Storage.withIssued]

/-- An earlier one leaves the proposal waiting for the others. -/
theorem Awaits.next {other : Address}
    (awaits : Awaits world.storage proposal (signer :: other :: rest)) :
    Awaits (step world (cosignature proposal signer)).storage
      { proposal with signers := proposal.signers ++ [signer] } (other :: rest) := by
  have count : proposal.signers.length + (rest.length + 1 + 1) = proposal.threshold := awaits.count
  have short : proposal.signers.length + 1 < proposal.threshold := by omega
  have accepted : Accepted world (cosignature proposal signer) _ :=
    (returns_cosignAttestation signer proposal.id ()).mpr ⟨proposal, awaits.cosignable,
      .inr ⟨short, rfl⟩⟩
  rw [step_of_accepted accepted]
  exact {
    stored := Function.update_self ..
    unfinished := awaits.unfinished
    early := awaits.early
    running := awaits.running
    fits := ⟨awaits.fits.ttl, awaits.fits.total, awaits.fits.subject, awaits.fits.issuer⟩
    registered := fun later member => awaits.registered later (List.mem_cons_of_mem _ member)
    required := fun later member => awaits.required later (List.mem_cons_of_mem _ member)
    distinct := by simpa using awaits.distinct
    count := by
      change (proposal.signers ++ [signer]).length + (rest.length + 1) = proposal.threshold
      rw [List.length_append, List.length_singleton]
      omega }

/-- The missing signatures, one after the other, complete the proposal. -/
theorem Awaits.completes (awaits : Awaits world.storage proposal (signer :: rest)) :
    (∃ final, (runFrom world ((signer :: rest).map (cosignature proposal))).storage.multisigProposal
        proposal.id = some final ∧ final.finalized = true) ∧
      (runFrom world ((signer :: rest).map (cosignature proposal))).storage.attestation
        (proposedRecord proposal).id = some (proposedRecord proposal) := by
  induction rest generalizing world proposal signer with
  | nil => exact ⟨⟨_, awaits.last.1, rfl⟩, awaits.last.2⟩
  | cons other rest ih =>
      have completed := ih awaits.next
      exact completed

theorem Awaits.completable (awaits : Awaits world.storage proposal (signer :: rest)) :
    Completable world proposal.id := by
  refine ⟨proposal, awaits.stored, (signer :: rest).map (cosignature proposal), ?_,
    awaits.completes⟩
  intro call listed
  obtain ⟨other, member, rfl⟩ := List.mem_map.mp listed
  exact ⟨other, awaits.required other member, rfl, Nat.le_refl _, awaits.early⟩

end Sufficient

section Necessary
variable {Address : Type} [DecidableEq Address] [Host Address]

/-- What the completion of a proposal needs: signers enough besides the
proposer, and room for the record. -/
structure CanFinish (storage : Storage Address) (proposal : MultiSigProposal Address) : Prop where
  signers : proposal.threshold ≤ (others proposal.proposer proposal.requiredSigners).length + 1
  fits : StoreFits storage (proposedRecord proposal)

omit [Host Address] in
/-- Only signatures have been added to the proposal since it was stored. -/
def Gathering (base : Storage Address) (proposal : MultiSigProposal Address)
    (storage : Storage Address) : Prop :=
  ∃ signers, Signed proposal.proposer proposal.requiredSigners signers ∧
    storage = { base with
      multisigProposal := Function.update base.multisigProposal proposal.id
        (some { proposal with signers }) }

variable {base : Storage Address} {proposal : MultiSigProposal Address} {world : World Address}
  {call : Call Address}

/-- A co-signature either adds to the signatures or shows that the proposal can
be finished. -/
theorem gathering_step (gathering : Gathering base proposal world.storage) {signer : Address}
    (cosigns : call.op = .multisig (.cosignAttestation signer proposal.id)) :
    CanFinish base proposal ∨ Gathering base proposal (step world call).storage := by
  obtain ⟨env, _⟩ := call
  subst cosigns
  obtain ⟨signers, signed, left⟩ := gathering
  rcases step_cases world ⟨env, .multisig (.cosignAttestation signer proposal.id)⟩ with
    accepted | same
  · obtain ⟨current, cosignable, branch⟩ := (returns_cosignAttestation ..).mp accepted
    have found := cosignable.found
    rw [left] at found
    simp only [Function.update_self, Option.some.injEq] at found
    subst found
    have more := signed.sign cosignable.required cosignable.unsigned
    rcases branch with ⟨reached, fits, -⟩ | ⟨short, after⟩
    · have counted := more.length_le
      rw [List.length_append, List.length_singleton] at counted
      rw [left] at fits
      exact .inl ⟨Nat.le_trans reached counted, fits.ttl, fits.total, fits.subject, fits.issuer⟩
    · refine .inr ⟨signers ++ [signer], more, ?_⟩
      rw [after, left]
      simp
  · rw [same]
    exact .inr ⟨signers, signed, left⟩

theorem gathering_run (gathering : Gathering base proposal world.storage)
    {cosignatures : List (Call Address)}
    (cosign : ∀ call ∈ cosignatures, CosignsInTime proposal call) :
    CanFinish base proposal ∨ Gathering base proposal (runFrom world cosignatures).storage := by
  induction cosignatures generalizing world with
  | nil => exact .inr gathering
  | cons call rest ih =>
      obtain ⟨signer, -, cosigns, -⟩ := cosign call (by simp)
      rcases gathering_step gathering cosigns with finishes | further
      · exact .inl finishes
      · exact ih further fun later member => cosign later (List.mem_cons_of_mem _ member)

/-- A proposal that only waits for signatures is not final. -/
theorem canFinish_of_completable (gathering : Gathering base proposal world.storage)
    (unfinished : proposal.finalized = false) (completable : Completable world proposal.id) :
    CanFinish base proposal := by
  obtain ⟨current, found, cosignatures, cosign, ⟨final, stored, done⟩, -⟩ := completable
  obtain ⟨signers, signed, left⟩ := gathering
  rw [left] at found
  simp only [Function.update_self, Option.some.injEq] at found
  subst found
  rcases gathering_run ⟨signers, signed, left⟩ cosign with finishes | ⟨more, -, after⟩
  · exact finishes
  · rw [after] at stored
    simp only [Function.update_self, Option.some.injEq] at stored
    subst stored
    exact Bool.noConfusion (done.symm.trans unfinished)

end Necessary

section Runs
variable {Address : Type} [DecidableEq Address] [Host Address]

omit [DecidableEq Address] [Host Address] in
/-- Proposals with signers enough are final. -/
def Settled (storage : Storage Address) : Prop :=
  ∀ id proposal, storage.multisigProposal id = some proposal →
    proposal.threshold ≤ proposal.signers.length → proposal.finalized = true

/-- Every proposal stored in the run can then be completed, and none has enough
signers without being final. -/
structure ProposalsComplete (calls : List (Call Address)) : Prop where
  completable : ∀ early env proposer subject claimType requiredSigners threshold late,
    calls = early ++ ⟨env, .multisig
      (.proposeAttestation proposer subject claimType requiredSigners threshold)⟩ :: late →
    ∀ after, Accepted (run early) ⟨env, .multisig
      (.proposeAttestation proposer subject claimType requiredSigners threshold)⟩ after →
    ¬ Bypasses (run early).storage proposer claimType →
    Completable after (MultiSigProposal.generateId proposer subject claimType env.timestamp)
  settled : ∀ early late, calls = early ++ late → Settled (run early).storage

/-- The call passes every check and stores a proposal that needs its proposer
only, or more signers than its list names besides the proposer, or for whose
record there is no room. -/
def StoresUnfinishable (storage : Storage Address) (call : Call Address) : Prop :=
  match call.op with
  | .multisig (.proposeAttestation proposer subject claimType requiredSigners threshold) =>
      Proposable storage call.env proposer claimType requiredSigners threshold ∧
        ¬ (2 ≤ threshold ∧ CanFinish storage
          (proposed call.env.timestamp proposer subject claimType requiredSigners threshold))
  | _ => False

variable {before after : World Address} {call : Call Address}

theorem settled_of_accepted (settled : Settled before.storage)
    (passed : ¬ StoresUnfinishable before.storage call) (accepted : Accepted before call after) :
    Settled after.storage := by
  intro id stored found enough
  cases proposalStep_of_accepted accepted with
  | kept call same => exact settled id stored (same ▸ found) enough
  | propose env proposer subject claimType requiredSigners threshold proposable left =>
      rw [left, Function.update_apply] at found
      split at found
      · obtain rfl := Option.some.inj found
        have several : 2 ≤ threshold := by
          by_contra single
          exact passed ⟨proposable, fun finishable => single finishable.1⟩
        exact absurd (Nat.le_trans several enough) (by simp [proposed])
      · exact settled id stored found enough
  | cosign env issuer proposalId proposal cosignable left =>
      rw [left, Function.update_apply] at found
      split at found
      · obtain rfl := Option.some.inj found
        simpa [cosigned] using enough
      · exact settled id stored found enough

variable {env : Env Address} {proposer subject : Address} {claimType : Str}
  {requiredSigners : List Address} {threshold : Nat}

theorem gathering_proposed (proposable : Proposable before.storage env proposer claimType requiredSigners
      threshold)
    (accepted : Accepted before ⟨env, .multisig
      (.proposeAttestation proposer subject claimType requiredSigners threshold)⟩ after) :
    Gathering before.storage
      (proposed env.timestamp proposer subject claimType requiredSigners threshold)
      after.storage := by
  obtain ⟨-, rfl⟩ := (returns_propose_ordinary _ _ _ _ _ proposable.ordinary).mp accepted
  exact ⟨[proposer], signed_first proposer requiredSigners, rfl⟩

theorem completable_proposed (proposable : Proposable before.storage env proposer claimType requiredSigners
      threshold)
    (several : 2 ≤ threshold)
    (finishes : CanFinish before.storage
      (proposed env.timestamp proposer subject claimType requiredSigners threshold))
    (accepted : Accepted before ⟨env, .multisig
      (.proposeAttestation proposer subject claimType requiredSigners threshold)⟩ after) :
    Completable after
      (MultiSigProposal.generateId proposer subject claimType env.timestamp) := by
  obtain ⟨-, left⟩ := (returns_propose_ordinary _ _ _ _ _ proposable.ordinary).mp accepted
  have enough : threshold - 1 ≤ (others proposer requiredSigners).length :=
    Nat.sub_le_of_le_add finishes.signers
  obtain ⟨rest, count, distinct, required⟩ := exists_signers enough
  cases rest with
  | nil =>
      -- two signatures are needed, so one is missing besides the proposer's
      rw [List.length_nil] at count
      omega
  | cons signer rest =>
      have awaits : Awaits after.storage
          (proposed env.timestamp proposer subject claimType requiredSigners threshold)
          (signer :: rest) := by
        rw [left]
        exact {
          stored := Function.update_self ..
          unfinished := rfl
          early := Nat.lt_add_of_pos_right (by decide)
          running := proposable.active.running
          fits := ⟨finishes.fits.ttl, finishes.fits.total, finishes.fits.subject,
            finishes.fits.issuer⟩
          registered := fun other member => proposable.registered other (required other member)
          required := required
          distinct := distinct
          count := by
            change 1 + (signer :: rest).length = threshold
            omega }
      exact awaits.completable

/-- Proposals can be completed and settle in exactly the runs in which no call
stores an unfinishable one. -/
theorem proposals_complete_iff (calls : List (Call Address)) :
    ProposalsComplete calls ↔
      Trace.Each step (fun world call => ¬ StoresUnfinishable world.storage call)
        (World.empty Address) calls := by
  constructor
  · intro complete
    rw [Trace.each_iff]
    intro early call late split stores
    obtain ⟨env, op⟩ := call
    cases op with
    | multisig op =>
        cases op with
        | proposeAttestation proposer subject claimType requiredSigners threshold =>
            obtain ⟨proposable, unfinishable⟩ := stores
            have accepted := (returns_propose_ordinary proposer subject claimType requiredSigners
              threshold proposable.ordinary).mpr ⟨proposable, rfl⟩
            have finishes := canFinish_of_completable (gathering_proposed proposable accepted) rfl
              (complete.completable early env proposer subject claimType requiredSigners threshold
                late split _ accepted proposable.ordinary)
            refine unfinishable ⟨?_, finishes⟩
            by_contra single
            -- with threshold one the proposer's own signature is enough, and nothing finalizes
            have stored : (run (early ++ [⟨env, .multisig (.proposeAttestation proposer subject
                claimType requiredSigners threshold)⟩])).storage.multisigProposal
                  (MultiSigProposal.generateId proposer subject claimType env.timestamp) =
                some (proposed env.timestamp proposer subject claimType requiredSigners
                  threshold) := by
              rw [run_concat, step_of_accepted accepted]
              exact Function.update_self ..
            have final := complete.settled _ late (by simpa using split) _ _ stored
              (Nat.le_of_lt_succ (Nat.lt_of_not_le single))
            cases final
        | _ => cases stores
    | _ => cases stores
  · intro guarded
    refine ⟨?_, fun early late split => ?_⟩
    · intro early env proposer subject claimType requiredSigners threshold late split after accepted
        ordinary
      have passed := Trace.each_iff.mp guarded early _ late split
      obtain ⟨proposable, -⟩ := (returns_propose_ordinary _ _ _ _ _ ordinary).mp accepted
      by_contra stuck
      exact passed ⟨proposable, fun finishable =>
        stuck (completable_proposed proposable finishable.1 finishable.2 accepted)⟩
    · rw [split] at guarded
      refine invariant_of_guarded_run (fun id proposal found => ?_) (fun _ _ _ settled passed =>
        settled_of_accepted settled passed) (Trace.each_append.mp guarded).1
      cases found

end Runs

section Unfinishable
open Xdr

/-- Issuer 1 asks for two signatures of a list that names itself twice. -/
def repeatedSigners : Call ContractId :=
  signed 1000 (contractId 1) (.multisig
    (.proposeAttestation (contractId 1) (contractId 2) (ascii "KYC") [contractId 1, contractId 1]
      2))

/-- Issuer 1 asks for one signature. -/
def singleSignature : Call ContractId :=
  signed 1000 (contractId 1) (.multisig
    (.proposeAttestation (contractId 1) (contractId 2) (ascii "KYC") [contractId 1, contractId 3]
      1))

/-- Neither proposal is as it should be: the first can never be completed, the
second has signers enough and is not final. -/
theorem accepted_proposals_incomplete :
    ¬ ProposalsComplete (sampleDeployment ++ [repeatedSigners]) ∧
      ¬ ProposalsComplete (sampleDeployment ++ [singleSignature]) := by
  constructor
  · intro complete
    have proposable : Proposable (run sampleDeployment).storage repeatedSigners.env (contractId 1)
        (ascii "KYC") [contractId 1, contractId 1] 2 :=
      ⟨⟨by decide, by decide +kernel, by decide +kernel⟩, by decide +kernel, by decide +kernel,
        by decide, by decide, by decide, by decide +kernel⟩
    have accepted := (returns_propose_ordinary (contractId 1) (contractId 2) (ascii "KYC")
      [contractId 1, contractId 1] 2 proposable.ordinary).mpr ⟨proposable, rfl⟩
    have finishes := canFinish_of_completable (gathering_proposed proposable accepted) rfl
      (complete.completable sampleDeployment repeatedSigners.env (contractId 1) (contractId 2)
        (ascii "KYC") [contractId 1, contractId 1] 2 [] rfl _ accepted proposable.ordinary)
    exact absurd finishes.signers (by decide)
  · intro complete
    have stored : ((run (sampleDeployment ++ [singleSignature])).storage.multisigProposal
        sampleProposalId).map (fun proposal => (proposal.threshold, proposal.signers,
          proposal.finalized)) = some (1, [contractId 1], false) := by decide +kernel
    obtain ⟨proposal, found, fields⟩ := Option.map_eq_some_iff.mp stored
    obtain ⟨threshold, rest⟩ := Prod.mk.inj fields
    obtain ⟨signers, unfinished⟩ := Prod.mk.inj rest
    have final := complete.settled _ [] (List.append_nil _).symm sampleProposalId proposal found
      (by rw [threshold, signers]; decide)
    exact Bool.noConfusion (final.symm.trans unfinished)

end Unfinishable

end TrustLink
