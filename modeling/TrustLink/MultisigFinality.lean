import TrustLink.MultisigProtocol

/-!
What becomes of a stored proposal in later states. A co-signature only adds to
it; a proposal repeated in the same ledger has the same id and is stored over it.
-/
namespace TrustLink
open Transaction Contract Threshold

section Growth
variable {Address : Type}

/-- The proposal has kept its terms and its signatures, and is still final if it
was. -/
structure Grows (old new : MultiSigProposal Address) : Prop where
  signers : old.signers <+: new.signers
  requiredSigners : new.requiredSigners = old.requiredSigners
  threshold : new.threshold = old.threshold
  finalized : old.finalized = true → new.finalized = true

/-- Every stored proposal is still stored and has grown. -/
def ProposalsGrow (before after : Storage Address) : Prop :=
  ∀ id old, before.multisigProposal id = some old →
    ∃ new, after.multisigProposal id = some new ∧ Grows old new

theorem Grows.refl (proposal : MultiSigProposal Address) : Grows proposal proposal :=
  ⟨List.prefix_refl _, rfl, rfl, id⟩

theorem Grows.trans {old middle new : MultiSigProposal Address} (first : Grows old middle)
    (second : Grows middle new) : Grows old new :=
  ⟨first.signers.trans second.signers, second.requiredSigners.trans first.requiredSigners,
    second.threshold.trans first.threshold, fun final => second.finalized (first.finalized final)⟩

theorem grows_cosigned {proposal : MultiSigProposal Address} (issuer : Address)
    (unfinished : proposal.finalized = false) : Grows proposal (cosigned proposal issuer) :=
  ⟨List.prefix_append _ _, rfl, rfl, fun final => Bool.noConfusion (final.symm.trans unfinished)⟩

theorem ProposalsGrow.refl (storage : Storage Address) : ProposalsGrow storage storage :=
  fun _ old found => ⟨old, found, .refl old⟩

theorem ProposalsGrow.trans {before middle after : Storage Address}
    (first : ProposalsGrow before middle) (second : ProposalsGrow middle after) :
    ProposalsGrow before after := by
  intro id old found
  obtain ⟨between, kept, grown⟩ := first id old found
  obtain ⟨new, stored, grows⟩ := second id between kept
  exact ⟨new, stored, grown.trans grows⟩

/-- Storing a proposal costs the others nothing, and the one it replaces nothing
if that one grows into it. -/
theorem proposalsGrow_update {before after : Storage Address} {id : Str}
    {proposal : MultiSigProposal Address}
    (stored : after.multisigProposal =
      Function.update before.multisigProposal id (some proposal))
    (grows : ∀ old, before.multisigProposal id = some old → Grows old proposal) :
    ProposalsGrow before after := by
  intro other old found
  by_cases here : other = id
  · subst here
    exact ⟨proposal, by rw [stored, Function.update_self], grows old found⟩
  · exact ⟨old, by rw [stored, Function.update_of_ne here, found], .refl old⟩

end Growth

section Steps
variable {Address : Type} [DecidableEq Address] [Host Address]

/-- The call passes every check and stores a proposal over one that asks for
something else, has a second signature or is final. -/
def OverwritesProposal (storage : Storage Address) (call : Call Address) : Prop :=
  match call.op with
  | .multisig (.proposeAttestation proposer subject claimType requiredSigners threshold) =>
      Proposable storage call.env proposer claimType requiredSigners threshold ∧
        ∃ old, storage.multisigProposal
            (MultiSigProposal.generateId proposer subject claimType call.env.timestamp) = some old ∧
          ¬ (old.signers = [proposer] ∧ old.requiredSigners = requiredSigners ∧
            old.threshold = threshold ∧ old.finalized = false)
  | _ => False

variable {before after : World Address} {call : Call Address}

theorem proposals_grow (signed : ProposalsSigned before.storage)
    (passed : ¬ OverwritesProposal before.storage call) (accepted : Accepted before call after) :
    ProposalsGrow before.storage after.storage := by
  cases proposalStep_of_accepted accepted with
  | kept call same =>
      intro id old found
      exact ⟨old, by rw [same, found], .refl old⟩
  | propose env proposer subject claimType requiredSigners threshold proposable stored =>
      refine proposalsGrow_update stored fun old found => ?_
      by_contra lost
      refine passed ⟨proposable, old, found, fun agrees => lost ?_⟩
      obtain ⟨signers, required, same, unfinished⟩ := agrees
      exact ⟨by simp [proposed, signers], required.symm, same.symm,
        fun final => Bool.noConfusion (final.symm.trans unfinished)⟩
  | cosign env issuer proposalId proposal cosignable stored =>
      refine proposalsGrow_update stored fun old found => ?_
      rw [(signed proposalId proposal cosignable.found).own] at found
      obtain rfl := Option.some.inj (cosignable.found.symm.trans found)
      exact grows_cosigned issuer cosignable.unfinished

theorem proposals_lost (signed : ProposalsSigned before.storage)
    (overwrites : OverwritesProposal before.storage call) :
    ¬ ProposalsGrow before.storage (step before call).storage := by
  obtain ⟨env, op⟩ := call
  cases op with
  | multisig op =>
      cases op with
      | proposeAttestation proposer subject claimType requiredSigners threshold =>
          obtain ⟨proposable, old, found, differs⟩ := overwrites
          have accepted := (returns_propose_ordinary proposer subject claimType requiredSigners
            threshold proposable.ordinary).mpr ⟨proposable, rfl⟩
          rw [step_of_accepted accepted]
          intro grow
          obtain ⟨new, stored, grows⟩ := grow _ old found
          simp only [Function.update_self, Option.some.injEq] at stored
          subst stored
          refine differs ⟨?_, grows.requiredSigners.symm, grows.threshold.symm,
            Bool.eq_false_iff.mpr fun final => Bool.noConfusion (grows.finalized final)⟩
          have short := grows.signers
          rw [(signed _ old found).signed.eq_cons] at short ⊢
          obtain ⟨head, rest⟩ := List.cons_prefix_cons.mp short
          rw [head, List.prefix_nil.mp rest]
      | _ => cases overwrites
  | _ => cases overwrites

end Steps

section Runs
variable {Address : Type} [DecidableEq Address] [Host Address]

/-- From any state of the run to any later one the stored proposals grow. -/
def SignaturesKept (calls : List (Call Address)) : Prop :=
  ∀ early late rest, calls = early ++ late ++ rest →
    ProposalsGrow (run early).storage (run (early ++ late)).storage

/-- No signature and no finality is lost in exactly the runs in which no call
stores a proposal over a different one. -/
theorem signatures_kept_iff (calls : List (Call Address)) :
    SignaturesKept calls ↔
      Trace.Each step (fun world call => ¬ OverwritesProposal world.storage call)
        (World.empty Address) calls := by
  rw [Trace.each_iff]
  constructor
  · intro kept early call late split overwrites
    refine proposals_lost (proposals_signed_run early) overwrites ?_
    have grow := kept early [call] late (by simpa using split)
    rw [run_concat] at grow
    exact grow
  · intro guarded early late rest split
    induction late using List.reverseRecOn generalizing rest with
    | nil => simpa using ProposalsGrow.refl _
    | append_singleton late call ih =>
        refine (ih (call :: rest) (by simpa using split)).trans ?_
        have passed := guarded (early ++ late) call rest (by simpa using split)
        rw [← List.append_assoc, run_concat]
        rcases step_cases (run (early ++ late)) call with accepted | same
        · exact proposals_grow (proposals_signed_run _) passed accepted
        · rw [same]
          exact .refl _

end Runs

section Repetition
open Xdr

/-- Within one ledger the sample proposal is made, completed and made again. -/
def repeatingRun : List (Call ContractId) :=
  sampleDeployment ++ [sampleProposal,
    signed 1000 (contractId 3) (.multisig (.cosignAttestation (contractId 3) sampleProposalId)),
    sampleProposal]

theorem repeated_proposal_loses_signature :
    ((run (repeatingRun.take 5)).storage.multisigProposal sampleProposalId).map
        (fun proposal => (proposal.signers, proposal.finalized)) =
      some ([contractId 1, contractId 3], true) ∧
    ((run repeatingRun).storage.multisigProposal sampleProposalId).map
        (fun proposal => (proposal.signers, proposal.finalized)) = some ([contractId 1], false) ∧
    ¬ SignaturesKept repeatingRun := by
  have early : ((run (repeatingRun.take 5)).storage.multisigProposal sampleProposalId).map
      (fun proposal => (proposal.signers, proposal.finalized)) =
        some ([contractId 1, contractId 3], true) := by decide +kernel
  have final : ((run repeatingRun).storage.multisigProposal sampleProposalId).map
      (fun proposal => (proposal.signers, proposal.finalized)) =
        some ([contractId 1], false) := by decide +kernel
  refine ⟨early, final, fun kept => ?_⟩
  obtain ⟨old, found, first⟩ := Option.map_eq_some_iff.mp early
  obtain ⟨new, stored, grows⟩ :=
    kept (repeatingRun.take 5) (repeatingRun.drop 5) [] rfl sampleProposalId old found
  obtain ⟨other, present, last⟩ := Option.map_eq_some_iff.mp final
  obtain rfl := Option.some.inj (stored.symm.trans present)
  have lost := grows.finalized (Prod.mk.inj first).2
  exact Bool.noConfusion (lost.symm.trans (Prod.mk.inj last).2)

end Repetition

end TrustLink
