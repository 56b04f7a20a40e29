import TrustLink.Effects

/-!
Issuance and the issuer registry. Every creating operation looks the issuer up
but one: the co-signature that completes a proposal looks up its own signer, and
issues in the name of the proposer.
-/
namespace TrustLink
open Transaction Contract

section Additions
variable {Address : Type} [DecidableEq Address] [Host Address]

/-- A call either issues all along or not at all. -/
theorem changes_uniform (storage : Storage Address) (call : Call Address) :
    (∀ change ∈ call.changes storage, change.base = none) ∨
      ∀ change ∈ call.changes storage, change.base ≠ none := by
  obtain ⟨env, op⟩ := call
  cases op with
  | attestation op =>
      cases op <;> simp [Call.changes, AttestationOp.changes, Change.base] <;> grind
  | request op => cases op <;> simp [Call.changes, RequestOp.changes, Change.base]
  | multisig op =>
      refine .inl fun change member => ?_
      cases op <;> simp [Call.changes, MultisigOp.changes] at member <;> grind [Change.base]
  | _ => simp [Call.changes]

omit [Host Address] in
theorem record_of_issues {register : Register Address} {changes : List (Change Address)}
    (issues : ∀ change ∈ changes, change.base = none) {id : Str} {record : Attestation Address}
    (stored : (Trace.run Register.apply register changes).record id = some record) :
    register.record id = some record ∨ record ∈ changes.filterMap Change.issued? := by
  induction changes generalizing register with
  | nil => exact .inl stored
  | cons change rest ih =>
      obtain ⟨issued, rfl⟩ : ∃ issued, change = .issue issued := by
        have start := issues change (by simp)
        cases change with
        | issue issued => exact ⟨issued, rfl⟩
        | _ => cases start
      rcases ih (fun other member => issues other (by simp [member])) stored with before | later
      · by_cases here : id = issued.id
        · rw [Register.record_apply, here, Change.written, Function.update_self] at before
          exact .inr (by simp [Change.issued?, Option.some.inj before])
        · rw [Register.record_apply, Change.written, Function.update_of_ne here] at before
          exact .inl before
      · exact .inr (by rw [List.filterMap_cons]; exact List.mem_cons_of_mem _ later)

theorem record_of_updates {register : Register Address} {changes : List (Change Address)}
    (updates : ∀ change ∈ changes, change.base ≠ none)
    (enabled : Trace.Each Register.apply Enabled register changes) {id : Str}
    (free : register.record id = none) :
    (Trace.run Register.apply register changes).record id = none := by
  induction changes generalizing register with
  | nil => exact free
  | cons change rest ih =>
      refine ih (fun other member => updates other (by simp [member])) enabled.2 ?_
      rcases enabled.1.cases with ⟨issued, rfl, -⟩ | ⟨start, base, found⟩
      · exact absurd rfl (updates (.issue issued) (by simp))
      · have other : id ≠ change.written.id := by
          rintro rfl
          rw [Change.written_id base, found] at free
          cases free
        rw [Register.record_apply, Function.update_of_ne other]
        exact free

/-- The record under an id that was free was issued by the call. -/
theorem issued_of_new {before after : World Address} {call : Call Address}
    (follows : Follows before after (call.changes before.storage)) {id : Str}
    {record : Attestation Address} (free : before.storage.attestation id = none)
    (stored : after.storage.attestation id = some record) :
    record ∈ created before after := by
  have final : (Trace.run Register.apply before.storage.register
      (call.changes before.storage)).record id = some record := by
    rw [← follows.register]
    exact stored
  rw [follows.created]
  rcases changes_uniform before.storage call with issues | updates
  · rcases record_of_issues issues final with found | issued
    · exact absurd (free.symm.trans found) nofun
    · exact issued
  · rw [record_of_updates updates follows.enabled free] at final
    cases final

end Additions

section Condition
variable {Address : Type} [DecidableEq Address] [Host Address] {before after : World Address}
  {call : Call Address}

/-- The call passes every check and completes a proposal whose proposer is not
registered. -/
def IssuesForRemoved (storage : Storage Address) (call : Call Address) : Prop :=
  match call.op with
  | .multisig (.cosignAttestation issuer proposalId) =>
      ∃ proposal, Cosignable storage call.env issuer proposalId proposal ∧
        proposal.threshold ≤ proposal.signers.length + 1 ∧
        StoreFits storage (proposedRecord proposal) ∧ storage.issuer proposal.proposer = false
  | _ => False

theorem registered_of_created (keyed : Keyed before.storage.register)
    (passed : ¬ IssuesForRemoved before.storage call) (accepted : Accepted before call after)
    {record : Attestation Address} (member : record ∈ created before after)
    (direct : record.origin ≠ .bridged) : before.storage.issuer record.issuer = true := by
  rw [(follows_of_accepted keyed accepted).created] at member
  obtain ⟨change, listed, issued⟩ := List.mem_filterMap.mp member
  by_cases single : ∀ op, call.op ≠ .multisig op
  · exact (checked_of_accepted keyed single accepted).registered change listed record issued direct
  obtain ⟨env, op⟩ := call
  push Not at single
  obtain ⟨op, rfl⟩ := single
  cases op.outcome accepted with
  | bypass _ active bypasses =>
      simp only [Call.changes, changes_bypass _ _ _ bypasses, List.mem_singleton] at listed
      subst listed
      obtain rfl := Option.some.inj issued
      exact active.registered
  | proposal _ _ stays => simp [Call.changes, changes_proposal _ _ _ stays] at listed
  | @completion _ _ proposal cosignable reached fits =>
      simp only [Call.changes, changes_completion _ cosignable.found reached,
        List.mem_singleton] at listed
      subst listed
      obtain rfl := Option.some.inj issued
      by_contra removed
      exact passed ⟨proposal, cosignable, reached, fits, Bool.eq_false_iff.mpr removed⟩
  | cosignature cosignable short =>
      simp [Call.changes, changes_cosignature _ cosignable.found short] at listed

theorem created_of_issuesForRemoved (removed : IssuesForRemoved before.storage call) :
    ∃ record ∈ created before (step before call), record.origin ≠ .bridged ∧
      before.storage.issuer record.issuer = false := by
  obtain ⟨env, op⟩ := call
  cases op with
  | multisig op =>
      cases op with
      | cosignAttestation issuer proposalId =>
          obtain ⟨proposal, cosignable, reached, fits, gone⟩ := removed
          have accepted : Accepted before ⟨env, .multisig (.cosignAttestation issuer proposalId)⟩ _ :=
            (returns_cosignAttestation issuer proposalId ()).mpr
              ⟨proposal, cosignable, .inl ⟨reached, fits, rfl⟩⟩
          rw [step_of_accepted accepted, (MultisigOp.follows (.cosignAttestation issuer proposalId)
            accepted).created]
          rw [changes_completion issuer cosignable.found reached]
          exact ⟨proposedRecord proposal, List.mem_singleton_self _, by simp [proposedRecord], gone⟩
      | _ => cases removed
  | _ => cases removed

end Condition

section Runs
variable {Address : Type} [DecidableEq Address] [Host Address]

/-- Every attestation a step announces or puts under a free id, unless bridged,
names an issuer that is registered at that step. -/
def IssuedByRegistered (calls : List (Call Address)) : Prop :=
  ∀ early call late, calls = early ++ call :: late →
    ∀ record : Attestation Address, record.origin ≠ .bridged →
      (record ∈ created (run early) (step (run early) call) ∨
        ∃ id, (run early).storage.attestation id = none ∧
          (step (run early) call).storage.attestation id = some record) →
      (run early).storage.issuer record.issuer = true

/-- This holds of exactly the runs in which every completed proposal finds its
proposer registered. -/
theorem issued_by_registered_iff (calls : List (Call Address)) :
    IssuedByRegistered calls ↔
      Trace.Each step (fun world call => ¬ IssuesForRemoved world.storage call)
        (World.empty Address) calls := by
  rw [Trace.each_iff]
  constructor
  · intro registered early call late split removed
    obtain ⟨record, announced, direct, gone⟩ := created_of_issuesForRemoved removed
    have present := registered early call late split record direct (.inl announced)
    exact Bool.noConfusion (present.symm.trans gone)
  · intro guarded early call late split record direct stored
    rcases step_cases (run early) call with accepted | same
    · have follows := follows_of_accepted (keyed_run early) accepted
      have announced : record ∈ created (run early) (step (run early) call) :=
        stored.elim id fun ⟨_, free, found⟩ => issued_of_new follows free found
      exact registered_of_created (keyed_run early) (guarded early call late split) accepted
        announced direct
    · rw [same] at stored
      rcases stored with announced | ⟨id, free, found⟩
      · simp [created] at announced
      · cases free.symm.trans found

end Runs

section Removal
open Xdr

/-- Issuer 1 proposes an attestation and is removed; the co-signature of issuer 3
completes it. -/
def removalRun : List (Call ContractId) :=
  sampleDeployment ++ [sampleProposal,
    signed 1001 (contractId 9) (.admin (.removeIssuer (contractId 9) (contractId 1))),
    sampleCosignature]

theorem cosign_issues_for_removed_issuer :
    (run (removalRun.take 5)).storage.issuer (contractId 1) = false ∧
      ((run removalRun).storage.attestation sampleId).map
        (fun record => (record.issuer, record.origin)) = some (contractId 1, .native) ∧
      ¬ IssuedByRegistered removalRun := by
  have removed : (run (removalRun.take 5)).storage.issuer (contractId 1) = false := by
    decide +kernel
  have free : (run (removalRun.take 5)).storage.attestation sampleId = none := by decide +kernel
  have stored : ((run removalRun).storage.attestation sampleId).map
      (fun record => (record.issuer, record.origin)) = some (contractId 1, .native) := by
    decide +kernel
  refine ⟨removed, stored, fun registered => ?_⟩
  obtain ⟨record, found, fields⟩ := Option.map_eq_some_iff.mp stored
  obtain ⟨issuer, origin⟩ := Prod.mk.inj fields
  have present := registered (removalRun.take 5) sampleCosignature [] rfl record
    (by rw [origin]; decide) (.inr ⟨sampleId, free, found⟩)
  rw [issuer, removed] at present
  cases present

end Removal

end TrustLink
