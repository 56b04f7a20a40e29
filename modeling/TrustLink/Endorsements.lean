import TrustLink.History
import TrustLink.SubjectChecks
import TrustLink.Warrants
import TrustLink.Writes

/-!
Endorsements. An endorser is compared with the issuer of the moment, and never again when
the record passes to another issuer.
-/
namespace TrustLink
open Transaction Contract

section Tables
variable {Address : Type} [DecidableEq Address] [Host Address]

variable {before after : World Address} {call : Call Address}

/-- Nothing but an endorsement writes endorsements. -/
theorem endorsements_of_accepted (accepted : Accepted before call after) :
    (∃ endorser id, call.op = .attestation (.endorseAttestation endorser id)) ∨
      after.storage.endorsements = before.storage.endorsements := by
  obtain ⟨env, op⟩ := call
  cases op with
  | attestation op =>
      by_cases other : ∀ endorser id, op ≠ .endorseAttestation endorser id
      · exact .inr ((op.works accepted other).kept (·.endorsements) fun _ _ => rfl)
      · push Not at other
        obtain ⟨endorser, id, rfl⟩ := other
        exact .inl ⟨endorser, id, rfl⟩
  | request op => exact .inr ((op.works accepted).kept (·.endorsements) fun _ _ => rfl)
  | multisig op => exact .inr ((op.works accepted).kept (·.endorsements) fun _ _ => rfl)
  | council op => exact .inr ((op.governs accepted).kept (·.endorsements) fun _ _ => rfl)
  | admin op => exact .inr ((op.governs accepted).kept (·.endorsements) fun _ _ => rfl)

end Tables

section Independence
variable {Address : Type}

/-- Somebody endorsed the record under the id. -/
def EndorsedBy (storage : Storage Address) (id : Str) (address : Address) : Prop :=
  ∃ endorsement ∈ storage.endorsements id, endorsement.endorser = address

/-- The endorsers of a record are distinct, and its issuer is none of them. -/
structure Independent (storage : Storage Address) (id : Str) (record : Attestation Address) :
    Prop where
  once : ((storage.endorsements id).map (·.endorser)).Nodup
  foreign : ¬ EndorsedBy storage id record.issuer

/-- No endorser is named twice, and what is endorsed is stored. -/
structure Vouched (storage : Storage Address) : Prop where
  once : ∀ id, ((storage.endorsements id).map (·.endorser)).Nodup
  stored : ∀ id, storage.attestation id = none → storage.endorsements id = []

variable [DecidableEq Address]

/-- A stored record is never removed. -/
theorem stored_of_run {register : Register Address} {id : Str} (changes : List (Change Address))
    (free : (Trace.run Register.apply register changes).record id = none) :
    register.record id = none := by
  induction changes generalizing register with
  | nil => exact free
  | cons change rest ih =>
      have before := ih free
      by_cases here : id = change.written.id
      · simp [here] at before
      · rwa [Register.record_apply, Function.update_of_ne here] at before

variable [Host Address]

/-- The call passes every check of its operation and makes an endorser of a record the
issuer of it. -/
def EnlistsEndorser (storage : Storage Address) (call : Call Address) : Prop :=
  match call.op with
  | .attestation (.transferAttestation admin id newIssuer) =>
      ∃ record, Transferable storage call.env admin id newIssuer record ∧
        EndorsedBy storage id newIssuer
  | .multisig (.proposeAttestation proposer subject claimType _ _) =>
      let record := nativeRecord proposer subject claimType call.env.timestamp
      Active storage call.env proposer ∧ Bypasses storage proposer claimType ∧
        StoreFits storage record ∧ EndorsedBy storage record.id proposer
  | .multisig (.cosignAttestation issuer proposalId) =>
      ∃ proposal, Cosignable storage call.env issuer proposalId proposal ∧
        proposal.threshold ≤ proposal.signers.length + 1 ∧
        StoreFits storage (proposedRecord proposal) ∧
        EndorsedBy storage (proposedRecord proposal).id proposal.proposer
  | _ => False

variable {before after : World Address} {call : Call Address}

theorem free_of_accepted (keyed : Keyed before.storage.register)
    (accepted : Accepted before call after) {id : Str}
    (free : after.storage.attestation id = none) : before.storage.attestation id = none := by
  have follows := follows_of_accepted keyed accepted
  have final : (Trace.run Register.apply before.storage.register
      (call.changes before.storage)).record id = none := by
    rw [← follows.register]
    exact free
  exact stored_of_run _ final

theorem vouched_of_accepted (keyed : Keyed before.storage.register)
    (vouched : Vouched before.storage) (accepted : Accepted before call after) :
    Vouched after.storage := by
  rcases endorsements_of_accepted accepted with ⟨endorser, target, endorses⟩ | same
  · obtain ⟨env, op⟩ := call
    obtain rfl : op = _ := endorses
    obtain ⟨⟨-, -, -, ⟨record, found, -, -⟩, unsigned, -⟩, rfl⟩ :=
      (returns_endorseAttestation ..).mp accepted
    constructor
    · intro id
      by_cases here : id = target
      · subst here
        simp only [Function.update_self, List.map_append, List.map_cons, List.map_nil]
        rw [List.nodup_append]
        refine ⟨vouched.once id, List.nodup_singleton _, fun other member last lone => ?_⟩
        obtain ⟨endorsement, listed, rfl⟩ := List.mem_map.mp member
        obtain rfl := List.mem_singleton.mp lone
        exact unsigned endorsement listed
      · simpa only [Function.update_of_ne here] using vouched.once id
    · intro id free
      have apart : id ≠ target := by
        rintro rfl
        exact absurd (free.symm.trans found) nofun
      simpa only [Function.update_of_ne apart] using vouched.stored id free
  · constructor
    · intro id
      rw [same]
      exact vouched.once id
    · intro id free
      rw [same]
      exact vouched.stored id (free_of_accepted keyed accepted free)

theorem vouched_run (calls : List (Call Address)) : Vouched (run calls).storage := by
  have initial : Vouched (World.empty Address).storage :=
    ⟨fun _ => List.nodup_nil, fun _ _ => rfl⟩
  exact @invariant_of_keyed_run _ _ _ (fun world => Vouched world.storage) initial
    (fun _ _ _ keyed vouched accepted => vouched_of_accepted keyed vouched accepted) calls

/-- A record with none of the given endorsers as its issuer. -/
def Foreign (storage : Storage Address) (record : Attestation Address) : Prop :=
  ¬ EndorsedBy storage record.id record.issuer

omit [DecidableEq Address] [Host Address] in
theorem foreign_of_free {storage : Storage Address} (vouched : Vouched storage)
    {record : Attestation Address} (fresh : storage.attestation record.id = none) :
    Foreign storage record := by
  rintro ⟨endorsement, member, -⟩
  rw [vouched.stored record.id fresh] at member
  cases member

theorem foreign_issued (keyed : Keyed before.storage.register) (vouched : Vouched before.storage)
    (accepted : Accepted before call after) (passed : ¬ EnlistsEndorser before.storage call)
    {record : Attestation Address} (member : .issue record ∈ call.changes before.storage) :
    Foreign before.storage record := by
  by_cases direct : ∀ op, call.op ≠ .multisig op
  · have orderly := (checked_of_accepted keyed direct accepted).orderly
    exact foreign_of_free vouched
      ((fresh_of_orderly orderly).1 record (mem_filterMap_issued.mpr member))
  -- the multi-sig paths may write to an id that is taken, and endorsed
  obtain ⟨env, op⟩ := call
  push Not at direct
  obtain ⟨op, rfl⟩ := direct
  cases warrant_of_accepted accepted member with
  | proposeAttestation built active bypasses fits =>
      subst built
      exact fun endorsed => passed ⟨active, bypasses, fits, endorsed⟩
  | cosignAttestation built checks reached fits =>
      subst built
      exact fun endorsed => passed ⟨_, checks, reached, fits, endorsed⟩

theorem foreign_written (keyed : Keyed before.storage.register)
    (accepted : Accepted before call after) (passed : ¬ EnlistsEndorser before.storage call)
    {change : Change Address} (member : change ∈ call.changes before.storage)
    {record : Attestation Address} (base : change.base = some record)
    (foreign : Foreign before.storage record) : Foreign before.storage change.written := by
  obtain ⟨env, op⟩ := call
  cases warrant_of_accepted accepted member with
  | transferAttestation checks =>
      obtain rfl := Option.some.inj base
      have own := (keyed _ _ checks.found).1
      exact fun endorsed => passed ⟨_, checks, own ▸ endorsed⟩
  | renewAttestation | updateExpiration | revokeAttestation | revokeAttestationsBatch
  | requestDeletion =>
      obtain rfl := Option.some.inj base
      exact foreign
  | _ => cases base

/-- What holds between calls: the issuer of no record is among its endorsers. -/
theorem foreign_of_accepted (keyed : Keyed before.storage.register)
    (vouched : Vouched before.storage) (passed : ¬ EnlistsEndorser before.storage call)
    (accepted : Accepted before call after)
    (foreign : before.storage.register.All (Foreign before.storage)) :
    after.storage.register.All (Foreign after.storage) := by
  have kept : after.storage.register.All (Foreign before.storage) :=
    all_of_accepted keyed foreign accepted
      (fun _ member => foreign_issued keyed vouched accepted passed member)
      (fun _ member _ base => foreign_written keyed accepted passed member base)
  rcases endorsements_of_accepted accepted with ⟨endorser, target, endorses⟩ | same
  · obtain ⟨env, op⟩ := call
    obtain rfl : op = _ := endorses
    obtain ⟨⟨-, -, -, ⟨stored, there, other, -⟩, -, -⟩, rfl⟩ :=
      (returns_endorseAttestation ..).mp accepted
    rintro id record found ⟨endorsement, member, issuer⟩
    by_cases here : record.id = target
    · simp only [here, Function.update_self] at member
      rcases List.mem_append.mp member with earlier | last
      · exact kept id record found ⟨endorsement, here ▸ earlier, issuer⟩
      · -- the new endorser was compared with the issuer
        have own : record.id = id := (keyed id record found).1
        obtain rfl := List.mem_singleton.mp last
        rw [← here, own] at there
        obtain rfl : stored = record := Option.some.inj (there.symm.trans found)
        exact other issuer.symm
    · simp only [Function.update_of_ne here] at member
      exact kept id record found ⟨endorsement, member, issuer⟩
  · rintro id record found ⟨endorsement, member, issuer⟩
    exact kept id record found ⟨endorsement, same ▸ member, issuer⟩

/-- A call that enlists an endorser is accepted. -/
theorem endorsed_issuer (keyed : Keyed before.storage.register)
    (enlists : EnlistsEndorser before.storage call) :
    ∃ id record, (step before call).storage.attestation id = some record ∧
      EndorsedBy (step before call).storage id record.issuer := by
  obtain ⟨env, op⟩ := call
  cases op with
  | attestation op =>
      cases op with
      | transferAttestation admin id newIssuer =>
          obtain ⟨record, checks, endorsed⟩ := enlists
          have accepted : Accepted before ⟨env, .attestation (.transferAttestation admin id
            newIssuer)⟩ _ := (returns_transferAttestation admin id newIssuer ()).mpr
              ⟨record, ⟨checks.auth, checks.member, checks.registered, checks.found⟩,
                .inr ⟨checks.moved, checks.ttl, rfl⟩⟩
          rw [step_of_accepted accepted]
          have own := (keyed id record checks.found).1
          exact ⟨record.id, { record with issuer := newIssuer }, Function.update_self ..,
            own ▸ endorsed⟩
      | _ => cases enlists
  | multisig op =>
      cases op with
      | proposeAttestation proposer subject claimType requiredSigners threshold =>
          obtain ⟨active, bypasses, fits, endorsed⟩ := enlists
          have issued := (returns_issueAsPremium _ _ _ _ _ rfl).mpr ⟨fits, rfl, rfl⟩
          have accepted : Accepted before ⟨env, .multisig (.proposeAttestation proposer subject
            claimType requiredSigners threshold)⟩ _ := (returns_void ..).mpr
              ⟨_, (returns_proposeAttestation ..).mpr ⟨active, .inl ⟨bypasses, issued⟩⟩⟩
          rw [step_of_accepted accepted]
          exact ⟨_, _, Function.update_self .., endorsed⟩
      | cosignAttestation issuer proposalId =>
          obtain ⟨proposal, cosignable, reached, fits, endorsed⟩ := enlists
          have accepted : Accepted before ⟨env, .multisig (.cosignAttestation issuer proposalId)⟩ _ :=
            (returns_cosignAttestation issuer proposalId ()).mpr
              ⟨proposal, cosignable, .inl ⟨reached, fits, rfl⟩⟩
          rw [step_of_accepted accepted]
          exact ⟨_, _, Function.update_self .., endorsed⟩
  | _ => cases enlists

end Independence

section Runs
variable {Address : Type} [DecidableEq Address] [Host Address]

/-- In every state of the run the endorsements of every stored record are independent. -/
def EndorsementsIndependent (calls : List (Call Address)) : Prop :=
  ∀ early late, calls = early ++ late → ∀ id record,
    (run early).storage.attestation id = some record →
      Independent (run early).storage id record

/-- Endorsements stay independent in exactly the runs in which no record comes to an issuer
who has endorsed it. -/
theorem endorsements_independent_iff (calls : List (Call Address)) :
    EndorsementsIndependent calls ↔
      Trace.Each step (fun world call => ¬ EnlistsEndorser world.storage call)
        (World.empty Address) calls := by
  constructor
  · intro independent
    rw [Trace.each_iff]
    intro early call late split enlists
    obtain ⟨id, record, stored, endorsed⟩ := endorsed_issuer (keyed_run early) enlists
    rw [← run_concat] at stored endorsed
    have kept := independent (early ++ [call]) late (by rw [split, List.append_assoc]; rfl) _ _
      stored
    exact kept.foreign endorsed
  · intro guarded early late split
    let invariant (world : World Address) : Prop :=
      Vouched world.storage ∧ world.storage.register.All (Foreign world.storage)
    have initial : invariant (World.empty Address) := ⟨vouched_run [], all_empty⟩
    have holds : invariant (run early) :=
      @invariant_of_keyed_calls _ _ _ _ invariant initial
        (fun before call after keyed kept passed accepted =>
          ⟨vouched_of_accepted keyed kept.1 accepted,
            foreign_of_accepted keyed kept.1 passed accepted kept.2⟩) _ _ _ split guarded
    intro id record found
    have own : record.id = id := (keyed_run early id record found).1
    exact ⟨holds.1.once id, own ▸ holds.2 id record found⟩

end Runs

section Enlisting
open Xdr

/-- Issuer 3 endorses the attestation of issuer 1, and then receives it. -/
def enlistingRun : List (Call ContractId) :=
  sampleDeployment ++ [sampleIssuance,
    signed 1001 (contractId 3) (.attestation (.endorseAttestation (contractId 3) sampleId)),
    sampleTransfer]

theorem issuer_endorses_own :
    ((run enlistingRun).storage.attestation sampleId).map (·.issuer) = some (contractId 3) ∧
      (run enlistingRun).storage.endorsements sampleId = [⟨sampleId, contractId 3, 1001⟩] ∧
      ¬ EndorsementsIndependent enlistingRun := by
  have issuer : ((run enlistingRun).storage.attestation sampleId).map (·.issuer) =
      some (contractId 3) := by
    decide +kernel
  have endorsed : (run enlistingRun).storage.endorsements sampleId =
      [⟨sampleId, contractId 3, 1001⟩] := by
    decide +kernel
  refine ⟨issuer, endorsed, fun independent => ?_⟩
  obtain ⟨record, found, same⟩ := Option.map_eq_some_iff.mp issuer
  have kept := independent enlistingRun [] (List.append_nil _).symm sampleId record found
  refine kept.foreign ⟨_, endorsed ▸ List.mem_singleton_self _, ?_⟩
  exact same.symm

end Enlisting

end TrustLink
