import Mathlib.Data.List.Induction
import TrustLink.Effects

/-!
The storage limits against the flat indexes. Direct issuance, a delegate's and a
fulfilment look at both limits; a batch looks at them with a sum that saturates;
an import, a bridge, the two multi-sig paths and a transfer look at neither.
-/
namespace TrustLink
open Transaction Contract SecondaryIndex

section Conditions
variable {Address : Type} [DecidableEq Address] [Host Address]

/-- No list of attestations is longer than its limit. -/
structure Within (limits : StorageLimits) (register : Register Address) : Prop where
  issuer : ∀ issuer, (register.byIssuer issuer).length ≤ limits.maxAttestationsPerIssuer
  subject : ∀ subject, (register.bySubject subject).length ≤ limits.maxAttestationsPerSubject

/-- One more attestation is within the limits of both. -/
structure HasRoom (storage : Storage Address) (issuer subject : Address) : Prop where
  issuer : (storage.issuerAttestations issuer).length < storage.limits.maxAttestationsPerIssuer
  subject : (storage.subjectAttestations subject).length < storage.limits.maxAttestationsPerSubject

/-- The call passes every check and leaves a list that is too long. -/
def Overfills (storage : Storage Address) (call : Call Address) : Prop :=
  match call.op with
  | .attestation (.importAttestation admin issuer subject claimType timestamp expiration) =>
      ImportChecks storage call.env admin issuer timestamp expiration
          { nativeRecord issuer subject claimType timestamp with origin := .imported, expiration } ∧
        ¬ HasRoom storage issuer subject
  | .attestation (.bridgeAttestation bridge subject claimType sourceChain sourceTx) =>
      BridgeChecks storage call.env bridge sourceChain sourceTx
          { Attestation.issued (Attestation.generateBridgeId bridge subject claimType sourceChain
              sourceTx call.env.timestamp) bridge subject claimType call.env.timestamp .bridged with
            sourceChain := some sourceChain, sourceTx := some sourceTx } ∧
        ¬ HasRoom storage bridge subject
  | .attestation (.createAttestationsBatch issuer subjects claimType expiration) =>
      BatchChecks storage call.env issuer subjects claimType expiration
          (subjects.map (batchRecord issuer claimType expiration call.env.timestamp)) ∧
        -- the check compares the limit with a sum capped at the largest `u32`
        storage.limits.maxAttestationsPerIssuer <
          (storage.issuerAttestations issuer).length + subjects.length
  | .attestation (.transferAttestation admin id newIssuer) =>
      ∃ attestation, Transferable storage call.env admin id newIssuer attestation ∧
        storage.limits.maxAttestationsPerIssuer ≤ (storage.issuerAttestations newIssuer).length
  | .multisig (.proposeAttestation proposer subject claimType _ _) =>
      Active storage call.env proposer ∧ Bypasses storage proposer claimType ∧
        StoreFits storage (nativeRecord proposer subject claimType call.env.timestamp) ∧
        ¬ HasRoom storage proposer subject
  | .multisig (.cosignAttestation issuer proposalId) =>
      ∃ proposal, Cosignable storage call.env issuer proposalId proposal ∧
        proposal.threshold ≤ proposal.signers.length + 1 ∧
        StoreFits storage (proposedRecord proposal) ∧
        ¬ HasRoom storage proposal.proposer proposal.subject
  | _ => False

end Conditions

section Changes
variable {Address : Type} [DecidableEq Address] {limits : StorageLimits}
  {register : Register Address}

/-- The lists a change extends have room for one more. -/
def Fits (limits : StorageLimits) (register : Register Address) : Change Address → Prop
  | .issue attestation =>
      (register.byIssuer attestation.issuer).length < limits.maxAttestationsPerIssuer ∧
        (register.bySubject attestation.subject).length < limits.maxAttestationsPerSubject
  | .transfer _ newIssuer =>
      (register.byIssuer newIssuer).length < limits.maxAttestationsPerIssuer
  | _ => True

theorem length_add_le {index : Address → List Str} {owner : Address} {key : Str} {bound : Nat}
    (bounded : ∀ owner, (index owner).length ≤ bound) (room : (index owner).length < bound)
    (target : Address) : (add index owner key target).length ≤ bound := by
  by_cases here : target = owner
  · subst here
    rw [add, Function.update_self, List.length_append]
    exact room
  · simpa [add, here] using bounded target

theorem length_drop_le (index : Address → List Str) (owner target : Address) (key : Str) :
    (drop index owner key target).length ≤ (index target).length := by
  by_cases here : target = owner
  · subst here
    simpa [drop] using List.length_filter_le ..
  · simp [drop, here]

theorem Within.apply {change : Change Address} (within : Within limits register)
    (fits : Fits limits register change) : Within limits (register.apply change) := by
  have dropped : ∀ {index : Address → List Str} {bound : Nat} (owner : Address) (key : Str),
      (∀ owner, (index owner).length ≤ bound) →
        ∀ target, (drop index owner key target).length ≤ bound :=
    fun owner key bounded target => Nat.le_trans (length_drop_le _ owner target key) (bounded target)
  cases change with
  | issue attestation =>
      exact ⟨length_add_le within.issuer fits.1, length_add_le within.subject fits.2⟩
  | amend attestation expiration => exact ⟨within.issuer, within.subject⟩
  | revoke attestation reason | revokeInBatch attestation reason =>
      exact ⟨dropped _ _ within.issuer, dropped _ _ within.subject⟩
  | transfer attestation newIssuer =>
      -- the id leaves one list before it enters the other
      refine ⟨length_add_le (dropped _ _ within.issuer) ?_, within.subject⟩
      exact Nat.lt_of_le_of_lt (length_drop_le ..) fits
  | erase attestation => exact ⟨within.issuer, dropped _ _ within.subject⟩

/-- The records of a batch fit one by one when the subjects had room in the loop
and the issuer had room for all of them. -/
theorem fits_issues {storage : Storage Address} {issuer : Address}
    {records : List (Attestation Address)}
    (listable : Trace.Each withListed (Listable limits) storage records)
    (own : ∀ record ∈ records, record.issuer = issuer)
    (room : (register.byIssuer issuer).length + records.length ≤ limits.maxAttestationsPerIssuer)
    (bySubject : register.bySubject = storage.subjectAttestations) :
    Trace.Each Register.apply (Fits limits) register (records.map .issue) := by
  induction records generalizing storage register with
  | nil => trivial
  | cons record rest ih =>
      have named : record.issuer = issuer := own record (by simp)
      rw [List.length_cons] at room
      refine ⟨⟨?_, ?_⟩, ih listable.2 (fun other member => own other (by simp [member])) ?_ ?_⟩
      · rw [named]
        omega
      · rw [bySubject]
        exact listable.1.room
      · have longer : ((register.apply (.issue record)).byIssuer issuer).length =
            (register.byIssuer issuer).length + 1 := by
          simp [Register.apply, add, named]
        omega
      · simp [Register.apply, add, withListed, bySubject]

theorem fits_updates {changes : List (Change Address)}
    (issues : ∀ record, .issue record ∉ changes)
    (transfers : ∀ attestation newIssuer, .transfer attestation newIssuer ∉ changes) :
    Trace.Each Register.apply (Fits limits) register changes := by
  refine Trace.each_of_forall _ fun change member register => ?_
  cases change with
  | issue record => exact absurd member (issues record)
  | transfer attestation newIssuer => exact absurd member (transfers attestation newIssuer)
  | _ => trivial

/-- A new record that finds no room leaves a list that is too long. -/
theorem not_within_of_issued {storage : Storage Address} {record : Attestation Address}
    (full : ¬ HasRoom storage record.issuer record.subject) :
    ¬ Within storage.limits (storage.withIssued record).register := by
  intro within
  have issuer := within.issuer record.issuer
  have subject := within.subject record.subject
  simp only [Storage.register, Storage.withIssued, Function.update_self, List.length_append,
    List.length_singleton] at issuer subject
  exact full ⟨issuer, subject⟩

end Changes

section Steps
variable {Address : Type} [DecidableEq Address] [Host Address] {env : Env Address}
  {before after : World Address} {world : World Address} {call : Call Address}

theorem AttestationOp.fits (op : AttestationOp Address)
    (passed : ¬ Overfills before.storage ⟨env, .attestation op⟩)
    (accepted : Returns op.exec env before () after) :
    Trace.Each Register.apply (Fits before.storage.limits) before.storage.register
      (op.changes before.storage env.timestamp) := by
  cases op with
  | createAttestation | createAttestationValidFrom | createAttestationJurisdiction =>
      obtain ⟨id, accepted⟩ := (returns_void ..).mp accepted
      obtain ⟨checks, -⟩ := (returns_createAttestationInternal _ _ _ _ _ _ _ _ _ _ rfl).mp accepted
      exact ⟨⟨checks.issuerRoom, checks.subjectRoom⟩, trivial⟩
  | importAttestation admin issuer subject claimType timestamp expiration =>
      obtain ⟨id, accepted⟩ := (returns_void ..).mp accepted
      obtain ⟨checks, -⟩ := (returns_importAttestation _ _ _ _ _ _ _ _ rfl).mp accepted
      have room : HasRoom before.storage issuer subject := by
        by_contra full
        exact passed ⟨checks, full⟩
      exact ⟨⟨room.issuer, room.subject⟩, trivial⟩
  | bridgeAttestation bridge subject claimType sourceChain sourceTx =>
      obtain ⟨id, accepted⟩ := (returns_void ..).mp accepted
      obtain ⟨checks, -⟩ := (returns_bridgeAttestation _ _ _ _ _ _ _ rfl).mp accepted
      have room : HasRoom before.storage bridge subject := by
        by_contra full
        exact passed ⟨checks, full⟩
      exact ⟨⟨room.issuer, room.subject⟩, trivial⟩
  | createAttestationsBatch issuer subjects claimType expiration =>
      obtain ⟨ids, accepted⟩ := (returns_void ..).mp accepted
      obtain ⟨checks, -⟩ := (returns_createAttestationsBatch _ _ _ _ _ _ rfl).mp accepted
      have room : (before.storage.issuerAttestations issuer).length + subjects.length ≤
          before.storage.limits.maxAttestationsPerIssuer := by
        by_contra full
        exact passed ⟨checks, Nat.lt_of_not_le full⟩
      have own : ∀ record ∈ subjects.map (batchRecord issuer claimType expiration env.timestamp),
          record.issuer = issuer := by
        intro record member
        obtain ⟨subject, -, rfl⟩ := List.mem_map.mp member
        rfl
      have fits : Trace.Each Register.apply (Fits before.storage.limits) before.storage.register
          ((subjects.map (batchRecord issuer claimType expiration env.timestamp)).map .issue) :=
        fits_issues checks.listable own (by rw [List.length_map]; exact room) rfl
      rw [List.map_map] at fits
      exact fits
  | createAttestationAsDelegate delegate delegator subject claimType expiration metadata =>
      obtain ⟨id, accepted⟩ := (returns_void ..).mp accepted
      obtain ⟨checks, -⟩ := (returns_createAttestationAsDelegate _ _ _ _ _ _ _ _ rfl).mp accepted
      exact ⟨⟨checks.issuerRoom, checks.subjectRoom⟩, trivial⟩
  | transferAttestation admin id newIssuer =>
      obtain ⟨attestation, ⟨auth, member, registered, found⟩, ⟨same, -⟩ | ⟨moved, ttl, -⟩⟩ :=
        (returns_transferAttestation ..).mp accepted
      · rw [changes_transfer_same admin found same]
        trivial
      · rw [changes_transferAttestation admin found moved]
        refine ⟨Nat.lt_of_not_le fun full => ?_, trivial⟩
        exact passed ⟨attestation, ⟨auth, member, registered, found, moved, ttl⟩, full⟩
  | _ => exact fits_updates (by simp [AttestationOp.changes]) (by simp [AttestationOp.changes])

theorem RequestOp.fits (op : RequestOp Address) (accepted : Returns op.exec env before () after) :
    Trace.Each Register.apply (Fits before.storage.limits) before.storage.register
      (op.changes before.storage env.timestamp) := by
  cases op.outcome accepted with
  | fulfillRequest _ checks =>
      rw [changes_fulfillRequest _ _ checks.found]
      exact ⟨⟨checks.issuerRoom, checks.subjectRoom⟩, trivial⟩
  | _ => trivial

theorem MultisigOp.fits (op : MultisigOp Address)
    (passed : ¬ Overfills before.storage ⟨env, .multisig op⟩)
    (accepted : Returns op.exec env before () after) :
    Trace.Each Register.apply (Fits before.storage.limits) before.storage.register
      (op.changes before.storage env.timestamp) := by
  cases op.outcome accepted with
  | @bypass proposer subject _ _ _ _ built active bypasses fits =>
      subst built
      have room : HasRoom before.storage proposer subject := by
        by_contra full
        exact passed ⟨active, bypasses, fits, full⟩
      rw [changes_bypass _ _ _ bypasses]
      exact ⟨⟨room.issuer, room.subject⟩, trivial⟩
  | proposal _ _ stays =>
      rw [changes_proposal _ _ _ stays]
      trivial
  | @completion _ _ proposal cosignable reached fits =>
      have room : HasRoom before.storage proposal.proposer proposal.subject := by
        by_contra full
        exact passed ⟨proposal, cosignable, reached, fits, full⟩
      rw [changes_completion _ cosignable.found reached]
      exact ⟨⟨room.issuer, room.subject⟩, trivial⟩
  | cosignature cosignable short =>
      rw [changes_cosignature _ cosignable.found short]
      trivial

/-- Every other accepted call extends only lists that have room. -/
theorem fits_of_accepted (passed : ¬ Overfills before.storage call)
    (accepted : Accepted before call after) :
    Trace.Each Register.apply (Fits before.storage.limits) before.storage.register
      (call.changes before.storage) := by
  obtain ⟨env, op⟩ := call
  cases op with
  | attestation op => exact op.fits passed accepted
  | request op => exact op.fits accepted
  | multisig op => exact op.fits passed accepted
  | _ => trivial

/-- Only `set_limits` changes the limits. -/
def SetsLimits (call : Call Address) : Prop :=
  ∃ admin perIssuer perSubject, call.op = .admin (.setLimits admin perIssuer perSubject)

theorem limits_of_accepted (other : ¬ SetsLimits call) (accepted : Accepted before call after) :
    after.storage.limits = before.storage.limits := by
  obtain ⟨env, op⟩ := call
  cases op with
  | attestation op => exact (op.keeps accepted).1.limits
  | request op => exact (op.keeps accepted).1.limits
  | multisig op => exact (op.keeps accepted).1.limits
  | council op => exact (op.keeps accepted).2.2
  | admin op =>
      refine (op.keeps accepted).2 fun admin perIssuer perSubject same => other ?_
      exact ⟨admin, perIssuer, perSubject, congrArg Op.admin same⟩

theorem not_within_of_overfills (overfills : Overfills world.storage call) :
    (step world call).storage.limits = world.storage.limits ∧
      ¬ Within world.storage.limits (step world call).storage.register := by
  obtain ⟨env, op⟩ := call
  cases op with
  | attestation op =>
      cases op with
      | importAttestation admin issuer subject claimType timestamp expiration =>
          obtain ⟨checks, full⟩ := overfills
          have accepted : Accepted world ⟨env, .attestation (.importAttestation admin issuer subject
              claimType timestamp expiration)⟩ _ := (returns_void ..).mpr
            ⟨_, (returns_importAttestation _ _ _ _ _ _ _ _ rfl).mpr ⟨checks, rfl, rfl⟩⟩
          rw [step_of_accepted accepted]
          exact ⟨rfl, not_within_of_issued full⟩
      | bridgeAttestation bridge subject claimType sourceChain sourceTx =>
          obtain ⟨checks, full⟩ := overfills
          have accepted : Accepted world ⟨env, .attestation (.bridgeAttestation bridge subject
              claimType sourceChain sourceTx)⟩ _ := (returns_void ..).mpr
            ⟨_, (returns_bridgeAttestation _ _ _ _ _ _ _ rfl).mpr ⟨checks, rfl, rfl⟩⟩
          rw [step_of_accepted accepted]
          exact ⟨rfl, not_within_of_issued full⟩
      | createAttestationsBatch issuer subjects claimType expiration =>
          obtain ⟨checks, full⟩ := overfills
          have accepted : Accepted world ⟨env, .attestation (.createAttestationsBatch issuer subjects
              claimType expiration)⟩ _ := (returns_void ..).mpr
            ⟨_, (returns_createAttestationsBatch _ _ _ _ _ _ rfl).mpr ⟨checks, rfl, rfl⟩⟩
          rw [step_of_accepted accepted]
          refine ⟨Trace.run_keeps withListed (·.limits) (fun _ _ => rfl) _ _, fun within => ?_⟩
          have listed := within.issuer issuer
          simp only [Storage.register, Function.update_self, List.length_append,
            List.length_map] at listed
          omega
      | transferAttestation admin id newIssuer =>
          obtain ⟨attestation, checks, full⟩ := overfills
          have accepted : Accepted world ⟨env, .attestation (.transferAttestation admin id
              newIssuer)⟩ _ := (returns_transferAttestation admin id newIssuer ()).mpr ⟨attestation,
            ⟨checks.auth, checks.member, checks.registered, checks.found⟩,
            .inr ⟨checks.moved, checks.ttl, rfl⟩⟩
          rw [step_of_accepted accepted]
          refine ⟨rfl, fun within => ?_⟩
          have listed := within.issuer newIssuer
          simp only [Storage.register, Function.update_self, List.length_append,
            List.length_singleton] at listed
          omega
      | _ => cases overfills
  | multisig op =>
      cases op with
      | proposeAttestation proposer subject claimType requiredSigners threshold =>
          obtain ⟨active, bypasses, fits, full⟩ := overfills
          have accepted : Accepted world ⟨env, .multisig (.proposeAttestation proposer subject
              claimType requiredSigners threshold)⟩ _ := (returns_void ..).mpr
            ⟨_, (returns_proposeAttestation ..).mpr ⟨active, .inl ⟨bypasses,
              (returns_issueAsPremium _ _ _ _ _ rfl).mpr ⟨fits, rfl, rfl⟩⟩⟩⟩
          rw [step_of_accepted accepted]
          exact ⟨rfl, not_within_of_issued full⟩
      | cosignAttestation issuer proposalId =>
          obtain ⟨proposal, cosignable, reached, fits, full⟩ := overfills
          have accepted : Accepted world ⟨env, .multisig (.cosignAttestation issuer proposalId)⟩ _ :=
            (returns_cosignAttestation issuer proposalId ()).mpr
              ⟨proposal, cosignable, .inl ⟨reached, fits, rfl⟩⟩
          rw [step_of_accepted accepted]
          exact ⟨rfl, not_within_of_issued full⟩
  | _ => cases overfills

end Steps

section Listing
variable {Address : Type} [DecidableEq Address]

/-- Whatever the flat indexes list is in the store. -/
structure Listed (register : Register Address) : Prop where
  issuer : ∀ owner, ∀ id ∈ register.byIssuer owner, register.record id ≠ none
  subject : ∀ owner, ∀ id ∈ register.bySubject owner, register.record id ≠ none

theorem Listed.apply {register : Register Address} {change : Change Address}
    (listed : Listed register) : Listed (register.apply change) := by
  have kept : ∀ id, register.record id ≠ none → (register.apply change).record id ≠ none := by
    intro id stored
    by_cases here : id = change.written.id
    · simp [here]
    · simpa [here] using stored
  have new : (register.apply change).record change.written.id ≠ none := by simp
  cases change with
  | issue attestation =>
      refine ⟨fun owner id member => ?_, fun owner id member => ?_⟩
      · rcases (mem_add ..).mp member with old | ⟨-, rfl⟩
        · exact kept id (listed.issuer owner id old)
        · exact new
      · rcases (mem_add ..).mp member with old | ⟨-, rfl⟩
        · exact kept id (listed.subject owner id old)
        · exact new
  | amend attestation expiration =>
      exact ⟨fun owner id member => kept id (listed.issuer owner id member),
        fun owner id member => kept id (listed.subject owner id member)⟩
  | transfer attestation newIssuer =>
      refine ⟨fun owner id member => ?_, fun owner id member =>
        kept id (listed.subject owner id member)⟩
      rcases (mem_add ..).mp member with old | ⟨-, rfl⟩
      · exact kept id (listed.issuer owner id ((mem_drop ..).mp old).1)
      · exact new
  | erase attestation =>
      exact ⟨fun owner id member => kept id (listed.issuer owner id member),
        fun owner id member => kept id (listed.subject owner id ((mem_drop ..).mp member).1)⟩
  | _ =>
      exact ⟨fun owner id member => kept id (listed.issuer owner id ((mem_drop ..).mp member).1),
        fun owner id member => kept id (listed.subject owner id ((mem_drop ..).mp member).1)⟩

variable [Host Address]

theorem listed_run (calls : List (Call Address)) : Listed (run calls).storage.register :=
  (register_invariant ⟨fun _ _ member => (nomatch member), fun _ _ member => (nomatch member)⟩
    (fun _ _ _ listed _ => listed.apply) calls).2

omit [DecidableEq Address] [Host Address] in
/-- Before anything is stored every limit is kept. -/
theorem Listed.within {register : Register Address} (listed : Listed register)
    (nothing : ∀ id, register.record id = none) (limits : StorageLimits) :
    Within limits register := by
  have empty : ∀ ids : List Str, (∀ id ∈ ids, register.record id ≠ none) → ids = [] := by
    intro ids stored
    exact List.eq_nil_iff_forall_not_mem.mpr fun id member => stored id member (nothing id)
  refine ⟨fun owner => ?_, fun owner => ?_⟩
  · rw [empty _ (listed.issuer owner)]
    exact Nat.zero_le _
  · rw [empty _ (listed.subject owner)]
    exact Nat.zero_le _

end Listing

section Runs
variable {Address : Type} [DecidableEq Address] [Host Address]

/-- Once an attestation is stored, the limits are not set any more. -/
def LimitsSettled (calls : List (Call Address)) : Prop :=
  Trace.Each step (fun world call => SetsLimits call → ∀ id, world.storage.attestation id = none)
    (World.empty Address) calls

/-- In every state of the run, the lists of issuers and subjects are within the limits. -/
def LimitsHold (calls : List (Call Address)) : Prop :=
  ∀ early late, calls = early ++ late →
    (∀ issuer, ((run early).storage.issuerAttestations issuer).length ≤
      (run early).storage.limits.maxAttestationsPerIssuer) ∧
    ∀ subject, ((run early).storage.subjectAttestations subject).length ≤
      (run early).storage.limits.maxAttestationsPerSubject

theorem within_of_accepted {before after : World Address} {call : Call Address}
    (keyed : Keyed before.storage.register) (listed : Listed after.storage.register)
    (within : Within before.storage.limits before.storage.register)
    (settled : SetsLimits call → ∀ id, before.storage.attestation id = none)
    (passed : ¬ Overfills before.storage call) (accepted : Accepted before call after) :
    Within after.storage.limits after.storage.register := by
  have follows := follows_of_accepted keyed accepted
  by_cases sets : SetsLimits call
  · refine listed.within ?_ _
    obtain ⟨admin, perIssuer, perSubject, named⟩ := sets
    rw [follows.register, Call.changes, named]
    exact settled ⟨admin, perIssuer, perSubject, named⟩
  · rw [limits_of_accepted sets accepted, follows.register]
    exact Trace.invariant_of_each (fun _ _ within fits => within.apply fits) within
      (fits_of_accepted passed accepted)

/-- With settled limits, they hold throughout exactly the runs in which no
unchecked path extends a full list. -/
theorem limits_hold_iff (calls : List (Call Address)) (settled : LimitsSettled calls) :
    LimitsHold calls ↔
      Trace.Each step (fun world call => ¬ Overfills world.storage call) (World.empty Address)
        calls := by
  constructor
  · intro hold
    rw [Trace.each_iff]
    intro early call late split overfills
    obtain ⟨kept, exceeded⟩ := not_within_of_overfills overfills
    have next := hold (early ++ [call]) late (by simpa using split)
    rw [run_concat, kept] at next
    exact exceeded ⟨next.1, next.2⟩
  · intro guarded early late split
    suffices within : Within (run early).storage.limits (run early).storage.register from
      ⟨within.issuer, within.subject⟩
    induction early using List.reverseRecOn generalizing late with
    | nil => exact ⟨fun _ => Nat.zero_le _, fun _ => Nat.zero_le _⟩
    | append_singleton earlier call ih =>
        have position : calls = earlier ++ call :: late := by simpa using split
        have before := ih (call :: late) position
        rw [run_concat]
        rcases step_cases (run earlier) call with accepted | same
        · -- what is listed is stored in every reachable state, so in this one
          refine within_of_accepted (keyed_run earlier) ?_ before
            (Trace.each_iff.mp settled earlier call late position)
            (Trace.each_iff.mp guarded earlier call late position) accepted
          rw [← run_concat]
          exact listed_run _
        · rw [same]
          exact before

end Runs

section Samples
open Xdr

/-- Limits of one attestation for each issuer and each subject, then a direct issuance. -/
def limitedIssuance : List (Call ContractId) :=
  sampleDeployment ++ [
    signed 950 (contractId 9) (.admin (.setLimits (contractId 9) 1 1)), sampleIssuance]

theorem limitedIssuance_settled : LimitsSettled limitedIssuance :=
  ⟨nofun, nofun, nofun, fun _ _ => rfl, nofun, trivial⟩

theorem limits_hold_sample :
    ((run limitedIssuance).storage.issuerAttestations (contractId 1)).length = 1 ∧
      LimitsHold limitedIssuance :=
  ⟨by decide +kernel, (limits_hold_iff limitedIssuance limitedIssuance_settled).mpr
    ⟨id, id, id, id, id, trivial⟩⟩

/-- The administrator imports a second one. -/
def overfillingRun : List (Call ContractId) :=
  limitedIssuance ++ [signed 1001 (contractId 9) (.attestation (.importAttestation (contractId 9)
    (contractId 1) (contractId 2) (ascii "KYC") 999 none))]

theorem import_exceeds_limits :
    LimitsSettled overfillingRun ∧
      (run overfillingRun).storage.limits.maxAttestationsPerIssuer = 1 ∧
      ((run overfillingRun).storage.issuerAttestations (contractId 1)).length = 2 ∧
      ((run overfillingRun).storage.subjectAttestations (contractId 2)).length = 2 ∧
      ¬ LimitsHold overfillingRun := by
  have limit : (run overfillingRun).storage.limits.maxAttestationsPerIssuer = 1 := by
    decide +kernel
  have listed : ((run overfillingRun).storage.issuerAttestations (contractId 1)).length = 2 := by
    decide +kernel
  refine ⟨⟨nofun, nofun, nofun, fun _ _ => rfl, nofun, nofun, trivial⟩, limit, listed,
    by decide +kernel, fun hold => ?_⟩
  have bounded := (hold overfillingRun [] (List.append_nil _).symm).1 (contractId 1)
  rw [limit, listed] at bounded
  exact absurd bounded (by decide)

end Samples

end TrustLink
