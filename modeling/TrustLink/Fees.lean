import Mathlib.Algebra.Ring.Int.Defs
import Mathlib.Data.Int.Order.Basic
import TrustLink.SubjectChecks
import TrustLink.Warrants
import TrustLink.Writes

/-!
Fees over whole runs. Only the direct issuance charges its issuer; the other ways to a
native attestation are free.
-/
namespace TrustLink
open Transaction Contract

section Payments
variable {Address : Type}

/-- The issuer who is charged by the operation. -/
def AttestationOp.payer? : AttestationOp Address → Option Address
  | .createAttestation issuer _ _ _ _ _ => some issuer
  | .createAttestationValidFrom issuer _ _ _ _ _ _ => some issuer
  | .createAttestationJurisdiction issuer _ _ _ _ _ _ => some issuer
  | _ => none

def Op.payer? : Op Address → Option Address
  | .attestation op => op.payer?
  | _ => none

variable [DecidableEq Address] [Host Address] {env : Env Address} {before after : World Address}

theorem AttestationOp.paid (op : AttestationOp Address)
    (accepted : Returns op.exec env before () after) {issuer : Address}
    (payer : op.payer? = some issuer) :
    ∃ paid, FeePaid before.storage.feeConfig env issuer paid ∧
      after.payments = before.payments ++ paid := by
  cases op with
  | createAttestation | createAttestationValidFrom | createAttestationJurisdiction =>
      obtain rfl := Option.some.inj payer
      obtain ⟨id, accepted⟩ := (returns_void ..).mp accepted
      obtain ⟨-, -, paid, fee, rfl⟩ :=
        (returns_createAttestationInternal _ _ _ _ _ _ _ _ _ _ rfl).mp accepted
      exact ⟨paid, fee, rfl⟩
  | _ => cases payer

theorem AttestationOp.unpaid (op : AttestationOp Address)
    (accepted : Returns op.exec env before () after) (payer : op.payer? = none) :
    after.payments = before.payments := by
  cases op with
  | createAttestation | createAttestationValidFrom | createAttestationJurisdiction => cases payer
  | importAttestation =>
      obtain ⟨id, accepted⟩ := (returns_void ..).mp accepted
      obtain ⟨-, -, rfl⟩ := (returns_importAttestation _ _ _ _ _ _ _ _ rfl).mp accepted
      rfl
  | bridgeAttestation =>
      obtain ⟨id, accepted⟩ := (returns_void ..).mp accepted
      obtain ⟨-, -, rfl⟩ := (returns_bridgeAttestation _ _ _ _ _ _ _ rfl).mp accepted
      rfl
  | createAttestationAsDelegate =>
      obtain ⟨id, accepted⟩ := (returns_void ..).mp accepted
      obtain ⟨-, -, rfl⟩ := (returns_createAttestationAsDelegate _ _ _ _ _ _ _ _ rfl).mp accepted
      rfl
  | createAttestationsBatch =>
      obtain ⟨ids, accepted⟩ := (returns_void ..).mp accepted
      obtain ⟨-, -, rfl⟩ := (returns_createAttestationsBatch _ _ _ _ _ _ rfl).mp accepted
      rfl
  | _ => exact (AttestationOp.unissued accepted trivial).1

theorem RequestOp.unpaid (op : RequestOp Address) (accepted : Returns op.exec env before () after) :
    after.payments = before.payments := by
  cases op.outcome accepted <;> rfl

theorem MultisigOp.unpaid (op : MultisigOp Address)
    (accepted : Returns op.exec env before () after) : after.payments = before.payments := by
  cases op.outcome accepted <;> rfl

/-- An accepted call pays the fee of its payer, or nothing. -/
theorem payments_of_accepted {call : Call Address} (accepted : Accepted before call after) :
    (∃ issuer paid, call.op.payer? = some issuer ∧
      FeePaid before.storage.feeConfig call.env issuer paid ∧
      after.payments = before.payments ++ paid) ∨
    (call.op.payer? = none ∧ after.payments = before.payments) := by
  obtain ⟨env, op⟩ := call
  cases op with
  | attestation op =>
      cases payer : op.payer? with
      | none => exact .inr ⟨payer, op.unpaid accepted payer⟩
      | some issuer =>
          obtain ⟨paid, fee, left⟩ := op.paid accepted payer
          exact .inl ⟨issuer, paid, payer, fee, left⟩
  | request op => exact .inr ⟨rfl, op.unpaid accepted⟩
  | multisig op => exact .inr ⟨rfl, op.unpaid accepted⟩
  | council op => exact .inr ⟨rfl, (op.governs_unpaid accepted).2⟩
  | admin op => exact .inr ⟨rfl, (op.governs_unpaid accepted).2⟩

end Payments

section Accounts
variable {Address : Type} [DecidableEq Address]

/-- The payments made between two worlds. -/
def paid (before after : World Address) : List (Payment Address) :=
  after.payments.drop before.payments.length

/-- The total amount that went from one address to another. -/
def transferred (payments : List (Payment Address)) (payer payee : Address) : Int :=
  ((payments.filter fun payment => payment.payer = payer ∧ payment.payee = payee).map
    (·.amount)).sum

/-- How many of the attestations are native ones of the issuer. -/
def nativeCount (attestations : List (Attestation Address)) (issuer : Address) : Nat :=
  attestations.countP fun attestation =>
    attestation.origin = .native ∧ attestation.issuer = issuer

/-- Every issuer has paid the fee once for each native attestation. -/
def FeesCollected (config : FeeConfig Address) (before after : World Address) : Prop :=
  ∀ issuer, transferred (paid before after) issuer config.feeCollector =
    config.attestationFee * nativeCount (created before after) issuer

/-- What an issuer owes for its native attestations. -/
def owed (config : FeeConfig Address) (issuer : Address) (world : World Address) : Int :=
  config.attestationFee * nativeCount world.announced issuer -
    transferred world.payments issuer config.feeCollector

theorem transferred_append (first second : List (Payment Address)) (payer payee : Address) :
    transferred (first ++ second) payer payee =
      transferred first payer payee + transferred second payer payee := by
  simp [transferred]

theorem nativeCount_append (first second : List (Attestation Address)) (issuer : Address) :
    nativeCount (first ++ second) issuer = nativeCount first issuer + nativeCount second issuer :=
  List.countP_append

variable {before after : World Address} {config : FeeConfig Address}

theorem owed_grown {fresh : List (Attestation Address)} {payments : List (Payment Address)}
    (announced : after.announced = before.announced ++ fresh)
    (made : after.payments = before.payments ++ payments) (issuer : Address) :
    owed config issuer after - owed config issuer before =
      config.attestationFee * nativeCount fresh issuer -
        transferred payments issuer config.feeCollector := by
  rw [owed, owed, announced, made, nativeCount_append, transferred_append]
  push_cast
  rw [Int.mul_add]
  omega

theorem owed_of_unpaid {fresh : List (Attestation Address)}
    (announced : after.announced = before.announced ++ fresh)
    (unpaid : after.payments = before.payments) (issuer : Address) :
    owed config issuer after - owed config issuer before =
      config.attestationFee * nativeCount fresh issuer := by
  have grown := @owed_grown _ _ before after config _ [] announced
    (unpaid.trans (List.append_nil _).symm) issuer
  simpa [transferred] using grown

/-- The fees of a stretch are collected when nobody owes more after it than before. -/
theorem feesCollected_iff_owed (announced : before.announced <+: after.announced)
    (made : before.payments <+: after.payments) :
    FeesCollected config before after ↔
      ∀ issuer, owed config issuer after = owed config issuer before := by
  rw [List.prefix_iff_eq_append] at announced made
  refine forall_congr' fun issuer => ?_
  have grown := @owed_grown _ _ before after config _ _ announced.symm made.symm issuer
  rw [paid, created]
  omega

theorem nativeCount_eq_zero_iff {attestations : List (Attestation Address)} :
    (∀ issuer, nativeCount attestations issuer = 0) ↔
      ∀ attestation ∈ attestations, attestation.origin ≠ .native := by
  constructor
  · intro none attestation member native
    have absent := List.countP_eq_zero.mp (none attestation.issuer) attestation member
    simp [native] at absent
  · intro foreign issuer
    refine List.countP_eq_zero.mpr fun attestation member => ?_
    simp [foreign attestation member]

end Accounts

section Steps
variable {Address : Type} [DecidableEq Address] [Host Address] {before after : World Address}
  {call : Call Address} {config : FeeConfig Address}

/-- The call passes every check of a way to a native attestation that takes no fee. -/
def IssuesFree (storage : Storage Address) (call : Call Address) : Prop :=
  match call.op with
  | .attestation (.createAttestationsBatch issuer subjects claimType expiration) =>
      subjects ≠ [] ∧ BatchChecks storage call.env issuer subjects claimType expiration
        (subjects.map (batchRecord issuer claimType expiration call.env.timestamp))
  | .attestation (.createAttestationAsDelegate delegate delegator subject claimType expiration
      metadata) =>
      DelegateChecks storage call.env delegate delegator subject claimType expiration metadata
        { nativeRecord delegator subject claimType call.env.timestamp with expiration, metadata }
  | .request (.fulfillRequest issuer requestId expiration) =>
      ∃ request, FulfillChecks storage call.env issuer requestId expiration request
        { nativeRecord issuer request.subject request.claimType call.env.timestamp with expiration }
  | .multisig (.proposeAttestation proposer subject claimType _ _) =>
      Active storage call.env proposer ∧ Bypasses storage proposer claimType ∧
        StoreFits storage (nativeRecord proposer subject claimType call.env.timestamp)
  | .multisig (.cosignAttestation issuer proposalId) =>
      ∃ proposal, Cosignable storage call.env issuer proposalId proposal ∧
        proposal.threshold ≤ proposal.signers.length + 1 ∧
        StoreFits storage (proposedRecord proposal)
  | _ => False

/-- A free call is accepted and announces a native attestation. -/
theorem issued_free (free : IssuesFree before.storage call) :
    ∃ after, Accepted before call after ∧ call.op.payer? = none ∧
      ∃ record, .issue record ∈ call.changes before.storage ∧ record.origin = .native := by
  obtain ⟨env, op⟩ := call
  cases op with
  | attestation op =>
      cases op with
      | createAttestationsBatch issuer subjects claimType expiration =>
          obtain ⟨some, checks⟩ := free
          obtain ⟨subject, listed⟩ := List.exists_mem_of_ne_nil subjects some
          refine ⟨_, (returns_void ..).mpr ⟨_, (returns_createAttestationsBatch _ _ _ _ _ _ rfl).mpr
            ⟨checks, rfl, rfl⟩⟩, rfl, _, List.mem_map_of_mem listed, rfl⟩
      | createAttestationAsDelegate delegate delegator subject claimType expiration metadata =>
          exact ⟨_, (returns_void ..).mpr ⟨_, (returns_createAttestationAsDelegate _ _ _ _ _ _ _ _
            rfl).mpr ⟨free, rfl, rfl⟩⟩, rfl, _, List.mem_singleton_self _, rfl⟩
      | _ => cases free
  | request op =>
      cases op with
      | fulfillRequest issuer requestId expiration =>
          obtain ⟨request, checks⟩ := free
          have member : .issue { nativeRecord issuer request.subject request.claimType env.timestamp
              with expiration } ∈ Call.changes before.storage
                ⟨env, .request (.fulfillRequest issuer requestId expiration)⟩ := by
            simp only [Call.changes, changes_fulfillRequest issuer expiration checks.found]
            exact List.mem_singleton_self _
          exact ⟨_, (returns_void ..).mpr ⟨_, (returns_fulfillRequest ..).mpr
            ⟨request, _, rfl, checks, rfl, rfl⟩⟩, rfl, _, member, rfl⟩
      | _ => cases free
  | multisig op =>
      cases op with
      | proposeAttestation proposer subject claimType requiredSigners threshold =>
          obtain ⟨active, bypasses, fits⟩ := free
          have issued := (returns_issueAsPremium _ _ _ _ _ rfl).mpr ⟨fits, rfl, rfl⟩
          have member : .issue (nativeRecord proposer subject claimType env.timestamp) ∈
              Call.changes before.storage ⟨env, .multisig (.proposeAttestation proposer subject
                claimType requiredSigners threshold)⟩ := by
            simp only [Call.changes, changes_bypass subject requiredSigners threshold bypasses]
            exact List.mem_singleton_self _
          exact ⟨_, (returns_void ..).mpr ⟨_, (returns_proposeAttestation ..).mpr
            ⟨active, .inl ⟨bypasses, issued⟩⟩⟩, rfl, _, member, rfl⟩
      | cosignAttestation issuer proposalId =>
          obtain ⟨proposal, cosignable, reached, fits⟩ := free
          have member : .issue (proposedRecord proposal) ∈
              Call.changes before.storage ⟨env, .multisig (.cosignAttestation issuer proposalId)⟩ := by
            simp only [Call.changes, changes_completion issuer cosignable.found reached]
            exact List.mem_singleton_self _
          exact ⟨_, (returns_cosignAttestation issuer proposalId ()).mpr
            ⟨proposal, cosignable, .inl ⟨reached, fits, rfl⟩⟩, rfl, _, member, rfl⟩
  | _ => cases free

/-- A native attestation that an accepted call announces without a payer is free. -/
theorem free_of_issued (accepted : Accepted before call after) (payer : call.op.payer? = none)
    {record : Attestation Address} (member : .issue record ∈ call.changes before.storage)
    (native : record.origin = .native) : IssuesFree before.storage call := by
  obtain ⟨env, op⟩ := call
  cases warrant_of_accepted accepted member with
  | createAttestation | createAttestationValidFrom | createAttestationJurisdiction => cases payer
  | importAttestation built | bridgeAttestation built =>
      subst built
      cases native
  | createAttestationsBatch built listed checks => exact ⟨List.ne_nil_of_mem listed, checks⟩
  | createAttestationAsDelegate built checks =>
      subst built
      exact checks
  | fulfillRequest built checks =>
      subst built
      exact ⟨_, checks⟩
  | proposeAttestation built active bypasses fits =>
      subst built
      exact ⟨active, bypasses, fits⟩
  | cosignAttestation built checks reached fits =>
      subst built
      exact ⟨_, checks, reached, fits⟩

/-- What a paying call announces is the one native attestation of its payer. -/
theorem native_of_payer {issuer : Address} (payer : call.op.payer? = some issuer) :
    ∃ record, (call.changes before.storage).filterMap Change.issued? = [record] ∧
      record.origin = .native ∧ record.issuer = issuer := by
  obtain ⟨env, op⟩ := call
  cases op with
  | attestation op =>
      cases op with
      | createAttestation | createAttestationValidFrom | createAttestationJurisdiction =>
          obtain rfl := Option.some.inj payer
          exact ⟨_, rfl, rfl, rfl⟩
      | _ => cases payer
  | _ => cases payer

/-- The fee of a paying call settles the one attestation it announces. -/
theorem owed_of_payer {payer : Address} {payments : List (Payment Address)}
    (announced : after.announced =
      before.announced ++ (call.changes before.storage).filterMap Change.issued?)
    (made : after.payments = before.payments ++ payments) (pays : call.op.payer? = some payer)
    (fixed : before.storage.feeConfig = some config) (positive : 0 < config.attestationFee)
    (fee : FeePaid before.storage.feeConfig call.env payer payments) (issuer : Address) :
    owed config issuer after = owed config issuer before := by
  obtain ⟨record, issued, native, own⟩ := @native_of_payer _ _ _ before call payer pays
  have grown := @owed_grown _ _ before after config _ _ announced made issuer
  obtain ⟨other, found, ⟨zero, -⟩ | ⟨-, token, -, -, rfl⟩⟩ := fee
  · obtain rfl := Option.some.inj (fixed.symm.trans found)
    omega
  · obtain rfl := Option.some.inj (fixed.symm.trans found)
    rw [issued] at grown
    by_cases same : payer = issuer
    · simp [nativeCount, transferred, native, own, same] at grown
      omega
    · simp [nativeCount, transferred, native, own, same] at grown
      omega

/-- Nobody owes less after an accepted call, and nobody owes more unless it was free. -/
theorem owed_of_accepted (keyed : Keyed before.storage.register)
    (fixed : before.storage.feeConfig = some config) (positive : 0 < config.attestationFee)
    (accepted : Accepted before call after) :
    (∀ issuer, owed config issuer before ≤ owed config issuer after) ∧
      ((∀ issuer, owed config issuer after = owed config issuer before) ↔
        ¬ IssuesFree before.storage call) := by
  have announced := (follows_of_accepted keyed accepted).announced
  rcases payments_of_accepted accepted with ⟨payer, payments, pays, fee, made⟩ | ⟨unpaid, made⟩
  · have balanced := owed_of_payer announced made pays fixed positive fee
    refine ⟨fun issuer => Int.le_of_eq (balanced issuer).symm, fun _ free => ?_,
      fun _ => balanced⟩
    obtain ⟨-, -, unpaid, -⟩ := issued_free free
    rw [unpaid] at pays
    cases pays
  · -- nothing is paid, so all that is announced adds to what is owed
    have grown := @owed_of_unpaid _ _ before after config _ announced made
    constructor
    · intro issuer
      have natural := Int.mul_nonneg (Int.le_of_lt positive)
        (Int.natCast_nonneg (nativeCount ((call.changes before.storage).filterMap Change.issued?)
          issuer))
      rw [← grown] at natural
      omega
    · have same : (∀ issuer, owed config issuer after = owed config issuer before) ↔
          ∀ issuer, nativeCount ((call.changes before.storage).filterMap Change.issued?) issuer =
            0 := by
        refine forall_congr' fun issuer => ?_
        rw [← Int.sub_eq_zero, grown, Int.mul_eq_zero]
        omega
      rw [same, nativeCount_eq_zero_iff]
      constructor
      · intro foreign issues
        obtain ⟨-, -, -, record, member, native⟩ := issued_free issues
        exact foreign record (mem_filterMap_issued.mpr member) native
      · intro charged record member native
        exact charged (free_of_issued accepted unpaid (mem_filterMap_issued.mp member) native)

theorem owed_step (keyed : Keyed before.storage.register)
    (fixed : before.storage.feeConfig = some config) (positive : 0 < config.attestationFee) :
    (∀ issuer, owed config issuer before ≤ owed config issuer (step before call)) ∧
      ((∀ issuer, owed config issuer (step before call) = owed config issuer before) ↔
        ¬ IssuesFree before.storage call) := by
  rcases step_outcome before call with accepted | ⟨same, rejected⟩
  · exact owed_of_accepted keyed fixed positive accepted
  · rw [same]
    refine ⟨fun _ => Int.le_refl _, fun _ free => ?_, fun _ _ => rfl⟩
    obtain ⟨after, accepted, -⟩ := issued_free free
    exact rejected after accepted

end Steps

section Runs
variable {Address : Type} [DecidableEq Address] [Host Address] {config : FeeConfig Address}

/-- The fee configuration is the same all along a run. -/
def FixedFee (config : FeeConfig Address) (start : World Address) (calls : List (Call Address)) :
    Prop :=
  ∀ early late, calls = early ++ late → (runFrom start early).storage.feeConfig = some config

theorem fixedFee_singleton {start : World Address} {call : Call Address}
    (before : start.storage.feeConfig = some config)
    (after : (step start call).storage.feeConfig = some config) : FixedFee config start [call] := by
  intro early late split
  cases early with
  | nil => exact before
  | cons first rest =>
      obtain ⟨rfl, empty⟩ := List.cons.inj split
      obtain ⟨rfl, -⟩ := List.append_eq_nil_iff.mp empty.symm
      exact after

theorem charged_along {deployment calls : List (Call Address)}
    (fixed : FixedFee config (run deployment) calls) :
    Trace.Each step (fun world _ => Keyed world.storage.register ∧
      world.storage.feeConfig = some config) (run deployment) calls := by
  rw [Trace.each_iff]
  intro early call late split
  refine ⟨?_, fixed early (call :: late) split⟩
  have keyed := keyed_run (deployment ++ early)
  rwa [run_append] at keyed

/-- The histories of announcements and of payments only grow. -/
theorem histories_grow {start : World Address} {calls : List (Call Address)}
    (charged : Trace.Each step (fun world _ => Keyed world.storage.register ∧
      world.storage.feeConfig = some config) start calls) :
    start.announced <+: (runFrom start calls).announced ∧
      start.payments <+: (runFrom start calls).payments := by
  refine Trace.related_of_each (fun before after : World Address =>
    before.announced <+: after.announced ∧ before.payments <+: after.payments)
    (fun _ => ⟨List.prefix_rfl, List.prefix_rfl⟩)
    (fun first second => ⟨first.1.trans second.1, first.2.trans second.2⟩)
    (fun world call allowed => ?_) charged
  rcases step_cases world call with accepted | same
  · refine ⟨⟨_, (follows_of_accepted allowed.1 accepted).announced.symm⟩, ?_⟩
    rcases payments_of_accepted accepted with ⟨issuer, payments, -, -, made⟩ | ⟨-, made⟩
    · exact ⟨payments, made.symm⟩
    · exact ⟨[], by rw [made, List.append_nil]⟩
  · rw [same]
    exact ⟨List.prefix_rfl, List.prefix_rfl⟩

/-- Under a fixed fee the fees of a run are collected exactly when none of its calls takes
a free way to a native attestation. -/
theorem fees_collected_iff (deployment calls : List (Call Address))
    (positive : 0 < config.attestationFee) (fixed : FixedFee config (run deployment) calls) :
    FeesCollected config (run deployment) (runFrom (run deployment) calls) ↔
      Trace.Each step (fun world call => ¬ IssuesFree world.storage call) (run deployment)
        calls := by
  have charged := charged_along fixed
  obtain ⟨announced, made⟩ := histories_grow charged
  rw [feesCollected_iff_owed announced made]
  rw [← funext_iff]
  have level := @Trace.constant_iff_each _ _ step _ _ _ (fun world issuer => owed config issuer world)
    (fun world call allowed => (owed_step allowed.1 allowed.2 positive).1) _ _ charged
  refine level.trans ⟨fun each => ?_, fun each => ?_⟩
  · refine (each.and charged).imp fun world call holds => ?_
    exact (owed_step holds.2.1 holds.2.2 positive).2.mp (congrFun holds.1)
  · refine (each.and charged).imp fun world call holds => ?_
    exact funext ((owed_step holds.2.1 holds.2.2 positive).2.mpr holds.1)

end Runs

section Batches
open Xdr

/-- The sample deployment with a fee of 10 for contract 5. -/
def chargingDeployment : List (Call ContractId) :=
  sampleDeployment ++ [signed 900 (contractId 9) (.admin (.setFee (contractId 9) 10 (contractId 5)
    (some (contractId 7))))]

def chargingConfig : FeeConfig ContractId := ⟨10, contractId 5, some (contractId 7)⟩

/-- Issuer 1 issues one attestation in a batch. -/
def freeBatch : List (Call ContractId) := [
  signed 1000 (contractId 1) (.attestation
    (.createAttestationsBatch (contractId 1) [contractId 2] (ascii "KYC") none))]

theorem fees_collected_sample :
    0 < chargingConfig.attestationFee ∧
      FixedFee chargingConfig (run chargingDeployment) [sampleIssuance] ∧
      (FeesCollected chargingConfig (run chargingDeployment)
          (runFrom (run chargingDeployment) [sampleIssuance]) ↔
        Trace.Each step (fun world call => ¬ IssuesFree world.storage call)
          (run chargingDeployment) [sampleIssuance]) := by
  have positive : 0 < chargingConfig.attestationFee := by decide
  have fixed : FixedFee chargingConfig (run chargingDeployment) [sampleIssuance] :=
    fixedFee_singleton (by decide +kernel) (by decide +kernel)
  exact ⟨positive, fixed, fees_collected_iff chargingDeployment [sampleIssuance] positive fixed⟩

/-- A native attestation of issuer 1 is stored, and nothing has been paid. -/
theorem batch_pays_nothing :
    FixedFee chargingConfig (run chargingDeployment) freeBatch ∧
      ((runFrom (run chargingDeployment) freeBatch).storage.attestation sampleId).map
        (fun record => (record.origin, record.issuer)) = some (.native, contractId 1) ∧
      (runFrom (run chargingDeployment) freeBatch).payments = [] ∧
      ¬ FeesCollected chargingConfig (run chargingDeployment)
        (runFrom (run chargingDeployment) freeBatch) := by
  have stored : ((runFrom (run chargingDeployment) freeBatch).storage.attestation sampleId).map
      (fun record => (record.origin, record.issuer)) = some (.native, contractId 1) := by
    decide +kernel
  have unpaid : (runFrom (run chargingDeployment) freeBatch).payments = [] := by decide +kernel
  have one : nativeCount (created (run chargingDeployment)
      (runFrom (run chargingDeployment) freeBatch)) (contractId 1) = 1 := by
    decide +kernel
  refine ⟨fixedFee_singleton (by decide +kernel) (by decide +kernel), stored, unpaid,
    fun collected => ?_⟩
  have balance := collected (contractId 1)
  rw [paid, unpaid, one] at balance
  exact absurd balance (by decide)

end Batches

end TrustLink
