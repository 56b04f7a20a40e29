import Mathlib.Data.List.Induction
import TrustLink.Effects

/-!
The two flat indexes against the records. Each change of the register keeps both
exact but one: a transfer lists the record under its new issuer, and does not ask
whether it has been revoked.
-/
namespace TrustLink
open Transaction Contract SecondaryIndex

section Changes
variable {Address : Type}

/-- Both indexes list what they should, each id once and nothing else. -/
structure Consistent (register : Register Address) : Prop where
  bySubject : Exact register.record Attestation.subject
    (fun record => record.revoked = false ∧ record.deleted = false) register.bySubject
  byIssuer : Exact register.record Attestation.issuer (fun record => record.revoked = false)
    register.byIssuer

theorem consistent_empty : Consistent (Register.empty Address) := ⟨exact_empty, exact_empty⟩

/-- A transferred record has not been revoked. -/
def TransfersLive (change : Change Address) : Prop :=
  ∀ attestation newIssuer, change = .transfer attestation newIssuer → attestation.revoked = false

variable [DecidableEq Address] [Host Address] {register : Register Address}
  {change : Change Address}

theorem Consistent.apply (consistent : Consistent register) (enabled : Enabled register change)
    (orderly : Orderly register change) (live : TransfersLive change) :
    Consistent (register.apply change) := by
  cases change with
  | issue attestation =>
      obtain ⟨⟨unrevoked, present⟩, -⟩ := enabled
      exact ⟨consistent.bySubject.add orderly ⟨unrevoked, present⟩,
        consistent.byIssuer.add orderly unrevoked⟩
  | amend attestation expiration =>
      exact ⟨consistent.bySubject.replace orderly rfl Iff.rfl,
        consistent.byIssuer.replace orderly rfl Iff.rfl⟩
  | revoke attestation reason =>
      exact ⟨consistent.bySubject.drop orderly nofun, consistent.byIssuer.drop orderly nofun⟩
  | revokeInBatch attestation reason =>
      exact ⟨consistent.bySubject.drop orderly nofun, consistent.byIssuer.drop orderly nofun⟩
  | transfer attestation newIssuer =>
      have unrevoked := live attestation newIssuer rfl
      exact ⟨consistent.bySubject.replace orderly rfl Iff.rfl,
        consistent.byIssuer.move orderly unrevoked⟩
  | erase attestation =>
      exact ⟨consistent.bySubject.drop orderly nofun,
        consistent.byIssuer.replace orderly rfl Iff.rfl⟩

end Changes

section Condition
variable {Address : Type}

/-- The call passes every check and gives a revoked record to another issuer. -/
def TransfersRevoked (storage : Storage Address) (call : Call Address) : Prop :=
  match call.op with
  | .attestation (.transferAttestation admin id newIssuer) =>
      ∃ attestation, Transferable storage call.env admin id newIssuer attestation ∧
        attestation.revoked = true
  | _ => False

variable [DecidableEq Address] [Host Address] {before after : World Address} {call : Call Address}

theorem transfers_live (passed : ¬ TransfersRevoked before.storage call)
    (accepted : Accepted before call after) :
    ∀ change ∈ call.changes before.storage, TransfersLive change := by
  rintro _ listed attestation newIssuer rfl
  obtain ⟨admin, id, named, checks⟩ := transferable_of_change accepted listed
  obtain ⟨env, op⟩ := call
  subst named
  by_contra revoked
  exact passed ⟨attestation, checks, eq_true_of_ne_false revoked⟩

theorem consistent_of_accepted (keyed : Keyed before.storage.register)
    (consistent : Consistent before.storage.register) (direct : ∀ op, call.op ≠ .multisig op)
    (passed : ¬ TransfersRevoked before.storage call) (accepted : Accepted before call after) :
    Consistent after.storage.register := by
  have checked := checked_of_accepted keyed direct accepted
  have live := transfers_live passed accepted
  have each : Trace.Each Register.apply (fun register change => Enabled register change ∧
      Orderly register change ∧ TransfersLive change) before.storage.register
        (call.changes before.storage) := by
    rw [Trace.each_iff]
    intro early change late split
    exact ⟨Trace.each_iff.mp checked.enabled early change late split,
      Trace.each_iff.mp checked.orderly early change late split, live change (by simp [split])⟩
  have keeps : ∀ (register : Register Address) (change : Change Address), Consistent register →
      Enabled register change ∧ Orderly register change ∧ TransfersLive change →
        Consistent (register.apply change) :=
    fun _ _ holds change => holds.apply change.1 change.2.1 change.2.2
  rw [checked.register]
  exact Trace.invariant_of_each keeps consistent each

/-- A revoked record that changes hands is listed by its new issuer. -/
theorem inconsistent_of_transfersRevoked (keyed : Keyed before.storage.register)
    (transfers : TransfersRevoked before.storage call) :
    ¬ Consistent (step before call).storage.register := by
  obtain ⟨env, op⟩ := call
  cases op with
  | attestation op =>
      cases op with
      | transferAttestation admin id newIssuer =>
          obtain ⟨attestation, ⟨auth, member, registered, found, moved, ttl⟩, revoked⟩ := transfers
          have accepted : Accepted before
              ⟨env, .attestation (.transferAttestation admin id newIssuer)⟩ _ :=
            (returns_transferAttestation admin id newIssuer ()).mpr
              ⟨attestation, ⟨auth, member, registered, found⟩, .inr ⟨moved, ttl, rfl⟩⟩
          rw [step_of_accepted accepted]
          intro consistent
          obtain rfl := (keyed id attestation found).1
          obtain ⟨record, stored, -, live⟩ :=
            consistent.byIssuer.sound newIssuer attestation.id (by simp [Storage.register])
          simp only [Storage.register, Function.update_self, Option.some.injEq] at stored
          subst stored
          exact Bool.noConfusion (revoked.symm.trans live)
      | _ => cases transfers
  | _ => cases transfers

end Condition

section Runs
variable {Address : Type} [DecidableEq Address] [Host Address]

/-- In every state of the run both indexes are consistent with the records. -/
def IndexesConsistent (calls : List (Call Address)) : Prop :=
  ∀ early late, calls = early ++ late → Consistent (run early).storage.register

/-- Without multi-sig operations the indexes stay consistent in exactly the runs
in which no revoked record changes hands. -/
theorem indexes_consistent_iff (calls : List (Call Address))
    (direct : ∀ call ∈ calls, ∀ op, call.op ≠ .multisig op) :
    IndexesConsistent calls ↔
      Trace.Each step (fun world call => ¬ TransfersRevoked world.storage call)
        (World.empty Address) calls := by
  rw [Trace.each_iff]
  constructor
  · intro consistent early call late split transfers
    refine inconsistent_of_transfersRevoked (keyed_run early) transfers ?_
    have next := consistent (early ++ [call]) late (by simpa using split)
    rw [run_concat] at next
    exact next
  · intro guarded early late split
    induction early using List.reverseRecOn generalizing late with
    | nil => exact consistent_empty
    | append_singleton early call ih =>
        have rest : calls = early ++ call :: late := by simpa using split
        have consistent := ih (call :: late) rest
        rw [run_concat]
        rcases step_cases (run early) call with accepted | same
        · exact consistent_of_accepted (keyed_run early) consistent (direct call (by simp [rest]))
            (guarded early call late rest) accepted
        · rw [same]
          exact consistent

end Runs

section Transfers
open Xdr

theorem indexes_consistent_sample :
    IndexesConsistent (sampleDeployment ++ [sampleIssuance, sampleTransfer]) := by
  have unrevoked : ((run (sampleDeployment ++ [sampleIssuance])).storage.attestation sampleId).map
      (fun record => record.revoked) = some false := by decide +kernel
  refine (indexes_consistent_iff _ (by simp [sampleDeployment, sampleIssuance, sampleTransfer,
    signed])).mpr ⟨id, id, id, id, ?_, trivial⟩
  rintro ⟨record, transferable, revoked⟩
  obtain ⟨other, present, live⟩ := Option.map_eq_some_iff.mp unrevoked
  obtain rfl := Option.some.inj (transferable.found.symm.trans present)
  exact Bool.noConfusion (revoked.symm.trans live)

/-- The sample record is revoked before it is transferred. -/
def revokedTransferRun : List (Call ContractId) :=
  sampleDeployment ++ [sampleIssuance,
    signed 1001 (contractId 1) (.attestation (.revokeAttestation (contractId 1) sampleId none)),
    sampleTransfer]

theorem transfer_lists_revoked_record :
    ((run revokedTransferRun).storage.attestation sampleId).map
        (fun record => (record.issuer, record.revoked)) = some (contractId 3, true) ∧
      (run revokedTransferRun).storage.issuerAttestations (contractId 3) = [sampleId] ∧
      ¬ IndexesConsistent revokedTransferRun := by
  have stored : ((run revokedTransferRun).storage.attestation sampleId).map
      (fun record => (record.issuer, record.revoked)) = some (contractId 3, true) := by
    decide +kernel
  have listed : (run revokedTransferRun).storage.issuerAttestations (contractId 3) =
      [sampleId] := by decide +kernel
  refine ⟨stored, listed, fun consistent => ?_⟩
  obtain ⟨record, found, fields⟩ := Option.map_eq_some_iff.mp stored
  obtain ⟨other, present, -, live⟩ :=
    (consistent revokedTransferRun [] (List.append_nil _).symm).byIssuer.sound (contractId 3)
      sampleId (by rw [show (run revokedTransferRun).storage.register.byIssuer (contractId 3) =
        [sampleId] from listed]; simp)
  obtain rfl := Option.some.inj (Eq.trans (Eq.symm found) present)
  exact Bool.noConfusion ((Prod.mk.inj fields).2.symm.trans live)

end Transfers

end TrustLink
