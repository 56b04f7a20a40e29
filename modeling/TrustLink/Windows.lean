import TrustLink.Warrants

/-!
Validity windows. A record with a first and a last time of validity should be valid in
between; each of the two is compared with the clock when it is set, and never with the other.
-/
namespace TrustLink
open Transaction Contract

section Windows
variable {Address : Type}

/-- Unless revoked, a record with both bounds is valid at some time, and its bounds are in
order. -/
def HasWindow (record : Attestation Address) : Prop :=
  record.revoked = false → ∀ start, record.validFrom = some start →
    ∀ finish, record.expiration = some finish →
      start < finish ∧ ∃ time, record.getStatus time = .valid

theorem hasWindow_iff (record : Attestation Address) :
    HasWindow record ↔ (record.revoked = false → ∀ start, record.validFrom = some start →
      ∀ finish, record.expiration = some finish → start < finish) := by
  refine ⟨fun window active start begun finish ends => (window active start begun finish ends).1,
    fun ordered active start begun finish ends => ⟨ordered active start begun finish ends, start, ?_⟩⟩
  -- the first second of the window
  rw [Attestation.getStatus_eq_valid]
  refine ⟨fun time given => ?_, active, fun time given => ?_⟩
  · exact Nat.le_of_eq (Option.some.inj (given.symm.trans begun))
  · obtain rfl := Option.some.inj (ends.symm.trans given)
    exact ordered active start begun finish ends

/-- The new expiration does not lie after the start of the record. -/
def Closes (expiration : Option Nat) (record : Attestation Address) : Prop :=
  ∃ start, record.validFrom = some start ∧ ∃ finish, expiration = some finish ∧ finish ≤ start

variable [DecidableEq Address] [Host Address]

/-- The call passes every check of its operation, and leaves a record that expires before
it starts. -/
def ClosesWindow (storage : Storage Address) (call : Call Address) : Prop :=
  match call.op with
  | .attestation (.createAttestationValidFrom issuer subject claimType expiration metadata tags
      validFrom) =>
      let record := { nativeRecord issuer subject claimType call.env.timestamp with
        expiration, metadata, tags, validFrom := some validFrom }
      CreateChecks storage call.env issuer subject claimType expiration metadata none tags
          (some validFrom) record ∧
        (∃ paid, FeePaid storage.feeConfig call.env issuer paid) ∧ Closes expiration record
  | .attestation (.renewAttestation issuer id expiration) =>
      ∃ record, Managed storage call.env issuer id record ∧
        (∀ time ∈ expiration, call.env.timestamp < time) ∧
        (∃ details, expiration.mapM u64ToString = some details) ∧ Closes expiration record
  | .attestation (.updateExpiration issuer id expiration) =>
      ∃ record, Managed storage call.env issuer id record ∧
        (∀ time ∈ expiration, call.env.timestamp < time) ∧ Closes expiration record
  | _ => False

variable {before after : World Address} {call : Call Address}

/-- Only one operation issues records with a first time of validity. -/
theorem hasWindow_issued (accepted : Accepted before call after)
    (passed : ¬ ClosesWindow before.storage call) {record : Attestation Address}
    (member : .issue record ∈ call.changes before.storage) : HasWindow record := by
  obtain ⟨env, op⟩ := call
  rw [hasWindow_iff]
  intro active start begun finish ends
  cases warrant_of_accepted accepted member with
  | createAttestationValidFrom built checks fee =>
      subst built
      exact Nat.lt_of_not_le fun early =>
        passed ⟨checks, fee, start, begun, finish, ends, early⟩
  | createAttestation built | createAttestationJurisdiction built | importAttestation built
  | bridgeAttestation built | createAttestationsBatch built | createAttestationAsDelegate built
  | fulfillRequest built | proposeAttestation built | cosignAttestation built =>
      subst built
      cases begun

theorem hasWindow_written (accepted : Accepted before call after)
    (passed : ¬ ClosesWindow before.storage call) {change : Change Address}
    (member : change ∈ call.changes before.storage) {record : Attestation Address}
    (base : change.base = some record) (window : HasWindow record) : HasWindow change.written := by
  obtain ⟨env, op⟩ := call
  rw [hasWindow_iff] at *
  intro active start begun finish ends
  cases warrant_of_accepted accepted member with
  | renewAttestation managed future logged =>
      exact Nat.lt_of_not_le fun early =>
        passed ⟨_, managed, future, logged, start, begun, finish, ends, early⟩
  | updateExpiration managed future =>
      exact Nat.lt_of_not_le fun early =>
        passed ⟨_, managed, future, start, begun, finish, ends, early⟩
  | transferAttestation | requestDeletion =>
      obtain rfl := Option.some.inj base
      exact window active start begun finish ends
  | revokeAttestation | revokeAttestationsBatch => cases active
  | _ => cases base

/-- A call that closes a window is accepted. -/
theorem closed_window (closes : ClosesWindow before.storage call) :
    ∃ record, (step before call).storage.attestation record.id = some record ∧
      record.revoked = false ∧ Closes record.expiration record := by
  obtain ⟨env, op⟩ := call
  cases op with
  | attestation op =>
      cases op with
      | createAttestationValidFrom issuer subject claimType expiration metadata tags validFrom =>
          obtain ⟨checks, ⟨paid, fee⟩, start, begun, late⟩ := closes
          have issued := (returns_createAttestationInternal issuer subject claimType expiration
            metadata none tags (some validFrom) _ _ rfl).mpr ⟨checks, rfl, paid, fee, rfl⟩
          have accepted : Accepted before ⟨env, .attestation (.createAttestationValidFrom issuer
            subject claimType expiration metadata tags validFrom)⟩ _ :=
              (returns_void ..).mpr ⟨_, issued⟩
          rw [step_of_accepted accepted]
          exact ⟨_, Function.update_self .., rfl, start, begun, late⟩
      | renewAttestation issuer id expiration =>
          obtain ⟨record, managed, future, ⟨details, logged⟩, start, begun, late⟩ := closes
          have accepted : Accepted before ⟨env, .attestation (.renewAttestation issuer id
            expiration)⟩ _ := (returns_renewAttestation issuer id expiration ()).mpr
              ⟨record, managed, future, details, logged, rfl⟩
          rw [step_of_accepted accepted]
          exact ⟨{ record with expiration }, Function.update_self .., managed.active, start, begun,
            late⟩
      | updateExpiration issuer id expiration =>
          obtain ⟨record, managed, future, start, begun, late⟩ := closes
          have accepted : Accepted before ⟨env, .attestation (.updateExpiration issuer id
            expiration)⟩ _ := (returns_updateExpiration issuer id expiration ()).mpr
              ⟨record, managed, future, rfl⟩
          rw [step_of_accepted accepted]
          exact ⟨{ record with expiration }, Function.update_self .., managed.active, start, begun,
            late⟩
      | _ => cases closes
  | _ => cases closes

end Windows

section Runs
variable {Address : Type} [DecidableEq Address] [Host Address]

/-- In every state of the run, every unrevoked record with both bounds has its window. -/
def WindowsOpen (calls : List (Call Address)) : Prop :=
  ∀ early late, calls = early ++ late → ∀ id record,
    (run early).storage.attestation id = some record → HasWindow record

/-- Windows stay open in exactly the runs in which no call that passes its checks sets an
expiration up to the start of its record. -/
theorem windows_open_iff (calls : List (Call Address)) :
    WindowsOpen calls ↔
      Trace.Each step (fun world call => ¬ ClosesWindow world.storage call) (World.empty Address)
        calls := by
  constructor
  · intro opens
    rw [Trace.each_iff]
    intro early call late split closes
    obtain ⟨record, stored, active, start, begun, finish, ends, late_start⟩ := closed_window closes
    rw [← run_concat] at stored
    have window := opens (early ++ [call]) late (by rw [split, List.append_assoc]; rfl) _ _ stored
    exact absurd late_start (Nat.not_le_of_lt (window active start begun finish ends).1)
  · intro guarded early late split
    refine @invariant_of_keyed_calls _ _ _ _ (fun world => world.storage.register.All HasWindow)
      all_empty (fun before call after keyed window passed accepted => ?_) _ _ _ split guarded
    exact all_of_accepted keyed window accepted
      (fun _ member => hasWindow_issued accepted passed member)
      (fun _ member _ base => hasWindow_written accepted passed member base)

end Runs

section Closing
open Xdr

/-- Issuer 1 issues KYC valid from 3000, expiring at 2000. -/
def closedIssuance : List (Call ContractId) :=
  sampleDeployment ++ [signed 1000 (contractId 1) (.attestation
    (.createAttestationValidFrom (contractId 1) (contractId 2) (ascii "KYC") (some 2000) none none
      3000))]

/-- The record is pending until 3000 and has expired by then. -/
theorem record_never_valid :
    ((run closedIssuance).storage.attestation sampleId).map
        (fun record => (record.revoked, record.validFrom, record.expiration)) =
      some (false, some 3000, some 2000) ∧
      (∀ record, (run closedIssuance).storage.attestation sampleId = some record →
        ∀ time, record.getStatus time ≠ .valid) ∧
      ¬ WindowsOpen closedIssuance := by
  have stored : ((run closedIssuance).storage.attestation sampleId).map
      (fun record => (record.revoked, record.validFrom, record.expiration)) =
        some (false, some 3000, some 2000) := by
    decide +kernel
  obtain ⟨record, found, fields⟩ := Option.map_eq_some_iff.mp stored
  rw [Prod.mk.injEq, Prod.mk.injEq] at fields
  obtain ⟨active, begun, ends⟩ := fields
  refine ⟨stored, fun other same time valid => ?_, fun opens => ?_⟩
  · obtain rfl := Option.some.inj (found.symm.trans same)
    obtain ⟨started, -, unexpired⟩ := (Attestation.getStatus_eq_valid record time).mp valid
    exact absurd (Nat.lt_of_le_of_lt (started 3000 begun) (unexpired 2000 ends)) (by decide)
  · have window := opens closedIssuance [] (List.append_nil _).symm sampleId record found
    exact absurd (window active 3000 begun 2000 ends).1 (by decide)

end Closing

end TrustLink
