import TrustLink.PublicCalls

/-!
The two switches for registered claim types. `create_attestation` and its variants look at
the one that `set_registered_claim_type` sets.
-/
namespace TrustLink
open Transaction

section Enforcement
variable {Address : Type} [DecidableEq Address] [Host Address]

/-- The setter of `ContractConfig`, `set_registered_claim_type`. -/
def SetsConfig (required : Bool) (op : Entry.Op Address) : Prop :=
  ∃ admin, op = .delegated (.admin (.setRequireRegisteredClaimType admin required))

/-- Either of the public setters. -/
def SetsEither (required : Bool) (op : Entry.Op Address) : Prop :=
  SetsConfig required op ∨ ∃ admin, op = .setRequireRegisteredClaimType admin required

/-- `create_attestation` and its two variants. -/
inductive CreatesDirectly : Entry.Op Address → Prop
  | createAttestation {issuer subject : Address} {claimType : Str} {expiration : Option Nat}
      {metadata : Option Str} {tags : Option (List Str)} :
      CreatesDirectly (.delegated (.attestation
        (.createAttestation issuer subject claimType expiration metadata tags)))
  | createAttestationValidFrom {issuer subject : Address} {claimType : Str}
      {expiration : Option Nat}
      {metadata : Option Str} {tags : Option (List Str)} {validFrom : Nat} :
      CreatesDirectly (.delegated (.attestation (.createAttestationValidFrom issuer subject
        claimType expiration metadata tags validFrom)))
  | createAttestationJurisdiction {issuer subject : Address} {claimType : Str}
      {expiration : Option Nat}
      {metadata jurisdiction : Option Str} {tags : Option (List Str)} :
      CreatesDirectly (.delegated (.attestation (.createAttestationJurisdiction issuer subject
        claimType expiration metadata jurisdiction tags)))

/-- Any of the ways to a native attestation outside multi-sig. -/
inductive CreatesNative : Entry.Op Address → Prop
  | direct {op : Entry.Op Address} (creates : CreatesDirectly op) : CreatesNative op
  | createAttestationsBatch {issuer : Address} {subjects : List Address} {claimType : Str}
      {expiration : Option Nat} :
      CreatesNative (.createAttestationsBatch issuer subjects claimType expiration)
  | createAttestationAsDelegate {delegate delegator subject : Address} {claimType : Str}
      {expiration : Option Nat} {metadata : Option Str} :
      CreatesNative (.delegated (.attestation (.createAttestationAsDelegate delegate delegator
        subject claimType expiration metadata)))
  | fulfillRequest {issuer : Address} {requestId : Str} {expiration : Option Nat} :
      CreatesNative (.delegated (.request (.fulfillRequest issuer requestId expiration)))

/-- The call is one of the setter's, and is accepted. -/
def Switches (setter : Bool → Entry.Op Address → Prop) (required : Bool) (world : World Address)
    (call : Entry.Call Address) : Prop :=
  setter required call.op ∧ Entry.Accepted world call (Entry.step world call)

/-- From the call that turns the requirement on until one turns it off, what the operations
store as native is of a registered claim type. -/
def Enforced (setter : Bool → Entry.Op Address → Prop) (creates : Entry.Op Address → Prop)
    (calls : List (Entry.Call Address)) : Prop :=
  ∀ early on middle call late, calls = early ++ on :: middle ++ call :: late →
    Switches setter true (Entry.run early) on →
    Trace.Each Entry.step (fun world next => ¬ Switches setter false world next)
      (Entry.run (early ++ [on])) middle →
    creates call.op → ∀ id record,
      (Entry.run (early ++ on :: middle)).storage.attestation id = none →
      (Entry.step (Entry.run (early ++ on :: middle)) call).storage.attestation id = some record →
      record.origin = .native →
      (Entry.step (Entry.run (early ++ on :: middle)) call).storage.claimType record.claimType ≠
        none

/-- The switch in `ContractConfig` is on. -/
def Required (storage : Storage Address) : Prop :=
  storage.contractConfig.any (·.requireRegisteredClaimType) = true

variable {before after : World Address} {call : Entry.Call Address}

/-- The switch stays on as long as the setter does not turn it off. -/
theorem required_kept (required : Required before.storage)
    (stays : ¬ SetsConfig false call.op) (accepted : Entry.Accepted before call after) :
    Required after.storage := by
  have settings := congrArg Settings.contractConfig (Entry.settings_of_accepted accepted)
  have config : after.storage.contractConfig = (call.settings before.storage).contractConfig :=
    settings
  rw [Required, config]
  obtain ⟨env, op⟩ := call
  cases op with
  | delegated op =>
      cases op with
      | council op => cases op <;> exact required
      | admin op =>
          cases op with
          | setRequireRegisteredClaimType admin demanded =>
              cases demanded with
              | false => exact absurd ⟨admin, rfl⟩ stays
              | true => rfl
          | _ => exact required
      | _ => exact required
  | _ => exact required

theorem required_switched (switches : Switches SetsConfig true before call) :
    Required (Entry.step before call).storage := by
  obtain ⟨⟨admin, sets⟩, accepted⟩ := switches
  obtain ⟨env, _⟩ := call
  subst sets
  have settings := congrArg Settings.contractConfig (Entry.settings_of_accepted accepted)
  have config : (Entry.step before _).storage.contractConfig = _ := settings
  rw [Required, config]
  rfl

/-- A direct issuance stores one record, of a claim type that is registered if it must be. -/
theorem type_of_created (creates : CreatesDirectly call.op)
    (accepted : Entry.Accepted before call after) :
    ∃ record, after.storage.attestation =
        Function.update before.storage.attestation record.id (some record) ∧
      after.storage.claimType = before.storage.claimType ∧
      (Required before.storage → before.storage.claimType record.claimType ≠ none) := by
  obtain ⟨env, op⟩ := call
  cases creates with
  | createAttestation | createAttestationValidFrom | createAttestationJurisdiction =>
      obtain ⟨id, accepted⟩ := (returns_void ..).mp accepted
      obtain ⟨checks, -, paid, -, rfl⟩ :=
        (Contract.returns_createAttestationInternal _ _ _ _ _ _ _ _ _ _ rfl).mp accepted
      exact ⟨_, rfl, rfl, checks.known⟩

/-- `set_registered_claim_type` is enforced on `create_attestation` and its variants. -/
theorem registered_types_enforced (calls : List (Entry.Call Address)) :
    Enforced SetsConfig CreatesDirectly calls := by
  intro early on middle call late split switches stays creates id record free found native
  have required : Required (Entry.run (early ++ on :: middle)).storage := by
    rw [List.append_cons, Entry.run, Trace.run_append]
    refine @Trace.invariant_of_each _ _ Entry.step _ (fun world => Required world.storage)
      (fun world next holds passed => ?_) _ _ ?_ stays
    · rcases Entry.step_cases world next with accepted | same
      · exact required_kept holds (fun sets => passed ⟨sets, accepted⟩) accepted
      · rw [same]
        exact holds
    · rw [Trace.run_concat]
      exact required_switched switches
  rcases Entry.step_cases (Entry.run (early ++ on :: middle)) call with accepted | same
  · obtain ⟨stored, attestations, types, registered⟩ := type_of_created creates accepted
    rw [attestations] at found
    by_cases here : id = stored.id
    · subst here
      rw [Function.update_self] at found
      obtain rfl := Option.some.inj found
      rw [types]
      exact registered required
    · rw [Function.update_of_ne here, free] at found
      cases found
  · rw [same, free] at found
    cases found

end Enforcement

section Templates
open Xdr

def templateSwitch : Entry.Call ContractId :=
  ⟨⟨950, [contractId 9], fun _ => true, fun _ => true⟩,
    .setRequireRegisteredClaimType (contractId 9) true⟩

/-- Admin 9 turns on the switch for templates; issuer 1 issues KYC, which is not registered. -/
def templateSwitchRun : List (Entry.Call ContractId) :=
  sampleDeployment.map (fun call => ⟨call.env, .delegated call.op⟩) ++
    [templateSwitch, ⟨sampleIssuance.env, .delegated sampleIssuance.op⟩]

theorem template_switch_not_enforced :
    (Entry.run templateSwitchRun).storage.requireRegisteredClaimType = true ∧
      (Entry.run templateSwitchRun).storage.claimType (ascii "KYC") = none ∧
      ((Entry.run templateSwitchRun).storage.attestation sampleId).map
        (fun record => (record.origin, record.claimType)) = some (.native, ascii "KYC") ∧
      ¬ Enforced SetsEither CreatesNative templateSwitchRun := by
  have on : (Entry.run templateSwitchRun).storage.requireRegisteredClaimType = true := by
    decide +kernel
  have unregistered : (Entry.run templateSwitchRun).storage.claimType (ascii "KYC") = none := by
    decide +kernel
  have stored : ((Entry.run templateSwitchRun).storage.attestation sampleId).map
      (fun record => (record.origin, record.claimType)) = some (.native, ascii "KYC") := by
    decide +kernel
  refine ⟨on, unregistered, stored, fun enforced => ?_⟩
  obtain ⟨record, found, fields⟩ := Option.map_eq_some_iff.mp stored
  obtain ⟨native, claimType⟩ := Prod.mk.inj fields
  have switched : Entry.Accepted (Entry.run (templateSwitchRun.take 3)) templateSwitch _ :=
    (returns_entrySwitch (contractId 9) true ()).mpr ⟨by decide +kernel, rfl⟩
  rw [← Entry.step_of_accepted switched] at switched
  have registered := enforced (templateSwitchRun.take 3) _ [] _ [] rfl
    ⟨.inr ⟨contractId 9, rfl⟩, switched⟩ trivial (.direct .createAttestation) sampleId record
    (by decide +kernel) found native
  rw [claimType] at registered
  exact registered unregistered

end Templates

end TrustLink
