import TrustLink.EntryPoints
import TrustLink.Settings

/-!
The calls that lib.rs takes: most of them are passed on to the modules, some have bodies of
their own.
-/
namespace TrustLink
open Transaction

namespace Entry

inductive Op (Address : Type) where
  | delegated (op : TrustLink.Op Address)
  | createAttestationsBatch (issuer : Address) (subjects : List Address) (claimType : Str)
      (expiration : Option Nat)
  | bridgeAttestation (bridge subject : Address) (claimType sourceChain sourceTx : Str)
  | revokeAttestation (issuer : Address) (attestationId : Str) (reason : Option Str)
  | revokeAttestationsBatch (issuer : Address) (attestationIds : List Str) (reason : Option Str)
  | setRequireRegisteredClaimType (admin : Address) (required : Bool)

structure Call (Address : Type) where
  env : Env Address
  op : Op Address

variable {Address : Type} [DecidableEq Address] [Host Address]

def Op.exec : Op Address → Program Address Unit
  | .delegated op => op.exec
  | .createAttestationsBatch issuer subjects claimType expiration =>
      void (Entry.createAttestationsBatch issuer subjects claimType expiration)
  | .bridgeAttestation bridge subject claimType sourceChain sourceTx =>
      void (Entry.bridgeAttestation bridge subject claimType sourceChain sourceTx)
  | .revokeAttestation issuer attestationId reason =>
      Entry.revokeAttestation issuer attestationId reason
  | .revokeAttestationsBatch issuer attestationIds reason =>
      void (Entry.revokeAttestationsBatch issuer attestationIds reason)
  | .setRequireRegisteredClaimType admin required =>
      Entry.setRequireRegisteredClaimType admin required

def Accepted (before : World Address) (call : Call Address) (after : World Address) : Prop :=
  Returns call.op.exec call.env before () after

/-- One transaction; a failing one leaves no writes. -/
def step (world : World Address) (call : Call Address) : World Address :=
  match call.op.exec call.env world with
  | .ok (_, after) => after
  | .error _ => world

theorem step_of_accepted {before after : World Address} {call : Call Address}
    (accepted : Accepted before call after) : step before call = after := by
  rw [step, show call.op.exec call.env before = .ok ((), after) from accepted]

theorem step_cases (world : World Address) (call : Call Address) :
    Accepted world call (step world call) ∨ step world call = world := by
  unfold step
  cases outcome : call.op.exec call.env world with
  | error fault => exact .inr rfl
  | ok pair => exact .inl outcome

abbrev run (calls : List (Call Address)) : World Address :=
  Trace.run step (World.empty Address) calls

/-- The settings that an accepted call leaves. -/
def Call.settings (storage : Storage Address) (call : Call Address) : Settings Address :=
  match call.op with
  | .delegated op => TrustLink.Call.settings storage ⟨call.env, op⟩
  | _ => storage.settings

variable {before after : World Address}

omit [Host Address] in
theorem settings_revokeTurn (issuer : Address) (reason : Option Str) (timestamp : Nat)
    (storage : Storage Address) (id : Str) :
    (revokeTurn issuer reason timestamp storage id).settings = storage.settings := by
  cases found : storage.attestation id with
  | none => rw [revokeTurn, found]
  | some attestation =>
      rw [revokeTurn_of_found found]
      rfl

theorem settings_of_accepted {call : Call Address} (accepted : Accepted before call after) :
    after.storage.settings = call.settings before.storage := by
  obtain ⟨env, op⟩ := call
  cases op with
  | delegated op => exact TrustLink.settings_of_accepted accepted
  | createAttestationsBatch issuer subjects claimType expiration =>
      obtain ⟨ids, accepted⟩ := (returns_void ..).mp accepted
      obtain ⟨-, -, rfl⟩ := (returns_entryBatch _ _ _ _ _ _ rfl).mp accepted
      exact Trace.run_keeps withEntryListed Storage.settings (fun _ _ => rfl) _ _
  | bridgeAttestation bridge subject claimType sourceChain sourceTx =>
      obtain ⟨id, accepted⟩ := (returns_void ..).mp accepted
      obtain ⟨-, -, rfl⟩ := (returns_entryBridge _ _ _ _ _ _ _ rfl).mp accepted
      rfl
  | revokeAttestation issuer id reason =>
      obtain ⟨attestation, -, -, rfl⟩ := (returns_entryRevoke ..).mp accepted
      rfl
  | revokeAttestationsBatch issuer ids reason =>
      obtain ⟨count, accepted⟩ := (returns_void ..).mp accepted
      obtain ⟨-, -, rfl⟩ := (returns_entryRevokeBatch ..).mp accepted
      exact Trace.run_keeps (revokeTurn issuer reason env.timestamp) Storage.settings
        (fun storage id => settings_revokeTurn issuer reason env.timestamp storage id) _ _
  | setRequireRegisteredClaimType admin required =>
      obtain ⟨-, rfl⟩ := (returns_entrySwitch ..).mp accepted
      rfl

end Entry

end TrustLink
