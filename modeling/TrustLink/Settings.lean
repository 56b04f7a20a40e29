import TrustLink.Writes

/-!
The settings: the fee, the registry of claim types with its switch, and the bridges. The
workflows read them; a few operations of admin.rs write them.
-/
namespace TrustLink
open Transaction Contract

section Settings
variable {Address : Type}

structure Settings (Address : Type) where
  feeConfig : Option (FeeConfig Address)
  contractConfig : Option (ContractConfig Address)
  claimType : Str → Option ClaimTypeInfo
  bridge : Address → Bool

def Storage.settings (storage : Storage Address) : Settings Address where
  feeConfig := storage.feeConfig
  contractConfig := storage.contractConfig
  claimType := storage.claimType
  bridge := storage.bridge

variable [DecidableEq Address] {env : Env Address} {before after : World Address}

/-- The settings that an accepted council operation leaves. -/
def CouncilOp.settings (storage : Storage Address) : CouncilOp Address → Settings Address
  | .initializeContract admin _ => { storage.settings with feeConfig := some ⟨0, admin, none⟩ }
  | _ => storage.settings

theorem CouncilOp.settings_of_returns (op : CouncilOp Address)
    (accepted : Returns op.exec env before () after) :
    after.storage.settings = op.settings before.storage := by
  obtain ⟨storage, written, left⟩ := op.leaves accepted
  rw [left.storage]
  cases written <;> rfl

/-- The settings that an accepted administrative operation leaves. -/
def AdminOp.settings (storage : Storage Address) : AdminOp Address → Settings Address
  | .registerBridge _ bridgeContract =>
      { storage.settings with bridge := Function.update storage.bridge bridgeContract true }
  | .setFee _ fee collector feeToken =>
      { storage.settings with feeConfig := some ⟨fee, collector, feeToken⟩ }
  | .setRequireRegisteredClaimType admin required =>
      { storage.settings with
        contractConfig := some
          { storage.contractConfig.getD ⟨storage.ttlConfig.getD ⟨30⟩, storage.limits,
              storage.feeConfig.getD ⟨0, admin, none⟩, false⟩ with
            requireRegisteredClaimType := required } }
  | .registerClaimType _ claimType description =>
      { storage.settings with
        claimType := Function.update storage.claimType claimType (some ⟨claimType, description⟩) }
  | _ => storage.settings

theorem AdminOp.settings_of_returns (op : AdminOp Address)
    (accepted : Returns op.exec env before () after) :
    after.storage.settings = op.settings before.storage := by
  obtain ⟨storage, written, left⟩ := op.leaves accepted
  rw [left.storage]
  cases written <;> rfl

variable [Host Address]

/-- The settings that an accepted call leaves. -/
def Call.settings (storage : Storage Address) (call : Call Address) : Settings Address :=
  match call.op with
  | .council op => op.settings storage
  | .admin op => op.settings storage
  | _ => storage.settings

theorem settings_of_accepted {call : Call Address} (accepted : Accepted before call after) :
    after.storage.settings = call.settings before.storage := by
  obtain ⟨env, op⟩ := call
  cases op with
  | attestation op => exact op.kept accepted Storage.settings (fun _ _ => rfl) fun _ _ _ => rfl
  | request op => exact (op.works accepted).kept Storage.settings fun _ _ => rfl
  | multisig op => exact (op.works accepted).kept Storage.settings fun _ _ => rfl
  | council op => exact op.settings_of_returns accepted
  | admin op => exact op.settings_of_returns accepted

end Settings

end TrustLink
