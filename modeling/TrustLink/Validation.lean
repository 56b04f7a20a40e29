import TrustLink.Storage

/-!
The guards of validation.rs. A guard never writes, so each has one rule that
says what it lets pass.
-/
namespace TrustLink.Validation
open Transaction

section Guards
variable {Address : Type}

def requireAdmin [DecidableEq Address] (caller : Address) : Program Address Unit := do
  let council ← Storage.getAdminCouncil
  failWhen (caller ∉ council) .unauthorized

def requireIssuer (caller : Address) : Program Address Unit := do
  let registered ← Storage.isIssuer caller
  failWhen (registered = false) .unauthorized

def requireBridge (caller : Address) : Program Address Unit := do
  let registered ← Storage.isBridge caller
  failWhen (registered = false) .unauthorized

def requireNotPaused : Program Address Unit := do
  let paused ← Storage.isPaused
  failWhen (paused = true) .contractPaused

def requireRegisteredClaimType (claimType : Str) : Program Address Unit := do
  let config ← Storage.getContractConfig
  let info ← Storage.getClaimType claimType
  failWhen ((config.any fun config => config.requireRegisteredClaimType) ∧ info.isNone)
    .invalidClaimType

variable {env : Env Address} {before after : World Address}

@[simp] theorem returns_requireAdmin [DecidableEq Address] (caller : Address) (done : Unit) :
    Returns (requireAdmin caller) env before done after ↔
      caller ∈ before.storage.council ∧ after = before := by
  cases stored : before.storage.adminCouncil <;>
    simp [requireAdmin, stored, Storage.council, and_comm]

@[simp] theorem returns_requireIssuer (caller : Address) (done : Unit) :
    Returns (requireIssuer caller) env before done after ↔
      before.storage.issuer caller = true ∧ after = before := by
  simp [requireIssuer]

@[simp] theorem returns_requireBridge (caller : Address) (done : Unit) :
    Returns (requireBridge caller) env before done after ↔
      before.storage.bridge caller = true ∧ after = before := by
  simp [requireBridge]

@[simp] theorem returns_requireNotPaused (done : Unit) :
    Returns requireNotPaused env before done after ↔
      before.storage.paused = false ∧ after = before := by
  simp [requireNotPaused]

@[simp] theorem returns_requireRegisteredClaimType (claimType : Str) (done : Unit) :
    Returns (requireRegisteredClaimType claimType) env before done after ↔
      ((before.storage.contractConfig.any fun config => config.requireRegisteredClaimType) →
        before.storage.claimType claimType ≠ none) ∧ after = before := by
  simp [requireRegisteredClaimType]
  grind

end Guards

def isAsciiAlphabetic (byte : UInt8) : Bool :=
  (65 ≤ byte && byte ≤ 90) || (97 ≤ byte && byte ≤ 122)

def isAsciiDigit (byte : UInt8) : Bool := 48 ≤ byte && byte ≤ 57

def isUnderscore (byte : UInt8) : Bool := byte == 95

def validateClaimType (claimType : Str) : Except Error Unit :=
  if claimType.length = 0 ∨ 64 < claimType.length then .error .invalidClaimType
  else if claimType.any fun byte =>
      !isAsciiAlphabetic byte && !isAsciiDigit byte && !isUnderscore byte then
    .error .invalidClaimType
  else .ok ()

def validateMetadata (metadata : Option Str) : Except Error Unit :=
  if metadata.any fun value => 256 < value.length then .error .metadataTooLong else .ok ()

end TrustLink.Validation
