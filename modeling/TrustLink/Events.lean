import TrustLink.Types

/-!
The calls of events.rs, one constructor for each `Events::` function with the
arguments it is given. `creation?` picks out the three that announce a new
attestation record.
-/
namespace TrustLink

inductive Event (Address : Type) where
  | adminInitialized (admin : Address) (timestamp : Nat)
  | attestationCreated (attestation : Attestation Address)
  | attestationImported (attestation : Attestation Address)
  | attestationBridged (attestation : Attestation Address)
  | attestationRevoked (attestationId : Str) (issuer : Address) (reason : Option Str)
  | attestationRevokedWithReason (attestationId : Str) (issuer : Address) (reason : Option Str)
  | attestationRenewed (attestationId : Str) (issuer : Address) (newExpiration : Option Nat)
  | attestationExpired (attestationId : Str) (subject : Address)
  | attestationTransferred (attestationId : Str) (oldIssuer newIssuer : Address)
  | deletionRequested (subject : Address) (attestationId : Str) (timestamp : Nat)
  | expirationHookTriggered (subject : Address) (attestationId : Str) (expiration : Nat)
  | issuerRegistered (issuer admin : Address) (timestamp : Nat)
  | issuerRemoved (issuer admin : Address) (timestamp : Nat)
  | issuerTierUpdated (issuer : Address) (tier : IssuerTier)
  | claimTypeRegistered (claimType description : Str)
  | multisigProposed (proposalId : Str) (proposer subject : Address) (threshold : Nat)
  | multisigCosigned (proposalId : Str) (signer : Address) (signaturesSoFar threshold : Nat)
  | multisigActivated (proposalId attestationId : Str)
  | adminTransferred (oldAdmin newAdmin : Address)
  | adminTransferProposed (currentAdmin newAdmin : Address)
  | adminAdded (byAdmin newAdmin : Address) (timestamp : Nat)
  | adminRemoved (byAdmin removedAdmin : Address) (timestamp : Nat)
  | contractPaused (admin : Address) (timestamp : Nat)
  | contractUnpaused (admin : Address) (timestamp : Nat)
  | attestationRequested (requestId : Str) (subject issuer : Address) (claimType : Str)
      (expiresAt : Nat)
  | requestFulfilled (requestId : Str) (issuer : Address) (attestationId : Str)
  | requestRejected (requestId : Str) (issuer : Address) (reason : Option Str)
  | requestCancelled (requestId : Str) (subject : Address)
  | delegationCreated (delegator delegate : Address) (claimType : Str) (expiration : Option Nat)
  | delegationRevoked (delegator delegate : Address) (claimType : Str)
  | whitelistModeEnabled (issuer : Address)
  | councilInitialized (quorum memberCount : Nat)
  | proposalCreated (proposalId : Nat) (proposer : Address)
  | proposalApproved (proposalId : Nat) (approver : Address)
  | proposalExecuted (proposalId : Nat)
  deriving DecidableEq, Repr

def Event.creation? {Address : Type} : Event Address → Option (Attestation Address)
  | .attestationCreated attestation => some attestation
  | .attestationImported attestation => some attestation
  | .attestationBridged attestation => some attestation
  | _ => none

/-- Tells of a new attestation or of a revoked one. -/
def Event.isNotice {Address : Type} : Event Address → Bool
  | .attestationCreated _ | .attestationImported _ | .attestationBridged _ => true
  | .attestationRevoked _ _ _ | .attestationRevokedWithReason _ _ _ => true
  | _ => false

end TrustLink
