import TrustLink.Admin
import TrustLink.Council
import TrustLink.Lib.Trace
import TrustLink.Multisig
import TrustLink.Request
import TrustLink.Xdr

/-!
The contract as a state machine. A call is an operation with its arguments and
the environment of its transaction; a call that fails leaves the world as it was.
-/
namespace TrustLink
open Transaction

section Operations
variable (Address : Type)

inductive AttestationOp where
  | createAttestation (issuer subject : Address) (claimType : Str) (expiration : Option Nat)
      (metadata : Option Str) (tags : Option (List Str))
  | createAttestationValidFrom (issuer subject : Address) (claimType : Str)
      (expiration : Option Nat) (metadata : Option Str) (tags : Option (List Str)) (validFrom : Nat)
  | createAttestationJurisdiction (issuer subject : Address) (claimType : Str)
      (expiration : Option Nat) (metadata jurisdiction : Option Str) (tags : Option (List Str))
  | importAttestation (admin issuer subject : Address) (claimType : Str) (timestamp : Nat)
      (expiration : Option Nat)
  | bridgeAttestation (bridge subject : Address) (claimType sourceChain sourceTx : Str)
  | createAttestationsBatch (issuer : Address) (subjects : List Address) (claimType : Str)
      (expiration : Option Nat)
  | createAttestationAsDelegate (delegate delegator subject : Address) (claimType : Str)
      (expiration : Option Nat) (metadata : Option Str)
  | revokeAttestation (issuer : Address) (attestationId : Str) (reason : Option Str)
  | renewAttestation (issuer : Address) (attestationId : Str) (newExpiration : Option Nat)
  | revokeAttestationsBatch (issuer : Address) (attestationIds : List Str) (reason : Option Str)
  | updateExpiration (issuer : Address) (attestationId : Str) (newExpiration : Option Nat)
  | transferAttestation (admin : Address) (attestationId : Str) (newIssuer : Address)
  | requestDeletion (subject : Address) (attestationId : Str)
  | endorseAttestation (endorser : Address) (attestationId : Str)

inductive RequestOp where
  | requestAttestation (subject issuer : Address) (claimType : Str)
  | fulfillRequest (issuer : Address) (requestId : Str) (expiration : Option Nat)
  | rejectRequest (issuer : Address) (requestId : Str) (reason : Option Str)
  | cancelRequest (subject : Address) (requestId : Str)

inductive MultisigOp where
  | proposeAttestation (proposer subject : Address) (claimType : Str)
      (requiredSigners : List Address) (threshold : Nat)
  | cosignAttestation (issuer : Address) (proposalId : Str)

/-- The operations that change the admin council or its pending hand-over. -/
inductive CouncilOp where
  | initializeContract (admin : Address) (ttlDays : Option Nat)
  | transferAdmin (currentAdmin newAdmin : Address)
  | proposeAdminTransfer (currentAdmin newAdmin : Address)
  | cancelAdminTransfer (currentAdmin : Address)
  | acceptAdminTransfer (newAdmin : Address)
  | addAdmin (existingAdmin newAdmin : Address)
  | removeAdmin (existingAdmin adminToRemove : Address)
  | initCouncil (admin : Address) (members : List Address) (quorum : Nat)

/-- The rest of admin.rs, and the council actions. -/
inductive AdminOp where
  | registerIssuer (admin issuer : Address)
  | removeIssuer (admin issuer : Address)
  | registerBridge (admin bridgeContract : Address)
  | setIssuerTier (admin issuer : Address) (tier : IssuerTier)
  | addToWhitelist (issuer subject : Address)
  | bulkAddToWhitelist (issuer : Address) (subjects : List Address)
  | removeFromWhitelist (issuer subject : Address)
  | setWhitelistEnabled (issuer : Address) (enabled : Bool)
  | enableWhitelistMode (issuer : Address)
  | setFee (admin : Address) (fee : Int) (collector : Address) (feeToken : Option Address)
  | setRateLimit (admin : Address) (minIssuanceInterval : Nat)
  | setRateLimitForClaimType (admin : Address) (claimType : Str) (intervalSecs : Nat)
  | pause (admin : Address)
  | unpause (admin : Address)
  | setRequireRegisteredClaimType (admin : Address) (required : Bool)
  | setLimits (admin : Address) (maxAttestationsPerIssuer maxAttestationsPerSubject : Nat)
  | registerClaimType (admin : Address) (claimType description : Str)
  | delegateClaimType (issuer delegate : Address) (claimType : Str) (expiration : Option Nat)
  | revokeDelegation (issuer delegate : Address) (claimType : Str)
  | registerExpirationHook (subject callbackContract : Address) (notifyDaysBefore : Nat)
  | removeExpirationHook (subject : Address)
  | proposeCouncilAction (proposer : Address) (operation : CouncilOperation Address)
  | approveCouncilAction (approver : Address) (proposalId : Nat)
  | executeCouncilAction (executor : Address) (proposalId : Nat)

inductive Op where
  | attestation (op : AttestationOp Address)
  | request (op : RequestOp Address)
  | multisig (op : MultisigOp Address)
  | council (op : CouncilOp Address)
  | admin (op : AdminOp Address)

structure Call where
  env : Env Address
  op : Op Address

/-- A call signed by one address, at a time when every token contract answers. -/
def signed {Address : Type} (timestamp : Nat) (signer : Address) (op : Op Address) : Call Address :=
  ⟨⟨timestamp, [signer], fun _ => true, fun _ => true⟩, op⟩

end Operations

section Administration
variable {Address : Type} [DecidableEq Address]

def CouncilOp.exec : CouncilOp Address → Program Address Unit
  | .initializeContract admin ttlDays => Contract.initializeContract admin ttlDays
  | .transferAdmin currentAdmin newAdmin => Contract.transferAdmin currentAdmin newAdmin
  | .proposeAdminTransfer currentAdmin newAdmin =>
      Contract.proposeAdminTransfer currentAdmin newAdmin
  | .cancelAdminTransfer currentAdmin => Contract.cancelAdminTransfer currentAdmin
  | .acceptAdminTransfer newAdmin => Contract.acceptAdminTransfer newAdmin
  | .addAdmin existingAdmin newAdmin => Contract.addAdmin existingAdmin newAdmin
  | .removeAdmin existingAdmin adminToRemove => Contract.removeAdmin existingAdmin adminToRemove
  | .initCouncil admin members quorum => Contract.initCouncil admin members quorum

def AdminOp.exec : AdminOp Address → Program Address Unit
  | .registerIssuer admin issuer => Contract.registerIssuer admin issuer
  | .removeIssuer admin issuer => Contract.removeIssuer admin issuer
  | .registerBridge admin bridgeContract => Contract.registerBridge admin bridgeContract
  | .setIssuerTier admin issuer tier => Contract.setIssuerTier admin issuer tier
  | .addToWhitelist issuer subject => Contract.addToWhitelist issuer subject
  | .bulkAddToWhitelist issuer subjects => Contract.bulkAddToWhitelist issuer subjects
  | .removeFromWhitelist issuer subject => Contract.removeFromWhitelist issuer subject
  | .setWhitelistEnabled issuer enabled => Contract.setWhitelistEnabled issuer enabled
  | .enableWhitelistMode issuer => Contract.enableWhitelistMode issuer
  | .setFee admin fee collector feeToken => Contract.setFee admin fee collector feeToken
  | .setRateLimit admin minIssuanceInterval => Contract.setRateLimit admin minIssuanceInterval
  | .setRateLimitForClaimType admin claimType intervalSecs =>
      Contract.setRateLimitForClaimType admin claimType intervalSecs
  | .pause admin => Contract.pause admin
  | .unpause admin => Contract.unpause admin
  | .setRequireRegisteredClaimType admin required =>
      Contract.setRequireRegisteredClaimType admin required
  | .setLimits admin maxAttestationsPerIssuer maxAttestationsPerSubject =>
      Contract.setLimits admin maxAttestationsPerIssuer maxAttestationsPerSubject
  | .registerClaimType admin claimType description =>
      Contract.registerClaimType admin claimType description
  | .delegateClaimType issuer delegate claimType expiration =>
      Contract.delegateClaimType issuer delegate claimType expiration
  | .revokeDelegation issuer delegate claimType =>
      Contract.revokeDelegation issuer delegate claimType
  | .registerExpirationHook subject callbackContract notifyDaysBefore =>
      Contract.registerExpirationHook subject callbackContract notifyDaysBefore
  | .removeExpirationHook subject => Contract.removeExpirationHook subject
  | .proposeCouncilAction proposer operation =>
      void (Contract.proposeCouncilAction proposer operation)
  | .approveCouncilAction approver proposalId =>
      Contract.approveCouncilAction approver proposalId
  | .executeCouncilAction executor proposalId =>
      Contract.executeCouncilAction executor proposalId

end Administration

section Execution
variable {Address : Type} [DecidableEq Address] [Host Address]

def AttestationOp.exec : AttestationOp Address → Program Address Unit
  | .createAttestation issuer subject claimType expiration metadata tags =>
      void (Contract.createAttestation issuer subject claimType expiration metadata tags)
  | .createAttestationValidFrom issuer subject claimType expiration metadata tags validFrom =>
      void (Contract.createAttestationValidFrom issuer subject claimType expiration metadata tags
        validFrom)
  | .createAttestationJurisdiction issuer subject claimType expiration metadata jurisdiction
      tags =>
      void (Contract.createAttestationJurisdiction issuer subject claimType expiration metadata
        jurisdiction tags)
  | .importAttestation admin issuer subject claimType timestamp expiration =>
      void (Contract.importAttestation admin issuer subject claimType timestamp expiration)
  | .bridgeAttestation bridge subject claimType sourceChain sourceTx =>
      void (Contract.bridgeAttestation bridge subject claimType sourceChain sourceTx)
  | .createAttestationsBatch issuer subjects claimType expiration =>
      void (Contract.createAttestationsBatch issuer subjects claimType expiration)
  | .createAttestationAsDelegate delegate delegator subject claimType expiration metadata =>
      void (Contract.createAttestationAsDelegate delegate delegator subject claimType expiration
        metadata)
  | .revokeAttestation issuer attestationId reason =>
      Contract.revokeAttestation issuer attestationId reason
  | .renewAttestation issuer attestationId newExpiration =>
      Contract.renewAttestation issuer attestationId newExpiration
  | .revokeAttestationsBatch issuer attestationIds reason =>
      void (Contract.revokeAttestationsBatch issuer attestationIds reason)
  | .updateExpiration issuer attestationId newExpiration =>
      Contract.updateExpiration issuer attestationId newExpiration
  | .transferAttestation admin attestationId newIssuer =>
      Contract.transferAttestation admin attestationId newIssuer
  | .requestDeletion subject attestationId => Contract.requestDeletion subject attestationId
  | .endorseAttestation endorser attestationId =>
      Contract.endorseAttestation endorser attestationId

def RequestOp.exec : RequestOp Address → Program Address Unit
  | .requestAttestation subject issuer claimType =>
      void (Contract.requestAttestation subject issuer claimType)
  | .fulfillRequest issuer requestId expiration =>
      void (Contract.fulfillRequest issuer requestId expiration)
  | .rejectRequest issuer requestId reason => Contract.rejectRequest issuer requestId reason
  | .cancelRequest subject requestId => Contract.cancelRequest subject requestId

def MultisigOp.exec : MultisigOp Address → Program Address Unit
  | .proposeAttestation proposer subject claimType requiredSigners threshold =>
      void (Contract.proposeAttestation proposer subject claimType requiredSigners threshold)
  | .cosignAttestation issuer proposalId => Contract.cosignAttestation issuer proposalId

def Op.exec : Op Address → Program Address Unit
  | .attestation op => op.exec
  | .request op => op.exec
  | .multisig op => op.exec
  | .council op => op.exec
  | .admin op => op.exec

/-- The call succeeds and leads from one world to the other. -/
def Accepted (before : World Address) (call : Call Address) (after : World Address) : Prop :=
  Returns call.op.exec call.env before () after

/-- One transaction; a failing one leaves no writes. -/
def step (world : World Address) (call : Call Address) : World Address :=
  match call.op.exec call.env world with
  | .ok (_, after) => after
  | .error _ => world

theorem step_of_accepted {before after : World Address} {call : Call Address}
    (accepted : Accepted before call after) : step before call = after := by
  rw [step, show call.op.exec call.env before = .ok ((), after) from accepted]

/-- A step either is an accepted call or changes nothing. -/
theorem step_cases (world : World Address) (call : Call Address) :
    Accepted world call (step world call) ∨ step world call = world := by
  unfold step
  cases outcome : call.op.exec call.env world with
  | error fault => exact .inr rfl
  | ok pair => exact .inl outcome

/-- What a step leaves says whether its call was accepted, unless nothing changed. -/
theorem step_outcome (world : World Address) (call : Call Address) :
    Accepted world call (step world call) ∨
      (step world call = world ∧ ∀ after, ¬ Accepted world call after) := by
  unfold step
  cases outcome : call.op.exec call.env world with
  | error fault =>
      refine .inr ⟨rfl, fun after accepted => ?_⟩
      have found : call.op.exec call.env world = .ok ((), after) := accepted
      rw [outcome] at found
      cases found
  | ok pair => exact .inl outcome

/-- The world after a list of calls. -/
abbrev runFrom (start : World Address) (calls : List (Call Address)) : World Address :=
  Trace.run step start calls

/-- The world after a list of calls on a freshly deployed contract. -/
abbrev run (calls : List (Call Address)) : World Address := runFrom (World.empty Address) calls

theorem run_concat (calls : List (Call Address)) (call : Call Address) :
    run (calls ++ [call]) = step (run calls) call :=
  Trace.run_concat ..

theorem run_append (early late : List (Call Address)) :
    run (early ++ late) = runFrom (run early) late :=
  Trace.run_append ..

/-- What every accepted call preserves holds after every run. -/
theorem invariant_of_run {invariant : World Address → Prop}
    (initial : invariant (World.empty Address))
    (keeps : ∀ before call after, invariant before → Accepted before call after → invariant after)
    (calls : List (Call Address)) : invariant (run calls) := by
  refine Trace.invariant_of_steps (fun world call holds => ?_) initial calls
  rcases step_cases world call with accepted | same
  · exact keeps world call _ holds accepted
  · rw [same]
    exact holds

/-- The same under a condition that every step of the run meets. -/
theorem invariant_of_guarded_run {condition : World Address → Call Address → Prop}
    {invariant : World Address → Prop} (initial : invariant (World.empty Address))
    (keeps : ∀ before call after, invariant before → condition before call →
      Accepted before call after → invariant after)
    {calls : List (Call Address)} (guarded : Trace.Each step condition (World.empty Address) calls) :
    invariant (run calls) := by
  refine Trace.invariant_of_each (fun world call holds passed => ?_) initial guarded
  rcases step_cases world call with accepted | same
  · exact keeps world call _ holds passed accepted
  · rw [same]
    exact holds

end Execution

section Creation
variable {Address : Type} {before after : World Address}

/-- The attestations announced as new so far. -/
def World.announced (world : World Address) : List (Attestation Address) :=
  world.events.filterMap Event.creation?

def World.notices (world : World Address) : List (Event Address) :=
  world.events.filter Event.isNotice

/-- The attestations a call announced as new, in order. -/
def created (before after : World Address) : List (Attestation Address) :=
  after.announced.drop before.announced.length

theorem created_of_announced (fresh : List (Attestation Address))
    (announced : after.announced = before.announced ++ fresh) : created before after = fresh := by
  rw [created, announced, List.drop_left]

end Creation

section Sample
open Xdr

/-- A deployment with administrator 9 and issuers 1 and 3. -/
def sampleDeployment : List (Call ContractId) := [
  signed 900 (contractId 9) (.council (.initializeContract (contractId 9) none)),
  signed 900 (contractId 9) (.admin (.registerIssuer (contractId 9) (contractId 1))),
  signed 900 (contractId 9) (.admin (.registerIssuer (contractId 9) (contractId 3)))]

/-- Issuer 1 attests KYC of contract 2, at time 1000. -/
def sampleIssuance : Call ContractId :=
  signed 1000 (contractId 1) (.attestation
    (.createAttestation (contractId 1) (contractId 2) (ascii "KYC") none (some (ascii "level 2"))
      none))

def sampleId : Str := Attestation.generateId (contractId 1) (contractId 2) (ascii "KYC") 1000

/-- The administrator gives it to issuer 3. -/
def sampleTransfer : Call ContractId :=
  signed 1002 (contractId 9)
    (.attestation (.transferAttestation (contractId 9) sampleId (contractId 3)))

/-- Issuer 1 proposes the same attestation, to be signed by both issuers. -/
def sampleProposal : Call ContractId :=
  signed 1000 (contractId 1) (.multisig
    (.proposeAttestation (contractId 1) (contractId 2) (ascii "KYC") [contractId 1, contractId 3]
      2))

def sampleProposalId : Str :=
  MultiSigProposal.generateId (contractId 1) (contractId 2) (ascii "KYC") 1000

def sampleCosignature : Call ContractId :=
  signed 1002 (contractId 3) (.multisig (.cosignAttestation (contractId 3) sampleProposalId))

end Sample

end TrustLink
