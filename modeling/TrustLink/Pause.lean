import TrustLink.Frame

/-!
What a pause stops. All but two of the entry points look at the flag before
they write: a transfer and a deletion request go through on a paused contract.
-/
namespace TrustLink
open Transaction Contract

section Condition
variable {Address : Type}

/-- The operation is one of attestation.rs, request.rs or multisig.rs. -/
def Op.Workflow : Op Address → Prop
  | .attestation _ | .request _ | .multisig _ => True
  | .council _ | .admin _ => False

/-- What no operation is to change while the contract is paused. -/
structure Halted (before after : Storage Address) : Prop where
  attestation : after.attestation = before.attestation
  subjectAttestations : after.subjectAttestations = before.subjectAttestations
  validAttestations : after.validAttestations = before.validAttestations
  issuerAttestations : after.issuerAttestations = before.issuerAttestations
  subjectAttestationChunk : after.subjectAttestationChunk = before.subjectAttestationChunk
  issuerAttestationChunk : after.issuerAttestationChunk = before.issuerAttestationChunk
  delegatorIndex : after.delegatorIndex = before.delegatorIndex
  request : after.request = before.request
  pendingRequests : after.pendingRequests = before.pendingRequests
  multisigProposal : after.multisigProposal = before.multisigProposal
  endorsements : after.endorsements = before.endorsements
  endorserIndex : after.endorserIndex = before.endorserIndex
  auditLog : after.auditLog = before.auditLog

theorem Halted.refl (storage : Storage Address) : Halted storage storage :=
  ⟨rfl, rfl, rfl, rfl, rfl, rfl, rfl, rfl, rfl, rfl, rfl, rfl, rfl⟩

/-- The call passes every check of a transfer to another issuer or of a deletion,
neither of which asks whether the contract is paused. -/
def IgnoresPause (storage : Storage Address) (call : Call Address) : Prop :=
  match call.op with
  | .attestation (.transferAttestation admin id newIssuer) =>
      ∃ attestation, Transferable storage call.env admin id newIssuer attestation
  | .attestation (.requestDeletion subject id) =>
      ∃ attestation, Deletable storage call.env subject id attestation
  | _ => False

end Condition

section Steps
variable {Address : Type} [DecidableEq Address] [Host Address] {env : Env Address}
  {before after : World Address}

theorem AttestationOp.running (op : AttestationOp Address)
    (accepted : Returns op.exec env before () after) :
    before.storage.paused = false ∨ after = before ∨
      IgnoresPause before.storage ⟨env, .attestation op⟩ := by
  cases op with
  | createAttestation | createAttestationValidFrom | createAttestationJurisdiction
  | importAttestation | bridgeAttestation | createAttestationAsDelegate =>
      exact .inl (AttestationOp.issues_one accepted rfl).running
  | createAttestationsBatch issuer subjects claimType expiration =>
      obtain ⟨ids, accepted⟩ := (returns_void ..).mp accepted
      exact .inl ((returns_createAttestationsBatch _ _ _ _ _ _ rfl).mp accepted).1.running
  | revokeAttestation issuer id reason =>
      obtain ⟨attestation, managed, -⟩ := (returns_revokeAttestation ..).mp accepted
      exact .inl managed.running
  | renewAttestation issuer id newExpiration =>
      obtain ⟨attestation, managed, -⟩ := (returns_renewAttestation ..).mp accepted
      exact .inl managed.running
  | revokeAttestationsBatch issuer ids reason =>
      obtain ⟨count, accepted⟩ := (returns_void ..).mp accepted
      obtain ⟨records, ⟨-, running, -⟩, -⟩ := (returns_revokeAttestationsBatch ..).mp accepted
      exact .inl running
  | updateExpiration issuer id newExpiration =>
      obtain ⟨attestation, managed, -⟩ := (returns_updateExpiration ..).mp accepted
      exact .inl managed.running
  | transferAttestation admin id newIssuer =>
      obtain ⟨attestation, ⟨auth, member, registered, found⟩, ⟨-, same⟩ | ⟨moved, ttl, -⟩⟩ :=
        (returns_transferAttestation ..).mp accepted
      -- a transfer to the issuer itself returns before it writes
      · exact .inr (.inl same)
      · exact .inr (.inr ⟨attestation, auth, member, registered, found, moved, ttl⟩)
  | requestDeletion subject id =>
      obtain ⟨attestation, ⟨auth, found, own, ttl, room⟩, -⟩ :=
        (returns_requestDeletion ..).mp accepted
      exact .inr (.inr ⟨attestation, auth, found, own, ttl, room⟩)
  | endorseAttestation endorser id =>
      obtain ⟨⟨-, -, running, -⟩, -⟩ := (returns_endorseAttestation ..).mp accepted
      exact .inl running

theorem RequestOp.running (op : RequestOp Address)
    (accepted : Returns op.exec env before () after) : before.storage.paused = false := by
  cases op.outcome accepted with
  | fulfillRequest _ checks => exact checks.running
  | requestAttestation _ _ running => exact running
  | rejectRequest _ running => exact running
  | cancelRequest _ running => exact running

theorem MultisigOp.running (op : MultisigOp Address)
    (accepted : Returns op.exec env before () after) : before.storage.paused = false := by
  cases op.outcome accepted with
  | bypass _ active | proposal _ active => exact active.running
  | completion cosignable | cosignature cosignable => exact cosignable.active.running

/-- On a paused contract every other workflow call fails or does nothing. -/
theorem step_of_paused {world : World Address} {call : Call Address}
    (workflow : call.op.Workflow) (paused : world.storage.paused = true)
    (heeds : ¬ IgnoresPause world.storage call) : step world call = world := by
  rcases step_cases world call with accepted | same
  · obtain ⟨env, op⟩ := call
    cases op with
    | attestation op =>
        rcases op.running accepted with running | same | ignores
        · exact Bool.noConfusion (paused.symm.trans running)
        · exact same
        · exact absurd ignores heeds
    | request op => exact Bool.noConfusion (paused.symm.trans (op.running accepted))
    | multisig op => exact Bool.noConfusion (paused.symm.trans (op.running accepted))
    | council op => cases workflow
    | admin op => cases workflow
  · exact same

/-- The two that go through leave an entry in an audit log. -/
theorem auditLog_of_ignoresPause {world : World Address} {call : Call Address}
    (ignores : IgnoresPause world.storage call) :
    (step world call).storage.auditLog ≠ world.storage.auditLog := by
  have longer : ∀ (id : Str) (log : Str → List (AuditEntry Address)) (entry : AuditEntry Address),
      Function.update log id (log id ++ [entry]) ≠ log := by
    intro id log entry same
    have lengths := congrArg (fun log => (log id).length) same
    simp at lengths
  obtain ⟨env, op⟩ := call
  cases op with
  | attestation op =>
      cases op with
      | transferAttestation admin id newIssuer =>
          obtain ⟨attestation, checks⟩ := ignores
          have accepted : Accepted world
              ⟨env, .attestation (.transferAttestation admin id newIssuer)⟩ _ :=
            (returns_transferAttestation admin id newIssuer ()).mpr ⟨attestation,
              ⟨checks.auth, checks.member, checks.registered, checks.found⟩,
              .inr ⟨checks.moved, checks.ttl, rfl⟩⟩
          rw [step_of_accepted accepted]
          exact longer id _ _
      | requestDeletion subject id =>
          obtain ⟨attestation, checks⟩ := ignores
          have accepted : Accepted world ⟨env, .attestation (.requestDeletion subject id)⟩ _ :=
            (returns_requestDeletion subject id ()).mpr ⟨attestation,
              ⟨checks.auth, checks.found, checks.own, checks.ttl, checks.room⟩, rfl⟩
          rw [step_of_accepted accepted]
          exact longer id _ _
      | _ => cases ignores
  | _ => cases ignores

/-- On a paused contract exactly the transfers and deletions that pass their
checks change something. -/
theorem halted_iff {world : World Address} {call : Call Address} (workflow : call.op.Workflow)
    (paused : world.storage.paused = true) :
    Halted world.storage (step world call).storage ↔ ¬ IgnoresPause world.storage call := by
  constructor
  · intro halted ignores
    exact auditLog_of_ignoresPause ignores halted.auditLog
  · intro heeds
    rw [step_of_paused workflow paused heeds]
    exact Halted.refl _

end Steps

section Samples
open Xdr

/-- The sample record is stored, and the administrator pauses the contract. -/
def pausedWorld : World ContractId :=
  run (sampleDeployment ++ [sampleIssuance,
    signed 1001 (contractId 9) (.admin (.pause (contractId 9)))])

/-- An endorsement by issuer 3 has no effect there. -/
theorem halted_sample :
    Halted pausedWorld.storage (step pausedWorld
      (signed 1002 (contractId 3) (.attestation
        (.endorseAttestation (contractId 3) sampleId)))).storage := by
  have workflow : (signed 1002 (contractId 3) (.attestation
      (.endorseAttestation (contractId 3) sampleId))).op.Workflow := trivial
  exact (halted_iff workflow (by decide +kernel)).mpr id

def sampleDeletion : Call ContractId :=
  signed 1002 (contractId 2) (.attestation (.requestDeletion (contractId 2) sampleId))

theorem paused_contract_changes :
    pausedWorld.storage.paused = true ∧
      ((step pausedWorld sampleTransfer).storage.attestation sampleId).map (·.issuer) =
        some (contractId 3) ∧
      ¬ Halted pausedWorld.storage (step pausedWorld sampleTransfer).storage ∧
      ((step pausedWorld sampleDeletion).storage.attestation sampleId).map (·.deleted) =
        some true ∧
      ¬ Halted pausedWorld.storage (step pausedWorld sampleDeletion).storage := by
  have issuer : (pausedWorld.storage.attestation sampleId).map (·.issuer) =
      some (contractId 1) := by decide +kernel
  have kept : (pausedWorld.storage.attestation sampleId).map (·.deleted) = some false := by
    decide +kernel
  have transferred : ((step pausedWorld sampleTransfer).storage.attestation sampleId).map
      (·.issuer) = some (contractId 3) := by decide +kernel
  have deleted : ((step pausedWorld sampleDeletion).storage.attestation sampleId).map
      (·.deleted) = some true := by decide +kernel
  refine ⟨by decide +kernel, transferred, fun halted => ?_, deleted, fun halted => ?_⟩
  · rw [halted.attestation, issuer] at transferred
    exact absurd transferred (by decide)
  · rw [halted.attestation, kept] at deleted
    cases deleted

end Samples

end TrustLink
