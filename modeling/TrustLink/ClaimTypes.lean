import TrustLink.RequestLifecycle
import TrustLink.Warrants

/-!
The grammar of claim types. Every way to a native attestation checks it, a request when it
is submitted; a multi-sig proposal never does.
-/
namespace TrustLink
open Transaction Contract Validation

/-- One to 64 bytes, all of them ASCII letters, digits or underscores. -/
structure WellFormed (claimType : Str) : Prop where
  nonempty : 1 ≤ claimType.length
  short : claimType.length ≤ 64
  plain : ∀ byte ∈ claimType,
    isAsciiAlphabetic byte = true ∨ isAsciiDigit byte = true ∨ isUnderscore byte = true

theorem validateClaimType_eq_ok {claimType : Str} :
    validateClaimType claimType = .ok () ↔ WellFormed claimType := by
  have loop : (claimType.any fun byte =>
      !isAsciiAlphabetic byte && !isAsciiDigit byte && !isUnderscore byte) = false ↔
      ∀ byte ∈ claimType,
        isAsciiAlphabetic byte = true ∨ isAsciiDigit byte = true ∨ isUnderscore byte = true := by
    rw [List.any_eq_false]
    refine forall₂_congr fun byte _ => ?_
    cases isAsciiAlphabetic byte <;> cases isAsciiDigit byte <;> cases isUnderscore byte <;> simp
  unfold validateClaimType
  split
  case isTrue outside =>
    refine iff_of_false nofun fun wellFormed => ?_
    have nonempty := wellFormed.nonempty
    have short := wellFormed.short
    omega
  case isFalse inside =>
    split
    case isTrue found =>
      refine iff_of_false nofun fun wellFormed => ?_
      rw [loop.mpr wellFormed.plain] at found
      cases found
    case isFalse clean =>
      refine iff_of_true rfl ⟨by omega, by omega, loop.mp ?_⟩
      exact Bool.not_eq_true _ ▸ clean

instance (claimType : Str) : Decidable (WellFormed claimType) :=
  decidable_of_iff (validateClaimType claimType = .ok ()) validateClaimType_eq_ok

theorem wellFormed_accreditedInvestor : WellFormed accreditedInvestor := by decide

section Grammar
variable {Address : Type}

/-- A native record has a claim type of the grammar. -/
def NativelyTyped (record : Attestation Address) : Prop :=
  record.origin = .native → WellFormed record.claimType

/-- The requests that are waiting ask for claim types of the grammar, and so did the others. -/
def RequestsTyped (storage : Storage Address) : Prop :=
  ∀ id request, storage.request id = some request → WellFormed request.claimType

variable [DecidableEq Address] [Host Address]

/-- The call passes every check of a co-signature and completes a proposal whose claim type
is outside the grammar. -/
def CompletesMalformed (storage : Storage Address) (call : Call Address) : Prop :=
  ∃ issuer proposalId proposal, call.op = .multisig (.cosignAttestation issuer proposalId) ∧
    Cosignable storage call.env issuer proposalId proposal ∧
    proposal.threshold ≤ proposal.signers.length + 1 ∧
    StoreFits storage (proposedRecord proposal) ∧ ¬ WellFormed proposal.claimType

variable {before after : World Address} {call : Call Address} {storage : Storage Address}
  {env : Env Address}

theorem submitted_typed {request : AttestationRequest Address}
    (accepted : Accepted before call after)
    (submits : call.move? before.storage = some (.submit request)) :
    WellFormed request.claimType := by
  obtain ⟨env, op⟩ := call
  cases op with
  | request op =>
      cases op with
      | requestAttestation subject issuer claimType =>
          obtain ⟨id, accepted⟩ := (returns_void ..).mp accepted
          obtain ⟨⟨-, -, -, valid, -⟩, -⟩ := (returns_requestAttestation _ _ _ _ _ rfl).mp accepted
          obtain rfl := Move.submit.inj (Option.some.inj submits)
          exact validateClaimType_eq_ok.mp valid
      | _ => simp [Call.move?] at submits
  | _ => cases submits

theorem requestsTyped_of_accepted (sound : before.storage.book.Sound)
    (typed : RequestsTyped before.storage) (accepted : Accepted before call after) :
    RequestsTyped after.storage := by
  intro id request found
  rcases request_of_accepted sound accepted found with ⟨old, known, same⟩ | submits
  · rw [same.claimType]
    exact typed id old known
  · exact submitted_typed accepted submits

/-- An issued record is natively typed, unless it completes a proposal that is not. -/
theorem nativelyTyped_of_warrant {record : Attestation Address} (typed : RequestsTyped storage)
    (warrant : Warrant storage call.env call.op (.issue record)) :
    NativelyTyped record ∨ CompletesMalformed storage call := by
  obtain ⟨env, op⟩ := call
  cases warrant with
  | createAttestation built checks | createAttestationValidFrom built checks
  | createAttestationJurisdiction built checks | createAttestationsBatch built _ checks
  | createAttestationAsDelegate built checks =>
      subst built
      exact .inl fun _ => validateClaimType_eq_ok.mp checks.claim
  -- records of another origin may have any claim type
  | importAttestation built | bridgeAttestation built =>
      subst built
      exact .inl nofun
  | fulfillRequest built checks =>
      subst built
      exact .inl fun _ => typed _ _ checks.found
  | proposeAttestation built active bypasses =>
      subst built
      obtain ⟨rfl, -⟩ := bypasses
      exact .inl fun _ => wellFormed_accreditedInvestor
  | @cosignAttestation issuer proposalId proposal record built checks reached fits =>
      subst built
      by_cases wellFormed : WellFormed proposal.claimType
      · exact .inl fun _ => wellFormed
      · exact .inr ⟨_, _, _, rfl, checks, reached, fits, wellFormed⟩

omit [DecidableEq Address] [Host Address] in
/-- Origin and claim type of a record never change. -/
theorem nativelyTyped_written {change : Change Address} {record : Attestation Address}
    (base : change.base = some record) (typed : NativelyTyped record) :
    NativelyTyped change.written := by
  cases change with
  | issue _ => cases base
  | _ =>
      obtain rfl := Option.some.inj base
      exact typed

/-- A completion of a malformed proposal stores a record that is not natively typed. -/
theorem malformed_of_completion (completes : CompletesMalformed before.storage call) :
    ¬ (step before call).storage.register.All NativelyTyped := by
  obtain ⟨env, op⟩ := call
  obtain ⟨issuer, proposalId, proposal, rfl, checks, reached, fits, malformed⟩ := completes
  have returned := (returns_cosignAttestation issuer proposalId ()).mpr
    ⟨proposal, checks, .inl ⟨reached, fits, rfl⟩⟩
  have accepted : Accepted before ⟨env, .multisig (.cosignAttestation issuer proposalId)⟩ _ :=
    returned
  rw [step_of_accepted accepted]
  intro typed
  exact malformed (typed (proposedRecord proposal).id _ (Function.update_self ..) rfl)

/-- The state in which every native record is typed is left by completing a malformed
proposal, and in no other way. -/
theorem typed_step_iff (keyed : Keyed before.storage.register)
    (requests : RequestsTyped before.storage) (typed : before.storage.register.All NativelyTyped) :
    (step before call).storage.register.All NativelyTyped ↔
      ¬ CompletesMalformed before.storage call := by
  refine ⟨fun kept completes => malformed_of_completion completes kept, fun wellFormed => ?_⟩
  rcases step_cases before call with accepted | same
  · refine all_of_accepted keyed typed accepted (fun record member => ?_)
      fun change _ record base => nativelyTyped_written base
    exact (nativelyTyped_of_warrant requests (warrant_of_accepted accepted member)).resolve_right
      wellFormed
  · rw [same]
    exact typed

/-- Every native record in every state passed through has a claim type of the grammar,
exactly when no step completes a proposal whose claim type is outside it. -/
theorem native_claim_types_iff (calls : List (Call Address)) :
    (∀ early late, calls = early ++ late → ∀ id record,
      (run early).storage.attestation id = some record → record.origin = .native →
        WellFormed record.claimType) ↔
      Trace.Each step (fun world call => ¬ CompletesMalformed world.storage call)
        (World.empty Address) calls := by
  let support (world : World Address) : Prop :=
    Keyed world.storage.register ∧ world.storage.book.Sound ∧ RequestsTyped world.storage
  refine @Trace.always_iff_each_of _ _ step (fun _ => True) _ support
    (fun world => world.storage.register.All NativelyTyped) ?_ (World.empty Address)
    ⟨keyed_empty, sound_empty, nofun⟩ all_empty calls fun _ _ => trivial
  rintro world call - ⟨keyed, sound, requests⟩ typed
  refine ⟨?_, typed_step_iff keyed requests typed⟩
  rcases step_cases world call with accepted | same
  · exact ⟨keyed_of_accepted keyed accepted, ((turns_of_accepted sound accepted).keeps sound).1,
      requestsTyped_of_accepted sound requests accepted⟩
  · rw [same]
    exact ⟨keyed, sound, requests⟩

end Grammar

section Malformed
open Xdr

/-- Issuers 1 and 3 propose and sign an attestation whose claim type has a blank. -/
def malformedRun : List (Call ContractId) :=
  sampleDeployment ++ [
    signed 1000 (contractId 1) (.multisig (.proposeAttestation (contractId 1) (contractId 2)
      (ascii "KYC 2") [contractId 1, contractId 3] 2)),
    signed 1002 (contractId 3) (.multisig (.cosignAttestation (contractId 3)
      (MultiSigProposal.generateId (contractId 1) (contractId 2) (ascii "KYC 2") 1000)))]

theorem completed_proposal_malformed :
    ¬ ∀ early late, malformedRun = early ++ late → ∀ id record,
      (run early).storage.attestation id = some record → record.origin = .native →
        WellFormed record.claimType := by
  intro always
  have stored : ((run malformedRun).storage.attestation
      (Attestation.generateId (contractId 1) (contractId 2) (ascii "KYC 2") 1000)).map
        (fun record => (record.origin, record.claimType)) = some (.native, ascii "KYC 2") := by
    decide +kernel
  obtain ⟨record, found, fields⟩ := Option.map_eq_some_iff.mp stored
  obtain ⟨native, claimType⟩ := Prod.mk.inj fields
  have typed := always malformedRun [] (List.append_nil _).symm _ record found native
  rw [claimType] at typed
  exact absurd typed (by decide)

end Malformed

end TrustLink
