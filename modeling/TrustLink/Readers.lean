import Mathlib.Tactic.TFAE
import TrustLink.Effects
import TrustLink.Query

/-!
The claim readers against the store. Two indexes are read, and both list every
attestation that is neither revoked nor deleted; each reader's own tests then
leave exactly the valid ones.
-/
namespace TrustLink
open Transaction Query SecondaryIndex

section Indexes
variable {Address : Type}

/-- Neither revoked nor deleted. -/
def Current (attestation : Attestation Address) : Prop :=
  attestation.revoked = false ∧ attestation.deleted = false

/-- Both indexes of a subject list every current attestation and none that is
deleted. A batch revocation leaves revoked ones behind in the second. -/
structure Covers (register : Register Address) : Prop where
  bySubject : Bounded register.record (·.subject) Current (·.deleted = false) register.bySubject
  valid : Bounded register.record (·.subject) Current (·.deleted = false) register.valid

theorem covers_empty : Covers (Register.empty Address) := ⟨bounded_empty, bounded_empty⟩

variable [DecidableEq Address] [Host Address]

/-- A record that is replaced must have belonged to the same subject. -/
theorem Covers.applied {register : Register Address} {change : Change Address}
    (covers : Covers register) (enabled : Enabled register change)
    (same : ∀ attestation, change = .issue attestation → ∀ old,
      register.record attestation.id = some old → old.subject = attestation.subject) :
    Covers (register.apply change) := by
  cases change with
  | issue attestation =>
      obtain ⟨⟨-, undeleted⟩, -⟩ := enabled
      have owner := same attestation rfl
      exact ⟨covers.bySubject.add undeleted owner, covers.valid.add undeleted owner⟩
  | amend attestation expiration =>
      exact ⟨covers.bySubject.replace enabled rfl id id, covers.valid.replace enabled rfl id id⟩
  | revoke attestation reason =>
      exact ⟨covers.bySubject.drop enabled fun current => Bool.noConfusion current.1,
        covers.valid.drop enabled fun current => Bool.noConfusion current.1⟩
  | revokeInBatch attestation reason =>
      exact ⟨covers.bySubject.drop enabled fun current => Bool.noConfusion current.1,
        covers.valid.replace enabled rfl (fun current => Bool.noConfusion current.1) id⟩
  | transfer attestation newIssuer =>
      exact ⟨covers.bySubject.replace enabled rfl id id, covers.valid.replace enabled rfl id id⟩
  | erase attestation =>
      exact ⟨covers.bySubject.drop enabled fun current => Bool.noConfusion current.2,
        covers.valid.drop enabled fun current => Bool.noConfusion current.2⟩

theorem Covers.apply (sound : Host.Sound Address) {register : Register Address}
    {change : Change Address} (keyed : Keyed register) (covers : Covers register)
    (enabled : Enabled register change) : Covers (register.apply change) := by
  refine covers.applied enabled fun attestation issued old found => ?_
  subst issued
  obtain ⟨-, native | ⟨-, fresh⟩⟩ := enabled
  · exact native.unique sound (keyed _ old found).2
  · simp [fresh] at found

theorem covers_run (sound : Host.Sound Address) (calls : List (Call Address)) :
    Covers (run calls).storage.register :=
  (register_invariant covers_empty
    (fun _ _ keyed covers enabled => covers.apply sound keyed enabled) calls).2

/-- No record is replaced by a new one. -/
theorem Covers.apply_orderly {register : Register Address} {change : Change Address}
    (covers : Covers register) (enabled : Enabled register change)
    (orderly : Orderly register change) : Covers (register.apply change) := by
  refine covers.applied enabled fun attestation issued old found => ?_
  subst issued
  have fresh : register.record attestation.id = none := orderly
  rw [fresh] at found
  cases found

theorem covers_direct (calls : List (Call Address))
    (direct : ∀ call ∈ calls, ∀ op, call.op ≠ .multisig op) :
    Covers (run calls).storage.register :=
  direct_invariant covers_empty
    (fun _ _ covers enabled orderly => covers.apply_orderly enabled orderly) calls direct

omit [Host Address] in
/-- A subject lists an id once. -/
theorem once_apply {register : Register Address} {change : Change Address}
    (covers : Covers register) (once : ∀ subject, (register.bySubject subject).Nodup)
    (orderly : Orderly register change) (subject : Address) :
    ((register.apply change).bySubject subject).Nodup := by
  cases change with
  | issue attestation =>
      have fresh : register.record attestation.id = none := orderly
      refine nodup_add once subject fun listed => ?_
      obtain ⟨record, stored, -⟩ := covers.bySubject.sound _ _ listed
      rw [fresh] at stored
      cases stored
  | amend attestation expiration => exact once subject
  | transfer attestation newIssuer => exact once subject
  | revoke attestation reason => exact nodup_drop once _ _ _
  | revokeInBatch attestation reason => exact nodup_drop once _ _ _
  | erase attestation => exact nodup_drop once _ _ _

theorem subjects_once (calls : List (Call Address))
    (direct : ∀ call ∈ calls, ∀ op, call.op ≠ .multisig op) (subject : Address) :
    ((run calls).storage.subjectAttestations subject).Nodup := by
  let invariant (register : Register Address) : Prop :=
    Covers register ∧ ∀ subject, (register.bySubject subject).Nodup
  have empty : invariant (Register.empty Address) := ⟨covers_empty, fun _ => .nil⟩
  exact (direct_invariant empty (fun _ _ holds enabled orderly =>
    ⟨holds.1.apply_orderly enabled orderly, once_apply holds.1 holds.2 orderly⟩) calls
      direct).2 subject

end Indexes

section Agreement
variable {Address : Type}

/-- A valid attestation for the claim is stored under the subject. -/
def Claimed (storage : Storage Address) (now : Nat) (subject : Address) (claimType : Str) : Prop :=
  ∃ id attestation, storage.attestation id = some attestation ∧ attestation.subject = subject ∧
    attestation.claimType = claimType ∧ attestation.deleted = false ∧
    attestation.getStatus now = .valid

/-- A search of a covering index finds what is stored, when its test accepts
valid attestations only. -/
theorem any_finds {storage : Storage Address} {index : Address → List Str} (now : Nat)
    (bounded : Bounded storage.attestation (·.subject) Current (·.deleted = false) index)
    (subject : Address) {test : Attestation Address → Bool}
    (valid : ∀ attestation, test attestation = true → attestation.getStatus now = .valid) :
    (index subject).any (Finds storage test) = true ↔
      ∃ id attestation, storage.attestation id = some attestation ∧
        attestation.subject = subject ∧ attestation.deleted = false ∧ test attestation = true := by
  rw [List.any_eq_true]
  constructor
  · rintro ⟨id, listed, finds⟩
    obtain ⟨attestation, found, owned, undeleted⟩ := bounded.sound subject id listed
    rw [finds_of_found found] at finds
    exact ⟨id, attestation, found, owned, undeleted, finds⟩
  · rintro ⟨id, attestation, found, owned, undeleted, passes⟩
    have active := ((attestation.getStatus_eq_valid now).mp (valid attestation passes)).2.1
    refine ⟨id, bounded.complete subject id ⟨attestation, found, owned, active, undeleted⟩, ?_⟩
    rw [finds_of_found found]
    exact passes

theorem any_holdsClaim {storage : Storage Address} {now : Nat}
    (covers : Covers storage.register) (subject : Address) (claimType : Str) :
    (storage.subjectAttestations subject).any (Finds storage (holdsClaim claimType now)) = true ↔
      Claimed storage now subject claimType := by
  refine (any_finds now covers.bySubject subject fun attestation passes => by
    simp_all [holdsClaim]).trans ?_
  simp only [Claimed, holdsClaim]
  refine exists_congr fun id => exists_congr fun attestation => ?_
  grind

/-- The value of a reader in a world. -/
def Reads {α : Type} (reader : Program Address α) (env : Env Address) (world : World Address)
    (value : α) : Prop :=
  ∃ after, Returns reader env world value after

theorem reads_iff {α : Type} {reader : Program Address α} {env : Env Address}
    {world : World Address} {value : α}
    (answers : Answers (·.storage) world.storage reader env value) (other : α) :
    Reads reader env world other ↔ other = value :=
  answers.returns_iff rfl other

variable {env : Env Address} {world : World Address} (covers : Covers world.storage.register)
  (subject : Address) (claimType : Str) (claimTypes : List Str)
include covers

theorem reads_hasValidClaim :
    Reads (hasValidClaim subject claimType) env world true ↔
      Claimed world.storage env.timestamp subject claimType := by
  rw [reads_iff (answers_hasValidClaim subject claimType), eq_comm]
  refine (any_finds env.timestamp covers.valid subject fun attestation passes => by simp_all).trans ?_
  refine exists_congr fun id => exists_congr fun attestation => ?_
  grind

theorem reads_getAttestationByType :
    (∃ attestation, Reads (getAttestationByType subject claimType) env world (some attestation)) ↔
      Claimed world.storage env.timestamp subject claimType := by
  obtain ⟨answer, answers, present⟩ :=
    answers_getAttestationByType env world.storage subject claimType
  rw [← any_holdsClaim covers subject claimType, ← present, Option.isSome_iff_exists]
  exact exists_congr fun attestation => (reads_iff answers _).trans eq_comm

theorem reads_getValidClaims :
    (∃ claims, Reads (getValidClaims subject) env world claims ∧ claimType ∈ claims) ↔
      Claimed world.storage env.timestamp subject claimType := by
  obtain ⟨claims, answers, -, members⟩ :=
    answers_getValidClaims env world.storage subject
  simp only [reads_iff answers, exists_eq_left, members]
  exact any_holdsClaim covers subject claimType

theorem reads_hasValidClaimFromIssuer [DecidableEq Address] :
    (∃ issuer, Reads (hasValidClaimFromIssuer subject claimType issuer) env world true) ↔
      Claimed world.storage env.timestamp subject claimType := by
  have search : ∀ issuer, Reads (hasValidClaimFromIssuer subject claimType issuer) env world true ↔
      ∃ id attestation, world.storage.attestation id = some attestation ∧
        attestation.subject = subject ∧ attestation.deleted = false ∧
        (holdsClaim claimType env.timestamp attestation &&
          decide (attestation.issuer = issuer)) = true := by
    intro issuer
    rw [reads_iff (answers_hasValidClaimFromIssuer subject claimType issuer), eq_comm]
    exact any_finds env.timestamp covers.bySubject subject fun attestation passes => by
      simp_all [holdsClaim]
  simp only [search, holdsClaim, Claimed]
  constructor
  · rintro ⟨issuer, id, attestation, found, owned, undeleted, passes⟩
    refine ⟨id, attestation, found, owned, ?_⟩
    grind
  · rintro ⟨id, attestation, found, owned, type, undeleted, valid⟩
    refine ⟨attestation.issuer, id, attestation, found, owned, undeleted, ?_⟩
    grind

theorem reads_hasAnyClaim :
    Reads (hasAnyClaim subject claimTypes) env world true ↔
      ∃ claimType ∈ claimTypes, Claimed world.storage env.timestamp subject claimType := by
  rw [reads_iff (answers_hasAnyClaim subject claimTypes), eq_comm, List.any_eq_true]
  simp only [any_holdsClaim covers]

theorem reads_hasAllClaims :
    Reads (hasAllClaims subject claimTypes) env world true ↔
      ∀ claimType ∈ claimTypes, Claimed world.storage env.timestamp subject claimType := by
  rw [reads_iff (answers_hasAllClaims subject claimTypes), eq_comm, List.all_eq_true]
  simp only [any_holdsClaim covers]

end Agreement

/-- In every reachable state all claim readers say what the store says. -/
theorem claim_readers_agree {Address : Type} [DecidableEq Address] [Host Address]
    (sound : Host.Sound Address) (calls : List (Call Address)) (env : Env Address)
    (subject : Address) :
    (∀ claimType,
      [Reads (hasValidClaim subject claimType) env (run calls) true,
        ∃ attestation,
          Reads (getAttestationByType subject claimType) env (run calls) (some attestation),
        ∃ claims, Reads (getValidClaims subject) env (run calls) claims ∧ claimType ∈ claims,
        ∃ issuer, Reads (hasValidClaimFromIssuer subject claimType issuer) env (run calls) true,
        Claimed (run calls).storage env.timestamp subject claimType].TFAE) ∧
    (∀ claimTypes,
      (Reads (hasAnyClaim subject claimTypes) env (run calls) true ↔
        ∃ claimType ∈ claimTypes, Reads (hasValidClaim subject claimType) env (run calls) true) ∧
      (Reads (hasAllClaims subject claimTypes) env (run calls) true ↔
        ∀ claimType ∈ claimTypes, Reads (hasValidClaim subject claimType) env (run calls) true)) ∧
    ∃ claims, Reads (getValidClaims subject) env (run calls) claims ∧ claims.Nodup := by
  have covers := covers_run sound calls
  refine ⟨fun claimType => ?_, fun claimTypes => ⟨?_, ?_⟩, ?_⟩
  · tfae_have 1 ↔ 5 := reads_hasValidClaim covers subject claimType
    tfae_have 2 ↔ 5 := reads_getAttestationByType covers subject claimType
    tfae_have 3 ↔ 5 := reads_getValidClaims covers subject claimType
    tfae_have 4 ↔ 5 := reads_hasValidClaimFromIssuer covers subject claimType
    tfae_finish
  · simp only [reads_hasAnyClaim covers, reads_hasValidClaim covers]
  · simp only [reads_hasAllClaims covers, reads_hasValidClaim covers]
  · obtain ⟨claims, answers, once, -⟩ :=
      answers_getValidClaims env (run calls).storage subject
    exact ⟨claims, (reads_iff answers claims).mpr rfl, once⟩

open Xdr in
theorem claim_readers_agree_sample :
    Reads (hasValidClaim (contractId 2) (ascii "KYC")) sampleIssuance.env
        (run (sampleDeployment ++ [sampleIssuance])) true ∧
      ∃ attestation, Reads (getAttestationByType (contractId 2) (ascii "KYC")) sampleIssuance.env
        (run (sampleDeployment ++ [sampleIssuance])) (some attestation) := by
  have stored : ((run (sampleDeployment ++ [sampleIssuance])).storage.attestation sampleId).any
      (fun attestation => decide (attestation.subject = contractId 2 ∧
        attestation.claimType = ascii "KYC" ∧ attestation.deleted = false ∧
        attestation.getStatus sampleIssuance.env.timestamp = .valid)) = true := by
    decide +kernel
  obtain ⟨attestation, found, holds⟩ := (Option.any_eq_true ..).mp stored
  have claimed : Claimed (run (sampleDeployment ++ [sampleIssuance])).storage
      sampleIssuance.env.timestamp (contractId 2) (ascii "KYC") :=
    ⟨sampleId, attestation, found, of_decide_eq_true holds⟩
  have agree := (claim_readers_agree sampleHost_sound (sampleDeployment ++ [sampleIssuance])
    sampleIssuance.env (contractId 2)).1 (ascii "KYC")
  exact ⟨(agree.out 0 4).mpr claimed, (agree.out 1 4).mpr claimed⟩

end TrustLink
