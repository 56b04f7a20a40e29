import TrustLink.BatchCreation

/-!
Two direct issuances by different issuers about different subjects can change
places. What the checks of one read is kept by the writes of the other, and
their writes meet in the global total only.
-/
namespace TrustLink
open Transaction Contract

/-- A `create_attestation` call with the environment it is made in. -/
structure Creation (Address : Type) where
  env : Env Address
  issuer : Address
  subject : Address
  claimType : Str
  expiration : Option Nat
  metadata : Option Str
  tags : Option (List Str)

section Update
variable {Key Value : Type} [DecidableEq Key] {first second : Key}

/-- Two entries are rewritten from their own values in either order. -/
theorem update_apart (apart : first ≠ second) (f : Key → Value) (change other : Value → Value) :
    Function.update (Function.update f first (change (f first))) second
        (other (Function.update f first (change (f first)) second)) =
      Function.update (Function.update f second (other (f second))) first
        (change (Function.update f second (other (f second)) first)) := by
  rw [Function.update_of_ne apart.symm, Function.update_of_ne apart, Function.update_comm apart]

end Update

section Writes
variable {Address : Type} [DecidableEq Address]

def createdEntry (record : Attestation Address) : AuditEntry Address :=
  ⟨.created, record.issuer, record.timestamp, none⟩

def oneMore (stats : IssuerStats) : IssuerStats := ⟨stats.totalIssued + 1⟩

/-- The storage a direct issuance leaves. -/
def withCreated (storage : Storage Address) (record : Attestation Address) : Storage Address :=
  { storage.withIssued record with
    auditLog := Function.update storage.auditLog record.id
      (storage.auditLog record.id ++ [createdEntry record])
    lastIssuanceTime :=
      Function.update storage.lastIssuanceTime record.issuer (some record.timestamp) }

/-- The records of two issuances share no key of storage. -/
structure Apart (first second : Attestation Address) : Prop where
  ids : first.id ≠ second.id
  issuers : first.issuer ≠ second.issuer
  subjects : first.subject ≠ second.subject

omit [DecidableEq Address] in
theorem Apart.symm {first second : Attestation Address} (apart : Apart first second) :
    Apart second first :=
  ⟨apart.ids.symm, apart.issuers.symm, apart.subjects.symm⟩

theorem withCreated_comm (storage : Storage Address) {first second : Attestation Address}
    (apart : Apart first second) :
    withCreated (withCreated storage first) second =
      withCreated (withCreated storage second) first := by
  simp only [withCreated, Storage.withIssued, Storage.mk.injEq, true_and, and_true]
  refine ⟨Function.update_comm apart.ids .., ?subjectAttestations, ?validAttestations,
    ?issuerAttestations, ?subjectChunk, ?issuerChunk, ?issuerStats,
    Function.update_comm apart.issuers .., ?auditLog⟩
  case subjectAttestations =>
    exact update_apart apart.subjects _ (· ++ [first.id]) (· ++ [second.id])
  case validAttestations =>
    exact update_apart apart.subjects _ (· ++ [first.id]) (· ++ [second.id])
  case issuerAttestations =>
    exact update_apart apart.issuers _ (· ++ [first.id]) (· ++ [second.id])
  case subjectChunk =>
    exact update_apart apart.subjects _ (ChunkedIndex.rewritten (· ++ [first.id]))
      (ChunkedIndex.rewritten (· ++ [second.id]))
  case issuerChunk =>
    exact update_apart apart.issuers _ (ChunkedIndex.rewritten (· ++ [first.id]))
      (ChunkedIndex.rewritten (· ++ [second.id]))
  case issuerStats =>
    exact update_apart apart.issuers _ oneMore oneMore
  case auditLog =>
    exact update_apart apart.ids _ (· ++ [createdEntry first]) (· ++ [createdEntry second])

end Writes

section Order
variable {Address : Type} [DecidableEq Address] [Host Address] (creation : Creation Address)
  {before after : World Address} {storage : Storage Address}

def Creation.Succeeds (before : World Address) (id : Str) (after : World Address) : Prop :=
  Returns (createAttestation creation.issuer creation.subject creation.claimType
    creation.expiration creation.metadata creation.tags) creation.env before id after

/-- The attestation the call stores. -/
def Creation.record : Attestation Address :=
  { Attestation.issued (Attestation.generateId creation.issuer creation.subject
      creation.claimType creation.env.timestamp) creation.issuer creation.subject
      creation.claimType creation.env.timestamp .native with
    expiration := creation.expiration
    metadata := creation.metadata
    tags := creation.tags }

/-- The world the call leaves when nothing is charged. -/
def Creation.made (world : World Address) : World Address :=
  ⟨withCreated world.storage creation.record,
    world.events ++ [.attestationCreated creation.record], world.payments⟩

def Creation.Checks (storage : Storage Address) : Prop :=
  CreateChecks storage creation.env creation.issuer creation.subject creation.claimType
    creation.expiration creation.metadata none creation.tags none creation.record

omit [DecidableEq Address] [Host Address] in
theorem feePaid_free {feeConfig : Option (FeeConfig Address)} {env : Env Address}
    {issuer : Address} {paid : List (Payment Address)}
    (free : ∀ config ∈ feeConfig, config.attestationFee = 0) :
    FeePaid feeConfig env issuer paid ↔ feeConfig.isSome = true ∧ paid = [] := by
  cases feeConfig with
  | none => simp [FeePaid]
  | some config => simp [FeePaid, free config rfl]

/-- What a call that succeeds for free has checked and written. -/
theorem Creation.succeeds_iff {id : Str}
    (free : ∀ config ∈ before.storage.feeConfig, config.attestationFee = 0) :
    creation.Succeeds before id after ↔
      creation.Checks before.storage ∧ id = creation.record.id ∧
        before.storage.feeConfig.isSome = true ∧ after = creation.made before := by
  rw [Creation.Succeeds, createAttestation,
    returns_createAttestationInternal _ _ _ _ _ none _ none _ creation.record rfl]
  simp only [feePaid_free free]
  constructor
  · rintro ⟨checks, same, _, ⟨initialized, rfl⟩, rfl⟩
    exact ⟨checks, same, initialized, by rw [List.append_nil]; rfl⟩
  · rintro ⟨checks, same, initialized, rfl⟩
    exact ⟨checks, same, [], ⟨initialized, rfl⟩, by rw [List.append_nil]; rfl⟩

/-- No check of one issuance reads what the other writes. -/
theorem Creation.checks_withCreated {other : Attestation Address}
    (apart : Apart other creation.record) :
    creation.Checks (withCreated storage other) ↔ creation.Checks storage := by
  have issued : (withCreated storage other).lastIssuanceTime creation.issuer =
      storage.lastIssuanceTime creation.issuer := Function.update_of_ne apart.issuers.symm ..
  have issuerIds : (withCreated storage other).issuerAttestations creation.issuer =
      storage.issuerAttestations creation.issuer := Function.update_of_ne apart.issuers.symm ..
  have subjectIds : (withCreated storage other).subjectAttestations creation.subject =
      storage.subjectAttestations creation.subject := Function.update_of_ne apart.subjects.symm ..
  have found : (withCreated storage other).attestation creation.record.id =
      storage.attestation creation.record.id := Function.update_of_ne apart.ids.symm ..
  have stats : (withCreated storage other).issuerStats creation.issuer =
      storage.issuerStats creation.issuer := Function.update_of_ne apart.issuers.symm ..
  have subjectChunks : (withCreated storage other).subjectAttestationChunk creation.subject =
      storage.subjectAttestationChunk creation.subject :=
    Function.update_of_ne apart.subjects.symm ..
  have issuerChunks : (withCreated storage other).issuerAttestationChunk creation.issuer =
      storage.issuerAttestationChunk creation.issuer :=
    Function.update_of_ne apart.issuers.symm ..
  have rate : RateAllows (withCreated storage other) creation.env.timestamp creation.issuer
      creation.claimType ↔
      RateAllows storage creation.env.timestamp creation.issuer creation.claimType := by
    simp only [RateAllows, issued]
    rfl
  have fits : StoreFits (withCreated storage other) creation.record ↔
      StoreFits storage creation.record := by
    constructor
    · rintro ⟨ttl, total, subject, issuer⟩
      exact ⟨ttl, stats ▸ total, subjectChunks ▸ subject, issuerChunks ▸ issuer⟩
    · rintro ⟨ttl, total, subject, issuer⟩
      exact ⟨ttl, stats.symm ▸ total, subjectChunks.symm ▸ subject, issuerChunks.symm ▸ issuer⟩
  constructor
  · intro checks
    exact { checks with
      rate := rate.mp checks.rate
      issuerRoom := issuerIds ▸ checks.issuerRoom
      subjectRoom := subjectIds ▸ checks.subjectRoom
      fresh := found ▸ checks.fresh
      fits := fits.mp checks.fits }
  · intro checks
    exact { checks with
      rate := rate.mpr checks.rate
      issuerRoom := issuerIds.symm ▸ checks.issuerRoom
      subjectRoom := subjectIds.symm ▸ checks.subjectRoom
      fresh := found.symm ▸ checks.fresh
      fits := fits.mpr checks.fits }

/-- Creating both attestations in one order is possible only where the other order is, and
both leave the same storage. -/
theorem creations_commute {world middle final : World Address} {first second : Creation Address}
    {id other : Str}
    (free : ∀ config ∈ world.storage.feeConfig, config.attestationFee = 0)
    (issuers : first.issuer ≠ second.issuer) (subjects : first.subject ≠ second.subject)
    (early : first.Succeeds world id middle) (late : second.Succeeds middle other final) :
    ∃ between last, second.Succeeds world other between ∧ first.Succeeds between id last ∧
      last.storage = final.storage := by
  obtain ⟨checks, rfl, initialized, rfl⟩ := (first.succeeds_iff free).mp early
  obtain ⟨passed, rfl, -, rfl⟩ := (second.succeeds_iff (by exact free)).mp late
  have ids : first.record.id ≠ second.record.id := by
    intro same
    have taken : (withCreated world.storage first.record).attestation second.record.id = none :=
      passed.fresh
    rw [← same] at taken
    cases (Function.update_self ..).symm.trans taken
  have apart : Apart first.record second.record := ⟨ids, issuers, subjects⟩
  refine ⟨_, _, (second.succeeds_iff free).mpr
    ⟨(second.checks_withCreated apart).mp passed, rfl, initialized, rfl⟩,
    (first.succeeds_iff (by exact free)).mpr
      ⟨(first.checks_withCreated apart.symm).mpr checks, rfl, initialized, rfl⟩, ?_⟩
  exact withCreated_comm world.storage apart.symm

end Order

section Sample
open Xdr

/-- Issuer 1 attests about contract 2, and issuer 3 about issuer 1. -/
def sampleFirst : Creation ContractId :=
  ⟨⟨1000, [contractId 1], fun _ => true, fun _ => true⟩, contractId 1, contractId 2, ascii "KYC",
    none, none, none⟩

def sampleSecond : Creation ContractId :=
  ⟨⟨1000, [contractId 3], fun _ => true, fun _ => true⟩, contractId 3, contractId 1, ascii "KYC",
    none, none, none⟩

theorem creations_commute_sample :
    ∃ id other middle final between last,
      sampleFirst.Succeeds (run sampleDeployment) id middle ∧
      sampleSecond.Succeeds middle other final ∧
      sampleSecond.Succeeds (run sampleDeployment) other between ∧
      sampleFirst.Succeeds between id last ∧ last.storage = final.storage := by
  have free : ∀ config ∈ (run sampleDeployment).storage.feeConfig, config.attestationFee = 0 := by
    decide +kernel
  obtain ⟨id, middle, early, -⟩ := exists_returns (createAttestation (contractId 1) (contractId 2)
    (ascii "KYC") none none none) sampleFirst.env (run sampleDeployment) (fun _ _ => ()) ()
    (by decide +kernel)
  obtain ⟨-, -, -, rfl⟩ := (sampleFirst.succeeds_iff free).mp early
  obtain ⟨other, final, late, -⟩ := exists_returns (createAttestation (contractId 3) (contractId 1)
    (ascii "KYC") none none none) sampleSecond.env (sampleFirst.made (run sampleDeployment))
    (fun _ _ => ()) () (by decide +kernel)
  obtain ⟨between, last, first, second, same⟩ :=
    @creations_commute _ _ _ _ _ _ sampleFirst sampleSecond id other free (by decide) (by decide)
      early late
  exact ⟨id, other, _, final, between, last, early, late, first, second, same⟩

end Sample
end TrustLink
