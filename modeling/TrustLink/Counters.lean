import TrustLink.ChunkSync
import TrustLink.Effects
import TrustLink.Lib.Census

/-!
The counters against the store. `Tally` is what the counters stand for: numbers
that each change of the register moves by one. The contract's own counters
saturate, and follow the tally as long as it fits 64 bits.
-/
namespace TrustLink
open Transaction Contract

section Tallies
variable {Address : Type}

structure Tally (Address : Type) where
  attestations : Nat
  revocations : Nat
  issued : Address → Nat

def Storage.tally (storage : Storage Address) : Tally Address where
  attestations := storage.globalStats.totalAttestations
  revocations := storage.globalStats.totalRevocations
  issued := fun issuer => (storage.issuerStats issuer).totalIssued

/-- Every number is one that a counter can hold. -/
structure Tally.Small (tally : Tally Address) : Prop where
  attestations : tally.attestations < u64Range
  revocations : tally.revocations < u64Range
  issued : ∀ issuer, tally.issued issuer < u64Range

/-- The numbers of records, of revoked ones and of those of each issuer. -/
noncomputable def census (register : Register Address) : Tally Address where
  attestations := Census.total register.record
  revocations := Census.count register.record (·.revoked = true)
  issued := fun issuer => Census.count register.record (·.issuer = issuer)

theorem census_small {register : Register Address} (finite : (Census.stored register.record).Finite)
    (small : Census.total register.record < u64Range) : (census register).Small where
  attestations := small
  revocations := Nat.lt_of_le_of_lt (Census.count_le finite _) small
  issued _ := Nat.lt_of_le_of_lt (Census.count_le finite _) small

/-- The change makes the difference it is named for. -/
def Effective : Change Address → Prop
  | .issue attestation | .revoke attestation _ | .revokeInBatch attestation _ =>
      attestation.revoked = false
  | .transfer attestation newIssuer => attestation.issuer ≠ newIssuer
  | .amend _ _ | .erase _ => True

variable [DecidableEq Address]

def Tally.apply (tally : Tally Address) : Change Address → Tally Address
  | .issue attestation => { tally with
      attestations := tally.attestations + 1
      issued := Function.update tally.issued attestation.issuer
        (tally.issued attestation.issuer + 1) }
  | .revoke _ _ | .revokeInBatch _ _ => { tally with revocations := tally.revocations + 1 }
  | .transfer attestation newIssuer => { tally with
      issued := Function.update
        (Function.update tally.issued attestation.issuer
          (tally.issued attestation.issuer - 1))
        newIssuer (tally.issued newIssuer + 1) }
  | .amend _ _ | .erase _ => tally

/-- The census of the register moves as the tally does. -/
theorem census_apply {register : Register Address} {change : Change Address}
    (finite : (Census.stored register.record).Finite) (orderly : Orderly register change)
    (effective : Effective change) :
    census (register.apply change) = (census register).apply change := by
  simp only [census, Census.total, Register.record_apply]
  cases change with
  | issue attestation =>
      have free : register.record attestation.id = none := orderly
      have active : attestation.revoked = false := effective
      simp only [Change.written, Tally.apply, Tally.mk.injEq]
      refine ⟨Census.count_add finite free trivial, Census.count_add_other free (by simp [active]),
        funext fun issuer => ?_⟩
      by_cases own : issuer = attestation.issuer
      · subst own
        rw [Function.update_self]
        exact Census.count_add finite free rfl
      · rw [Function.update_of_ne own]
        exact Census.count_add_other free (Ne.symm own)
  | amend attestation _ | erase attestation =>
      -- neither the issuer nor the revoked flag changes
      have found : register.record attestation.id = some attestation := orderly
      simp only [Change.written, Tally.apply, Tally.mk.injEq]
      exact ⟨Census.count_replace found Iff.rfl, Census.count_replace found Iff.rfl,
        funext fun issuer => Census.count_replace found Iff.rfl⟩
  | revoke attestation reason | revokeInBatch attestation reason =>
      have found : register.record attestation.id = some attestation := orderly
      have active : ¬ attestation.revoked = true := ne_true_of_eq_false effective
      simp only [Change.written, Tally.apply, Tally.mk.injEq]
      exact ⟨Census.count_replace found Iff.rfl, Census.count_enter finite found active rfl,
        funext fun issuer => Census.count_replace found Iff.rfl⟩
  | transfer attestation newIssuer =>
      have found : register.record attestation.id = some attestation := orderly
      have moved : attestation.issuer ≠ newIssuer := effective
      simp only [Change.written, Tally.apply, Tally.mk.injEq]
      refine ⟨Census.count_replace found Iff.rfl, Census.count_replace found Iff.rfl,
        funext fun issuer => ?_⟩
      -- the record enters the count of one issuer and leaves that of another
      by_cases new : issuer = newIssuer
      · subst new
        rw [Function.update_self]
        exact Census.count_enter finite found moved rfl
      · rw [Function.update_of_ne new]
        by_cases own : issuer = attestation.issuer
        · subst own
          rw [Function.update_self]
          exact Census.count_leave found rfl (Ne.symm moved)
        · rw [Function.update_of_ne own]
          exact Census.count_replace found (iff_of_false (Ne.symm own) (Ne.symm new))

theorem census_run {register : Register Address} {changes : List (Change Address)}
    (finite : (Census.stored register.record).Finite)
    (orderly : Trace.Each Register.apply Orderly register changes)
    (effective : ∀ change ∈ changes, Effective change) :
    census (Trace.run Register.apply register changes) =
        Trace.run Tally.apply (census register) changes ∧
      (Census.stored (Trace.run Register.apply register changes).record).Finite ∧
      Census.total register.record ≤
        Census.total (Trace.run Register.apply register changes).record := by
  induction changes generalizing register with
  | nil => exact ⟨rfl, finite, Nat.le_refl _⟩
  | cons change rest ih =>
      have applied : (Census.stored (register.apply change).record).Finite :=
        Census.finite_update finite
      obtain ⟨same, bounded, grows⟩ := ih applied orderly.2
        fun other member => effective other (by simp [member])
      refine ⟨?_, bounded, Nat.le_trans (Census.total_le_update finite) grows⟩
      rw [Trace.run_cons, Trace.run_cons, same,
        census_apply finite orderly.1 (effective change (by simp))]

/-- A batch of issuances in the name of one issuer. -/
theorem run_tally_issues (tally : Tally Address) {issuer : Address}
    {records : List (Attestation Address)} (own : ∀ record ∈ records, record.issuer = issuer) :
    Trace.run Tally.apply tally (records.map .issue) = { tally with
      attestations := tally.attestations + records.length
      issued := Function.update tally.issued issuer (tally.issued issuer + records.length) } := by
  induction records generalizing tally with
  | nil => simp
  | cons record rest ih =>
      rw [List.map_cons, Trace.run_cons, ih _ fun other member => own other (by simp [member])]
      simp [Tally.apply, own record (by simp), Nat.add_assoc, Nat.add_comm 1]

theorem run_tally_revocations (tally : Tally Address) (reason : Option Str)
    (records : List (Attestation Address)) :
    Trace.run Tally.apply tally (records.map (.revokeInBatch · reason)) =
      { tally with revocations := tally.revocations + records.length } := by
  induction records generalizing tally with
  | nil => rfl
  | cons record rest ih =>
      rw [List.map_cons, Trace.run_cons, ih]
      simp [Tally.apply, Nat.add_assoc, Nat.add_comm 1]

end Tallies

section Contract
variable {Address : Type} [DecidableEq Address]

theorem saturatingAddU64_of_lt {left right : Nat} (small : left + right < u64Range) :
    saturatingAddU64 left right = left + right := by
  unfold saturatingAddU64
  omega

theorem saturatingAddU64_assoc (base first second : Nat) :
    saturatingAddU64 (saturatingAddU64 base first) second =
      saturatingAddU64 base (first + second) := by
  unfold saturatingAddU64
  omega

theorem totalIssued_update (stats : Address → IssuerStats) (issuer : Address) (total : Nat) :
    (fun other => (Function.update stats issuer ⟨total⟩ other).totalIssued) =
      Function.update (fun other => (stats other).totalIssued) issuer total := by
  funext other
  by_cases here : other = issuer
  · subst here
    rw [Function.update_self, Function.update_self]
  · rw [Function.update_of_ne here, Function.update_of_ne here]

theorem tally_withIssued {storage : Storage Address} {attestation : Attestation Address}
    (small : (storage.tally.apply (.issue attestation)).Small) :
    (storage.withIssued attestation).tally = storage.tally.apply (.issue attestation) := by
  simp only [Storage.tally, Storage.withIssued, totalIssued_update, Tally.apply, Tally.mk.injEq,
    and_true]
  exact saturatingAddU64_of_lt small.attestations

variable [Host Address] {env : Env Address} {before after : World Address}

theorem tally_createAttestationsBatch {issuer : Address} {subjects : List Address}
    {claimType : Str} {expiration : Option Nat} {ids : List Str}
    (accepted : Returns (createAttestationsBatch issuer subjects claimType expiration)
      env before ids after)
    (small : (Trace.run Tally.apply before.storage.tally (subjects.map fun subject =>
      .issue (batchRecord issuer claimType expiration env.timestamp subject))).Small) :
    after.storage.tally = Trace.run Tally.apply before.storage.tally (subjects.map fun subject =>
      .issue (batchRecord issuer claimType expiration env.timestamp subject)) := by
  obtain ⟨records, built⟩ : ∃ records,
      records = subjects.map (batchRecord issuer claimType expiration env.timestamp) := ⟨_, rfl⟩
  obtain ⟨-, -, rfl⟩ := (returns_createAttestationsBatch _ _ _ _ _ records built).mp accepted
  have changes : (subjects.map fun subject =>
      Change.issue (batchRecord issuer claimType expiration env.timestamp subject)) =
        records.map .issue := by
    rw [built, List.map_map]
    rfl
  have own : ∀ record ∈ records, record.issuer = issuer := by
    intro record member
    rw [built] at member
    obtain ⟨subject, -, rfl⟩ := List.mem_map.mp member
    rfl
  rw [changes, run_tally_issues _ own] at small ⊢
  have issued : before.storage.tally.issued issuer + records.length < u64Range := by
    simpa using small.issued issuer
  simp only [Storage.tally, totalIssued_update, Tally.mk.injEq, true_and]
  exact ⟨saturatingAddU64_of_lt small.attestations,
    congrArg _ (saturatingAddU64_of_lt issued)⟩

omit [Host Address] in
theorem tally_revokeAttestationsBatch {issuer : Address} {ids : List Str} {reason : Option Str}
    {count : Nat} (accepted : Returns (revokeAttestationsBatch issuer ids reason) env before count
      after)
    (small : (Trace.run Tally.apply before.storage.tally (ids.flatMap fun id =>
      (before.storage.attestation id).toList.map (.revokeInBatch · reason))).Small) :
    after.storage.tally = Trace.run Tally.apply before.storage.tally (ids.flatMap fun id =>
      (before.storage.attestation id).toList.map (.revokeInBatch · reason)) := by
  obtain ⟨records, ⟨-, -, -, -, -, -, revocable, -⟩, -, rfl⟩ :=
    (returns_revokeAttestationsBatch ..).mp accepted
  rw [map_of_revocable _ revocable, run_tally_revocations] at small ⊢
  have stats : (Trace.run (withBatchRevoked issuer reason env.timestamp) before.storage
      records).issuerStats = before.storage.issuerStats :=
    Trace.run_keeps (withBatchRevoked issuer reason env.timestamp) (·.issuerStats) (fun _ _ => rfl)
      _ _
  by_cases empty : records = []
  · subst empty
    rfl
  · simp only [Storage.tally, empty, ↓reduceIte, stats, Tally.mk.injEq, true_and, and_true]
    exact saturatingAddU64_of_lt small.revocations

theorem AttestationOp.tally (op : AttestationOp Address)
    (accepted : Returns op.exec env before () after)
    (small : (Trace.run Tally.apply before.storage.tally
      (op.changes before.storage env.timestamp)).Small) :
    after.storage.tally =
      Trace.run Tally.apply before.storage.tally (op.changes before.storage env.timestamp) := by
  cases op with
  | createAttestation | createAttestationValidFrom | createAttestationJurisdiction
  | importAttestation | bridgeAttestation | createAttestationAsDelegate =>
      obtain ⟨-, -, -, -, -, -, entry, event, times, payments, -, -, rfl⟩ :=
        AttestationOp.issues_one accepted rfl
      exact tally_withIssued small
  | createAttestationsBatch issuer subjects claimType expiration =>
      obtain ⟨ids, accepted⟩ := (returns_void ..).mp accepted
      exact tally_createAttestationsBatch accepted small
  | revokeAttestation issuer id reason =>
      obtain ⟨attestation, managed, -, -, -, rfl⟩ := (returns_revokeAttestation ..).mp accepted
      rw [changes_revokeAttestation issuer reason managed.found, Trace.run_cons,
        Trace.run_nil] at small ⊢
      simp only [Storage.tally, Tally.apply, Tally.mk.injEq, true_and, and_true]
      exact saturatingAddU64_of_lt small.revocations
  | renewAttestation issuer id newExpiration =>
      obtain ⟨attestation, managed, -, details, -, rfl⟩ :=
        (returns_renewAttestation ..).mp accepted
      rw [changes_renewAttestation issuer newExpiration managed.found]
      rfl
  | revokeAttestationsBatch issuer ids reason =>
      obtain ⟨count, accepted⟩ := (returns_void ..).mp accepted
      exact tally_revokeAttestationsBatch accepted small
  | updateExpiration issuer id newExpiration =>
      obtain ⟨attestation, managed, -, rfl⟩ := (returns_updateExpiration ..).mp accepted
      rw [changes_updateExpiration issuer newExpiration managed.found]
      rfl
  | transferAttestation admin id newIssuer =>
      obtain ⟨attestation, ⟨-, -, -, found⟩, ⟨same, rfl⟩ | ⟨moved, -, rfl⟩⟩ :=
        (returns_transferAttestation ..).mp accepted
      · rw [changes_transfer_same admin found same, Trace.run_nil]
      · rw [changes_transferAttestation admin found moved, Trace.run_cons, Trace.run_nil] at small ⊢
        have issued := small.issued newIssuer
        simp only [Tally.apply, Function.update_self] at issued
        simp only [Storage.tally, totalIssued_update, Tally.apply, Tally.mk.injEq, true_and]
        exact congrArg _ (saturatingAddU64_of_lt issued)
  | requestDeletion subject id =>
      obtain ⟨attestation, ⟨-, found, -, -, -⟩, rfl⟩ := (returns_requestDeletion ..).mp accepted
      rw [changes_requestDeletion subject found]
      rfl
  | endorseAttestation endorser id =>
      obtain ⟨-, rfl⟩ := (returns_endorseAttestation ..).mp accepted
      rfl

theorem RequestOp.tally (op : RequestOp Address) (accepted : Returns op.exec env before () after)
    (small : (Trace.run Tally.apply before.storage.tally
      (op.changes before.storage env.timestamp)).Small) :
    after.storage.tally =
      Trace.run Tally.apply before.storage.tally (op.changes before.storage env.timestamp) := by
  cases op.outcome accepted with
  | fulfillRequest built checks =>
      subst built
      rw [changes_fulfillRequest _ _ checks.found] at small ⊢
      exact tally_withIssued small
  | _ => rfl

omit [DecidableEq Address] [Host Address] in
theorem Unrecorded.tally (kept : Unrecorded before after) :
    after.storage.tally = before.storage.tally := by
  rw [Storage.tally, kept.totalAttestations, kept.totalRevocations, kept.issuerStats]
  rfl

/-- Outside multi-sig the counters follow the tally of the call's changes, as
long as it is small. -/
theorem tally_of_accepted {call : Call Address} (direct : ∀ op, call.op ≠ .multisig op)
    (accepted : Accepted before call after)
    (small : (Trace.run Tally.apply before.storage.tally (call.changes before.storage)).Small) :
    after.storage.tally =
      Trace.run Tally.apply before.storage.tally (call.changes before.storage) := by
  obtain ⟨env, op⟩ := call
  cases op with
  | attestation op => exact op.tally accepted small
  | request op => exact op.tally accepted small
  | multisig op => exact absurd rfl (direct op)
  | council op => exact (op.keeps accepted).2.1.tally
  | admin op => exact (op.keeps accepted).1.tally

theorem AttestationOp.effective (op : AttestationOp Address)
    (accepted : Returns op.exec env before () after) :
    ∀ change ∈ op.changes before.storage env.timestamp, Effective change := by
  cases op with
  | revokeAttestation issuer id reason =>
      obtain ⟨attestation, managed, -⟩ := (returns_revokeAttestation ..).mp accepted
      simp [AttestationOp.changes, managed.found, Effective, managed.active]
  | revokeAttestationsBatch issuer ids reason =>
      obtain ⟨count, accepted⟩ := (returns_void ..).mp accepted
      obtain ⟨records, ⟨-, -, -, -, -, -, revocable, -⟩, -⟩ :=
        (returns_revokeAttestationsBatch ..).mp accepted
      intro change member
      obtain ⟨id, listed, member⟩ := List.mem_flatMap.mp member
      obtain ⟨record, checks⟩ := revocable_of_mem revocable id listed
      simp only [checks.found, Option.toList_some, List.map_cons, List.map_nil,
        List.mem_singleton] at member
      subst member
      exact checks.active
  | transferAttestation admin id newIssuer =>
      intro change member
      simp only [AttestationOp.changes, List.mem_map, List.mem_filter, decide_eq_true_eq] at member
      obtain ⟨attestation, ⟨-, moved⟩, rfl⟩ := member
      exact moved
  | _ => simp [AttestationOp.changes, Effective, nativeRecord, batchRecord]

theorem effective_of_accepted {call : Call Address} (direct : ∀ op, call.op ≠ .multisig op)
    (accepted : Accepted before call after) :
    ∀ change ∈ call.changes before.storage, Effective change := by
  obtain ⟨env, op⟩ := call
  cases op with
  | attestation op => exact op.effective accepted
  | request op => cases op <;> simp [Call.changes, RequestOp.changes, Effective, nativeRecord]
  | multisig op => exact absurd rfl (direct op)
  | council op => simp [Call.changes]
  | admin op => simp [Call.changes]

end Contract

section Bounds
variable {Address : Type} [DecidableEq Address]

/-- The counters of issuance are `u64`s. -/
structure CountersFit (storage : Storage Address) : Prop where
  attestations : storage.globalStats.totalAttestations < u64Range
  issued : ∀ issuer, (storage.issuerStats issuer).totalIssued < u64Range

omit [DecidableEq Address] in
theorem saturatingAddU64_lt (left right : Nat) : saturatingAddU64 left right < u64Range :=
  Nat.lt_of_le_of_lt (Nat.min_le_right ..) (by decide)

theorem issued_update {stats : Address → IssuerStats} {issuer : Address} {total : Nat}
    (fits : ∀ issuer, (stats issuer).totalIssued < u64Range) (small : total < u64Range)
    (other : Address) : (Function.update stats issuer ⟨total⟩ other).totalIssued < u64Range := by
  by_cases here : other = issuer
  · subst here
    rw [Function.update_self]
    exact small
  · rw [Function.update_of_ne here]
    exact fits other

theorem CountersFit.withIssued {storage : Storage Address} {attestation : Attestation Address}
    (fits : CountersFit storage) (stored : StoreFits storage attestation) :
    CountersFit (storage.withIssued attestation) :=
  ⟨saturatingAddU64_lt .., issued_update fits.issued stored.total⟩

variable [Host Address] {env : Env Address} {before after : World Address}

theorem AttestationOp.countersFit (op : AttestationOp Address) (fits : CountersFit before.storage)
    (accepted : Returns op.exec env before () after) : CountersFit after.storage := by
  cases op with
  | createAttestation | createAttestationValidFrom | createAttestationJurisdiction
  | importAttestation | bridgeAttestation | createAttestationAsDelegate =>
      obtain ⟨-, -, -, -, -, stored, entry, event, times, payments, -, -, rfl⟩ :=
        AttestationOp.issues_one accepted rfl
      exact ⟨(fits.withIssued stored).attestations, (fits.withIssued stored).issued⟩
  | createAttestationsBatch issuer subjects claimType expiration =>
      obtain ⟨ids, accepted⟩ := (returns_void ..).mp accepted
      obtain ⟨-, -, rfl⟩ := (returns_createAttestationsBatch _ _ _ _ _ _ rfl).mp accepted
      exact ⟨saturatingAddU64_lt .., issued_update fits.issued (saturatingAddU64_lt ..)⟩
  | revokeAttestation issuer id reason =>
      obtain ⟨attestation, -, -, -, -, rfl⟩ := (returns_revokeAttestation ..).mp accepted
      exact ⟨fits.attestations, fits.issued⟩
  | renewAttestation issuer id newExpiration =>
      obtain ⟨attestation, -, -, details, -, rfl⟩ := (returns_renewAttestation ..).mp accepted
      exact ⟨fits.attestations, fits.issued⟩
  | revokeAttestationsBatch issuer ids reason =>
      obtain ⟨count, accepted⟩ := (returns_void ..).mp accepted
      obtain ⟨records, -, -, rfl⟩ := (returns_revokeAttestationsBatch ..).mp accepted
      have stats : (Trace.run (withBatchRevoked issuer reason env.timestamp) before.storage
          records).issuerStats = before.storage.issuerStats :=
        Trace.run_keeps (withBatchRevoked issuer reason env.timestamp) (·.issuerStats)
          (fun _ _ => rfl) _ _
      refine ⟨?_, stats ▸ fits.issued⟩
      by_cases empty : records = [] <;> simpa [empty] using fits.attestations
  | updateExpiration issuer id newExpiration =>
      obtain ⟨attestation, -, -, rfl⟩ := (returns_updateExpiration ..).mp accepted
      exact ⟨fits.attestations, fits.issued⟩
  | transferAttestation admin id newIssuer =>
      obtain ⟨attestation, -, ⟨-, rfl⟩ | ⟨moved, -, rfl⟩⟩ :=
        (returns_transferAttestation ..).mp accepted
      · exact fits
      · have fewer := Nat.lt_of_le_of_lt (Nat.sub_le _ 1) (fits.issued attestation.issuer)
        exact ⟨fits.attestations,
          issued_update (issued_update fits.issued fewer) (saturatingAddU64_lt ..)⟩
  | requestDeletion subject id =>
      obtain ⟨attestation, -, rfl⟩ := (returns_requestDeletion ..).mp accepted
      exact ⟨fits.attestations, fits.issued⟩
  | endorseAttestation endorser id =>
      obtain ⟨-, rfl⟩ := (returns_endorseAttestation ..).mp accepted
      exact ⟨fits.attestations, fits.issued⟩

theorem RequestOp.countersFit (op : RequestOp Address) (fits : CountersFit before.storage)
    (accepted : Returns op.exec env before () after) : CountersFit after.storage := by
  cases op.outcome accepted with
  | fulfillRequest _ checks =>
      have stored := fits.withIssued checks.fits
      exact ⟨stored.attestations, stored.issued⟩
  | _ => exact ⟨fits.attestations, fits.issued⟩

theorem MultisigOp.countersFit (op : MultisigOp Address) (fits : CountersFit before.storage)
    (accepted : Returns op.exec env before () after) : CountersFit after.storage := by
  cases op.outcome accepted with
  | bypass _ _ _ stored | completion _ _ stored =>
      have issued := fits.withIssued stored
      exact ⟨issued.attestations, issued.issued⟩
  | _ => exact ⟨fits.attestations, fits.issued⟩

omit [DecidableEq Address] [Host Address] in
theorem Unrecorded.countersFit (kept : Unrecorded before after) (fits : CountersFit before.storage) :
    CountersFit after.storage := by
  constructor
  · rw [kept.totalAttestations]
    exact fits.attestations
  · rw [kept.issuerStats]
    exact fits.issued

theorem countersFit_run (calls : List (Call Address)) : CountersFit (run calls).storage := by
  have keeps : ∀ (before : World Address) call after, CountersFit before.storage →
      Accepted before call after → CountersFit after.storage := by
    rintro before ⟨env, op⟩ after fits accepted
    cases op with
    | attestation op => exact op.countersFit fits accepted
    | request op => exact op.countersFit fits accepted
    | multisig op => exact op.countersFit fits accepted
    | council op => exact (op.keeps accepted).2.1.countersFit fits
    | admin op => exact (op.keeps accepted).1.toUnrecorded.countersFit fits
  have none_yet : 0 < u64Range := by decide
  exact invariant_of_run ⟨none_yet, fun _ => none_yet⟩ keeps calls

end Bounds

section Runs
variable {Address : Type} [DecidableEq Address] [Host Address]

/-- The counters of the contract are the numbers of its records. -/
structure Counted (storage : Storage Address) : Prop where
  finite : (Census.stored storage.attestation).Finite
  attestations : storage.globalStats.totalAttestations = Census.total storage.attestation
  revocations : storage.globalStats.totalRevocations =
    Census.count storage.attestation (·.revoked = true)
  issued : ∀ issuer, (storage.issuerStats issuer).totalIssued =
    Census.count storage.attestation (·.issuer = issuer)

/-- The tally is right as long as all records can be counted at all. -/
structure Tallied (storage : Storage Address) : Prop where
  finite : (Census.stored storage.attestation).Finite
  tally : Census.total storage.attestation < u64Range → storage.tally = census storage.register

theorem tallied_of_accepted {before after : World Address} {call : Call Address}
    (keyed : Keyed before.storage.register) (tallied : Tallied before.storage)
    (direct : ∀ op, call.op ≠ .multisig op) (accepted : Accepted before call after) :
    Tallied after.storage := by
  have checked := checked_of_accepted keyed direct accepted
  obtain ⟨counts, finite, grows⟩ :=
    census_run tallied.finite checked.orderly (effective_of_accepted direct accepted)
  rw [← checked.register] at counts finite grows
  refine ⟨finite, fun small => ?_⟩
  have earlier := tallied.tally (Nat.lt_of_le_of_lt grows small)
  have fits := census_small finite small
  rw [counts, ← earlier] at fits ⊢
  exact tally_of_accepted direct accepted fits

/-- Without multi-sig calls the counters equal the store, while fewer than 2^64
records are stored. -/
theorem counters_count (calls : List (Call Address))
    (direct : ∀ call ∈ calls, ∀ op, call.op ≠ .multisig op)
    (small : Census.total (run calls).storage.attestation < u64Range) :
    Counted (run calls).storage := by
  have keeps : ∀ (before : World Address) call after, Keyed before.storage.register →
      Tallied before.storage → (∀ op, call.op ≠ .multisig op) → Accepted before call after →
        Tallied after.storage :=
    fun _ _ _ keyed tallied direct accepted => tallied_of_accepted keyed tallied direct accepted
  have initial : Tallied (World.empty Address).storage := by
    constructor
    · simp [Census.stored, World.empty, Storage.empty]
    · intro _
      simp [Storage.tally, census, Census.total, Storage.register, World.empty, Storage.empty]
  have guarded : Trace.Each step (fun _ call => ∀ op, call.op ≠ .multisig op)
      (World.empty Address) calls :=
    Trace.each_of_forall _ fun call member _ => direct call member
  obtain ⟨finite, tally⟩ :=
    invariant_of_keyed_calls initial keeps (List.append_nil calls).symm guarded
  obtain ⟨attestations, revocations, issued⟩ := Tally.mk.inj (tally small)
  exact ⟨finite, attestations, revocations, congrFun issued⟩

end Runs

section Sample
open Xdr

/-- One stored record, and the counters say so. -/
theorem counters_count_sample :
    (run (sampleDeployment ++ [sampleIssuance])).storage.globalStats.totalAttestations = 1 ∧
      Counted (run (sampleDeployment ++ [sampleIssuance])).storage := by
  have record : (run (sampleDeployment ++ [sampleIssuance])).storage.attestation =
      Function.update (fun _ => none) sampleId (some
        { nativeRecord (contractId 1) (contractId 2) (ascii "KYC") 1000 with
          metadata := some (ascii "level 2") }) := rfl
  have finite : (Census.stored fun _ : Str => (none : Option (Attestation ContractId))).Finite := by
    simp [Census.stored]
  refine ⟨by decide +kernel, counters_count _ ?_ ?_⟩
  · simp [sampleDeployment, sampleIssuance, signed]
  · rw [record, Census.total, Census.count_add finite rfl trivial, Census.count_empty]
    decide

end Sample

end TrustLink
