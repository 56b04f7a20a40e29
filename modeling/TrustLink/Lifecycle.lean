import Mathlib.Data.List.Forall2
import TrustLink.Attestation
import TrustLink.Lib.Trace

/-!
What revocation, renewal, transfer, deletion and endorsement do when they
return: the checks that passed, and the world that was left.
-/
namespace TrustLink.Contract
open Transaction

section Single
variable {Address : Type} [DecidableEq Address] {env : Env Address} {before after : World Address}

/-- The checks that revocation, renewal and expiration updates share. -/
structure Managed (storage : Storage Address) (env : Env Address) (issuer : Address) (id : Str)
    (attestation : Attestation Address) : Prop where
  auth : issuer ∈ env.auths
  running : storage.paused = false
  registered : storage.issuer issuer = true
  found : storage.attestation id = some attestation
  own : attestation.issuer = issuer
  active : attestation.revoked = false
  ttl : TtlFits storage.ttlConfig

theorem returns_revokeAttestation (issuer : Address) (id : Str) (reason : Option Str)
    (done : Unit) :
    Returns (revokeAttestation issuer id reason) env before done after ↔
      ∃ attestation, Managed before.storage env issuer id attestation ∧
        validateReason reason = .ok () ∧
        ChunkedIndex.Rewritable (·.filter (· ≠ id))
          (before.storage.subjectAttestationChunk attestation.subject) ∧
        ChunkedIndex.Rewritable (·.filter (· ≠ id))
          (before.storage.issuerAttestationChunk issuer) ∧
        after = ⟨{ before.storage with
            attestation := Function.update before.storage.attestation attestation.id
              (some { attestation with revoked := true, revocationReason := reason })
            subjectAttestations :=
              Function.update before.storage.subjectAttestations attestation.subject
                ((before.storage.subjectAttestations attestation.subject).filter (· ≠ id))
            validAttestations :=
              Function.update before.storage.validAttestations attestation.subject
                ((before.storage.validAttestations attestation.subject).filter (· ≠ id))
            issuerAttestations := Function.update before.storage.issuerAttestations issuer
              ((before.storage.issuerAttestations issuer).filter (· ≠ id))
            subjectAttestationChunk :=
              Function.update before.storage.subjectAttestationChunk attestation.subject
                (ChunkedIndex.rewritten (·.filter (· ≠ id))
                  (before.storage.subjectAttestationChunk attestation.subject))
            issuerAttestationChunk := Function.update before.storage.issuerAttestationChunk issuer
              (ChunkedIndex.rewritten (·.filter (· ≠ id))
                (before.storage.issuerAttestationChunk issuer))
            auditLog := Function.update before.storage.auditLog id
              (before.storage.auditLog id ++ [⟨.revoked, issuer, env.timestamp, reason⟩])
            globalStats := { before.storage.globalStats with
              totalRevocations := saturatingAddU64 before.storage.globalStats.totalRevocations 1 } },
          before.events ++ [.attestationRevoked id issuer reason], before.payments⟩ := by
  simp [revokeAttestation]
  constructor
  · rintro ⟨auth, running, registered, valid, attestation, found, own, active, ttl,
      ⟨-, subjects⟩, ⟨-, issuers⟩, -, left⟩
    refine ⟨attestation, ⟨auth, running, registered, found, own, active, ttl⟩, valid, subjects,
      issuers, left.trans ?_⟩
    simp only [World.write, World.publish, ChunkedIndex.Side.write_subject,
      ChunkedIndex.Side.write_issuer]
  · rintro ⟨attestation, ⟨auth, running, registered, found, own, active, ttl⟩, valid, subjects,
      issuers, left⟩
    refine ⟨auth, running, registered, valid, attestation, found, own, active, ttl,
      ⟨ttl, subjects⟩, ⟨ttl, issuers⟩, ttl, left.trans ?_⟩
    simp only [World.write, World.publish, ChunkedIndex.Side.write_subject,
      ChunkedIndex.Side.write_issuer]

/-- The world after the expiration of an attestation has been replaced. -/
def afterRenewal (env : Env Address) (before : World Address) (issuer : Address) (id : Str)
    (attestation : Attestation Address) (newExpiration : Option Nat) (action : AuditAction)
    (details : Option Str) : World Address :=
  ⟨{ before.storage with
      attestation := Function.update before.storage.attestation attestation.id
        (some { attestation with expiration := newExpiration })
      auditLog := Function.update before.storage.auditLog id
        (before.storage.auditLog id ++ [⟨action, issuer, env.timestamp, details⟩]) },
    before.events ++ [.attestationRenewed id issuer newExpiration], before.payments⟩

theorem returns_renewAttestation (issuer : Address) (id : Str) (newExpiration : Option Nat)
    (done : Unit) :
    Returns (renewAttestation issuer id newExpiration) env before done after ↔
      ∃ attestation, Managed before.storage env issuer id attestation ∧
        (∀ time ∈ newExpiration, env.timestamp < time) ∧
        ∃ details, newExpiration.mapM u64ToString = some details ∧
          after =
            afterRenewal env before issuer id attestation newExpiration .renewed details := by
  simp [renewAttestation]
  constructor
  · rintro ⟨auth, registered, running, future, attestation, found, own, active, ttl, details,
      written, -, left⟩
    exact ⟨attestation, ⟨auth, running, registered, found, own, active, ttl⟩, future, details,
      written, left⟩
  · rintro ⟨attestation, ⟨auth, running, registered, found, own, active, ttl⟩, future, details,
      written, left⟩
    exact ⟨auth, registered, running, future, attestation, found, own, active, ttl, details,
      written, ttl, left⟩

theorem returns_updateExpiration (issuer : Address) (id : Str) (newExpiration : Option Nat)
    (done : Unit) :
    Returns (updateExpiration issuer id newExpiration) env before done after ↔
      ∃ attestation, Managed before.storage env issuer id attestation ∧
        (∀ time ∈ newExpiration, env.timestamp < time) ∧
        after = afterRenewal env before issuer id attestation newExpiration .updated none := by
  simp [updateExpiration]
  constructor
  · rintro ⟨auth, registered, running, future, attestation, found, own, active, ttl, left⟩
    exact ⟨attestation, ⟨auth, running, registered, found, own, active, ttl⟩, future, left⟩
  · rintro ⟨attestation, ⟨auth, running, registered, found, own, active, ttl⟩, future, left⟩
    exact ⟨auth, registered, running, future, attestation, found, own, active, ttl, left⟩

theorem returns_transferAttestation [Host Address] (admin : Address) (id : Str)
    (newIssuer : Address) (done : Unit) :
    Returns (transferAttestation admin id newIssuer) env before done after ↔
      ∃ attestation, (admin ∈ env.auths ∧ admin ∈ before.storage.council ∧
        before.storage.issuer newIssuer = true ∧
        before.storage.attestation id = some attestation) ∧
        ((attestation.issuer = newIssuer ∧ after = before) ∨
          (attestation.issuer ≠ newIssuer ∧ TtlFits before.storage.ttlConfig ∧
            after = ⟨{ before.storage with
                attestation := Function.update before.storage.attestation attestation.id
                  (some { attestation with issuer := newIssuer })
                issuerAttestations :=
                  Function.update
                    (Function.update before.storage.issuerAttestations attestation.issuer
                      ((before.storage.issuerAttestations attestation.issuer).filter (· ≠ id)))
                    newIssuer (before.storage.issuerAttestations newIssuer ++ [id])
                issuerStats :=
                  Function.update
                    (Function.update before.storage.issuerStats attestation.issuer
                      ⟨(before.storage.issuerStats attestation.issuer).totalIssued - 1⟩)
                    newIssuer
                    ⟨saturatingAddU64 (before.storage.issuerStats newIssuer).totalIssued 1⟩
                auditLog := Function.update before.storage.auditLog id
                  (before.storage.auditLog id ++ [⟨.transferred, admin, env.timestamp,
                    some (Host.addressToString newIssuer)⟩]) },
              before.events ++ [.attestationTransferred id attestation.issuer newIssuer],
              before.payments⟩)) := by
  simp [transferAttestation]
  constructor
  · rintro ⟨auth, member, registered, attestation, found, ⟨same, left⟩ | ⟨moved, ttl, left⟩⟩
    · exact ⟨attestation, ⟨auth, member, registered, found⟩, .inl ⟨same, left⟩⟩
    · refine ⟨attestation, ⟨auth, member, registered, found⟩, .inr ⟨moved, ttl, left.trans ?_⟩⟩
      simp only [World.write, World.publish, Function.update_of_ne (Ne.symm moved)]
  · rintro ⟨attestation, ⟨auth, member, registered, found⟩, ⟨same, left⟩ | ⟨moved, ttl, left⟩⟩
    · exact ⟨auth, member, registered, attestation, found, .inl ⟨same, left⟩⟩
    · refine ⟨auth, member, registered, attestation, found, .inr ⟨moved, ttl, left.trans ?_⟩⟩
      simp only [World.write, World.publish, Function.update_of_ne (Ne.symm moved)]

/-- The checks of a transfer to another issuer. -/
structure Transferable (storage : Storage Address) (env : Env Address) (admin : Address) (id : Str)
    (newIssuer : Address) (attestation : Attestation Address) : Prop where
  auth : admin ∈ env.auths
  member : admin ∈ storage.council
  registered : storage.issuer newIssuer = true
  found : storage.attestation id = some attestation
  moved : attestation.issuer ≠ newIssuer
  ttl : TtlFits storage.ttlConfig

/-- The checks of a deletion. -/
structure Deletable (storage : Storage Address) (env : Env Address) (subject : Address) (id : Str)
    (attestation : Attestation Address) : Prop where
  auth : subject ∈ env.auths
  found : storage.attestation id = some attestation
  own : attestation.subject = subject
  ttl : TtlFits storage.ttlConfig
  room : ChunkedIndex.Rewritable (·.filter (· ≠ id)) (storage.subjectAttestationChunk subject)

theorem returns_requestDeletion (subject : Address) (id : Str) (done : Unit) :
    Returns (requestDeletion subject id) env before done after ↔
      ∃ attestation, (subject ∈ env.auths ∧ before.storage.attestation id = some attestation ∧
        attestation.subject = subject ∧ TtlFits before.storage.ttlConfig ∧
        ChunkedIndex.Rewritable (·.filter (· ≠ id))
          (before.storage.subjectAttestationChunk subject)) ∧
        after = ⟨{ before.storage with
            attestation := Function.update before.storage.attestation attestation.id
              (some { attestation with deleted := true })
            subjectAttestations := Function.update before.storage.subjectAttestations subject
              ((before.storage.subjectAttestations subject).filter (· ≠ id))
            validAttestations := Function.update before.storage.validAttestations subject
              ((before.storage.validAttestations subject).filter (· ≠ id))
            subjectAttestationChunk :=
              Function.update before.storage.subjectAttestationChunk subject
                (ChunkedIndex.rewritten (·.filter (· ≠ id))
                  (before.storage.subjectAttestationChunk subject))
            auditLog := Function.update before.storage.auditLog id
              (before.storage.auditLog id ++ [⟨.deleted, subject, env.timestamp, none⟩]) },
          before.events ++ [.deletionRequested subject id env.timestamp], before.payments⟩ := by
  simp [requestDeletion]
  constructor
  · rintro ⟨auth, attestation, found, own, ttl, ⟨-, chunks⟩, -, left⟩
    refine ⟨attestation, ⟨auth, found, own, ttl, chunks⟩, left.trans ?_⟩
    simp only [World.write, World.publish, ChunkedIndex.Side.write_subject]
  · rintro ⟨attestation, ⟨auth, found, own, ttl, chunks⟩, left⟩
    refine ⟨auth, attestation, found, own, ttl, ⟨ttl, chunks⟩, ttl, left.trans ?_⟩
    simp only [World.write, World.publish, ChunkedIndex.Side.write_subject]

theorem returns_endorseAttestation (endorser : Address) (id : Str) (done : Unit) :
    Returns (endorseAttestation endorser id) env before done after ↔
      (endorser ∈ env.auths ∧ before.storage.issuer endorser = true ∧
        before.storage.paused = false ∧
        (∃ attestation, before.storage.attestation id = some attestation ∧
          attestation.issuer ≠ endorser ∧ attestation.revoked = false) ∧
        (∀ endorsement ∈ before.storage.endorsements id, endorsement.endorser ≠ endorser) ∧
        TtlFits before.storage.ttlConfig) ∧
        after = ⟨{ before.storage with
            endorsements := Function.update before.storage.endorsements id
              (before.storage.endorsements id ++ [⟨id, endorser, env.timestamp⟩])
            endorserIndex := Function.update before.storage.endorserIndex endorser
              (before.storage.endorserIndex endorser ++ [⟨id, endorser, env.timestamp⟩]) },
          before.events, before.payments⟩ := by
  simp [endorseAttestation]
  constructor
  · rintro ⟨auth, registered, running, attestation, found, other, active, unsigned, ttl, left⟩
    exact ⟨⟨auth, registered, running, ⟨attestation, found, other, active⟩, unsigned, ttl⟩, left⟩
  · rintro ⟨⟨auth, registered, running, ⟨attestation, found, other, active⟩, unsigned, ttl⟩, left⟩
    exact ⟨auth, registered, running, attestation, found, other, active, unsigned, ttl, left⟩

end Single

section Batch
variable {Address : Type} [DecidableEq Address] {env : Env Address} {before after : World Address}

/-- A record that its issuer may still revoke. -/
structure Revocable (issuer : Address) (storage : Storage Address) (id : Str)
    (attestation : Attestation Address) : Prop where
  found : storage.attestation id = some attestation
  own : attestation.issuer = issuer
  active : attestation.revoked = false

theorem returns_revokeBatchLoad (issuer : Address) (ids seenIds : List Str)
    (attestations result : List (Attestation Address)) :
    Returns (revokeBatchLoad issuer ids seenIds attestations) env before result after ↔
      (∀ id ∈ ids, id ∉ seenIds) ∧ ids.Nodup ∧
        ∃ records, List.Forall₂ (Revocable issuer before.storage) ids records ∧
          result = attestations ++ records ∧ after = before := by
  induction ids generalizing seenIds attestations with
  | nil => simp [revokeBatchLoad, List.forall₂_nil_left_iff]
  | cons id rest ih =>
      simp [revokeBatchLoad, ih]
      constructor
      · rintro ⟨fresh, attestation, found, own, active, unseen, distinct, records, revocable, rfl,
          same⟩
        exact ⟨⟨fresh, fun other member => (unseen other member).1⟩,
          ⟨fun member => (unseen id member).2 rfl, distinct⟩, attestation :: records,
          .cons ⟨found, own, active⟩ revocable, rfl, same⟩
      · rintro ⟨⟨fresh, unseen⟩, ⟨once, distinct⟩, records, revocable, rfl, same⟩
        cases revocable with
        | cons head tail =>
            exact ⟨fresh, _, head.found, head.own, head.active,
              fun other member => ⟨unseen other member, fun twice => once (twice ▸ member)⟩,
              distinct, _, tail, rfl, same⟩

/-- The storage one turn of the second loop leaves. -/
def withBatchRevoked (issuer : Address) (reason : Option Str) (timestamp : Nat)
    (storage : Storage Address) (attestation : Attestation Address) : Storage Address :=
  { storage with
    attestation := Function.update storage.attestation attestation.id
      (some { attestation with revoked := true, revocationReason := reason })
    subjectAttestations := Function.update storage.subjectAttestations attestation.subject
      ((storage.subjectAttestations attestation.subject).filter (· ≠ attestation.id))
    issuerAttestations := Function.update storage.issuerAttestations issuer
      ((storage.issuerAttestations issuer).filter (· ≠ attestation.id))
    auditLog := Function.update storage.auditLog attestation.id
      (storage.auditLog attestation.id ++ [⟨.revoked, issuer, timestamp, reason⟩]) }

theorem returns_revokeBatchWrite (issuer : Address) (reason : Option Str)
    (attestation : Attestation Address) (done : Unit) :
    Returns (revokeBatchWrite issuer reason attestation) env before done after ↔
      TtlFits before.storage.ttlConfig ∧
        after = ⟨withBatchRevoked issuer reason env.timestamp before.storage attestation,
          before.events ++ [.attestationRevokedWithReason attestation.id issuer reason],
          before.payments⟩ := by
  simp [revokeBatchWrite, withBatchRevoked, World.write, World.publish]

theorem returns_revokeBatchWrites (issuer : Address) (reason : Option Str)
    (attestations : List (Attestation Address)) (done : Unit) :
    Returns (each (revokeBatchWrite issuer reason) attestations) env before done after ↔
      (attestations ≠ [] → TtlFits before.storage.ttlConfig) ∧
        after = ⟨Trace.run (withBatchRevoked issuer reason env.timestamp) before.storage attestations,
          before.events ++ attestations.map
            (fun attestation => .attestationRevokedWithReason attestation.id issuer reason),
          before.payments⟩ := by
  induction attestations generalizing before with
  | nil => simp [each]
  | cons attestation rest ih =>
      simp only [each, returns_bind, returns_revokeBatchWrite, ih, Trace.run_cons]
      constructor
      · rintro ⟨_, _, ⟨ttl, rfl⟩, _, rfl⟩
        exact ⟨fun _ => ttl, by simp⟩
      · rintro ⟨ttl, rfl⟩
        exact ⟨(), _, ⟨ttl (by simp), rfl⟩, fun _ => ttl (by simp), by simp⟩

@[simp] theorem run_withBatchRevoked_globalStats (issuer : Address) (reason : Option Str)
    (timestamp : Nat) (storage : Storage Address) (records : List (Attestation Address)) :
    (Trace.run (withBatchRevoked issuer reason timestamp) storage records).globalStats =
      storage.globalStats :=
  Trace.run_keeps (withBatchRevoked issuer reason timestamp) (·.globalStats) (fun _ _ => rfl)
    storage records

@[simp] theorem run_withBatchRevoked_ttlConfig (issuer : Address) (reason : Option Str)
    (timestamp : Nat) (storage : Storage Address) (records : List (Attestation Address)) :
    (Trace.run (withBatchRevoked issuer reason timestamp) storage records).ttlConfig =
      storage.ttlConfig :=
  Trace.run_keeps (withBatchRevoked issuer reason timestamp) (·.ttlConfig) (fun _ _ => rfl)
    storage records

theorem returns_revokeAttestationsBatch (issuer : Address) (ids : List Str) (reason : Option Str)
    (count : Nat) :
    Returns (revokeAttestationsBatch issuer ids reason) env before count after ↔
      ∃ records, (issuer ∈ env.auths ∧ before.storage.paused = false ∧
        before.storage.issuer issuer = true ∧ validateReason reason = .ok () ∧
        ids.length ≤ 50 ∧ ids.Nodup ∧
        List.Forall₂ (Revocable issuer before.storage) ids records ∧
        (records ≠ [] → TtlFits before.storage.ttlConfig)) ∧
        count = records.length ∧
        after = ⟨{ Trace.run (withBatchRevoked issuer reason env.timestamp) before.storage
            records with
            globalStats := if records = [] then before.storage.globalStats
              else { before.storage.globalStats with
                totalRevocations :=
                  saturatingAddU64 before.storage.globalStats.totalRevocations records.length } },
          before.events ++ records.map
            (fun attestation => .attestationRevokedWithReason attestation.id issuer reason),
          before.payments⟩ := by
  simp [revokeAttestationsBatch, returns_revokeBatchLoad, returns_revokeBatchWrites]
  constructor
  · rintro ⟨auth, running, registered, valid, small, records, ⟨distinct, revocable⟩, -,
      ⟨some_record, ⟨ttl, left⟩, same⟩ | ⟨rfl, same, left⟩⟩
    · have more : records ≠ [] := List.ne_nil_of_length_pos some_record
      refine ⟨records, ⟨auth, running, registered, valid, small, distinct, revocable, fun _ => ttl⟩,
        same, left.trans ?_⟩
      simp only [World.write, run_withBatchRevoked_globalStats, run_withBatchRevoked_ttlConfig, more,
        ↓reduceIte]
    · exact ⟨[], ⟨auth, running, registered, valid, small, distinct, revocable, by simp⟩, same,
        left⟩
  · rintro ⟨records, ⟨auth, running, registered, valid, small, distinct, revocable, ttl⟩, same,
      left⟩
    refine ⟨auth, running, registered, valid, small, records, ⟨distinct, revocable⟩, ttl, ?_⟩
    by_cases empty : records = []
    · subst empty
      exact .inr ⟨rfl, same, left⟩
    · refine .inl ⟨List.length_pos_iff.mpr empty, ⟨ttl empty, left.trans ?_⟩, same⟩
      simp only [World.write, run_withBatchRevoked_globalStats, run_withBatchRevoked_ttlConfig, empty,
        ↓reduceIte]

end Batch

end TrustLink.Contract
