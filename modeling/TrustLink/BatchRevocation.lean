import TrustLink.Counters

/-!
Batch revocation against `revoke_attestation` on its ids one after another. Both
revoke the records and take them off the flat indexes; only the single form takes
them off the valid ones and out of the chunks as well.
-/
namespace TrustLink
open Transaction Contract ChunkedIndex

section Pruning
variable {Address : Type}

/-- The chunks hold a list without the id. -/
def Free (chunks : Nat → Option (List Str)) (id : Str) : Prop :=
  ∃ items, Holds chunks items ∧ id ∉ items

/-- Nothing is left of a record where only the single form looks for it. -/
structure Pruned (storage : Storage Address) (record : Attestation Address) : Prop where
  valid : record.id ∉ storage.validAttestations record.subject
  subject : Free (storage.subjectAttestationChunk record.subject) record.id
  issuer : Free (storage.issuerAttestationChunk record.issuer) record.id

/-- What every reachable state keeps of its records and its chunks. -/
structure WellKept (storage : Storage Address) : Prop where
  keys : ∀ id record, storage.attestation id = some record → record.id = id
  subject : Held storage.subjectAttestationChunk
  issuer : Held storage.issuerAttestationChunk

theorem length_filter_lt {items : List Str} (short : items.length < u32Range) (id : Str) :
    (items.filter (· ≠ id)).length < u32Range :=
  Nat.lt_of_le_of_lt (List.length_filter_le ..) short

theorem Held.prunes {chunks : Address → Nat → Option (List Str)} (held : Held chunks)
    (owner : Address) (id : Str) : Rewritable (·.filter (· ≠ id)) (chunks owner) := by
  obtain ⟨items, holds⟩ := held owner
  rw [holds.rewritable_iff]
  exact length_filter_lt holds.2 id

/-- Pruning the chunks of an id that they do not hold leaves them as they were. -/
theorem Free.rewritten_self {chunks : Nat → Option (List Str)} {id : Str} (free : Free chunks id) :
    rewritten (·.filter (· ≠ id)) chunks = chunks := by
  obtain ⟨items, holds, absent⟩ := free
  have same : items.filter (· ≠ id) = items := by
    rw [List.filter_eq_self]
    intro other member
    simpa using ne_of_mem_of_not_mem member absent
  exact (holds.rewritten_self _ same).2

variable [DecidableEq Address] {chunks : Address → Nat → Option (List Str)}

theorem Held.pruned (held : Held chunks) (owner : Address) (id : Str) :
    Held (Function.update chunks owner (rewritten (·.filter (· ≠ id)) (chunks owner))) := by
  have edited : Edited (fun _ => []) chunks _ _ := .single (held.prunes owner id)
  exact held.edited edited

theorem Held.free_pruned (held : Held chunks) (owner : Address) (id : Str) :
    Free (Function.update chunks owner (rewritten (·.filter (· ≠ id)) (chunks owner)) owner) id := by
  obtain ⟨items, holds⟩ := held owner
  rw [Function.update_self]
  exact ⟨_, holds.rewritten (held.prunes owner id), by simp⟩

theorem Free.pruned {owner : Address} {id : Str} (free : Free (chunks owner) id)
    (target : Address) (key : Str) :
    Free (Function.update chunks target (rewritten (·.filter (· ≠ key)) (chunks target)) owner)
      id := by
  by_cases here : owner = target
  · subst here
    obtain ⟨items, holds, absent⟩ := free
    have prunes : Rewritable (·.filter (· ≠ key)) (chunks owner) :=
      (holds.rewritable_iff _).mpr (length_filter_lt holds.2 key)
    rw [Function.update_self]
    exact ⟨_, holds.rewritten prunes, fun member => absent (List.mem_of_mem_filter member)⟩
  · rw [Function.update_of_ne here]
    exact free

end Pruning

section Single
variable {Address : Type} [DecidableEq Address]

/-- What `revoke_attestation` adds to a turn of the second loop of a batch. -/
def withPruned (storage : Storage Address) (record : Attestation Address) : Storage Address :=
  { storage with
    validAttestations := Function.update storage.validAttestations record.subject
      ((storage.validAttestations record.subject).filter (· ≠ record.id))
    subjectAttestationChunk := Function.update storage.subjectAttestationChunk record.subject
      (rewritten (·.filter (· ≠ record.id)) (storage.subjectAttestationChunk record.subject))
    issuerAttestationChunk := Function.update storage.issuerAttestationChunk record.issuer
      (rewritten (·.filter (· ≠ record.id)) (storage.issuerAttestationChunk record.issuer))
    globalStats := { storage.globalStats with
      totalRevocations := saturatingAddU64 storage.globalStats.totalRevocations 1 } }

/-- The storage `revoke_attestation` leaves. -/
def withRevoked (issuer : Address) (reason : Option Str) (timestamp : Nat)
    (storage : Storage Address) (record : Attestation Address) : Storage Address :=
  withPruned (withBatchRevoked issuer reason timestamp storage record) record

/-- The checks of a revocation that do not look at the record. -/
structure MayRevoke (storage : Storage Address) (env : Env Address) (issuer : Address)
    (reason : Option Str) : Prop where
  auth : issuer ∈ env.auths
  running : storage.paused = false
  registered : storage.issuer issuer = true
  reason : validateReason reason = .ok ()

variable {env : Env Address} {before after : World Address} {storage : Storage Address}
  {issuer : Address} {reason : Option Str} {timestamp : Nat} {record : Attestation Address}

theorem attestation_withRevoked :
    (withRevoked issuer reason timestamp storage record).attestation =
      Function.update storage.attestation record.id
        (some { record with revoked := true, revocationReason := reason }) := rfl

theorem WellKept.revoked (kept : WellKept storage) :
    WellKept (withRevoked issuer reason timestamp storage record) := by
  refine ⟨fun id other stored => ?_, kept.subject.pruned _ _, kept.issuer.pruned _ _⟩
  rw [attestation_withRevoked] at stored
  by_cases here : id = record.id
  · subst here
    rw [Function.update_self] at stored
    obtain rfl := Option.some.inj stored
    rfl
  · rw [Function.update_of_ne here] at stored
    exact kept.keys id other stored

/-- In a reachable state nothing but its checks can stop a revocation. -/
theorem returns_revoke_one (kept : WellKept before.storage) (id : Str) (done : Unit) :
    Returns (revokeAttestation issuer id reason) env before done after ↔
      ∃ record, record.id = id ∧ MayRevoke before.storage env issuer reason ∧
        TtlFits before.storage.ttlConfig ∧ Revocable issuer before.storage id record ∧
        after = ⟨withRevoked issuer reason env.timestamp before.storage record,
          before.events ++ [.attestationRevoked id issuer reason], before.payments⟩ := by
  rw [returns_revokeAttestation]
  constructor
  · rintro ⟨record, ⟨auth, running, registered, found, own, active, ttl⟩, valid, -, -, rfl⟩
    obtain rfl := kept.keys id record found
    obtain rfl := own
    exact ⟨record, rfl, ⟨auth, running, registered, valid⟩, ttl, ⟨found, rfl, active⟩, rfl⟩
  · rintro ⟨record, rfl, ⟨auth, running, registered, valid⟩, ttl, ⟨found, rfl, active⟩, rfl⟩
    exact ⟨record, ⟨auth, running, registered, found, rfl, active, ttl⟩, valid,
      kept.subject.prunes .., kept.issuer.prunes .., rfl⟩

omit [DecidableEq Address] in
/-- Records are revocable in a storage that has them as well. -/
theorem revocable_elsewhere {other : Storage Address} {ids : List Str}
    {records : List (Attestation Address)}
    (same : ∀ id ∈ ids, other.attestation id = storage.attestation id)
    (revocable : List.Forall₂ (Revocable issuer storage) ids records) :
    List.Forall₂ (Revocable issuer other) ids records := by
  induction revocable with
  | nil => exact .nil
  | cons head _ ih =>
      obtain ⟨first, others⟩ := List.forall_mem_cons.mp same
      exact .cons ⟨first.trans head.found, head.own, head.active⟩ (ih others)

/-- One revocation after another, which a second one of the same record stops. -/
theorem returns_revoke_each (kept : WellKept before.storage) (ids : List Str) (done : Unit) :
    Returns (each (revokeAttestation issuer · reason) ids) env before done after ↔
      ∃ records, (ids ≠ [] → MayRevoke before.storage env issuer reason ∧
          TtlFits before.storage.ttlConfig) ∧
        ids.Nodup ∧ List.Forall₂ (Revocable issuer before.storage) ids records ∧
        after = ⟨Trace.run (withRevoked issuer reason env.timestamp) before.storage records,
          before.events ++ ids.map (.attestationRevoked · issuer reason), before.payments⟩ := by
  induction ids generalizing before with
  | nil =>
      simp [each, List.forall₂_nil_left_iff]
  | cons id rest ih =>
      -- the ids that follow name other records, which this revocation leaves alone
      have elsewhere : ∀ {record : Attestation Address}, record.id ∉ rest → ∀ other ∈ rest,
          (withRevoked issuer reason env.timestamp before.storage record).attestation other =
            before.storage.attestation other :=
        fun fresh other member => Function.update_of_ne (ne_of_mem_of_not_mem member fresh) ..
      simp only [each, returns_bind]
      constructor
      · rintro ⟨_, middle, first, remaining⟩
        obtain ⟨record, rfl, may, ttl, checks, rfl⟩ := (returns_revoke_one kept id ()).mp first
        obtain ⟨records, -, distinct, revocable, rfl⟩ := (ih kept.revoked).mp remaining
        -- a record that is named again is found revoked
        have once : record.id ∉ rest := by
          intro member
          obtain ⟨again, found, -, active⟩ := revocable_of_mem revocable record.id member
          rw [attestation_withRevoked, Function.update_self] at found
          obtain rfl := Option.some.inj found
          cases active
        refine ⟨record :: records, fun _ => ⟨may, ttl⟩, List.nodup_cons.mpr ⟨once, distinct⟩,
          .cons checks (revocable_elsewhere (fun other member => ?_) revocable), by simp⟩
        exact (elsewhere once other member).symm
      · rintro ⟨records, checks, distinct, revocable, rfl⟩
        obtain ⟨once, apart⟩ := List.nodup_cons.mp distinct
        obtain ⟨may, ttl⟩ := checks (List.cons_ne_nil _ _)
        cases revocable with
        | cons head tail =>
            rename_i record others
            obtain rfl := kept.keys id record head.found
            refine ⟨(), _, (returns_revoke_one kept record.id ()).mpr
              ⟨record, rfl, may, ttl, head, rfl⟩, (ih kept.revoked).mpr
                ⟨others, fun _ => ⟨⟨may.auth, may.running, may.registered, may.reason⟩, ttl⟩, apart,
                  revocable_elsewhere (elsewhere once) tail, by simp⟩⟩

end Single

section Agreement
variable {Address : Type} [DecidableEq Address]

variable {storage : Storage Address} {record : Attestation Address}

theorem run_withRevoked (issuer : Address) (reason : Option Str) (timestamp : Nat)
    (storage : Storage Address) (records : List (Attestation Address)) :
    Trace.run (withRevoked issuer reason timestamp) storage records =
      Trace.run withPruned (Trace.run (withBatchRevoked issuer reason timestamp) storage records)
        records :=
  Trace.run_halves (withBatchRevoked issuer reason timestamp) withPruned (fun _ _ _ => rfl) storage
    records

theorem withPruned_of_pruned (pruned : Pruned storage record) :
    withPruned storage record = { storage with
      globalStats := { storage.globalStats with
        totalRevocations := saturatingAddU64 storage.globalStats.totalRevocations 1 } } := by
  have valid : (storage.validAttestations record.subject).filter (· ≠ record.id) =
      storage.validAttestations record.subject := by
    rw [List.filter_eq_self]
    intro other member
    simpa using ne_of_mem_of_not_mem member pruned.valid
  rw [withPruned, valid, pruned.subject.rewritten_self, pruned.issuer.rewritten_self]
  simp only [Function.update_eq_self]

theorem Pruned.step (pruned : Pruned storage record) (other : Attestation Address) :
    Pruned (withPruned storage other) record := by
  refine ⟨?_, pruned.subject.pruned _ _, pruned.issuer.pruned _ _⟩
  by_cases here : record.subject = other.subject
  · simp [withPruned, here, here ▸ pruned.valid]
  · simpa [withPruned, here] using pruned.valid

/-- Where nothing is left to prune, only the counter moves. -/
theorem run_withPruned {records : List (Attestation Address)}
    (pruned : ∀ record ∈ records, Pruned storage record) :
    Trace.run withPruned storage records = { storage with
      globalStats := if records = [] then storage.globalStats
        else { storage.globalStats with
          totalRevocations :=
            saturatingAddU64 storage.globalStats.totalRevocations records.length } } := by
  induction records generalizing storage with
  | nil => rfl
  | cons record rest ih =>
      obtain ⟨first, others⟩ := List.forall_mem_cons.mp pruned
      rw [Trace.run_cons, ih fun other member => (others other member).step record,
        withPruned_of_pruned first]
      by_cases last : rest = []
      · subst last
        rfl
      · simp [last, saturatingAddU64_assoc, Nat.add_comm 1]

/-- Pruning a list of records leaves nothing of any of them. -/
theorem pruned_run (subject : Held storage.subjectAttestationChunk)
    (issuer : Held storage.issuerAttestationChunk) (records : List (Attestation Address)) :
    ∀ record ∈ records, Pruned (Trace.run withPruned storage records) record := by
  induction records generalizing storage with
  | nil => simp
  | cons record rest ih =>
      rw [List.forall_mem_cons, Trace.run_cons]
      have first : Pruned (withPruned storage record) record :=
        ⟨by simp [withPruned], subject.free_pruned _ _, issuer.free_pruned _ _⟩
      have keeps : ∀ state other, Pruned state record → Pruned (withPruned state other) record :=
        fun _ other pruned => pruned.step other
      -- later turns do not bring back what the first has taken off
      exact ⟨Trace.invariant_of_steps keeps first rest,
        ih (subject.pruned _ _) (issuer.pruned _ _)⟩

end Agreement

section Runs
variable {Address : Type} [DecidableEq Address]

/-- The batch and the single revocations of its ids succeed together, leave the same
storage, and the batch counts the ids. -/
structure RevokesAlike (before : World Address) (env : Env Address) (issuer : Address)
    (ids : List Str) (reason : Option Str) : Prop where
  together : (∃ count after, Returns (revokeAttestationsBatch issuer ids reason) env before count
      after) ↔
    ∃ after, Returns (each (revokeAttestation issuer · reason) ids) env before () after
  alike : ∀ count after final,
    Returns (revokeAttestationsBatch issuer ids reason) env before count after →
      Returns (each (revokeAttestation issuer · reason) ids) env before () final →
        final.storage = after.storage ∧ count = ids.length

/-- The batch passes the checks it makes without ids, and what it can revoke leaves nothing
to prune. -/
structure BatchSuffices (storage : Storage Address) (env : Env Address) (issuer : Address)
    (ids : List Str) (reason : Option Str) : Prop where
  idle : ids = [] → MayRevoke storage env issuer reason
  pruned : ids ≠ [] → BatchRevocable storage env issuer ids reason → ∀ id ∈ ids, ∀ record,
    storage.attestation id = some record → Pruned storage record

variable {env : Env Address} {before after : World Address} {issuer : Address} {ids : List Str}
  {reason : Option Str}

theorem run_withBatchRevoked_subjectAttestationChunk (issuer : Address) (reason : Option Str)
    (timestamp : Nat) (storage : Storage Address) (records : List (Attestation Address)) :
    (Trace.run (withBatchRevoked issuer reason timestamp) storage records).subjectAttestationChunk =
      storage.subjectAttestationChunk :=
  Trace.run_keeps (withBatchRevoked issuer reason timestamp) (·.subjectAttestationChunk)
    (fun _ _ => rfl) storage records

theorem run_withBatchRevoked_validAttestations (issuer : Address) (reason : Option Str)
    (timestamp : Nat) (storage : Storage Address) (records : List (Attestation Address)) :
    (Trace.run (withBatchRevoked issuer reason timestamp) storage records).validAttestations =
      storage.validAttestations :=
  Trace.run_keeps (withBatchRevoked issuer reason timestamp) (·.validAttestations)
    (fun _ _ => rfl) storage records

theorem pruned_batch_iff (timestamp : Nat) (records : List (Attestation Address))
    (record : Attestation Address) :
    Pruned (Trace.run (withBatchRevoked issuer reason timestamp) before.storage records) record ↔
      Pruned before.storage record := by
  have valid := run_withBatchRevoked_validAttestations issuer reason timestamp before.storage records
  have subject :=
    run_withBatchRevoked_subjectAttestationChunk issuer reason timestamp before.storage records
  have issuer :=
    run_withBatchRevoked_issuerAttestationChunk issuer reason timestamp before.storage records
  constructor
  · rintro ⟨absent, free, other⟩
    exact ⟨valid ▸ absent, subject ▸ free, issuer ▸ other⟩
  · rintro ⟨absent, free, other⟩
    exact ⟨valid.symm ▸ absent, subject.symm ▸ free, issuer.symm ▸ other⟩

/-- The two forms leave the same storage exactly if the single one had nothing to prune. -/
theorem same_storage_iff (kept : WellKept before.storage) (timestamp : Nat)
    (records : List (Attestation Address)) :
    Trace.run (withRevoked issuer reason timestamp) before.storage records =
        { Trace.run (withBatchRevoked issuer reason timestamp) before.storage records with
          globalStats := if records = [] then before.storage.globalStats
            else { before.storage.globalStats with
              totalRevocations :=
                saturatingAddU64 before.storage.globalStats.totalRevocations records.length } } ↔
      ∀ record ∈ records, Pruned before.storage record := by
  rw [run_withRevoked]
  constructor
  · intro same record member
    have subject : Held (Trace.run (withBatchRevoked issuer reason timestamp) before.storage
        records).subjectAttestationChunk := by
      rw [run_withBatchRevoked_subjectAttestationChunk]
      exact kept.subject
    have issuer : Held (Trace.run (withBatchRevoked issuer reason timestamp) before.storage
        records).issuerAttestationChunk := by
      rw [run_withBatchRevoked_issuerAttestationChunk]
      exact kept.issuer
    -- nothing is left to prune after the single form, so by `same` not after the batch either
    obtain ⟨valid, subjectFree, issuerFree⟩ := pruned_run subject issuer records record member
    rw [same] at valid subjectFree issuerFree
    exact (pruned_batch_iff timestamp records record).mp ⟨valid, subjectFree, issuerFree⟩
  · intro pruned
    rw [run_withPruned fun record member =>
      (pruned_batch_iff timestamp records record).mpr (pruned record member)]
    simp only [run_withBatchRevoked_globalStats]

omit [DecidableEq Address] in
theorem mem_of_revocable {storage : Storage Address} {records : List (Attestation Address)}
    (revocable : List.Forall₂ (Revocable issuer storage) ids records) {record : Attestation Address}
    {id : Str} (member : id ∈ ids) (found : storage.attestation id = some record) :
    record ∈ records := by
  have loaded := map_of_revocable (fun record => record) revocable
  rw [List.map_id'] at loaded
  rw [← loaded, List.mem_flatMap]
  exact ⟨id, member, by simp [found]⟩

/-- With something to revoke, the two forms make the same checks. -/
theorem batch_returns_iff (kept : WellKept before.storage) (some_id : ids ≠ [])
    (small : ids.length ≤ 50) :
    (∃ count after, Returns (revokeAttestationsBatch issuer ids reason) env before count after) ↔
      ∃ after, Returns (each (revokeAttestation issuer · reason) ids) env before () after := by
  constructor
  · rintro ⟨count, after, returned⟩
    obtain ⟨records, ⟨auth, running, registered, valid, -, distinct, revocable, ttl⟩, -⟩ :=
      (returns_revokeAttestationsBatch ..).mp returned
    have some_record : records ≠ [] := by
      rintro rfl
      exact some_id (List.forall₂_nil_right_iff.mp revocable)
    exact ⟨_, (returns_revoke_each kept ids ()).mpr ⟨records,
      fun _ => ⟨⟨auth, running, registered, valid⟩, ttl some_record⟩, distinct, revocable, rfl⟩⟩
  · rintro ⟨after, returned⟩
    obtain ⟨records, checks, distinct, revocable, -⟩ := (returns_revoke_each kept ids ()).mp returned
    obtain ⟨⟨auth, running, registered, valid⟩, ttl⟩ := checks some_id
    exact ⟨_, _, (returns_revokeAttestationsBatch ..).mpr ⟨records,
      ⟨auth, running, registered, valid, small, distinct, revocable, fun _ => ttl⟩, rfl, rfl⟩⟩

variable [Host Address]

theorem wellKept_run (calls : List (Call Address)) : WellKept (run calls).storage :=
  ⟨fun id record found => (keyed_run calls id record found).1, (held_run calls).1,
    (held_run calls).2⟩

/-- In a reachable state a batch revocation is the revocation of its ids one after
another exactly if it passes its checks with nothing to do and has nothing to prune. -/
theorem revokes_alike_iff (calls : List (Call Address)) (env : Env Address) (issuer : Address)
    (ids : List Str) (reason : Option Str)
    (registered : (run calls).storage.issuer issuer = true) (small : ids.length ≤ 50) :
    RevokesAlike (run calls) env issuer ids reason ↔
      BatchSuffices (run calls).storage env issuer ids reason := by
  have kept := wellKept_run calls
  by_cases empty : ids = []
  · subst empty
    -- without ids the iteration succeeds whoever asks; only the batch makes checks
    have idle : Returns (each (revokeAttestation issuer · reason) []) env (run calls) ()
        (run calls) := (returns_pure ..).mpr ⟨rfl, rfl⟩
    constructor
    · intro alike
      obtain ⟨count, after, returned⟩ := alike.together.mpr ⟨_, idle⟩
      obtain ⟨records, ⟨auth, running, -, valid, -⟩, -⟩ :=
        (returns_revokeAttestationsBatch ..).mp returned
      exact ⟨fun _ => ⟨auth, running, registered, valid⟩, fun some_id => absurd rfl some_id⟩
    · intro suffice
      obtain ⟨auth, running, -, valid⟩ := suffice.idle rfl
      have returned : Returns (revokeAttestationsBatch issuer [] reason) env (run calls) 0
          (run calls) :=
        (returns_revokeAttestationsBatch ..).mpr ⟨[], ⟨auth, running, registered, valid, small,
          List.nodup_nil, .nil, fun some_record => absurd rfl some_record⟩, rfl, by simp⟩
      refine ⟨⟨fun _ => ⟨_, idle⟩, fun _ => ⟨_, _, returned⟩⟩, ?_⟩
      intro count after final batch single
      obtain ⟨rfl, rfl⟩ := returns_unique returned batch
      obtain ⟨-, rfl⟩ := returns_unique idle single
      exact ⟨rfl, rfl⟩
  · constructor
    · intro alike
      refine ⟨fun same => absurd same empty, fun _ checks id member record found => ?_⟩
      obtain ⟨records, revocable⟩ := revocable_records checks.revocable
      have batch := (returns_revokeAttestationsBatch issuer ids reason _).mpr ⟨records,
        ⟨checks.auth, checks.running, checks.registered, checks.reason, small, checks.distinct,
          revocable, fun _ => checks.ttl⟩, rfl, rfl⟩
      have single := (returns_revoke_each kept ids ()).mpr ⟨records,
        fun _ => ⟨⟨checks.auth, checks.running, checks.registered, checks.reason⟩, checks.ttl⟩,
        checks.distinct, revocable, rfl⟩
      have same := (alike.alike _ _ _ batch single).1
      exact (same_storage_iff kept _ records).mp same record
        (mem_of_revocable revocable member found)
    · intro suffice
      refine ⟨batch_returns_iff kept empty small, fun count after final batch single => ?_⟩
      obtain ⟨records, ⟨auth, running, -, valid, -, distinct, revocable, ttl⟩, rfl, rfl⟩ :=
        (returns_revokeAttestationsBatch ..).mp batch
      obtain ⟨others, checks, -, again, rfl⟩ := (returns_revoke_each kept ids ()).mp single
      have loaded : others = records := by
        simpa using (map_of_revocable (fun record => record) again).symm.trans
          (map_of_revocable (fun record => record) revocable)
      subst loaded
      have pruned := suffice.pruned empty ⟨auth, running, registered, valid, small, distinct,
        revocable_of_mem revocable, (checks empty).2⟩
      refine ⟨(same_storage_iff kept _ others).mpr fun record member => ?_,
        revocable.length_eq.symm⟩
      have found := (found_of_revocable (keyed_run calls) revocable record member).2
      have named : record.id ∈ ids := by
        rw [← ids_of_revocable (keyed_run calls) revocable]
        exact List.mem_map_of_mem member
      exact pruned record.id named record found

end Runs

section Samples
open Xdr

/-- The subject has its record deleted, and the administrator gives it to issuer 3. -/
def emptiedRun : List (Call ContractId) :=
  sampleDeployment ++ [sampleIssuance,
    signed 1001 (contractId 2) (.attestation (.requestDeletion (contractId 2) sampleId)),
    sampleTransfer]

theorem free_of_read {Address : Type} {chunks : Address → Nat → Option (List Str)} {owner : Address}
    {items : List Str} {id : Str} (held : Held chunks)
    (read : Chunks.read (chunks owner) u32Range 0 [] = some items) (absent : id ∉ items) :
    Free (chunks owner) id := by
  obtain ⟨others, holds⟩ := held owner
  obtain rfl := Option.some.inj (read.symm.trans holds.read)
  exact ⟨items, holds, absent⟩

theorem emptiedRun_pruned {record : Attestation ContractId}
    (found : (run emptiedRun).storage.attestation sampleId = some record) :
    Pruned (run emptiedRun).storage record := by
  have kept := wellKept_run emptiedRun
  have parties : ((run emptiedRun).storage.attestation sampleId).map
      (fun record => (record.id, record.subject, record.issuer)) =
        some (sampleId, contractId 2, contractId 3) := by decide +kernel
  rw [found, Option.map_some, Option.some.injEq, Prod.mk.injEq, Prod.mk.injEq] at parties
  obtain ⟨id, subject, issuer⟩ := parties
  constructor
  · rw [id, subject]
    decide +kernel
  · rw [id, subject]
    exact free_of_read kept.subject (by decide +kernel) List.not_mem_nil
  · rw [id, issuer]
    exact free_of_read kept.issuer (by decide +kernel) List.not_mem_nil

/-- Issuer 3 revokes it, in a batch or not. -/
theorem revokes_alike_sample :
    RevokesAlike (run emptiedRun) ⟨1003, [contractId 3], fun _ => true, fun _ => true⟩ (contractId 3)
      [sampleId] none := by
  refine (revokes_alike_iff emptiedRun _ (contractId 3) [sampleId] none (by decide +kernel)
    (by decide)).mpr ⟨nofun, fun _ _ id member record found => ?_⟩
  rw [List.mem_singleton] at member
  subst member
  exact emptiedRun_pruned found

/-- Issuer 1 revokes the record of the sample run: the batch leaves its id among the valid
ones. -/
theorem batch_leaves_valid :
    (run (sampleDeployment ++ [sampleIssuance])).storage.issuer (contractId 1) = true ∧
      (∃ after, Returns (revokeAttestationsBatch (contractId 1) [sampleId] none)
        ⟨1001, [contractId 1], fun _ => true, fun _ => true⟩
        (run (sampleDeployment ++ [sampleIssuance])) 1 after ∧
        after.storage.validAttestations (contractId 2) = [sampleId]) ∧
      (∃ final, Returns (each (revokeAttestation (contractId 1) · none) [sampleId])
        ⟨1001, [contractId 1], fun _ => true, fun _ => true⟩
        (run (sampleDeployment ++ [sampleIssuance])) () final ∧
        final.storage.validAttestations (contractId 2) = []) ∧
      ¬ RevokesAlike (run (sampleDeployment ++ [sampleIssuance]))
        ⟨1001, [contractId 1], fun _ => true, fun _ => true⟩ (contractId 1) [sampleId] none := by
  obtain ⟨count, after, returned, left⟩ := exists_returns
    (revokeAttestationsBatch (contractId 1) [sampleId] none)
    ⟨1001, [contractId 1], fun _ => true, fun _ => true⟩ (run (sampleDeployment ++ [sampleIssuance]))
    (fun count world => (count, world.storage.validAttestations (contractId 2))) (1, [sampleId])
    (by decide +kernel)
  obtain ⟨done, final, revoked, cleared⟩ := exists_returns
    (each (revokeAttestation (contractId 1) · none) [sampleId])
    ⟨1001, [contractId 1], fun _ => true, fun _ => true⟩ (run (sampleDeployment ++ [sampleIssuance]))
    (fun _ world => world.storage.validAttestations (contractId 2)) [] (by decide +kernel)
  obtain ⟨rfl, valid⟩ := Prod.mk.inj left
  refine ⟨by decide +kernel, ⟨after, returned, valid⟩, ⟨final, revoked, cleared⟩, fun alike => ?_⟩
  rw [(alike.alike _ _ _ returned revoked).1, valid] at cleared
  cases cleared

end Samples

end TrustLink
