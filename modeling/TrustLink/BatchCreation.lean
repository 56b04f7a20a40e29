import TrustLink.ChunkSync
import TrustLink.Counters

/-!
Batch creation against the writes it merges. The batch lists its records under
their subjects one by one and writes the issuer's half of all of them once, at
the end; `storeOneByOne` writes both halves of every record.
-/
namespace TrustLink
open Transaction Contract ChunkedIndex

section Iterated
variable {Address : Type} [DecidableEq Address]

/-- `store_attestation` of one record, and its `Created` entry. -/
def storeCreated (attestation : Attestation Address) : Program Address Unit := do
  storeAttestation attestation
  Storage.appendAuditEntry attestation.id
    ⟨.created, attestation.issuer, attestation.timestamp, none⟩

/-- The records are stored one after another, then the time of issuance. -/
def storeOneByOne (issuer : Address) (records : List (Attestation Address)) :
    Program Address Unit := do
  each storeCreated records
  let timestamp ← ledgerTimestamp
  Storage.setLastIssuanceTime issuer timestamp

/-- The storage `storeCreated` leaves. -/
def withStored (storage : Storage Address) (attestation : Attestation Address) :
    Storage Address :=
  { storage.withIssued attestation with
    auditLog := Function.update storage.auditLog attestation.id
      (storage.auditLog attestation.id ++
        [⟨.created, attestation.issuer, attestation.timestamp, none⟩]) }

variable {env : Env Address} {before after : World Address}

theorem returns_storeCreated (attestation : Attestation Address) (done : Unit) :
    Returns (storeCreated attestation) env before done after ↔
      StoreFits before.storage attestation ∧
        after = before.write (withStored · attestation) := by
  simp [storeCreated]
  intro fits
  exact ⟨fun returned => returned.2, fun left => ⟨fits.ttl, left⟩⟩

theorem returns_each_storeCreated (records : List (Attestation Address)) (done : Unit) :
    Returns (each storeCreated records) env before done after ↔
      Trace.Each withStored StoreFits before.storage records ∧
        after = before.write (Trace.run withStored · records) := by
  induction records generalizing before with
  | nil => simp [each, Trace.Each, World.write]
  | cons record rest ih =>
      simp only [each, returns_bind, returns_storeCreated, ih, Trace.Each, Trace.run_cons]
      constructor
      · rintro ⟨_, _, ⟨fits, rfl⟩, remaining, rfl⟩
        exact ⟨⟨fits, remaining⟩, rfl⟩
      · rintro ⟨⟨fits, remaining⟩, rfl⟩
        exact ⟨(), _, ⟨fits, rfl⟩, remaining, rfl⟩

theorem run_withStored_ttlConfig (storage : Storage Address)
    (records : List (Attestation Address)) :
    (Trace.run withStored storage records).ttlConfig = storage.ttlConfig :=
  Trace.run_keeps withStored (·.ttlConfig) (fun _ _ => rfl) storage records

theorem returns_storeOneByOne (issuer : Address) (records : List (Attestation Address))
    (done : Unit) :
    Returns (storeOneByOne issuer records) env before done after ↔
      Trace.Each withStored StoreFits before.storage records ∧
        TtlFits before.storage.ttlConfig ∧
        after = before.write fun storage =>
          { Trace.run withStored storage records with
            lastIssuanceTime := Function.update
              (Trace.run withStored storage records).lastIssuanceTime issuer
              (some env.timestamp) } := by
  simp only [storeOneByOne, ledgerTimestamp, Storage.setLastIssuanceTime, returns_bind,
    returns_each_storeCreated, returns_ask, returns_pure, returns_persist]
  constructor
  · rintro ⟨_, _, ⟨fits, rfl⟩, _, _, ⟨_, _, ⟨rfl, rfl⟩, rfl, rfl⟩, ttl, rfl⟩
    rw [World.storage_write, run_withStored_ttlConfig] at ttl
    exact ⟨fits, ttl, rfl⟩
  · rintro ⟨fits, ttl, rfl⟩
    rw [← run_withStored_ttlConfig _ records] at ttl
    exact ⟨(), _, ⟨fits, rfl⟩, _, _, ⟨_, _, ⟨rfl, rfl⟩, rfl, rfl⟩, ttl, rfl⟩

end Iterated

section Merged
variable {Address : Type} [DecidableEq Address]

/-- The storage with the issuer's half of a list of new attestations, as the batch
writes it. -/
def withOwned (issuer : Address) (ids : List Str) (storage : Storage Address) :
    Storage Address :=
  { storage with
    issuerAttestations := Function.update storage.issuerAttestations issuer
      (storage.issuerAttestations issuer ++ ids)
    issuerAttestationChunk := Function.update storage.issuerAttestationChunk issuer
      (rewritten (· ++ ids) (storage.issuerAttestationChunk issuer))
    issuerStats := Function.update storage.issuerStats issuer
      ⟨saturatingAddU64 (storage.issuerStats issuer).totalIssued ids.length⟩
    globalStats := { storage.globalStats with
      totalAttestations := saturatingAddU64 storage.globalStats.totalAttestations ids.length } }

variable {storage : Storage Address} {issuer : Address} {items : List Str}

/-- The two halves of a record do not meet. -/
theorem withListed_withOwned (ids : List Str) (storage : Storage Address)
    (record : Attestation Address) :
    withListed (withOwned issuer ids storage) record =
      withOwned issuer ids (withListed storage record) := rfl

theorem withStored_eq {record : Attestation Address} (own : record.issuer = issuer)
    (small : (storage.issuerStats issuer).totalIssued + 1 < u64Range) :
    withStored storage record = withOwned issuer [record.id] (withListed storage record) := by
  subst own
  have issued := saturatingAddU64_of_lt small
  simp [withStored, Storage.withIssued, withOwned, withListed, issued]

theorem saturatingAddU64_zero {base : Nat} (small : base < u64Range) :
    saturatingAddU64 base 0 = base :=
  saturatingAddU64_of_lt small

theorem CountersFit.withStored {record : Attestation Address} (fits : CountersFit storage)
    (stored : StoreFits storage record) : CountersFit (withStored storage record) :=
  ⟨(fits.withIssued stored).attestations, (fits.withIssued stored).issued⟩

/-- What two writes merge into. -/
theorem withOwned_withOwned {first second : List Str}
    (holds : Holds (storage.issuerAttestationChunk issuer) items)
    (short : (items ++ first ++ second).length < u32Range) :
    withOwned issuer second (withOwned issuer first storage) =
      withOwned issuer (first ++ second) storage := by
  have early : Rewritable (· ++ first) (storage.issuerAttestationChunk issuer) := by
    rw [holds.rewritable_iff]
    rw [List.length_append] at short
    omega
  have late : Rewritable (· ++ second)
      (rewritten (· ++ first) (storage.issuerAttestationChunk issuer)) :=
    ((holds.rewritten early).rewritable_iff _).mpr short
  have chunks := (holds.rewritten_comp early late).2
  have joined : (· ++ second) ∘ (· ++ first) = (· ++ (first ++ second) : List Str → List Str) :=
    funext fun list => List.append_assoc list first second
  rw [joined] at chunks
  simp [withOwned, chunks, saturatingAddU64_assoc]

theorem withOwned_nil (fits : CountersFit storage)
    (holds : Holds (storage.issuerAttestationChunk issuer) items) :
    withOwned issuer [] storage = storage := by
  have chunks := (holds.rewritten_self (fun list => list) rfl).2
  have issued : saturatingAddU64 (storage.issuerStats issuer).totalIssued 0 =
      (storage.issuerStats issuer).totalIssued := saturatingAddU64_zero (fits.issued issuer)
  have total := saturatingAddU64_zero fits.attestations
  simp [withOwned, chunks, issued, total]

/-- Storing the records one by one leaves what the loop of the batch and its write of
the issuer's half leave. -/
theorem stored_one_by_one {limits : StorageLimits} {records : List (Attestation Address)}
    (own : ∀ record ∈ records, record.issuer = issuer) (fits : CountersFit storage)
    (holds : Holds (storage.issuerAttestationChunk issuer) items)
    (listable : Trace.Each withListed (Listable limits) storage records)
    (short : items.length + records.length < u32Range)
    (small : (storage.issuerStats issuer).totalIssued + records.length < u64Range) :
    Trace.Each withStored StoreFits storage records ∧
      Trace.run withStored storage records =
        withOwned issuer (records.map (·.id)) (Trace.run withListed storage records) := by
  induction records generalizing storage items with
  | nil => exact ⟨trivial, (withOwned_nil fits holds).symm⟩
  | cons record rest ih =>
      obtain rfl := own record (by simp)
      rw [List.length_cons] at short small
      have issued : (storage.issuerStats record.issuer).totalIssued + 1 < u64Range := by omega
      have chunks : Rewritable (· ++ [record.id])
          (storage.issuerAttestationChunk record.issuer) := by
        rw [holds.rewritable_iff, List.length_append, List.length_singleton]
        omega
      have stored : StoreFits storage record :=
        ⟨listable.1.ttl, issued, listable.1.subject, chunks⟩
      have next := withStored_eq rfl issued
      -- the storage after the first record meets the hypotheses for the rest
      have held : Holds ((withStored storage record).issuerAttestationChunk record.issuer)
          (items ++ [record.id]) := by
        simpa [withStored, Storage.withIssued] using holds.rewritten chunks
      have remaining : Trace.Each withListed (Listable limits) (withStored storage record) rest := by
        rw [next]
        exact Trace.each_comm (withListed_withOwned [record.id])
          (fun _ _ checks => ⟨checks.fresh, checks.room, checks.ttl, checks.subject⟩) listable.2
      have room : (items ++ [record.id]).length + rest.length < u32Range := by
        rw [List.length_append, List.length_singleton]
        omega
      have total : ((withStored storage record).issuerStats record.issuer).totalIssued =
          (storage.issuerStats record.issuer).totalIssued + 1 := by
        simp [withStored, Storage.withIssued]
      obtain ⟨each, left⟩ := ih (fun other member => own other (by simp [member]))
        (fits.withStored stored) held remaining room (by omega)
      refine ⟨⟨stored, each⟩, ?_⟩
      -- the first write of the issuer's half moves past the loop and merges with the rest
      rw [Trace.run_cons, Trace.run_cons, left, next,
        Trace.run_comm withListed (withListed_withOwned [record.id])]
      have listed : Holds ((Trace.run withListed (withListed storage record)
          rest).issuerAttestationChunk record.issuer) items := by
        rw [run_withListed_issuerAttestationChunk]
        exact holds
      have fitting : (items ++ [record.id] ++ rest.map (·.id)).length < u32Range := by
        rw [List.length_append, List.length_map]
        exact room
      rw [withOwned_withOwned listed fitting]
      rfl

/-- One by one, every record takes one from what the issuer's counter can hold. -/
theorem issued_of_each {records : List (Attestation Address)}
    (own : ∀ record ∈ records, record.issuer = issuer)
    (fits : (storage.issuerStats issuer).totalIssued < u64Range)
    (stored : Trace.Each withStored StoreFits storage records) :
    (storage.issuerStats issuer).totalIssued + records.length < u64Range := by
  induction records generalizing storage with
  | nil => exact fits
  | cons record rest ih =>
      obtain rfl := own record (by simp)
      have total : ((withStored storage record).issuerStats record.issuer).totalIssued =
          (storage.issuerStats record.issuer).totalIssued + 1 := by
        simp [withStored, Storage.withIssued]
      have later := ih (fun other member => own other (by simp [member]))
        (total ▸ stored.1.total) stored.2
      rw [total] at later
      rw [List.length_cons]
      omega

/-- The loop stops at an id that is already taken, by an earlier turn as well. -/
theorem ids_of_listable {limits : StorageLimits} {records : List (Attestation Address)}
    (listable : Trace.Each withListed (Listable limits) storage records) :
    (records.map (·.id)).Nodup ∧ ∀ record ∈ records, storage.attestation record.id = none := by
  induction records generalizing storage with
  | nil => exact ⟨List.nodup_nil, by simp⟩
  | cons record rest ih =>
      obtain ⟨distinct, free⟩ := ih listable.2
      have apart : ∀ other ∈ rest, other.id ≠ record.id := by
        intro other member same
        have taken := free other member
        simp [withListed, same] at taken
      refine ⟨List.nodup_cons.mpr ⟨fun member => ?_, distinct⟩, ?_⟩
      · obtain ⟨other, listed, same⟩ := List.mem_map.mp member
        exact apart other listed same
      · rw [List.forall_mem_cons]
        refine ⟨listable.1.fresh, fun other member => ?_⟩
        simpa [withListed, apart other member] using free other member

end Merged

section Runs
variable {Address : Type} [DecidableEq Address] [Host Address]

/-- A batch that succeeds names each subject once and returns their ids in order.
Storing its records one by one succeeds exactly when the issuer's counter can hold
them, and then leaves the same storage. -/
theorem batch_creates_one_by_one (calls : List (Call Address)) (env : Env Address)
    (issuer : Address) (subjects : List Address) (claimType : Str) (expiration : Option Nat)
    (ids : List Str) (after : World Address)
    (accepted : Returns (createAttestationsBatch issuer subjects claimType expiration) env
      (run calls) ids after) :
    ids = subjects.map (Attestation.generateId issuer · claimType env.timestamp) ∧ ids.Nodup ∧
      subjects.Nodup ∧
      ((∃ final, Returns (storeOneByOne issuer
          (subjects.map (batchRecord issuer claimType expiration env.timestamp))) env (run calls) ()
          final) ↔
        ((run calls).storage.issuerStats issuer).totalIssued + subjects.length < u64Range) ∧
      ∀ final, Returns (storeOneByOne issuer
          (subjects.map (batchRecord issuer claimType expiration env.timestamp))) env (run calls) ()
          final → final.storage = after.storage := by
  obtain ⟨records, built⟩ : ∃ records,
      records = subjects.map (batchRecord issuer claimType expiration env.timestamp) := ⟨_, rfl⟩
  obtain ⟨checks, rfl, rfl⟩ := (returns_createAttestationsBatch _ _ _ _ _ records built).mp accepted
  have own : ∀ record ∈ records, record.issuer = issuer := by
    intro record member
    rw [built] at member
    obtain ⟨subject, -, rfl⟩ := List.mem_map.mp member
    rfl
  have named : records.map (·.id) =
      subjects.map (Attestation.generateId issuer · claimType env.timestamp) := by
    rw [built, List.map_map]
    rfl
  have counted : records.length = subjects.length := by rw [built, List.length_map]
  have distinct := (ids_of_listable checks.listable).1
  obtain ⟨items, holds⟩ := (held_run calls).2 issuer
  have fits := countersFit_run calls
  have short : items.length + records.length < u32Range := by
    simpa using (holds.rewritable_iff _).mp checks.chunks
  have merged := fun small => stored_one_by_one own fits holds checks.listable short small
  rw [← built]
  -- a subject named twice would give one id twice
  refine ⟨named, distinct, (named ▸ distinct).of_map _, ⟨?_, fun small => ?_⟩, fun final stored => ?_⟩
  · rintro ⟨final, stored⟩
    have each := ((returns_storeOneByOne ..).mp stored).1
    exact counted ▸ issued_of_each own (fits.issued issuer) each
  · have each := (merged (counted.symm ▸ small)).1
    exact ⟨_, (returns_storeOneByOne ..).mpr ⟨each, checks.ttl, rfl⟩⟩
  · obtain ⟨each, -, rfl⟩ := (returns_storeOneByOne ..).mp stored
    have left := (merged (issued_of_each own (fits.issued issuer) each)).2
    simp only [World.storage_write, left]
    simp [withOwned]

end Runs

section Samples
open Xdr

/-- A time at which issuer 1 signs. -/
def sampleEnv : Env ContractId := ⟨1000, [contractId 1], fun _ => true, fun _ => true⟩

/-- Issuer 1 attests KYC of contracts 2 and 4 in one batch. -/
theorem batch_creates_one_by_one_sample :
    ∃ ids after final,
      Returns (createAttestationsBatch (contractId 1) [contractId 2, contractId 4] (ascii "KYC")
        none) sampleEnv (run sampleDeployment) ids after ∧
      Returns (storeOneByOne (contractId 1) ([contractId 2, contractId 4].map
        (batchRecord (contractId 1) (ascii "KYC") none 1000))) sampleEnv (run sampleDeployment) ()
        final ∧
      final.storage = after.storage := by
  obtain ⟨ids, after, accepted, -⟩ := exists_returns (createAttestationsBatch (contractId 1)
    [contractId 2, contractId 4] (ascii "KYC") none) sampleEnv (run sampleDeployment)
    (fun ids _ => ids.length) 2 (by decide +kernel)
  obtain ⟨-, -, -, stores, same⟩ := batch_creates_one_by_one sampleDeployment sampleEnv
    (contractId 1) [contractId 2, contractId 4] (ascii "KYC") none ids after accepted
  have none_issued : ((run sampleDeployment).storage.issuerStats (contractId 1)).totalIssued = 0 :=
    rfl
  obtain ⟨final, stored⟩ := stores.mpr (by rw [none_issued]; decide)
  exact ⟨ids, after, final, accepted, stored, same final stored⟩

/-- Issuer 1 is premium and bypasses the multi-sig protocol. -/
def sampleBypass : Call ContractId :=
  signed 1000 (contractId 1) (.multisig
    (.proposeAttestation (contractId 1) (contractId 2) accreditedInvestor [] 0))

def sampleBypassId : Str :=
  Attestation.generateId (contractId 1) (contractId 2) accreditedInvestor 1000

def sampleBypassRevocation : Call ContractId :=
  signed 1001 (contractId 1) (.attestation (.revokeAttestation (contractId 1) sampleBypassId none))

/-- Each cycle stores the same record once more, over the revoked one, and revokes it. -/
def issuanceCycles : Nat → List (Call ContractId)
  | 0 => sampleDeployment ++ [
      signed 950 (contractId 9) (.admin (.setIssuerTier (contractId 9) (contractId 1) .premium))]
  | count + 1 => issuanceCycles count ++ [sampleBypass, sampleBypassRevocation]

/-- What a number of cycles leave: nothing is listed, but the counter went up. -/
structure Cycled (storage : Storage ContractId) (count : Nat) : Prop where
  registered : storage.issuer (contractId 1) = true
  premium : storage.issuerTier (contractId 1) = some .premium
  running : storage.paused = false
  ttl : TtlFits storage.ttlConfig
  limits : storage.limits = StorageLimits.default
  unlimited : (storage.claimTypeRateLimit (ascii "KYC")).or
    (storage.rateLimitConfig.map (·.minIssuanceInterval)) = none
  free : storage.attestation sampleId = none
  subject : storage.subjectAttestations (contractId 2) = []
  issuer : storage.issuerAttestations (contractId 1) = []
  subjectChunk : Holds (storage.subjectAttestationChunk (contractId 2)) []
  issuerChunk : Holds (storage.issuerAttestationChunk (contractId 1)) []
  issued : (storage.issuerStats (contractId 1)).totalIssued = count

theorem holds_one {chunks : Nat → Option (List Str)} (empty : Holds chunks []) (id : Str) :
    Rewritable (· ++ [id]) chunks ∧ Holds (rewritten (· ++ [id]) chunks) [id] := by
  have changes : Rewritable (· ++ [id]) chunks :=
    (empty.rewritable_iff _).mpr (by simp [u32Range])
  exact ⟨changes, empty.rewritten changes⟩

theorem holds_none {chunks : Nat → Option (List Str)} {id : Str} (one : Holds chunks [id]) :
    Rewritable (·.filter (· ≠ id)) chunks ∧ Holds (rewritten (·.filter (· ≠ id)) chunks) [] := by
  have changes : Rewritable (·.filter (· ≠ id)) chunks :=
    (one.rewritable_iff _).mpr (by simp [u32Range])
  exact ⟨changes, by simpa using one.rewritten changes⟩

theorem Cycled.next {world : World ContractId} {count : Nat} (cycled : Cycled world.storage count)
    (small : count + 1 < u64Range) :
    Cycled (runFrom world [sampleBypass, sampleBypassRevocation]).storage (count + 1) := by
  obtain ⟨record, built⟩ : ∃ record,
      record = nativeRecord (contractId 1) (contractId 2) accreditedInvestor 1000 := ⟨_, rfl⟩
  have id : sampleBypassId = record.id := by rw [built]; rfl
  have issuer : record.issuer = contractId 1 := by rw [built]; rfl
  have subject : record.subject = contractId 2 := by rw [built]; rfl
  have active : record.revoked = false := by rw [built]; rfl
  obtain ⟨subjectRoom, subjectOne⟩ := holds_one cycled.subjectChunk record.id
  obtain ⟨issuerRoom, issuerOne⟩ := holds_one cycled.issuerChunk record.id
  obtain ⟨subjectPrunes, subjectNone⟩ := holds_none subjectOne
  obtain ⟨issuerPrunes, issuerNone⟩ := holds_none issuerOne
  have fits : StoreFits world.storage record :=
    ⟨cycled.ttl, by rw [issuer, cycled.issued]; exact small, by rw [subject]; exact subjectRoom,
      by rw [issuer]; exact issuerRoom⟩
  have bypassed : Accepted world sampleBypass ⟨world.storage.withIssued record,
      world.events ++ [.attestationCreated record], world.payments⟩ :=
    (returns_void ..).mpr ⟨record.id, (returns_proposeAttestation ..).mpr
      ⟨⟨by simp [sampleBypass, signed], cycled.registered, cycled.running⟩,
        .inl ⟨⟨rfl, cycled.premium⟩, (returns_issueAsPremium _ _ _ _ _ built).mpr
          ⟨fits, rfl, rfl⟩⟩⟩⟩
  -- the record is stored and listed once, so its issuer can revoke it
  have stored : (world.storage.withIssued record).attestation sampleBypassId = some record := by
    simp [Storage.withIssued, id]
  have subjectChunk : (world.storage.withIssued record).subjectAttestationChunk (contractId 2) =
      rewritten (· ++ [record.id]) (world.storage.subjectAttestationChunk (contractId 2)) := by
    simp [Storage.withIssued, subject]
  have issuerChunk : (world.storage.withIssued record).issuerAttestationChunk (contractId 1) =
      rewritten (· ++ [record.id]) (world.storage.issuerAttestationChunk (contractId 1)) := by
    simp [Storage.withIssued, issuer]
  have revoked : Accepted ⟨world.storage.withIssued record,
      world.events ++ [.attestationCreated record], world.payments⟩ sampleBypassRevocation _ :=
    (returns_revokeAttestation ..).mpr ⟨record,
      ⟨by simp [sampleBypassRevocation, signed], cycled.running, cycled.registered, stored, issuer,
        active, cycled.ttl⟩, rfl,
      by rw [subject, subjectChunk, id]; exact subjectPrunes,
      by rw [issuerChunk, id]; exact issuerPrunes, rfl⟩
  rw [runFrom, Trace.run_cons, step_of_accepted bypassed, Trace.run_cons, step_of_accepted revoked,
    Trace.run_nil]
  have apart : sampleId ≠ sampleBypassId := by decide +kernel
  refine ⟨cycled.registered, cycled.premium, cycled.running, cycled.ttl, cycled.limits,
    cycled.unlimited, ?_, ?_, ?_, ?_, ?_, ?_⟩
  · simp [Storage.withIssued, ← id, apart, cycled.free]
  · simp [Storage.withIssued, subject, id, cycled.subject]
  · simp [Storage.withIssued, issuer, id, cycled.issuer]
  · simpa [subject, subjectChunk, id] using subjectNone
  · simpa [issuerChunk, id] using issuerNone
  · simp [Storage.withIssued, issuer, cycled.issued]

theorem cycled_run {count : Nat} (small : count < u64Range) :
    Cycled (run (issuanceCycles count)).storage count := by
  induction count with
  | zero =>
      exact ⟨rfl, rfl, rfl, by decide +kernel, rfl, rfl, rfl, rfl, rfl,
        ChunkedIndex.holds_nil, ChunkedIndex.holds_nil, rfl⟩
  | succ count ih =>
      have before := ih (by omega)
      rw [issuanceCycles, run_append]
      exact before.next small

theorem batch_outlives_counter :
    ∃ ids after,
      Returns (createAttestationsBatch (contractId 1) [contractId 2] (ascii "KYC") none) sampleEnv
        (run (issuanceCycles (u64Range - 1))) ids after ∧
      ¬ ∃ final, Returns (storeOneByOne (contractId 1) ([contractId 2].map
        (batchRecord (contractId 1) (ascii "KYC") none 1000))) sampleEnv
        (run (issuanceCycles (u64Range - 1))) () final := by
  -- the run is too long to evaluate; `cycled_run` says what it leaves
  obtain ⟨world, same⟩ : ∃ world, world = run (issuanceCycles (u64Range - 1)) := ⟨_, rfl⟩
  have cycled : Cycled world.storage (u64Range - 1) := by
    rw [same]
    exact cycled_run (by decide)
  rw [← same]
  obtain ⟨subjectRoom, -⟩ := holds_one cycled.subjectChunk sampleId
  obtain ⟨issuerRoom, -⟩ := holds_one cycled.issuerChunk sampleId
  have checks : BatchChecks world.storage sampleEnv (contractId 1) [contractId 2] (ascii "KYC")
      none ([contractId 2].map (batchRecord (contractId 1) (ascii "KYC") none 1000)) := by
    refine ⟨by simp [sampleEnv], cycled.registered, cycled.running, by decide, by simp, ?_, ?_,
      ⟨⟨cycled.free, ?_, cycled.ttl, subjectRoom⟩, trivial⟩, cycled.ttl, issuerRoom⟩
    · simp [RateAllows, cycled.unlimited]
    · rw [cycled.issuer, cycled.limits]
      decide
    · show (world.storage.subjectAttestations (contractId 2)).length < _
      rw [cycled.subject, cycled.limits]
      decide
  refine ⟨_, _, (returns_createAttestationsBatch _ _ _ _ _ _ rfl).mpr ⟨checks, rfl, rfl⟩, ?_⟩
  rintro ⟨final, stored⟩
  have total : (world.storage.issuerStats (contractId 1)).totalIssued + 1 < u64Range :=
    ((returns_storeOneByOne ..).mp stored).1.1.total
  rw [cycled.issued] at total
  exact absurd total (by decide)

end Samples

end TrustLink
