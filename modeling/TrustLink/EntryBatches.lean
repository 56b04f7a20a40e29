import TrustLink.BatchRevocation
import TrustLink.EntryAgreement

/-!
The batch creation of lib.rs against the one of attestation.rs. Both loops refuse the same
subject; what traps, and what is left when nothing does, is different.
-/
namespace TrustLink
open Transaction

section Refusals
variable {Address : Type} [DecidableEq Address]

/-- What the refusals of a batch are decided by. -/
def Storage.listing (storage : Storage Address) :
    (Str → Option (Attestation Address)) × (Address → List Str) :=
  (storage.attestation, storage.subjectAttestations)

def withListing (listing : (Str → Option (Attestation Address)) × (Address → List Str))
    (record : Attestation Address) : (Str → Option (Attestation Address)) × (Address → List Str) :=
  (Function.update listing.1 record.id (some record),
    Function.update listing.2 record.subject (listing.2 record.subject ++ [record.id]))

/-- Why a batch creation refuses a subject. -/
def listRefusal (limits : StorageLimits)
    (listing : (Str → Option (Attestation Address)) × (Address → List Str))
    (record : Attestation Address) : Option Error :=
  if (listing.1 record.id).isSome then some .duplicateAttestation
  else if limits.maxAttestationsPerSubject ≤ (listing.2 record.subject).length then
    some .limitExceeded
  else none

variable {limits : StorageLimits} {storage : Storage Address} {record : Attestation Address}

omit [DecidableEq Address] in
theorem listRefusal_eq_none : listRefusal limits storage.listing record = none ↔
    storage.attestation record.id = none ∧
      (storage.subjectAttestations record.subject).length < limits.maxAttestationsPerSubject := by
  unfold listRefusal Storage.listing
  dsimp only
  split
  · rename_i stored
    refine iff_of_false (by simp) fun free => ?_
    rw [free.1] at stored
    cases stored
  · rename_i free
    have absent := Option.not_isSome_iff_eq_none.mp free
    split
    · rename_i full
      exact iff_of_false (by simp) fun room => Nat.not_lt_of_le full room.2
    · rename_i room
      exact iff_of_true rfl ⟨absent, Nat.lt_of_not_le room⟩

/-- The records up to the one are admitted, and the one is refused. -/
structure Refuses (limits : StorageLimits) (storage : Storage Address)
    (early : List (Attestation Address)) (record : Attestation Address) (error : Error) : Prop where
  admitted : Trace.Each withListing (fun listing record => listRefusal limits listing record = none)
    storage.listing early
  refused : listRefusal limits (Trace.run withListing storage.listing early) record = some error

end Refusals

section Loops
variable {Address : Type} [DecidableEq Address] {env : Env Address}

/-- A loop whose turns are refused, or trap, or list the record of their subject. -/
structure ListsBatch (env : Env Address) (limits : StorageLimits)
    (record : Address → Attestation Address)
    (list : Storage Address → Attestation Address → Storage Address)
    (fits : Storage Address → Attestation Address → Prop)
    (body : Address → Program Address Str) : Prop where
  listing : ∀ storage record, (list storage record).listing = withListing storage.listing record
  refuses : ∀ (world : World Address) subject error,
    listRefusal limits world.storage.listing (record subject) = some error →
      body subject env world = .error (.error error)
  lists : ∀ (world : World Address) subject,
    listRefusal limits world.storage.listing (record subject) = none →
      fits world.storage (record subject) →
        body subject env world = .ok ((record subject).id,
          ⟨list world.storage (record subject),
            world.events ++ [.attestationCreated (record subject)], world.payments⟩)
  traps : ∀ (world : World Address) subject,
    listRefusal limits world.storage.listing (record subject) = none →
      ¬ fits world.storage (record subject) → body subject env world = .error .trap

variable {limits : StorageLimits} {record : Address → Attestation Address}
  {list : Storage Address → Attestation Address → Storage Address}
  {fits : Storage Address → Attestation Address → Prop} {body : Address → Program Address Str}

/-- What a turn leaves. -/
def listed (record : Address → Attestation Address)
    (list : Storage Address → Attestation Address → Storage Address) (world : World Address)
    (subject : Address) : World Address :=
  ⟨list world.storage (record subject), world.events ++ [.attestationCreated (record subject)],
    world.payments⟩

omit [DecidableEq Address] in
theorem each_listed_fits (fits : Storage Address → Attestation Address → Prop)
    (world : World Address) (subjects : List Address) :
    Trace.Each (listed record list) (fun world subject => fits world.storage (record subject)) world
        subjects ↔
      Trace.Each list fits world.storage (subjects.map record) :=
  Trace.each_view World.storage record (fun _ _ => rfl) fits world subjects

section
variable (batch : ListsBatch env limits record list fits body)
include batch

theorem ListsBatch.each_admitted (world : World Address) (subjects : List Address) :
    Trace.Each (listed record list) (fun world subject =>
        (listRefusal limits world.storage.listing (record subject)).map Fault.error = none) world
        subjects ↔
      Trace.Each withListing (fun listing record => listRefusal limits listing record = none)
        world.storage.listing (subjects.map record) := by
  simp only [Option.map_eq_none_iff]
  exact Trace.each_view (fun world : World Address => world.storage.listing) record
    (fun world subject => batch.listing world.storage (record subject))
    (fun listing record => listRefusal limits listing record = none) world subjects

open Classical in
/-- The first fault of a loop is the fault it fails with. -/
theorem ListsBatch.collect_eq (subjects : List Address) (world : World Address)
    (outcome : Option Fault)
    (judged : firstFault (listed record list) (judge (fun world subject =>
        (listRefusal limits world.storage.listing (record subject)).map Fault.error)
        (fun world subject => fits world.storage (record subject)) .trap) world subjects =
          outcome) :
    collect body subjects [] env world = outcome.elim
      (.ok (subjects.map fun subject => (record subject).id,
        Trace.run (listed record list) world subjects)) .error := by
  have passes : ∀ (world : World Address) subject, judge (fun world subject =>
        (listRefusal limits world.storage.listing (record subject)).map Fault.error)
        (fun world subject => fits world.storage (record subject)) .trap world subject = none →
      body subject env world = .ok ((record subject).id, listed record list world subject) := by
    intro world subject passed
    rw [judge, Option.or_eq_none_iff] at passed
    obtain ⟨admitted, fitting⟩ := passed
    by_cases fit : fits world.storage (record subject)
    · exact batch.lists world subject (Option.map_eq_none_iff.mp admitted) fit
    · rw [if_neg fit] at fitting
      cases fitting
  have fails : ∀ (world : World Address) subject fault, judge (fun world subject =>
        (listRefusal limits world.storage.listing (record subject)).map Fault.error)
        (fun world subject => fits world.storage (record subject)) .trap world subject =
          some fault →
      body subject env world = .error fault := by
    intro world subject fault failed
    cases refused : listRefusal limits world.storage.listing (record subject) with
    | some error =>
        rw [judge, refused] at failed
        obtain rfl := Option.some.inj failed
        exact batch.refuses world subject error refused
    | none =>
        rw [judge, refused] at failed
        by_cases fit : fits world.storage (record subject)
        · simp [fit] at failed
        · obtain rfl : Fault.trap = fault := by simpa [fit] using failed
          exact batch.traps world subject refused fit
  rw [Transaction.collect_eq passes fails, judged]
  cases outcome <;> rfl

/-- Nothing is refused: the batch is listed, or traps. -/
theorem ListsBatch.of_admitted {world : World Address} {subjects : List Address}
    (admitted : Trace.Each withListing
      (fun listing record => listRefusal limits listing record = none) world.storage.listing
      (subjects.map record)) :
    (Trace.Each list fits world.storage (subjects.map record) ∧
        ∃ after, Returns (collect body subjects []) env world ((subjects.map record).map (·.id))
          after ∧ after.storage = Trace.run list world.storage (subjects.map record)) ∨
      (¬ Trace.Each list fits world.storage (subjects.map record) ∧
        collect body subjects [] env world = .error .trap) := by
  classical
  rw [← each_listed_fits]
  rcases firstFault_of_admitted (fun world subject => fits world.storage (record subject)) .trap
    ((batch.each_admitted world subjects).mpr admitted) with ⟨fit, clear⟩ | ⟨unfit, trapped⟩
  · refine .inl ⟨fit, Trace.run (listed record list) world subjects, ?_,
      Trace.run_view World.storage record (fun _ _ => rfl) world subjects⟩
    rw [List.map_map]
    exact batch.collect_eq subjects world none clear
  · exact .inr ⟨unfit, batch.collect_eq subjects world (some .trap) trapped⟩

/-- One record is refused, unless the ones before it trap. -/
theorem ListsBatch.of_refused {world : World Address} {early : List Address} (late : List Address)
    {subject : Address} {error : Error}
    (refuses : Refuses limits world.storage (early.map record) (record subject) error) :
    (Trace.Each list fits world.storage (early.map record) ∧
        collect body (early ++ subject :: late) [] env world = .error (.error error)) ∨
      (¬ Trace.Each list fits world.storage (early.map record) ∧
        collect body (early ++ subject :: late) [] env world = .error .trap) := by
  classical
  rw [← each_listed_fits]
  have reached : (Trace.run (listed record list) world early).storage.listing =
      Trace.run withListing world.storage.listing (early.map record) :=
    Trace.run_view (fun world : World Address => world.storage.listing) record
      (fun world subject => batch.listing world.storage (record subject)) world early
  have refused : (listRefusal limits (Trace.run (listed record list) world early).storage.listing
      (record subject)).map Fault.error = some (.error error) := by
    rw [reached, refuses.refused]
    rfl
  rcases firstFault_of_refused (fun world subject => fits world.storage (record subject)) .trap
    ((batch.each_admitted world early).mpr refuses.admitted) refused with
    ⟨fit, failed⟩ | ⟨unfit, trapped⟩
  · exact .inl ⟨fit, batch.collect_eq _ world (some (.error error)) failed⟩
  · exact .inr ⟨unfit, batch.collect_eq _ world (some .trap) trapped⟩

end

end Loops

section Turns
variable {Address : Type} [DecidableEq Address] {env : Env Address}

omit [DecidableEq Address] in
/-- Both turns begin with the same refusals. -/
theorem turn_eq (limits : StorageLimits) (record : Attestation Address)
    (tail : Program Address Str) (world : World Address) :
    (do let stored ← Storage.hasAttestation record.id
        failWhen (stored = true) .duplicateAttestation
        let subjectIds ← Storage.getSubjectAttestations record.subject
        failWhen (limits.maxAttestationsPerSubject ≤ subjectIds.length) .limitExceeded
        tail : Program Address Str) env world =
      match listRefusal limits world.storage.listing record with
      | some error => .error (.error error)
      | none => tail env world := by
  unfold listRefusal Storage.listing
  by_cases stored : (world.storage.attestation record.id).isSome
  · simp [stored, bind, reads, failIf, fail]
  · by_cases full : limits.maxAttestationsPerSubject ≤
        (world.storage.subjectAttestations record.subject).length
    · simp [stored, full, bind, reads, failIf, fail, pure]
    · simp [stored, full, bind, reads, failIf, pure]

/-- What a turn of lib.rs writes. -/
theorem faultsWithin_entryTurn {allowed : Fault → Prop} (may : allowed .trap)
    (record : Attestation Address) : FaultsWithin allowed (do
      Entry.storeAttestation record
      emit (.attestationCreated record)
      Storage.appendAuditEntry record.id ⟨.created, record.issuer, record.timestamp, none⟩
      pure record.id : Program Address Str) :=
  (faultsWithin_entryStore may _).bind fun _ => (faultsWithin_modify _).bind fun _ =>
    (faultsWithin_persist may _).bind fun _ => faultsWithin_pure _

/-- What a turn of attestation.rs writes. -/
theorem faultsWithin_contractTurn {allowed : Fault → Prop} (may : allowed .trap)
    (record : Attestation Address) : FaultsWithin allowed (do
      Storage.setAttestation record
      Storage.addSubjectAttestation record.subject record.id
      Storage.addValidAttestation record.subject record.id
      ChunkedIndex.addSubject record.subject record.id
      Storage.appendAuditEntry record.id ⟨.created, record.issuer, record.timestamp, none⟩
      emit (.attestationCreated record)
      pure record.id : Program Address Str) :=
  (faultsWithin_persist may _).bind fun _ => (faultsWithin_persist may _).bind fun _ =>
    (faultsWithin_persist may _).bind fun _ => (faultsWithin_rewrite may _ _ _).bind fun _ =>
    (faultsWithin_persist may _).bind fun _ => (faultsWithin_modify _).bind fun _ =>
    faultsWithin_pure _

variable [Host Address]

/-- A turn of lib.rs does not trap. -/
def Entry.ListFits (storage : Storage Address) (record : Attestation Address) : Prop :=
  TtlFits storage.ttlConfig ∧ (storage.issuerStats record.issuer).totalIssued + 1 < u64Range

/-- A turn of attestation.rs does not trap. -/
def Contract.ListFits (storage : Storage Address) (record : Attestation Address) : Prop :=
  TtlFits storage.ttlConfig ∧ ChunkedIndex.Rewritable (· ++ [record.id])
    (storage.subjectAttestationChunk record.subject)

variable (env) in
theorem entry_listsBatch (issuer : Address) (claimType : Str) (expiration : Option Nat)
    (timestamp : Nat) (limits : StorageLimits) :
    ListsBatch env limits (Contract.batchRecord issuer claimType expiration timestamp)
      withEntryListed Entry.ListFits
      (Entry.createBatchStep issuer claimType expiration timestamp limits) where
  listing _ _ := rfl
  refuses world subject error refused := by
    refine (turn_eq limits (Contract.batchRecord issuer claimType expiration timestamp subject) _
      world).trans ?_
    rw [refused]
  lists world subject admitted fit := by
    obtain ⟨fresh, room⟩ := listRefusal_eq_none.mp admitted
    exact (returns_entryBatchStep _ _ _ _ _ _ _ _ rfl).mpr
      ⟨⟨fresh, room, fit.1, fit.2⟩, rfl, rfl⟩
  traps world subject admitted unfit := by
    refine (turn_eq limits (Contract.batchRecord issuer claimType expiration timestamp subject) _
      world).trans ?_
    rw [admitted]
    dsimp only
    refine fault_of_not_returns (faultsWithin_entryTurn (by rfl) _) fun id after ran => unfit ?_
    simp at ran
    exact ran.1

variable (env) in
theorem contract_listsBatch (issuer : Address) (claimType : Str) (expiration : Option Nat)
    (timestamp : Nat) (limits : StorageLimits) :
    ListsBatch env limits (Contract.batchRecord issuer claimType expiration timestamp)
      Contract.withListed Contract.ListFits
      (Contract.createBatchStep issuer claimType expiration timestamp limits) where
  listing _ _ := rfl
  refuses world subject error refused := by
    refine (turn_eq limits (Contract.batchRecord issuer claimType expiration timestamp subject) _
      world).trans ?_
    rw [refused]
  lists world subject admitted fit := by
    obtain ⟨fresh, room⟩ := listRefusal_eq_none.mp admitted
    exact (Contract.returns_createBatchStep _ _ _ _ _ _ _ _ rfl).mpr
      ⟨⟨fresh, room, fit.1, fit.2⟩, rfl, rfl⟩
  traps world subject admitted unfit := by
    refine (turn_eq limits (Contract.batchRecord issuer claimType expiration timestamp subject) _
      world).trans ?_
    rw [admitted]
    dsimp only
    refine fault_of_not_returns (faultsWithin_contractTurn (by rfl) _) fun id after ran => unfit ?_
    simp at ran
    exact ⟨ran.1, ran.2.1.2⟩

theorem entry_loop_eq (issuer : Address) (claimType : Str) (expiration : Option Nat)
    (timestamp : Nat) (limits : StorageLimits) (subjects : List Address) (ids : List Str) :
    Entry.createBatchLoop issuer claimType expiration timestamp limits subjects ids =
      collect (Entry.createBatchStep issuer claimType expiration timestamp limits) subjects
        ids := by
  induction subjects generalizing ids with
  | nil => rfl
  | cons subject rest ih =>
      rw [Entry.createBatchLoop, collect]
      simp only [ih]

theorem contract_loop_eq (issuer : Address) (claimType : Str) (expiration : Option Nat)
    (timestamp : Nat) (limits : StorageLimits) (subjects : List Address) (ids : List Str) :
    Contract.createBatchLoop issuer claimType expiration timestamp limits subjects ids =
      collect (Contract.createBatchStep issuer claimType expiration timestamp limits) subjects
        ids := by
  induction subjects generalizing ids with
  | nil => rfl
  | cons subject rest ih =>
      rw [Contract.createBatchLoop, collect]
      simp only [ih]

end Turns

section Bodies
variable {Address : Type} [DecidableEq Address] [Host Address] {env : Env Address}
  {before after : World Address} {limits : StorageLimits} {claimType : Str}
  {expiration : Option Nat}

/-- The batch of lib.rs does not trap. -/
structure Entry.BatchFits (storage : Storage Address) (records : List (Attestation Address)) :
    Prop where
  listed : Trace.Each withEntryListed Entry.ListFits storage records
  ttl : TtlFits storage.ttlConfig

/-- The batch of attestation.rs does not trap. -/
structure Contract.BatchFits (storage : Storage Address) (issuer : Address)
    (records : List (Attestation Address)) : Prop where
  listed : Trace.Each Contract.withListed Contract.ListFits storage records
  ttl : TtlFits storage.ttlConfig
  chunks : ChunkedIndex.Rewritable (· ++ records.map (·.id))
    (storage.issuerAttestationChunk issuer)

/-- What the batch of lib.rs does after its checks. -/
def Entry.batchBody (issuer : Address) (claimType : Str) (expiration : Option Nat)
    (timestamp : Nat) (limits : StorageLimits) (subjects : List Address) :
    Program Address (List Str) := do
  let ids ← Entry.createBatchLoop issuer claimType expiration timestamp limits subjects []
  Storage.setLastIssuanceTime issuer timestamp
  pure ids

/-- What the batch of attestation.rs writes for the issuer. -/
def Contract.ownBatch (issuer : Address) (timestamp : Nat) (ids : List Str) :
    Program Address (List Str) := do
  Storage.addIssuerAttestationsBulk issuer ids
  ChunkedIndex.addIssuerBulk issuer ids
  Storage.incrementIssuerStats issuer ids.length
  Storage.incrementTotalAttestations ids.length
  Storage.setLastIssuanceTime issuer timestamp
  pure ids

/-- What the batch of attestation.rs does after its checks. -/
def Contract.batchBody (issuer : Address) (claimType : Str) (expiration : Option Nat)
    (timestamp : Nat) (limits : StorageLimits) (subjects : List Address) :
    Program Address (List Str) :=
  Contract.createBatchLoop issuer claimType expiration timestamp limits subjects [] >>=
    Contract.ownBatch issuer timestamp

/-- The storage that the batch of lib.rs leaves. -/
def Entry.withBatch (issuer : Address) (timestamp : Nat) (records : List (Attestation Address))
    (storage : Storage Address) : Storage Address :=
  { Trace.run withEntryListed storage records with
    lastIssuanceTime := Function.update storage.lastIssuanceTime issuer (some timestamp) }

/-- The storage with the issuer's part of a batch of attestation.rs. -/
def Contract.withOwn (issuer : Address) (timestamp : Nat) (ids : List Str)
    (storage : Storage Address) : Storage Address :=
  { storage with
    issuerAttestations := Function.update storage.issuerAttestations issuer
      (storage.issuerAttestations issuer ++ ids)
    issuerAttestationChunk := Function.update storage.issuerAttestationChunk issuer
      (ChunkedIndex.rewritten (· ++ ids) (storage.issuerAttestationChunk issuer))
    issuerStats := Function.update storage.issuerStats issuer
      ⟨saturatingAddU64 (storage.issuerStats issuer).totalIssued ids.length⟩
    globalStats := { storage.globalStats with
      totalAttestations := saturatingAddU64 storage.globalStats.totalAttestations ids.length }
    lastIssuanceTime := Function.update storage.lastIssuanceTime issuer (some timestamp) }

omit [Host Address] in
theorem faultsWithin_ownBatch {allowed : Fault → Prop} (may : allowed .trap) (issuer : Address)
    (timestamp : Nat) (ids : List Str) :
    FaultsWithin allowed (Contract.ownBatch issuer timestamp ids) :=
  (faultsWithin_ite (faultsWithin_pure _) (faultsWithin_persist may _)).bind fun _ =>
    (faultsWithin_rewrite may _ _ _).bind fun _ =>
    ((faultsWithin_reads _).bind fun _ => faultsWithin_persist may _).bind fun _ =>
    (faultsWithin_persist may _).bind fun _ => (faultsWithin_persist may _).bind fun _ =>
    faultsWithin_pure _

omit [Host Address] in
theorem ownBatch_eq (issuer : Address) (timestamp : Nat) (ids : List Str) :
    (TtlFits before.storage.ttlConfig ∧
        ChunkedIndex.Rewritable (· ++ ids) (before.storage.issuerAttestationChunk issuer) ∧
        Returns (Contract.ownBatch issuer timestamp ids) env before ids
          (before.write (Contract.withOwn issuer timestamp ids))) ∨
      (¬ (TtlFits before.storage.ttlConfig ∧
          ChunkedIndex.Rewritable (· ++ ids) (before.storage.issuerAttestationChunk issuer)) ∧
        Contract.ownBatch issuer timestamp ids env before = .error .trap) := by
  have returns : ∀ result after, Returns (Contract.ownBatch issuer timestamp ids) env before result
      after ↔ (TtlFits before.storage.ttlConfig ∧
        ChunkedIndex.Rewritable (· ++ ids) (before.storage.issuerAttestationChunk issuer)) ∧
      result = ids ∧ after = before.write (Contract.withOwn issuer timestamp ids) := by
    intro result after
    simp [Contract.ownBatch, World.write, Contract.withOwn]
    tauto
  by_cases fits : TtlFits before.storage.ttlConfig ∧
      ChunkedIndex.Rewritable (· ++ ids) (before.storage.issuerAttestationChunk issuer)
  · exact .inl ⟨fits.1, fits.2, (returns ..).mpr ⟨fits, rfl, rfl⟩⟩
  · exact .inr ⟨fits, fault_of_not_returns (faultsWithin_ownBatch (by rfl) issuer timestamp ids)
      fun result after ran => fits ((returns ..).mp ran).1⟩

variable (env) in
theorem entryBody_of_admitted (issuer : Address) (timestamp : Nat) {subjects : List Address}
    {records : List (Attestation Address)}
    (built : records =
      subjects.map (Contract.batchRecord issuer claimType expiration timestamp))
    (admitted : Trace.Each withListing
      (fun listing record => listRefusal limits listing record = none) before.storage.listing
      records) :
    (Entry.BatchFits before.storage records ∧
        ∃ after, Returns (Entry.batchBody issuer claimType expiration timestamp limits subjects)
          env before (records.map (·.id)) after ∧
          after.storage = Entry.withBatch issuer timestamp records before.storage) ∨
      (¬ Entry.BatchFits before.storage records ∧
        Entry.batchBody issuer claimType expiration timestamp limits subjects env before =
          .error .trap) := by
  subst built
  unfold Entry.batchBody
  rw [entry_loop_eq]
  rcases (entry_listsBatch env issuer claimType expiration timestamp limits).of_admitted
    admitted with ⟨fits, middle, looped, left⟩ | ⟨unfit, trapped⟩
  · have config : middle.storage.ttlConfig = before.storage.ttlConfig := by
      rw [left, run_withEntryListed_ttlConfig]
    by_cases ttl : TtlFits before.storage.ttlConfig
    · refine .inl ⟨⟨fits, ttl⟩, _, (returns_bind ..).mpr ⟨_, middle, looped,
        (returns_bind ..).mpr ⟨(), _, (returns_persist ..).mpr ⟨config ▸ ttl, rfl⟩,
          (returns_pure ..).mpr ⟨rfl, rfl⟩⟩⟩, ?_⟩
      rw [World.storage_write, left, run_withEntryListed_lastIssuanceTime]
      rfl
    · refine .inr ⟨fun fits => ttl fits.ttl, ?_⟩
      rw [bind_of_returns looped]
      exact bind_of_fault (persist_of_not_fits _ (config ▸ ttl))
  · exact .inr ⟨fun fits => unfit fits.listed, bind_of_fault trapped⟩

variable (env) in
theorem contractBody_of_admitted (issuer : Address) (timestamp : Nat) {subjects : List Address}
    {records : List (Attestation Address)}
    (built : records =
      subjects.map (Contract.batchRecord issuer claimType expiration timestamp))
    (admitted : Trace.Each withListing
      (fun listing record => listRefusal limits listing record = none) before.storage.listing
      records) :
    (Contract.BatchFits before.storage issuer records ∧
        ∃ after, Returns (Contract.batchBody issuer claimType expiration timestamp limits subjects)
          env before (records.map (·.id)) after ∧
          after.storage = Contract.withOwn issuer timestamp (records.map (·.id))
            (Trace.run Contract.withListed before.storage records)) ∨
      (¬ Contract.BatchFits before.storage issuer records ∧
        Contract.batchBody issuer claimType expiration timestamp limits subjects env before =
          .error .trap) := by
  subst built
  unfold Contract.batchBody
  rw [contract_loop_eq]
  rcases (contract_listsBatch env issuer claimType expiration timestamp limits).of_admitted
    admitted with ⟨fits, middle, looped, left⟩ | ⟨unfit, trapped⟩
  · have config : middle.storage.ttlConfig = before.storage.ttlConfig := by
      rw [left, Contract.run_withListed_ttlConfig]
    have chunks : middle.storage.issuerAttestationChunk =
        before.storage.issuerAttestationChunk := by
      rw [left, Contract.run_withListed_issuerAttestationChunk]
    rcases @ownBatch_eq _ _ env middle issuer timestamp _ with ⟨ttl, room, owned⟩ | ⟨full, trapped⟩
    · rw [config] at ttl
      rw [chunks] at room
      refine .inl ⟨⟨fits, ttl, room⟩, _, (returns_bind ..).mpr ⟨_, middle, looped, owned⟩, ?_⟩
      rw [World.storage_write, left]
    · rw [config, chunks] at full
      refine .inr ⟨fun fits => full ⟨fits.ttl, fits.chunks⟩, ?_⟩
      rw [bind_of_returns looped, trapped]
  · exact .inr ⟨fun fits => unfit fits.listed, bind_of_fault trapped⟩

omit [Host Address] in
/-- The valid-claim index grows on the one side only. -/
theorem withListed_valid_length (storage : Storage Address) (records : List (Attestation Address))
    (subject : Address) : (storage.validAttestations subject).length ≤
      ((Trace.run Contract.withListed storage records).validAttestations subject).length := by
  induction records generalizing storage with
  | nil => exact Nat.le_refl _
  | cons record rest ih =>
      refine Nat.le_trans ?_ (ih (Contract.withListed storage record))
      by_cases same : subject = record.subject
      · subst same
        simp [Contract.withListed]
      · simp [Contract.withListed, same]

/-- What an empty batch of attestation.rs writes is there already. -/
structure NothingToOwn (storage : Storage Address) (issuer : Address) : Prop where
  chunks : ChunkedIndex.rewritten (fun ids => ids) (storage.issuerAttestationChunk issuer) =
    storage.issuerAttestationChunk issuer
  issued : saturatingAddU64 (storage.issuerStats issuer).totalIssued 0 =
    (storage.issuerStats issuer).totalIssued
  total : saturatingAddU64 storage.globalStats.totalAttestations 0 =
    storage.globalStats.totalAttestations

omit [Host Address] in
theorem batches_observed_iff (issuer : Address) (timestamp : Nat)
    (records : List (Attestation Address)) (storage : Storage Address)
    {first second : World Address}
    (entered : first.storage = Entry.withBatch issuer timestamp records storage)
    (listed : second.storage = Contract.withOwn issuer timestamp (records.map (·.id))
      (Trace.run Contract.withListed storage records)) :
    first.observed = second.observed ↔ records = [] ∧ NothingToOwn storage issuer := by
  cases records with
  | cons record rest =>
      refine iff_of_false (fun same => ?_) fun empty => List.cons_ne_nil _ _ empty.1
      have index := congrArg (fun seen : Observed Address =>
        (seen.validAttestations record.subject).length) same
      have kept : first.storage.validAttestations = storage.validAttestations := by
        rw [entered]
        exact Trace.run_keeps withEntryListed (·.validAttestations) (fun _ _ => rfl) _ _
      have grown := withListed_valid_length (Contract.withListed storage record) rest record.subject
      simp only [World.observed, kept, listed, Contract.withOwn, Trace.run_cons] at index
      have added : ((Contract.withListed storage record).validAttestations record.subject).length =
          (storage.validAttestations record.subject).length + 1 := by simp [Contract.withListed]
      omega
  | nil =>
      rw [and_iff_right rfl]
      simp [World.observed, entered, listed, Entry.withBatch, Contract.withOwn,
        Function.eq_update_self_iff]
      constructor
      · rintro ⟨chunks, stats, counts⟩
        exact ⟨chunks.symm, (congrArg IssuerStats.totalIssued stats).symm,
          (congrArg GlobalStats.totalAttestations counts).symm⟩
      · rintro ⟨chunks, issued, total⟩
        rw [issued, total]
        exact ⟨chunks.symm, rfl, rfl⟩

/-- One of the records is refused: the ones before it must trap on both sides or on neither. -/
theorem bodies_agree_of_refused (issuer : Address) (timestamp : Nat) {early late : List Address}
    {subject : Address} {error : Error}
    (refuses : Refuses limits before.storage
      (early.map (Contract.batchRecord issuer claimType expiration timestamp))
      (Contract.batchRecord issuer claimType expiration timestamp subject) error) :
    Agrees (Entry.batchBody issuer claimType expiration timestamp limits (early ++ subject :: late))
        (Contract.batchBody issuer claimType expiration timestamp limits
          (early ++ subject :: late)) env before ↔
      (Trace.Each withEntryListed Entry.ListFits before.storage
          (early.map (Contract.batchRecord issuer claimType expiration timestamp)) ↔
        Trace.Each Contract.withListed Contract.ListFits before.storage
          (early.map (Contract.batchRecord issuer claimType expiration timestamp))) := by
  unfold Entry.batchBody Contract.batchBody
  rw [entry_loop_eq, contract_loop_eq]
  rcases (entry_listsBatch env issuer claimType expiration timestamp limits).of_refused late
      refuses with ⟨fits, failed⟩ | ⟨unfit, failed⟩ <;>
    rcases (contract_listsBatch env issuer claimType expiration timestamp limits).of_refused late
      refuses with ⟨room, refused⟩ | ⟨full, refused⟩ <;>
    rw [Agrees, alike_of_fault (bind_of_fault failed), bind_of_fault refused]
  · exact iff_of_true rfl (iff_of_true fits room)
  · exact iff_of_false (by rintro ⟨⟩) fun same => full (same.mp fits)
  · exact iff_of_false (by rintro ⟨⟩) fun same => unfit (same.mpr room)
  · exact iff_of_true rfl (iff_of_false unfit full)

/-- No record is refused: both trap, or there was nothing to list. -/
theorem bodies_agree_of_admitted (issuer : Address) (timestamp : Nat) {subjects : List Address}
    {records : List (Attestation Address)}
    (built : records =
      subjects.map (Contract.batchRecord issuer claimType expiration timestamp))
    (admitted : Trace.Each withListing
      (fun listing record => listRefusal limits listing record = none) before.storage.listing
      records) :
    Agrees (Entry.batchBody issuer claimType expiration timestamp limits subjects)
        (Contract.batchBody issuer claimType expiration timestamp limits subjects) env before ↔
      (Entry.BatchFits before.storage records ↔
          Contract.BatchFits before.storage issuer records) ∧
        (Entry.BatchFits before.storage records →
          records = [] ∧ NothingToOwn before.storage issuer) := by
  rcases entryBody_of_admitted env issuer timestamp built admitted with
      ⟨fits, after, ran, left⟩ | ⟨unfit, failed⟩ <;>
    rcases contractBody_of_admitted env issuer timestamp built admitted with
      ⟨room, final, returned, kept⟩ | ⟨full, trapped⟩
  · rw [Agrees, alike_of_both ran returned, and_iff_right rfl, batches_observed_iff issuer timestamp
      records before.storage left kept]
    exact ⟨fun same => ⟨iff_of_true fits room, fun _ => same⟩, fun same => same.2 fits⟩
  · rw [Agrees, alike_comm, alike_of_fault trapped, ran]
    exact iff_of_false (by rintro ⟨⟩) fun same => full (same.1.mp fits)
  · rw [Agrees, alike_of_fault failed, returned]
    exact iff_of_false (by rintro ⟨⟩) fun same => unfit (same.1.mpr room)
  · rw [Agrees, alike_of_fault failed]
    exact iff_of_true trapped ⟨iff_of_false unfit full, fun fits => absurd fits unfit⟩

/-- Where a batch is refused, it traps before on both sides or on neither; where it is not, it
traps on both sides, or lists nothing. -/
structure BatchesMatch (limits : StorageLimits) (storage : Storage Address) (issuer : Address)
    (records : List (Attestation Address)) : Prop where
  refused : ∀ early record late error, records = early ++ record :: late →
    Refuses limits storage early record error →
      (Trace.Each withEntryListed Entry.ListFits storage early ↔
        Trace.Each Contract.withListed Contract.ListFits storage early)
  admitted : Trace.Each withListing
      (fun listing record => listRefusal limits listing record = none) storage.listing records →
    (Entry.BatchFits storage records ↔ Contract.BatchFits storage issuer records) ∧
      (Entry.BatchFits storage records → records = [] ∧ NothingToOwn storage issuer)

theorem bodies_agree_iff (issuer : Address) (timestamp : Nat) (subjects : List Address) :
    Agrees (Entry.batchBody issuer claimType expiration timestamp limits subjects)
        (Contract.batchBody issuer claimType expiration timestamp limits subjects) env before ↔
      BatchesMatch limits before.storage issuer
        (subjects.map (Contract.batchRecord issuer claimType expiration timestamp)) := by
  constructor
  · refine fun same => ⟨fun early record late error split refuses => ?_,
      fun admitted => (bodies_agree_of_admitted issuer timestamp rfl admitted).mp same⟩
    obtain ⟨first, rest, rfl, rfl, others⟩ := List.map_eq_append_iff.mp split
    obtain ⟨subject, last, rfl, rfl, rfl⟩ := List.map_eq_cons_iff.mp others
    exact (bodies_agree_of_refused issuer timestamp refuses).mp same
  · rintro ⟨refused, all⟩
    rcases admitted_or_refused withListing (listRefusal limits) before.storage.listing
      (subjects.map (Contract.batchRecord issuer claimType expiration timestamp)) with
      admitted | ⟨early, record, late, error, split, admitted, refusal⟩
    · exact (bodies_agree_of_admitted issuer timestamp rfl admitted).mpr (all admitted)
    · have same := refused early record late error split ⟨admitted, refusal⟩
      obtain ⟨first, rest, rfl, rfl, others⟩ := List.map_eq_append_iff.mp split
      obtain ⟨subject, last, rfl, rfl, rfl⟩ := List.map_eq_cons_iff.mp others
      exact (bodies_agree_of_refused issuer timestamp ⟨admitted, refusal⟩).mpr same

end Bodies

section Batches
variable {Address : Type} [DecidableEq Address] [Host Address] {env : Env Address}
  {before : World Address}

/-- The checks that both batches make first. -/
structure BatchGate (storage : Storage Address) (env : Env Address) (issuer : Address)
    (claimType : Str) (expiration : Option Nat) : Prop where
  auth : issuer ∈ env.auths
  registered : storage.issuer issuer = true
  running : storage.paused = false
  claim : Validation.validateClaimType claimType = .ok ()
  expires : ∀ time ∈ expiration, env.timestamp < time

/-- What the batch of lib.rs does after the rate limit. -/
def Entry.limitedBatch (issuer : Address) (subjects : List Address) (claimType : Str)
    (expiration : Option Nat) : Program Address (List Str) := do
  let timestamp ← ledgerTimestamp
  let limits ← Storage.getLimits
  let issuerIds ← Storage.getIssuerAttestations issuer
  failWhen (limits.maxAttestationsPerIssuer < saturatingAddU32 issuerIds.length subjects.length)
    .limitExceeded
  Entry.batchBody issuer claimType expiration timestamp limits subjects

/-- What the batch of attestation.rs does after the rate limit. -/
def Contract.limitedBatch (issuer : Address) (subjects : List Address) (claimType : Str)
    (expiration : Option Nat) : Program Address (List Str) := do
  let timestamp ← ledgerTimestamp
  let limits ← Storage.getLimits
  let issuerIds ← Storage.getIssuerAttestations issuer
  failWhen (limits.maxAttestationsPerIssuer < saturatingAddU32 issuerIds.length subjects.length)
    .limitExceeded
  Contract.batchBody issuer claimType expiration timestamp limits subjects

theorem limited_agree_iff (issuer : Address) (subjects : List Address) (claimType : Str)
    (expiration : Option Nat) :
    Agrees (Entry.limitedBatch issuer subjects claimType expiration)
        (Contract.limitedBatch issuer subjects claimType expiration) env before ↔
      (saturatingAddU32 (before.storage.issuerAttestations issuer).length subjects.length ≤
          before.storage.limits.maxAttestationsPerIssuer →
        BatchesMatch before.storage.limits before.storage issuer
          (subjects.map (Contract.batchRecord issuer claimType expiration env.timestamp))) := by
  have room : ∀ middle : World Address,
      Returns (failWhen (before.storage.limits.maxAttestationsPerIssuer <
        saturatingAddU32 (before.storage.issuerAttestations issuer).length subjects.length)
        .limitExceeded) env before () middle ↔
      saturatingAddU32 (before.storage.issuerAttestations issuer).length subjects.length ≤
        before.storage.limits.maxAttestationsPerIssuer ∧ middle = before := by
    simp
  exact (alike_guard room _ _).trans
    (imp_congr_right fun _ => bodies_agree_iff issuer env.timestamp subjects)

omit [DecidableEq Address] [Host Address] in
theorem entryRateLimit_of_not {issuer : Address}
    (limited : ¬ Entry.RateAllows before.storage env.timestamp issuer) :
    Entry.checkRateLimit issuer env before = .error (.error .rateLimited) :=
  fault_of_not_returns ((faultsWithin_reads _).bind fun _ =>
    (faultsWithin_ask.bind fun _ => faultsWithin_pure _).bind fun _ =>
    (faultsWithin_reads _).bind fun _ => faultsWithin_failIf (by rfl)) fun done after passed =>
      limited ((returns_entryRateLimit ..).mp passed).1

omit [DecidableEq Address] [Host Address] in
theorem rateLimit_of_not {issuer : Address} {claimType : Str}
    (limited : ¬ RateAllows before.storage env.timestamp issuer claimType) :
    checkRateLimit issuer claimType env before = .error (.error .rateLimited) :=
  fault_of_not_returns (((faultsWithin_reads _).bind fun _ => (faultsWithin_reads _).bind fun _ =>
    faultsWithin_pure _).bind fun _ => (faultsWithin_ask.bind fun _ => faultsWithin_pure _).bind
    fun _ => (faultsWithin_reads _).bind fun _ => faultsWithin_failIf (by rfl))
    fun done after passed =>
      limited ((returns_checkRateLimit ..).mp passed).1

theorem entryLimited_unlimited (issuer : Address) (subjects : List Address) (claimType : Str)
    (expiration : Option Nat) : FaultsWithin (· ≠ .error .rateLimited)
      (Entry.limitedBatch issuer subjects claimType expiration) := by
  refine (faultsWithin_ask.bind fun _ => faultsWithin_pure _).bind fun timestamp =>
    (faultsWithin_reads _).bind fun limits => (faultsWithin_reads _).bind fun _ =>
    (faultsWithin_failIf (by simp)).bind fun _ => ?_
  unfold Entry.batchBody
  rw [entry_loop_eq]
  refine (faultsWithin_collect (fun subject => ?_) _ _).bind fun _ =>
    (faultsWithin_persist nofun _).bind fun _ => faultsWithin_pure _
  exact (faultsWithin_reads _).bind fun _ => (faultsWithin_failIf (by simp)).bind fun _ =>
    (faultsWithin_reads _).bind fun _ => (faultsWithin_failIf (by simp)).bind fun _ =>
    faultsWithin_entryTurn nofun _

theorem contractLimited_unlimited (issuer : Address) (subjects : List Address) (claimType : Str)
    (expiration : Option Nat) : FaultsWithin (· ≠ .error .rateLimited)
      (Contract.limitedBatch issuer subjects claimType expiration) := by
  refine (faultsWithin_ask.bind fun _ => faultsWithin_pure _).bind fun timestamp =>
    (faultsWithin_reads _).bind fun limits => (faultsWithin_reads _).bind fun _ =>
    (faultsWithin_failIf (by simp)).bind fun _ => ?_
  unfold Contract.batchBody
  rw [contract_loop_eq]
  refine (faultsWithin_collect (fun subject => ?_) _ _).bind fun ids =>
    faultsWithin_ownBatch nofun issuer timestamp ids
  exact (faultsWithin_reads _).bind fun _ => (faultsWithin_failIf (by simp)).bind fun _ =>
    (faultsWithin_reads _).bind fun _ => (faultsWithin_failIf (by simp)).bind fun _ =>
    faultsWithin_contractTurn nofun _

/-- The rate limits of claim types are looked at on the one side only. -/
theorem rates_agree_iff (issuer : Address) (subjects : List Address) (claimType : Str)
    (expiration : Option Nat) :
    Agrees (Entry.checkRateLimit issuer >>= fun _ =>
          Entry.limitedBatch issuer subjects claimType expiration)
        (checkRateLimit issuer claimType >>= fun _ =>
          Contract.limitedBatch issuer subjects claimType expiration) env before ↔
      (Entry.RateAllows before.storage env.timestamp issuer ↔
          RateAllows before.storage env.timestamp issuer claimType) ∧
        (RateAllows before.storage env.timestamp issuer claimType →
          saturatingAddU32 (before.storage.issuerAttestations issuer).length subjects.length ≤
              before.storage.limits.maxAttestationsPerIssuer →
            BatchesMatch before.storage.limits before.storage issuer
              (subjects.map
                (Contract.batchRecord issuer claimType expiration env.timestamp))) := by
  by_cases allowed : Entry.RateAllows before.storage env.timestamp issuer
  · have passed := (returns_entryRateLimit issuer ()).mpr ⟨allowed, rfl⟩
    rw [Agrees, alike_of_returns_left passed]
    by_cases typed : RateAllows before.storage env.timestamp issuer claimType
    · rw [alike_of_returns ((returns_checkRateLimit issuer claimType ()).mpr ⟨typed, rfl⟩)]
      refine (limited_agree_iff issuer subjects claimType expiration).trans ?_
      exact ⟨fun same => ⟨iff_of_true allowed typed, fun _ => same⟩, fun same => same.2 typed⟩
    · rw [alike_comm, alike_of_fault (bind_of_fault (rateLimit_of_not typed))]
      refine iff_of_false (fun failed => ?_) fun same => typed (same.1.mp allowed)
      exact entryLimited_unlimited issuer subjects claimType expiration env before _ failed rfl
  · rw [Agrees, alike_of_fault (bind_of_fault (entryRateLimit_of_not allowed))]
    by_cases typed : RateAllows before.storage env.timestamp issuer claimType
    · rw [bind_of_returns ((returns_checkRateLimit issuer claimType ()).mpr ⟨typed, rfl⟩)]
      refine iff_of_false (fun failed => ?_) fun same => allowed (same.1.mpr typed)
      exact contractLimited_unlimited issuer subjects claimType expiration env before _ failed rfl
    · exact iff_of_true (bind_of_fault (rateLimit_of_not typed))
        ⟨iff_of_false allowed typed, fun only => absurd only typed⟩

theorem batch_agrees_iff (issuer : Address) (subjects : List Address) (claimType : Str)
    (expiration : Option Nat) :
    Agrees (Entry.createAttestationsBatch issuer subjects claimType expiration)
        (Contract.createAttestationsBatch issuer subjects claimType expiration) env before ↔
      (BatchGate before.storage env issuer claimType expiration →
        (Entry.RateAllows before.storage env.timestamp issuer ↔
            RateAllows before.storage env.timestamp issuer claimType) ∧
          (RateAllows before.storage env.timestamp issuer claimType →
            saturatingAddU32 (before.storage.issuerAttestations issuer).length subjects.length ≤
                before.storage.limits.maxAttestationsPerIssuer →
              BatchesMatch before.storage.limits before.storage issuer
                (subjects.map
                  (Contract.batchRecord issuer claimType expiration env.timestamp)))) := by
  have gate : ∀ agreed : Prop, (BatchGate before.storage env issuer claimType expiration → agreed) ↔
      (issuer ∈ env.auths → before.storage.issuer issuer = true → before.storage.paused = false →
        Validation.validateClaimType claimType = .ok () →
          (∀ time ∈ expiration, env.timestamp < time) → agreed) := fun agreed =>
    ⟨fun all auth registered running claim expires =>
      all ⟨auth, registered, running, claim, expires⟩,
      fun all gate => all gate.auth gate.registered gate.running gate.claim gate.expires⟩
  rw [gate]
  refine (alike_guard (fun _ => by simp [and_comm]) _ _).trans (imp_congr_right fun _ => ?_)
  refine (alike_guard (fun _ => by simp) _ _).trans (imp_congr_right fun _ => ?_)
  refine (alike_guard (fun _ => by simp) _ _).trans (imp_congr_right fun _ => ?_)
  refine (alike_guard (fun _ => by simp) _ _).trans (imp_congr_right fun _ => ?_)
  refine (alike_guard (fun _ => by simpa using and_comm) _ _).trans (imp_congr_right fun _ => ?_)
  exact rates_agree_iff issuer subjects claimType expiration

end Batches

section Agreement
variable {Address : Type} [DecidableEq Address] [Host Address]

/-- The entry points agree with the modules in a state, whatever is asked of them. -/
structure EntriesAgree (env : Env Address) (world : World Address) : Prop where
  bridge : ∀ bridge subject claimType sourceChain sourceTx,
    Agrees (Entry.bridgeAttestation bridge subject claimType sourceChain sourceTx)
      (Contract.bridgeAttestation bridge subject claimType sourceChain sourceTx) env world
  batch : ∀ issuer subjects claimType expiration,
    Agrees (Entry.createAttestationsBatch issuer subjects claimType expiration)
      (Contract.createAttestationsBatch issuer subjects claimType expiration) env world
  revoke : ∀ issuer id reason,
    Agrees (Entry.revokeAttestation issuer id reason) (Contract.revokeAttestation issuer id reason)
      env world
  revokeBatch : ∀ issuer ids reason,
    Agrees (Entry.revokeAttestationsBatch issuer ids reason)
      (Contract.revokeAttestationsBatch issuer ids reason) env world

def bridgeRecord (bridge subject : Address) (claimType sourceChain sourceTx : Str)
    (timestamp : Nat) : Attestation Address :=
  { Attestation.issued
      (Attestation.generateBridgeId bridge subject claimType sourceChain sourceTx timestamp)
      bridge subject claimType timestamp .bridged with
    sourceChain := some sourceChain, sourceTx := some sourceTx }

/-- A batch gets past its checks on neither side, or lists nothing and writes nothing new. -/
def BatchAgreement (storage : Storage Address) (env : Env Address) (issuer : Address)
    (subjects : List Address) (claimType : Str) (expiration : Option Nat) : Prop :=
  BatchGate storage env issuer claimType expiration →
    (Entry.RateAllows storage env.timestamp issuer ↔
        RateAllows storage env.timestamp issuer claimType) ∧
      (RateAllows storage env.timestamp issuer claimType →
        saturatingAddU32 (storage.issuerAttestations issuer).length subjects.length ≤
            storage.limits.maxAttestationsPerIssuer →
          BatchesMatch storage.limits storage issuer
            (subjects.map (Contract.batchRecord issuer claimType expiration env.timestamp)))

/-- A revocation is refused, or has no chunk to take the id out of. -/
def RevocationAgreement (storage : Storage Address) (env : Env Address) (issuer : Address)
    (id : Str) (reason : Option Str) : Prop :=
  ∀ attestation, Contract.Managed storage env issuer id attestation →
    validateReason reason = .ok () →
      Unchunked (storage.subjectAttestationChunk attestation.subject) id ∧
        Unchunked (storage.issuerAttestationChunk issuer) id

/-- A batch revocation finds the contract running, repeats no id that it gets to, and is refused,
or traps, or revokes nothing, or finds the counter full. -/
def BatchRevocationAgreement (storage : Storage Address) (env : Env Address) (issuer : Address)
    (ids : List Str) (reason : Option Str) : Prop :=
  issuer ∈ env.auths → storage.paused = false ∧
    (storage.issuer issuer = true → validateReason reason = .ok () → ids.length ≤ 50 →
      (Entry.passing issuer storage ids).Nodup ∧
        (Entry.passing issuer storage ids = ids → ids ≠ [] → TtlFits storage.ttlConfig →
          saturatingAddU64 storage.globalStats.totalRevocations ids.length =
            storage.globalStats.totalRevocations))

/-- When each entry point agrees with the module. -/
theorem entries_agree_iff (env : Env Address) (world : World Address) (own : OwnIds world.storage) :
    (∀ bridge subject claimType sourceChain sourceTx,
      Agrees (Entry.bridgeAttestation bridge subject claimType sourceChain sourceTx)
          (Contract.bridgeAttestation bridge subject claimType sourceChain sourceTx) env world ↔
        ¬ Entry.BridgeChecks world.storage env bridge sourceChain sourceTx
          (bridgeRecord bridge subject claimType sourceChain sourceTx env.timestamp)) ∧
    (∀ issuer subjects claimType expiration,
      Agrees (Entry.createAttestationsBatch issuer subjects claimType expiration)
          (Contract.createAttestationsBatch issuer subjects claimType expiration) env world ↔
        BatchAgreement world.storage env issuer subjects claimType expiration) ∧
    (∀ issuer id reason,
      Agrees (Entry.revokeAttestation issuer id reason)
          (Contract.revokeAttestation issuer id reason) env world ↔
        RevocationAgreement world.storage env issuer id reason) ∧
    (∀ issuer ids reason,
      Agrees (Entry.revokeAttestationsBatch issuer ids reason)
          (Contract.revokeAttestationsBatch issuer ids reason) env world ↔
        BatchRevocationAgreement world.storage env issuer ids reason) := by
  refine ⟨fun bridge subject claimType sourceChain sourceTx => ?_,
    fun issuer subjects claimType expiration => ?_, fun issuer id reason => ?_,
    fun issuer ids reason => ?_⟩
  · exact bridge_agrees_iff bridge subject claimType sourceChain sourceTx _ rfl
  · exact batch_agrees_iff issuer subjects claimType expiration
  · exact revoke_agrees_iff issuer id reason
  · exact revokeBatch_agrees_iff own issuer ids reason

/-- Records are stored under their own ids in every run. -/
theorem ownIds_run (calls : List (Call Address)) : OwnIds (run calls).storage :=
  fun id record found => (keyed_run calls id record found).1

end Agreement

section Samples
open Xdr

/-- A difference in what is observed of a part of the storage. -/
theorem not_agrees_of_part {Address : Type} {α Part : Type} [DecidableEq Part]
    {entry module : Program Address α} {env : Env Address} {world : World Address}
    (part : Observed Address → Part)
    (apart : ((entry env world).map fun pair => part pair.2.observed).toOption ≠
      ((module env world).map fun pair => part pair.2.observed).toOption) :
    ¬ Agrees entry module env world := by
  have through : ∀ outcome : Except Fault (α × World Address),
      ((outcome.map fun pair => (pair.1, pair.2.observed)).map fun pair => part pair.2).toOption =
        (outcome.map fun pair => part pair.2.observed).toOption := by
    intro outcome
    cases outcome <;> rfl
  rw [← through, ← through] at apart
  exact fun same => apart (congrArg
    (fun outcome => (outcome.map fun pair : α × Observed Address => part pair.2).toOption) same)

/-- Contract 5 is a bridge, KYC is issued once an hour, and issuer 1 has just issued it. -/
def driftRun : List (Call ContractId) :=
  sampleDeployment ++ [
    signed 900 (contractId 9) (.admin (.registerBridge (contractId 9) (contractId 5))),
    signed 900 (contractId 9)
      (.admin (.setRateLimitForClaimType (contractId 9) (ascii "KYC") 3600)),
    sampleIssuance]

def driftEnv : Env ContractId :=
  ⟨1001, [contractId 1, contractId 5], fun _ => true, fun _ => true⟩

/-- A batch revocation of an id that is not stored fails on both sides. -/
theorem entries_agree_sample :
    Agrees (Entry.revokeAttestationsBatch (contractId 1) [sampleId, ascii "missing"] none)
      (Contract.revokeAttestationsBatch (contractId 1) [sampleId, ascii "missing"] none) driftEnv
      (run driftRun) := by
  obtain ⟨-, -, -, agrees⟩ := entries_agree_iff driftEnv (run driftRun) (ownIds_run driftRun)
  rw [agrees, BatchRevocationAgreement]
  have short : (Entry.passing (contractId 1) (run driftRun).storage
      [sampleId, ascii "missing"]).length = 1 := by decide +kernel
  refine fun _ => ⟨by decide +kernel, fun _ _ _ => ⟨by decide +kernel, fun all => ?_⟩⟩
  rw [all] at short
  cases short

/-- Each of the four differs: in the valid-claim index after a bridge, in the interval of the
claim type, in the chunks after a revocation, and in the ids of a batch revocation. -/
theorem entries_disagree :
    ¬ Agrees (Entry.bridgeAttestation (contractId 5) (contractId 2) (ascii "KYC")
          (ascii "ethereum") (ascii "0xab"))
        (Contract.bridgeAttestation (contractId 5) (contractId 2) (ascii "KYC") (ascii "ethereum")
          (ascii "0xab")) driftEnv (run driftRun) ∧
      ¬ Agrees (Entry.createAttestationsBatch (contractId 1) [contractId 4] (ascii "KYC") none)
        (Contract.createAttestationsBatch (contractId 1) [contractId 4] (ascii "KYC") none) driftEnv
        (run driftRun) ∧
      ¬ Agrees (Entry.revokeAttestation (contractId 1) sampleId none)
        (Contract.revokeAttestation (contractId 1) sampleId none) driftEnv
        (run driftRun) ∧
      ¬ Agrees (Entry.revokeAttestationsBatch (contractId 1) [sampleId, sampleId] none)
        (Contract.revokeAttestationsBatch (contractId 1) [sampleId, sampleId] none) driftEnv
        (run driftRun) ∧
      ¬ EntriesAgree driftEnv (run driftRun) := by
  have bridged : ¬ Agrees (Entry.bridgeAttestation (contractId 5) (contractId 2) (ascii "KYC")
        (ascii "ethereum") (ascii "0xab"))
      (Contract.bridgeAttestation (contractId 5) (contractId 2) (ascii "KYC") (ascii "ethereum")
        (ascii "0xab")) driftEnv (run driftRun) :=
    not_agrees_of_part (fun seen => (seen.validAttestations (contractId 2)).length)
      (by decide +kernel)
  refine ⟨bridged, ?_, ?_, ?_, fun all => bridged (all.bridge ..)⟩
  · exact not_agrees_of_part (fun seen => seen.lastIssuanceTime (contractId 1)) (by decide +kernel)
  · exact not_agrees_of_part (fun seen => seen.subjectAttestationChunk (contractId 2) 0)
      (by decide +kernel)
  · exact not_agrees_of_part (fun seen => seen.globalStats.totalRevocations) (by decide +kernel)

end Samples

end TrustLink
