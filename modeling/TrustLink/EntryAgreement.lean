import Mathlib.Data.List.TakeWhile
import TrustLink.EntryPoints
import TrustLink.Lib.Outcome

/-!
The four operations that lib.rs has bodies of its own for, compared with those of
attestation.rs.
-/
namespace TrustLink
open Transaction

section Comparison
variable {Address : Type}

/-- The pieces of storage that the two sets of operations are compared on. -/
structure Observed (Address : Type) where
  attestation : Str → Option (Attestation Address)
  subjectAttestations : Address → List Str
  issuerAttestations : Address → List Str
  validAttestations : Address → List Str
  subjectAttestationChunk : Address → Nat → Option (List Str)
  issuerAttestationChunk : Address → Nat → Option (List Str)
  auditLog : Str → List (AuditEntry Address)
  issuerStats : Address → IssuerStats
  globalStats : GlobalStats
  lastIssuanceTime : Address → Option Nat

def World.observed (world : World Address) : Observed Address where
  attestation := world.storage.attestation
  subjectAttestations := world.storage.subjectAttestations
  issuerAttestations := world.storage.issuerAttestations
  validAttestations := world.storage.validAttestations
  subjectAttestationChunk := world.storage.subjectAttestationChunk
  issuerAttestationChunk := world.storage.issuerAttestationChunk
  auditLog := world.storage.auditLog
  issuerStats := world.storage.issuerStats
  globalStats := world.storage.globalStats
  lastIssuanceTime := world.storage.lastIssuanceTime

/-- The same result and, when it is a success, the same observed storage. -/
abbrev Agrees {α : Type} (entry module : Program Address α) (env : Env Address)
    (world : World Address) : Prop :=
  Alike World.observed entry module env world

end Comparison

section Faults
variable {Address : Type} {allowed : Fault → Prop} (may : allowed .trap)
include may

theorem faultsWithin_checkedU32 (value : Nat) :
    FaultsWithin allowed (checkedU32 value : Program Address Nat) :=
  (faultsWithin_failIf may).bind fun _ => faultsWithin_pure _

theorem faultsWithin_getTtlLifetime :
    FaultsWithin allowed (getTtlLifetime : Program Address Nat) := by
  refine (faultsWithin_reads _).bind fun config => ?_
  cases config with
  | none => exact faultsWithin_pure _
  | some config => exact faultsWithin_checkedU32 may _

theorem faultsWithin_persist (change : Storage Address → Storage Address) :
    FaultsWithin allowed (persist change) :=
  (faultsWithin_getTtlLifetime may).bind fun _ => faultsWithin_modify _

theorem faultsWithin_checkedU64 (value : Nat) :
    FaultsWithin allowed (checkedU64 value : Program Address Nat) :=
  (faultsWithin_failIf may).bind fun _ => faultsWithin_pure _

variable [DecidableEq Address]

theorem faultsWithin_rewrite (side : ChunkedIndex.Side) (owner : Address)
    (change : List Str → List Str) :
    FaultsWithin allowed (ChunkedIndex.getIds side owner >>= fun ids =>
      ChunkedIndex.writeChunks side owner (change ids)) :=
  ((faultsWithin_reads _).bind fun _ => faultsWithin_orFail may _).bind fun _ =>
    (faultsWithin_getTtlLifetime may).bind fun _ => (faultsWithin_checkedU32 may _).bind fun _ =>
    (faultsWithin_reads _).bind fun _ => (faultsWithin_orFail may _).bind fun _ =>
    faultsWithin_modify _

theorem faultsWithin_storeAttestation (attestation : Attestation Address) :
    FaultsWithin allowed (storeAttestation attestation) :=
  (faultsWithin_persist may _).bind fun _ => (faultsWithin_persist may _).bind fun _ =>
    (faultsWithin_persist may _).bind fun _ => (faultsWithin_persist may _).bind fun _ =>
    (faultsWithin_rewrite may _ _ _).bind fun _ => (faultsWithin_rewrite may _ _ _).bind fun _ =>
    (faultsWithin_reads _).bind fun _ => (faultsWithin_checkedU64 may _).bind fun _ =>
    (faultsWithin_persist may _).bind fun _ => faultsWithin_persist may _

theorem faultsWithin_entryStore (attestation : Attestation Address) :
    FaultsWithin allowed (Entry.storeAttestation attestation) :=
  (faultsWithin_persist may _).bind fun _ => (faultsWithin_persist may _).bind fun _ =>
    (faultsWithin_persist may _).bind fun _ => (faultsWithin_reads _).bind fun _ =>
    (faultsWithin_checkedU64 may _).bind fun _ => (faultsWithin_persist may _).bind fun _ =>
    (faultsWithin_persist may _).bind fun _ => faultsWithin_persist may _

omit may [DecidableEq Address] in
theorem persist_of_not_fits {env : Env Address} {before : World Address}
    (change : Storage Address → Storage Address) (large : ¬ TtlFits before.storage.ttlConfig) :
    persist change env before = .error .trap :=
  fault_of_not_returns (faultsWithin_persist (by rfl) change) fun _ _ returned =>
    large ((returns_persist ..).mp returned).1

end Faults

section Bridges
variable {Address : Type} [DecidableEq Address] [Host Address] {env : Env Address}
  {before after : World Address}
theorem bridge_decided (bridge subject : Address) (claimType sourceChain sourceTx : Str) :
    Decided World.observed (Entry.bridgeAttestation bridge subject claimType sourceChain sourceTx)
      (Contract.bridgeAttestation bridge subject claimType sourceChain sourceTx) env before := by
  refine .bind fun _ _ _ => .bind fun _ _ _ => .bind fun _ _ _ => .bind fun _ _ _ =>
    .bind fun _ _ _ => .bind fun _ _ _ => .bind fun _ _ _ =>
    @Decided.of_faults _ _ _ _ _ _ _ _ Fault.trap _ _ ?_ ?_
  · exact (faultsWithin_entryStore (by rfl) _).bind fun _ => (faultsWithin_modify _).bind fun _ =>
      (faultsWithin_persist (by rfl) _).bind fun _ => faultsWithin_pure _
  · exact (faultsWithin_storeAttestation (by rfl) _).bind fun _ =>
      (faultsWithin_modify _).bind fun _ =>
      (faultsWithin_persist (by rfl) _).bind fun _ => faultsWithin_pure _

/-- The valid-claim index is written on the one side only. -/
theorem bridge_agrees_iff (bridge subject : Address) (claimType sourceChain sourceTx : Str)
    (attestation : Attestation Address)
    (built : attestation = { Attestation.issued
      (Attestation.generateBridgeId bridge subject claimType sourceChain sourceTx env.timestamp)
      bridge subject claimType env.timestamp .bridged with
        sourceChain := some sourceChain, sourceTx := some sourceTx }) :
    Agrees (Entry.bridgeAttestation bridge subject claimType sourceChain sourceTx)
        (Contract.bridgeAttestation bridge subject claimType sourceChain sourceTx) env before ↔
      ¬ Entry.BridgeChecks before.storage env bridge sourceChain sourceTx attestation := by
  have entered := fun id after => @returns_entryBridge _ _ _ env before after bridge subject
    claimType sourceChain sourceTx id attestation built
  have bridged := fun id after => @Contract.returns_bridgeAttestation _ _ _ env before after bridge
    subject claimType sourceChain sourceTx id attestation built
  refine ((bridge_decided bridge subject claimType sourceChain sourceTx).iff_never ?_ ?_).trans ?_
  · -- both return: the valid-claim index of the subject is longer on the one side
    intro value after result final ran returned same
    obtain ⟨-, -, rfl⟩ := (entered value after).mp ran
    obtain ⟨-, -, rfl⟩ := (bridged result final).mp returned
    have listed := congrFun (congrArg Observed.validAttestations same) attestation.subject
    simp [World.observed, Storage.withEntered, Storage.withIssued] at listed
  · intro result final returned
    obtain ⟨checks, -⟩ := (bridged result final).mp returned
    have counted := checks.fits.total
    rw [show attestation.issuer = bridge by rw [built]; rfl] at counted
    exact ⟨_, _, (entered _ _).mpr ⟨⟨checks.auth, checks.known, checks.running, checks.source,
      checks.fresh, checks.fits.ttl, counted⟩, rfl, rfl⟩⟩
  · simp only [entered]
    exact ⟨fun never checks => never _ _ ⟨checks, rfl, rfl⟩, fun refused _ _ ran => refused ran.1⟩

end Bridges

section Revocations
variable {Address : Type} [DecidableEq Address] {env : Env Address} {before after : World Address}

/-- Taking the id out of the chunks changes nothing. -/
def Unchunked (chunks : Nat → Option (List Str)) (id : Str) : Prop :=
  ChunkedIndex.Rewritable (·.filter (· ≠ id)) chunks ∧
    ChunkedIndex.rewritten (·.filter (· ≠ id)) chunks = chunks

theorem revoke_decided (issuer : Address) (id : Str) (reason : Option Str) :
    Decided World.observed (Entry.revokeAttestation issuer id reason)
      (Contract.revokeAttestation issuer id reason) env before := by
  refine .bind fun _ _ _ => .bind fun _ _ _ => .bind fun _ _ _ => .bind fun _ _ _ =>
    .bind fun _ _ _ => .bind fun _ _ _ => .bind fun _ _ _ => .bind fun _ _ _ =>
    .bind fun _ _ _ => .bind fun _ _ _ => .bind fun _ _ _ =>
    @Decided.of_faults _ _ _ _ _ _ _ _ Fault.trap _ _ ?_ ?_
  · exact (faultsWithin_persist (by rfl) _).bind fun _ => (faultsWithin_modify _).bind fun _ =>
      (faultsWithin_ask.bind fun _ => faultsWithin_pure _).bind fun _ =>
      (faultsWithin_persist (by rfl) _).bind fun _ => faultsWithin_persist (by rfl) _
  · exact (faultsWithin_rewrite (by rfl) _ _ _).bind fun _ =>
      (faultsWithin_rewrite (by rfl) _ _ _).bind fun _ => (faultsWithin_modify _).bind fun _ =>
      (faultsWithin_ask.bind fun _ => faultsWithin_pure _).bind fun _ =>
      (faultsWithin_persist (by rfl) _).bind fun _ => faultsWithin_persist (by rfl) _

theorem revoke_agrees_iff (issuer : Address) (id : Str) (reason : Option Str) :
    Agrees (Entry.revokeAttestation issuer id reason) (Contract.revokeAttestation issuer id reason)
        env before ↔
      ∀ attestation, Contract.Managed before.storage env issuer id attestation →
        validateReason reason = .ok () →
          Unchunked (before.storage.subjectAttestationChunk attestation.subject) id ∧
            Unchunked (before.storage.issuerAttestationChunk issuer) id := by
  refine Iff.trans (revoke_decided issuer id reason) ?_
  simp only [returns_entryRevoke, Contract.returns_revokeAttestation]
  constructor
  · intro same attestation managed valid
    obtain ⟨final, ⟨other, found, -, subject, own, rfl⟩, seen⟩ :=
      (same () _).mp ⟨_, ⟨attestation, managed, valid, rfl⟩, rfl⟩
    obtain rfl := Option.some.inj (managed.found.symm.trans found.found)
    have chunks := congrFun (congrArg Observed.subjectAttestationChunk seen) attestation.subject
    have others := congrFun (congrArg Observed.issuerAttestationChunk seen) issuer
    simp only [World.observed, Storage.withRevoked, Function.update_self] at chunks others
    exact ⟨⟨subject, chunks⟩, own, others⟩
  · intro still _ seen
    constructor
    · rintro ⟨_, ⟨attestation, managed, valid, rfl⟩, rfl⟩
      obtain ⟨subject, own⟩ := still attestation managed valid
      refine ⟨_, ⟨attestation, managed, valid, subject.1, own.1, rfl⟩, ?_⟩
      simp only [World.observed, Storage.withRevoked, subject.2, own.2, Function.update_eq_self]
    · rintro ⟨_, ⟨attestation, managed, valid, -, -, rfl⟩, rfl⟩
      obtain ⟨subject, own⟩ := still attestation managed valid
      refine ⟨_, ⟨attestation, managed, valid, rfl⟩, ?_⟩
      simp only [World.observed, Storage.withRevoked, subject.2, own.2, Function.update_eq_self]

/-- Why a batch revocation refuses an id. -/
def Entry.revokeRefusal (issuer : Address) (storage : Storage Address) (id : Str) : Option Error :=
  match storage.attestation id with
  | none => some .notFound
  | some attestation =>
      if attestation.issuer ≠ issuer then some .unauthorized
      else if attestation.revoked = true then some .alreadyRevoked
      else none

theorem revokeRefusal_eq_none {issuer : Address} {storage : Storage Address} {id : Str} :
    Entry.revokeRefusal issuer storage id = none ↔
      ∃ record, Contract.Revocable issuer storage id record := by
  unfold Entry.revokeRefusal
  cases found : storage.attestation id with
  | none =>
      refine iff_of_false (by simp) ?_
      rintro ⟨record, revocable⟩
      rw [revocable.found] at found
      cases found
  | some attestation =>
      constructor
      · intro passes
        by_cases own : attestation.issuer = issuer
        · cases active : attestation.revoked with
          | false => exact ⟨attestation, found, own, active⟩
          | true => simp [own, active] at passes
        · simp [own] at passes
      · rintro ⟨record, revocable⟩
        obtain rfl := Option.some.inj (found.symm.trans revocable.found)
        simp [revocable.own, revocable.active]

theorem revokeRefusal_ne_duplicate {issuer : Address} {storage : Storage Address} {id : Str} :
    Entry.revokeRefusal issuer storage id ≠ some .duplicateAttestation := by
  unfold Entry.revokeRefusal
  split
  · simp
  · split
    · simp
    · split <;> simp

theorem revokeBatchCheck_eq (issuer : Address) (id : Str) :
    Entry.revokeBatchCheck issuer id env before =
      match Entry.revokeRefusal issuer before.storage id with
      | some error => .error (.error error)
      | none => .ok ((), before) := by
  unfold Entry.revokeBatchCheck Entry.revokeRefusal
  cases found : before.storage.attestation id with
  | none =>
      refine bind_of_fault ?_
      simp [Storage.getAttestation, found, bind, reads, orFail, fail]
  | some attestation =>
      have loaded : Returns (Storage.getAttestation id) env before attestation before :=
        (Storage.returns_getAttestation ..).mpr ⟨found, rfl⟩
      rw [bind_of_returns loaded]
      by_cases own : attestation.issuer = issuer
      · cases active : attestation.revoked <;>
          simp [own, active, bind, failIf, fail, pure]
      · simp [own, bind, failIf, fail]

theorem revokeBatchChecks_eq (issuer : Address) (ids : List Str) :
    each (Entry.revokeBatchCheck issuer) ids env before =
      match ids.findSome? (Entry.revokeRefusal issuer before.storage) with
      | some error => .error (.error error)
      | none => .ok ((), before) := by
  induction ids with
  | nil => rfl
  | cons id rest ih =>
      have checked := @revokeBatchCheck_eq _ _ env before issuer id
      rw [each, List.findSome?_cons]
      cases refused : Entry.revokeRefusal issuer before.storage id with
      | some error =>
          rw [refused] at checked
          exact bind_of_fault checked
      | none =>
          rw [refused] at checked
          rw [bind_of_returns checked, ih]

/-- The ids up to the first one that is refused. -/
def Entry.passing (issuer : Address) (storage : Storage Address) (ids : List Str) : List Str :=
  ids.takeWhile fun id => (Entry.revokeRefusal issuer storage id).isNone

theorem revokeBatchLoad_cons (issuer : Address) (id : Str) (rest seenIds : List Str)
    (attestations : List (Attestation Address)) :
    Contract.revokeBatchLoad issuer (id :: rest) seenIds attestations env before =
      if id ∈ seenIds then .error (.error .duplicateAttestation)
      else match Entry.revokeRefusal issuer before.storage id with
        | some error => .error (.error error)
        | none => Contract.revokeBatchLoad issuer rest (seenIds ++ [id])
            (attestations ++ (before.storage.attestation id).toList) env before := by
  rw [Contract.revokeBatchLoad]
  by_cases repeated : id ∈ seenIds
  · rw [if_pos repeated]
    exact bind_of_fault (by simp [repeated, failIf, fail])
  · have passed : Returns (failWhen (id ∈ seenIds) .duplicateAttestation : Program Address Unit) env
        before () before := by simp [repeated]
    rw [if_neg repeated, bind_of_returns passed]
    unfold Entry.revokeRefusal
    cases found : before.storage.attestation id with
    | none =>
        refine bind_of_fault ?_
        simp [Storage.getAttestation, found, bind, reads, orFail, fail]
    | some attestation =>
        have loaded : Returns (Storage.getAttestation id) env before attestation before :=
          (Storage.returns_getAttestation ..).mpr ⟨found, rfl⟩
        rw [bind_of_returns loaded]
        by_cases own : attestation.issuer = issuer
        · cases active : attestation.revoked <;>
            simp [own, active, bind, failIf, fail, pure]
        · simp [own, bind, failIf, fail]

/-- The loop of attestation.rs looks for a repetition before it looks for the record. -/
theorem revokeBatchLoad_eq (issuer : Address) (ids seenIds : List Str)
    (attestations : List (Attestation Address))
    (seen : ∀ id ∈ seenIds, Entry.revokeRefusal issuer before.storage id = none) :
    (¬ ((Entry.passing issuer before.storage ids).Nodup ∧
          ∀ id ∈ Entry.passing issuer before.storage ids, id ∉ seenIds) →
        Contract.revokeBatchLoad issuer ids seenIds attestations env before =
          .error (.error .duplicateAttestation)) ∧
      ((Entry.passing issuer before.storage ids).Nodup →
        (∀ id ∈ Entry.passing issuer before.storage ids, id ∉ seenIds) →
          ∀ error, ids.findSome? (Entry.revokeRefusal issuer before.storage) = some error →
            Contract.revokeBatchLoad issuer ids seenIds attestations env before =
              .error (.error error)) := by
  -- what has been seen passed, so a seen id is among the passing ones when it comes again
  induction ids generalizing seenIds attestations with
  | nil => simp [Entry.passing]
  | cons id rest ih =>
      rw [revokeBatchLoad_cons]
      by_cases repeated : id ∈ seenIds
      · have passes : Entry.passing issuer before.storage (id :: rest) =
            id :: Entry.passing issuer before.storage rest :=
          List.takeWhile_cons_of_pos (by rw [seen id repeated]; rfl)
        rw [if_pos repeated, passes]
        exact ⟨fun _ => rfl, fun _ fresh => absurd repeated (fresh id List.mem_cons_self)⟩
      · rw [if_neg repeated, List.findSome?_cons]
        cases refused : Entry.revokeRefusal issuer before.storage id with
        | some error =>
            have passes : Entry.passing issuer before.storage (id :: rest) = [] :=
              List.takeWhile_cons_of_neg (by simp [refused])
            simp [passes]
        | none =>
            have passes : Entry.passing issuer before.storage (id :: rest) =
                id :: Entry.passing issuer before.storage rest :=
              List.takeWhile_cons_of_pos (by rw [refused]; rfl)
            obtain ⟨doubled, refusal⟩ := ih (seenIds ++ [id])
              (attestations ++ (before.storage.attestation id).toList) (by
                intro other member
                rcases List.mem_append.mp member with early | last
                · exact seen other early
                · rwa [List.mem_singleton.mp last])
            rw [passes]
            have apart : (∀ other ∈ Entry.passing issuer before.storage rest,
                other ∉ seenIds ++ [id]) ↔
                id ∉ Entry.passing issuer before.storage rest ∧
                  ∀ other ∈ Entry.passing issuer before.storage rest, other ∉ seenIds := by
              simp only [List.mem_append, List.mem_singleton, not_or]
              exact ⟨fun all => ⟨fun member => (all id member).2 rfl,
                  fun other member => (all other member).1⟩,
                fun ⟨first, others⟩ other member =>
                  ⟨others other member, fun same => first (same ▸ member)⟩⟩
            rw [apart] at doubled refusal
            refine ⟨fun clear => doubled fun ⟨once, first, others⟩ => clear ⟨?_, ?_⟩, ?_⟩
            · exact List.nodup_cons.mpr ⟨first, once⟩
            · exact List.forall_mem_cons.mpr ⟨repeated, others⟩
            · intro once fresh
              obtain ⟨first, rest_once⟩ := List.nodup_cons.mp once
              exact refusal rest_once ⟨first, fun other member =>
                fresh other (List.mem_cons_of_mem _ member)⟩

/-- It is the one of attestation.rs but for the counts of the claim types. -/
theorem run_withEntryRevoked (issuer : Address) (reason : Option Str) (timestamp : Nat)
    (storage : Storage Address) (records : List (Attestation Address)) :
    ∃ counts, Trace.run (withEntryRevoked issuer reason timestamp) storage records =
      (Trace.run (Contract.withBatchRevoked issuer reason timestamp) storage records).withCounts
        counts := by
  have comm := fun counts => @Trace.run_comm _ _ (Contract.withBatchRevoked issuer reason timestamp)
    (fun storage : Storage Address => storage.withCounts counts) (fun _ _ => rfl)
  induction records generalizing storage with
  | nil => exact ⟨storage.claimTypeCount, rfl⟩
  | cons record rest ih =>
      obtain ⟨counts, same⟩ := ih (withEntryRevoked issuer reason timestamp storage record)
      refine ⟨counts, same.trans ?_⟩
      rw [Trace.run_cons, show withEntryRevoked issuer reason timestamp storage record =
        (Contract.withBatchRevoked issuer reason timestamp storage record).withCounts _ from rfl,
        comm]
      rfl

/-- Where no id repeats, a turn reads the record that was there at first. -/
theorem run_revokeTurn {issuer : Address} {reason : Option Str} {timestamp : Nat}
    {storage : Storage Address} {records : List (Attestation Address)}
    (stored : ∀ record ∈ records, storage.attestation record.id = some record)
    (once : (records.map (·.id)).Nodup) :
    Trace.run (Entry.revokeTurn issuer reason timestamp) storage (records.map (·.id)) =
      Trace.run (withEntryRevoked issuer reason timestamp) storage records := by
  induction records generalizing storage with
  | nil => rfl
  | cons record rest ih =>
      obtain ⟨fresh, distinct⟩ := List.nodup_cons.mp once
      rw [List.map_cons, Trace.run_cons, Trace.run_cons,
        revokeTurn_of_found (stored record List.mem_cons_self)]
      -- the turn writes under the id of its record, which is none of the later ones
      refine ih (fun other member => ?_) distinct
      have apart : other.id ≠ record.id :=
        fun same => fresh (List.mem_map.mpr ⟨other, member, same⟩)
      exact (Function.update_of_ne apart _ _).trans (stored other (List.mem_cons_of_mem _ member))

theorem returns_entryRevokeLoop (issuer : Address) (reason : Option Str)
    {records : List (Attestation Address)} (count total : Nat)
    (stored : ∀ record ∈ records, before.storage.attestation record.id = some record)
    (once : (records.map (·.id)).Nodup) :
    Returns (Entry.revokeBatchLoop issuer reason (records.map (·.id)) count) env before total
        after ↔
      (records ≠ [] → TtlFits before.storage.ttlConfig) ∧ total = count + records.length ∧
        after = ⟨Trace.run (withEntryRevoked issuer reason env.timestamp) before.storage records,
          before.events ++ records.map
            (fun record => .attestationRevokedWithReason record.id issuer reason),
          before.payments⟩ := by
  have found : ∀ id ∈ records.map (·.id), before.storage.attestation id ≠ none := by
    intro id member
    obtain ⟨record, listed, rfl⟩ := List.mem_map.mp member
    rw [stored record listed]
    exact Option.some_ne_none _
  have turns := @returns_entryRevokeTurns _ _ env before after issuer reason _ count total found
  rw [run_revokeTurn stored once, List.length_map, List.map_map, ne_eq, List.map_eq_nil_iff] at turns
  exact turns

omit [DecidableEq Address] in
/-- The end of a batch revocation of attestation.rs. -/
theorem returns_countRevocations (count total : Nat) {middle : World Address} :
    Returns (if 0 < count then do
          Storage.incrementTotalRevocations count
          pure count
        else pure count : Program Address Nat) env middle total after ↔
      (0 < count → TtlFits middle.storage.ttlConfig) ∧ total = count ∧
        after = if 0 < count then middle.write fun storage =>
            { storage with globalStats := { storage.globalStats with
              totalRevocations := saturatingAddU64 storage.globalStats.totalRevocations count } }
          else middle := by
  by_cases positive : 0 < count
  · simp [positive]
    tauto
  · simp [positive]

/-- The revocations themselves agree, but for the counter that the one side increments. -/
theorem revokeWrites_agree_iff (issuer : Address) (reason : Option Str)
    {records : List (Attestation Address)}
    (stored : ∀ record ∈ records, before.storage.attestation record.id = some record)
    (once : (records.map (·.id)).Nodup) :
    Agrees (Entry.revokeBatchLoop issuer reason (records.map (·.id)) 0)
        (do each (Contract.revokeBatchWrite issuer reason) records
            if 0 < records.length then do
                Storage.incrementTotalRevocations records.length
                pure records.length
              else pure records.length) env before ↔
      (records ≠ [] → TtlFits before.storage.ttlConfig →
        saturatingAddU64 before.storage.globalStats.totalRevocations records.length =
          before.storage.globalStats.totalRevocations) := by
  cases records with
  | nil => exact iff_of_true rfl fun some_record => absurd rfl some_record
  | cons record rest =>
      by_cases ttl : TtlFits before.storage.ttlConfig
      · have ran : Returns (Entry.revokeBatchLoop issuer reason ((record :: rest).map (·.id)) 0) env
            before (record :: rest).length _ :=
          (returns_entryRevokeLoop issuer reason 0 _ stored once).mpr
            ⟨fun _ => ttl, (Nat.zero_add _).symm, rfl⟩
        have wrote := (@Contract.returns_revokeBatchWrites _ _ env before _ issuer reason
          (record :: rest) ()).mpr ⟨fun _ => ttl, rfl⟩
        refine (alike_of_both ran ((returns_bind ..).mpr ⟨(), _, wrote,
          (returns_countRevocations ..).mpr ⟨fun _ => ?_, rfl, rfl⟩⟩)).trans ?_
        · rwa [Contract.run_withBatchRevoked_ttlConfig]
        obtain ⟨counts, same⟩ := run_withEntryRevoked issuer reason env.timestamp before.storage
          (record :: rest)
        have positive : 0 < (record :: rest).length := Nat.succ_pos _
        -- the two runs leave the same records, so all that differs is the counter
        rw [same, and_iff_right rfl, if_pos positive]
        have stats : (Trace.run (Contract.withBatchRevoked issuer reason env.timestamp)
            before.storage (record :: rest)).globalStats = before.storage.globalStats :=
          Contract.run_withBatchRevoked_globalStats ..
        generalize Trace.run (Contract.withBatchRevoked issuer reason env.timestamp)
          before.storage (record :: rest) = revoked at stats ⊢
        constructor
        · intro alike _ _
          have totals : revoked.globalStats.totalRevocations = saturatingAddU64
              revoked.globalStats.totalRevocations (record :: rest).length :=
            congrArg (fun seen : Observed Address => seen.globalStats.totalRevocations) alike
          rw [stats] at totals
          exact totals.symm
        · intro level
          have unchanged : revoked.globalStats = { revoked.globalStats with
              totalRevocations := saturatingAddU64 revoked.globalStats.totalRevocations
                (record :: rest).length } := by
            rw [stats, level (by simp) ttl]
          exact congrArg
            (fun stats => { World.observed ⟨revoked, [], []⟩ with globalStats := stats }) unchanged
      · -- the first write traps on both sides
        have loaded : Returns (Storage.getAttestation record.id) env before record before :=
          (Storage.returns_getAttestation ..).mpr ⟨stored record List.mem_cons_self, rfl⟩
        have trapped : Entry.revokeBatchLoop issuer reason ((record :: rest).map (·.id)) 0 env
            before = .error .trap := by
          rw [List.map_cons, Entry.revokeBatchLoop, bind_of_returns loaded]
          exact bind_of_fault (persist_of_not_fits _ ttl)
        refine iff_of_true ((alike_of_fault trapped).mpr ?_) fun _ fits => absurd fits ttl
        exact bind_of_fault (bind_of_fault (bind_of_fault (persist_of_not_fits _ ttl)))

omit [DecidableEq Address] in
theorem exists_revocable {issuer : Address} {storage : Storage Address} {ids : List Str}
    (revocable : ∀ id ∈ ids, ∃ record, Contract.Revocable issuer storage id record) :
    ∃ records, List.Forall₂ (Contract.Revocable issuer storage) ids records := by
  induction ids with
  | nil => exact ⟨[], .nil⟩
  | cons id rest ih =>
      obtain ⟨⟨record, head⟩, tail⟩ := List.forall_mem_cons.mp revocable
      obtain ⟨records, loaded⟩ := ih tail
      exact ⟨record :: records, .cons head loaded⟩

omit [DecidableEq Address] in
/-- The loaded records have the ids they were loaded by. -/
theorem loaded_of_own {issuer : Address} {storage : Storage Address} {ids : List Str}
    {records : List (Attestation Address)} (own : OwnIds storage)
    (revocable : List.Forall₂ (Contract.Revocable issuer storage) ids records) :
    records.map (·.id) = ids ∧ ∀ record ∈ records, storage.attestation record.id = some record := by
  induction revocable with
  | nil => exact ⟨rfl, List.forall_mem_nil _⟩
  | @cons id record ids records head _ ih =>
      have named := own id record head.found
      refine ⟨by rw [List.map_cons, ih.1, named], List.forall_mem_cons.mpr ⟨?_, ih.2⟩⟩
      rw [named]
      exact head.found

theorem faultsWithin_entryRevokeLoop {allowed : Fault → Prop} (trap : allowed .trap)
    (missing : allowed (.error .notFound)) (issuer : Address) (reason : Option Str)
    (ids : List Str) (count : Nat) :
    FaultsWithin allowed (Entry.revokeBatchLoop issuer reason ids count) := by
  induction ids generalizing count with
  | nil => exact faultsWithin_pure count
  | cons id rest ih =>
      exact ((faultsWithin_reads _).bind fun _ => faultsWithin_orFail missing _).bind fun _ =>
        (faultsWithin_persist trap _).bind fun _ => (faultsWithin_persist trap _).bind fun _ =>
        (faultsWithin_persist trap _).bind fun _ => (faultsWithin_persist trap _).bind fun _ =>
        (faultsWithin_modify _).bind fun _ =>
        (faultsWithin_ask.bind fun _ => faultsWithin_pure _).bind fun _ =>
        (faultsWithin_persist trap _).bind fun _ => ih (count + 1)

theorem passing_eq_self_iff {issuer : Address} {storage : Storage Address} {ids : List Str} :
    Entry.passing issuer storage ids = ids ↔
      ids.findSome? (Entry.revokeRefusal issuer storage) = none := by
  rw [Entry.passing, List.takeWhile_eq_self_iff, List.findSome?_eq_none_iff]
  simp only [Option.isNone_iff_eq_none]

theorem revokeBody_agrees_iff (own : OwnIds before.storage) (issuer : Address) (ids : List Str)
    (reason : Option Str) :
    Agrees (do each (Entry.revokeBatchCheck issuer) ids
               Entry.revokeBatchLoop issuer reason ids 0)
        (do let attestations ← Contract.revokeBatchLoad issuer ids [] []
            each (Contract.revokeBatchWrite issuer reason) attestations
            if 0 < attestations.length then do
                Storage.incrementTotalRevocations attestations.length
                pure attestations.length
              else pure attestations.length) env before ↔
      (Entry.passing issuer before.storage ids).Nodup ∧
        (Entry.passing issuer before.storage ids = ids → ids ≠ [] →
          TtlFits before.storage.ttlConfig →
            saturatingAddU64 before.storage.globalStats.totalRevocations ids.length =
              before.storage.globalStats.totalRevocations) := by
  obtain ⟨doubled, refused⟩ := @revokeBatchLoad_eq _ _ env before issuer ids [] [] nofun
  have checked := @revokeBatchChecks_eq _ _ env before issuer ids
  cases verdict : ids.findSome? (Entry.revokeRefusal issuer before.storage) with
  | some error =>
      have short : Entry.passing issuer before.storage ids ≠ ids := fun all => by
        rw [passing_eq_self_iff.mp all] at verdict
        cases verdict
      rw [verdict] at checked
      rw [Agrees, alike_of_fault (bind_of_fault checked)]
      by_cases once : (Entry.passing issuer before.storage ids).Nodup
      · refine iff_of_true (bind_of_fault (refused once nofun error verdict)) ⟨once, fun all => ?_⟩
        exact absurd all short
      · -- the repetition is reported on the one side, the refused id on the other
        refine iff_of_false (fun same => ?_) fun agrees => once agrees.1
        rw [bind_of_fault (doubled fun fresh => once fresh.1)] at same
        obtain ⟨id, -, refusal⟩ := List.exists_of_findSome?_eq_some verdict
        have duplicate := Fault.error.inj (Except.error.inj same)
        exact revokeRefusal_ne_duplicate (duplicate ▸ refusal)
  | none =>
      have all := passing_eq_self_iff.mpr verdict
      rw [verdict] at checked
      rw [all, imp_iff_right rfl, Agrees, alike_of_returns_left checked]
      by_cases once : ids.Nodup
      · obtain ⟨records, revocable⟩ := exists_revocable fun id member =>
          revokeRefusal_eq_none.mp (List.findSome?_eq_none_iff.mp verdict id member)
        obtain ⟨named, stored⟩ := loaded_of_own own revocable
        have loads : Returns (Contract.revokeBatchLoad issuer ids [] []) env before records
            before :=
          (Contract.returns_revokeBatchLoad ..).mpr ⟨nofun, once, records, revocable, rfl, rfl⟩
        rw [alike_of_returns loads, and_iff_right once]
        subst named
        refine (revokeWrites_agree_iff issuer reason stored once).trans ?_
        rw [List.length_map, ne_eq, ne_eq, List.map_eq_nil_iff]
      · -- the side of lib.rs never reports a repetition
        refine iff_of_false (fun same => ?_) fun agrees => once agrees.1
        rw [all] at doubled
        have failed := doubled fun fresh => once fresh.1
        have faults : FaultsWithin (· ≠ .error .duplicateAttestation)
            (Entry.revokeBatchLoop issuer reason ids 0) :=
          faultsWithin_entryRevokeLoop nofun (by simp) issuer reason ids 0
        rw [alike_comm, alike_of_fault (bind_of_fault failed)] at same
        exact faults env before _ same rfl

/-- What follows the authorization on the side of lib.rs never fails for a pause. -/
theorem entryRevokeBatch_unpaused (issuer : Address) (ids : List Str) (reason : Option Str) :
    FaultsWithin (· ≠ .error .contractPaused) (do
      Validation.requireIssuer issuer
      validated (validateReason reason)
      failWhen (50 < ids.length) .limitExceeded
      each (Entry.revokeBatchCheck issuer) ids
      Entry.revokeBatchLoop issuer reason ids 0 : Program Address Nat) := by
  refine ((faultsWithin_reads _).bind fun _ => faultsWithin_failIf (by simp)).bind fun _ => ?_
  refine (faultsWithin_ofExcept ?_).bind fun _ => (faultsWithin_failIf (by simp)).bind fun _ => ?_
  · intro fault failed paused
    subst paused
    unfold validateReason at failed
    split at failed <;> simp [Except.mapError] at failed
  · refine (faultsWithin_each (fun id => ?_) ids).bind fun _ =>
      faultsWithin_entryRevokeLoop nofun (by simp) issuer reason ids 0
    exact ((faultsWithin_reads _).bind fun _ => faultsWithin_orFail (by simp) _).bind fun _ =>
      (faultsWithin_failIf (by simp)).bind fun _ => faultsWithin_failIf (by simp)

/-- The pause is looked at on the one side only, repetitions are refused there, and the
revocations counted. -/
theorem revokeBatch_agrees_iff (own : OwnIds before.storage) (issuer : Address) (ids : List Str)
    (reason : Option Str) :
    Agrees (Entry.revokeAttestationsBatch issuer ids reason)
        (Contract.revokeAttestationsBatch issuer ids reason) env before ↔
      (issuer ∈ env.auths → before.storage.paused = false ∧
        (before.storage.issuer issuer = true → validateReason reason = .ok () → ids.length ≤ 50 →
          (Entry.passing issuer before.storage ids).Nodup ∧
            (Entry.passing issuer before.storage ids = ids → ids ≠ [] →
              TtlFits before.storage.ttlConfig →
                saturatingAddU64 before.storage.globalStats.totalRevocations ids.length =
                  before.storage.globalStats.totalRevocations))) := by
  refine (alike_guard (fun _ => by simp [and_comm]) _ _).trans (imp_congr_right fun _ => ?_)
  cases paused : before.storage.paused with
  | true =>
      refine iff_of_false (fun same => ?_) fun running => Bool.noConfusion running.1
      have refused : Validation.requireNotPaused env before = .error (.error .contractPaused) := by
        simp [Validation.requireNotPaused, bind, reads, paused, failIf, fail]
      rw [alike_comm, alike_of_fault (bind_of_fault refused)] at same
      exact entryRevokeBatch_unpaused issuer ids reason env before _ same rfl
  | false =>
      have running : Returns Validation.requireNotPaused env before () before := by simp [paused]
      rw [alike_of_returns running, and_iff_right rfl]
      refine (alike_guard (fun _ => by simp) _ _).trans (imp_congr_right fun _ => ?_)
      refine (alike_guard (fun _ => by simp) _ _).trans (imp_congr_right fun _ => ?_)
      have short : ∀ middle : World Address, Returns (failWhen (50 < ids.length) .limitExceeded)
          env before () middle ↔ ids.length ≤ 50 ∧ middle = before := by simp
      refine (alike_guard short _ _).trans (imp_congr_right fun _ => ?_)
      exact revokeBody_agrees_iff own issuer ids reason

end Revocations

end TrustLink
