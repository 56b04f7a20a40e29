import TrustLink.IndexConsistency
import TrustLink.Lib.Census
import TrustLink.PageIteration
import TrustLink.Questions
import TrustLink.Readers
import TrustLink.Warrants

/-!
Counts against listings. A subject's count and listing read one index; an issuer's count
reads the flat index and its listing the chunks, without what is deleted.
-/
namespace TrustLink
open Transaction Contract Query

section Queries
variable {Address : Type}

/-- One query answers with the length of what the other one lists. -/
def Counts (count : Program Address Nat) (listed : Program Address (List Str)) (env : Env Address)
    (world : World Address) : Prop :=
  ∃ ids, Reads listed env world ids ∧ Reads count env world ids.length

/-- The record is the subject's, not deleted, and valid at the time. -/
def ValidOf (subject : Address) (now : Nat) (record : Attestation Address) : Prop :=
  record.subject = subject ∧ record.deleted = false ∧ record.getStatus now = .valid

/-- The count of an issuer is the length of its whole listing. -/
def IssuerCounts (world : World Address) : Prop :=
  ∀ env owner limit, limit < u32Range →
    (chunkIds .issuer world.storage owner).length ≤ limit →
      Counts (getIssuerAttestationCount owner) (getIssuerAttestations owner 0 limit) env world

/-- Every count says what the listing or the store says. -/
structure CountsAgree (world : World Address) : Prop where
  subject : ∀ env owner limit, limit < u32Range →
    (chunkIds .subject world.storage owner).length ≤ limit →
      Counts (getSubjectAttestationCount owner) (getSubjectAttestations owner 0 limit) env world
  issuer : IssuerCounts world
  valid : ∀ env owner, Reads (getValidClaimCount owner) env world
    (Census.count world.storage.attestation (ValidOf owner env.timestamp))

variable {env : Env Address} {world before after : World Address}

/-- A page that starts at the front and is long enough is all of the index. -/
theorem reads_listing {side : ChunkedIndex.Side} {owner : Address} {ids : List Str} {limit : Nat}
    (holds : ChunkedIndex.Holds (side.chunks world.storage owner) ids) (long : ids.length ≤ limit)
    (encodes : limit < u32Range) (page : List Str) :
    Reads (listing side owner 0 limit) env world page ↔
      page = ids.filter (Undeleted world.storage) := by
  simp only [Reads, listing, returns_bind, ChunkedIndex.returns_getPage, returns_undeletedLoop,
    holds.read, Option.some.injEq, exists_eq_left', List.nil_append, List.drop_zero, Nat.zero_add,
    List.take_of_length_le long]
  constructor
  · rintro ⟨_, _, _, ⟨-, rfl, rfl⟩, rfl, -⟩
    rfl
  · rintro rfl
    exact ⟨world, _, world, ⟨fun _ => encodes, rfl, rfl⟩, rfl, rfl⟩

theorem reads_getSubjectAttestationCount {owner : Address} {ids : List Str}
    (holds : ChunkedIndex.Holds (world.storage.subjectAttestationChunk owner) ids) :
    Reads (getSubjectAttestationCount owner) env world ids.length := by
  refine ⟨world, ?_⟩
  simp [getSubjectAttestationCount, holds.read]

theorem reads_getIssuerAttestationCount (owner : Address) (count : Nat) :
    Reads (getIssuerAttestationCount owner) env world count ↔
      count = (world.storage.issuerAttestations owner).length := by
  simp [Reads, getIssuerAttestationCount]

/-- The loop counts the valid records that are listed, one after the other. -/
theorem returns_validCountLoop (now : Nat) (ids : List Str) (count : Nat)
    (room : count + (ids.filter (Finds world.storage fun record =>
      decide (record.deleted = false ∧ record.getStatus now = .valid))).length < u32Range) :
    Returns (validCountLoop now ids count) env world
      (count + (ids.filter (Finds world.storage fun record =>
        decide (record.deleted = false ∧ record.getStatus now = .valid))).length) world := by
  induction ids generalizing count with
  | nil => simp [validCountLoop]
  | cons id rest ih =>
      cases found : world.storage.attestation id with
      | none =>
          rw [List.filter_cons_of_neg (by simp [Finds, found])] at room ⊢
          simpa [validCountLoop, found] using ih count room
      | some attestation =>
          by_cases valid : attestation.deleted = false ∧ attestation.getStatus now = .valid
          · rw [List.filter_cons_of_pos (by simp [Finds, found, valid]), List.length_cons,
              ← Nat.add_assoc, Nat.add_right_comm] at room ⊢
            have next : count + 1 < u32Range := by omega
            simpa [validCountLoop, found, valid, next] using ih (count + 1) room
          · rw [List.filter_cons_of_neg (by simp [Finds, found, valid])] at room ⊢
            simpa [validCountLoop, found, valid] using ih count room

/-- A subject's valid records are those that its index lists. -/
theorem reads_getValidClaimCount {owner : Address} (covers : Covers world.storage.register)
    (once : (world.storage.subjectAttestations owner).Nodup)
    (small : (world.storage.validAttestations owner).length < u32Range) :
    Reads (getValidClaimCount owner) env world
      (Census.count world.storage.attestation (ValidOf owner env.timestamp)) := by
  obtain ⟨counted, same⟩ : ∃ counted, counted =
      (world.storage.subjectAttestations owner).filter (Finds world.storage fun record =>
        decide (record.deleted = false ∧ record.getStatus env.timestamp = .valid)) := ⟨_, rfl⟩
  have members : ∀ id, id ∈ counted ↔
      id ∈ Census.keys world.storage.attestation (ValidOf owner env.timestamp) := by
    intro id
    rw [same, List.mem_filter]
    constructor
    · rintro ⟨listed, finds⟩
      obtain ⟨record, found, own, undeleted⟩ := covers.bySubject.sound owner id listed
      rw [finds_of_found found] at finds
      exact ⟨record, found, own, of_decide_eq_true finds⟩
    · rintro ⟨record, found, own, undeleted, valid⟩
      have current : Current record := ⟨((record.getStatus_eq_valid _).mp valid).2.1, undeleted⟩
      refine ⟨covers.bySubject.complete owner id ⟨record, found, own, current⟩, ?_⟩
      rw [finds_of_found found]
      exact decide_eq_true ⟨undeleted, valid⟩
  -- what is counted is listed by the other index, too, which the chunks keep short
  have within : counted.length ≤ (world.storage.validAttestations owner).length := by
    refine ((same ▸ once.filter _).subperm fun id member => ?_).length_le
    obtain ⟨record, found, own, undeleted, valid⟩ := (members id).mp member
    exact covers.valid.complete owner id
      ⟨record, found, own, ((record.getStatus_eq_valid _).mp valid).2.1, undeleted⟩
  rw [Census.count_of_listed (same ▸ once.filter _) members]
  refine ⟨world, ?_⟩
  have counts := @returns_validCountLoop _ env world env.timestamp
    (world.storage.subjectAttestations owner) 0 (by rw [Nat.zero_add, ← same]; omega)
  rw [Nat.zero_add, ← same] at counts
  simpa [getValidClaimCount] using counts

/-- Where the chunks hold a list, the count is compared with what of it is undeleted. -/
theorem issuerCounts_iff {byIssuer : Address → List Str}
    (synced : Synced byIssuer world.storage.issuerAttestationChunk) :
    IssuerCounts world ↔ ∀ owner, (world.storage.issuerAttestations owner).length =
      ((byIssuer owner).filter (Undeleted world.storage)).length := by
  have holds : ∀ owner, ChunkedIndex.Holds
      (ChunkedIndex.Side.issuer.chunks world.storage owner) (byIssuer owner) := synced
  have counts : ∀ env owner limit, limit < u32Range → (byIssuer owner).length ≤ limit →
      (Counts (getIssuerAttestationCount owner) (getIssuerAttestations owner 0 limit) env world ↔
        (world.storage.issuerAttestations owner).length =
          ((byIssuer owner).filter (Undeleted world.storage)).length) := by
    intro env owner limit encodes long
    have listed : ∀ page, Reads (getIssuerAttestations owner 0 limit) env world page ↔
        page = (byIssuer owner).filter (Undeleted world.storage) :=
      reads_listing (holds owner) long encodes
    simp only [Counts, listed, reads_getIssuerAttestationCount, exists_eq_left]
    exact eq_comm
  unfold IssuerCounts
  simp only [chunkIds_of_holds (holds _)]
  constructor
  · intro agree owner
    have short := (holds owner).2
    exact (counts ⟨0, [], fun _ => true, fun _ => true⟩ owner _ short (Nat.le_refl _)).mp
      (agree _ owner _ short (Nat.le_refl _))
  · intro agree env owner limit encodes long
    exact (counts env owner limit encodes long).mpr (agree owner)

end Queries

section Condition
variable {Address : Type}

/-- The call passes every check and deletes a record that has not been revoked. -/
def DeletesUnrevoked (storage : Storage Address) (call : Call Address) : Prop :=
  match call.op with
  | .attestation (.requestDeletion subject id) =>
      ∃ record, Deletable storage call.env subject id record ∧ record.revoked = false
  | _ => False

/-- A transfer to another issuer, a batch revocation of something, or the deletion of an
unrevoked record, that passes its checks. -/
def PartsCounts (storage : Storage Address) (call : Call Address) : Prop :=
  LeavesChunks storage call ∨ DeletesUnrevoked storage call

/-- Both representations of both indexes agree with the records, and only revoked records
have been deleted. -/
structure InStep [Host Address] (storage : Storage Address) : Prop where
  keyed : Keyed storage.register
  sync : InSync storage
  consistent : Consistent storage.register
  live : storage.register.All fun record => record.revoked = false → record.deleted = false

variable [DecidableEq Address] [Host Address] {before after : World Address} {call : Call Address}

omit [DecidableEq Address] in
theorem inStep_empty : InStep (Storage.empty Address) :=
  ⟨keyed_empty, inSync_empty, consistent_empty, all_empty⟩

omit [DecidableEq Address] in
/-- All that is listed is live, so the issuer's count is right. -/
theorem InStep.issuerCounts (inStep : InStep before.storage) : IssuerCounts before := by
  refine (issuerCounts_iff inStep.sync.issuer).mpr fun owner => ?_
  rw [List.filter_eq_self.mpr fun id listed => ?_]
  obtain ⟨record, found, -, active⟩ := inStep.consistent.byIssuer.sound owner id listed
  exact undeleted_iff.mpr ⟨record, found, inStep.live id record found active⟩

/-- A deleted record was the subject of a deletion that passed its checks. -/
theorem live_of_accepted (inStep : InStep before.storage)
    (passed : ¬ DeletesUnrevoked before.storage call) (accepted : Accepted before call after) :
    after.storage.register.All fun record => record.revoked = false → record.deleted = false := by
  have follows := follows_of_accepted inStep.keyed accepted
  refine all_of_accepted inStep.keyed inStep.live accepted (fun record issued => ?_)
    fun change member record base live => ?_
  · obtain ⟨early, late, split⟩ := List.append_of_mem issued
    have enabled := Trace.each_iff.mp follows.enabled early _ late split
    exact fun _ => enabled.1.2
  · cases change with
    | issue _ => cases base
    | amend | transfer =>
        obtain rfl := Option.some.inj base
        exact live
    | revoke | revokeInBatch => exact nofun
    | erase erased =>
        have warrant := warrant_of_accepted accepted member
        intro active
        obtain ⟨env, op⟩ := call
        cases warrant with
        | requestDeletion checks => exact absurd ⟨_, checks, active⟩ passed

omit [DecidableEq Address] [Host Address] in
theorem leavesChunks_of_transfersRevoked {storage : Storage Address}
    (transfers : TransfersRevoked storage call) : LeavesChunks storage call := by
  obtain ⟨env, op⟩ := call
  cases op with
  | attestation op =>
      cases op with
      | transferAttestation admin id newIssuer =>
          obtain ⟨record, checks, -⟩ := transfers
          exact ⟨record, checks⟩
      | _ => cases transfers
  | _ => cases transfers

theorem InStep.stepped (inStep : InStep before.storage) (direct : ∀ op, call.op ≠ .multisig op)
    (passed : ¬ PartsCounts before.storage call) : InStep (step before call).storage := by
  rcases step_cases before call with accepted | same
  · obtain ⟨chunks, undeleted⟩ := not_or.mp passed
    exact ⟨keyed_of_accepted inStep.keyed accepted, inSync_of_accepted inStep.sync chunks accepted,
      consistent_of_accepted inStep.keyed inStep.consistent direct
        (fun transfers => chunks (leavesChunks_of_transfersRevoked transfers)) accepted,
      live_of_accepted inStep undeleted accepted⟩
  · rw [same]
    exact inStep

omit [Host Address] in
/-- Revoking a batch of undeleted records deletes nothing. -/
theorem undeleted_run_withBatchRevoked {issuer : Address} {reason : Option Str} {timestamp : Nat}
    {storage : Storage Address} {records : List (Attestation Address)}
    (live : ∀ record ∈ records, record.deleted = false) {id : Str}
    (undeleted : Undeleted storage id = true) :
    Undeleted (Trace.run (withBatchRevoked issuer reason timestamp) storage records) id = true := by
  induction records generalizing storage with
  | nil => exact undeleted
  | cons record rest ih =>
      refine ih (fun other member => live other (List.mem_cons_of_mem _ member)) ?_
      by_cases here : id = record.id
      · subst here
        simp [Undeleted, withBatchRevoked, live record List.mem_cons_self]
      · simpa [Undeleted, withBatchRevoked, Function.update_of_ne here] using undeleted

omit [Host Address] in
theorem sublist_run_withBatchRevoked (issuer owner : Address) (reason : Option Str)
    (timestamp : Nat) (storage : Storage Address) (records : List (Attestation Address)) :
    ((Trace.run (withBatchRevoked issuer reason timestamp) storage records).issuerAttestations
      owner).Sublist (storage.issuerAttestations owner) := by
  induction records generalizing storage with
  | nil => exact .refl _
  | cons record rest ih =>
      refine (ih _).trans ?_
      by_cases here : owner = issuer
      · subst here
        simp [withBatchRevoked]
      · simp [withBatchRevoked, Function.update_of_ne here]

/-- With the chunks as they were, a flat list of another length than its undeleted part
is a wrong count. -/
theorem InStep.miscounts (inStep : InStep before.storage) (accepted : Accepted before call after)
    (kept : after.storage.issuerAttestationChunk = before.storage.issuerAttestationChunk)
    (owner : Address) (wrong : (after.storage.issuerAttestations owner).length ≠
      ((before.storage.issuerAttestations owner).filter (Undeleted after.storage)).length) :
    ¬ IssuerCounts (step before call) := by
  have synced : Synced before.storage.issuerAttestations after.storage.issuerAttestationChunk :=
    kept ▸ inStep.sync.issuer
  rw [step_of_accepted accepted, issuerCounts_iff synced]
  exact fun counts => wrong (counts owner)

/-- The new issuer's flat list is longer by the id. -/
theorem InStep.miscounts_transfer (inStep : InStep before.storage) {env : Env Address}
    {admin newIssuer : Address} {id : Str} {record : Attestation Address}
    (checks : Transferable before.storage env admin id newIssuer record) :
    ¬ IssuerCounts (step before ⟨env, .attestation (.transferAttestation admin id newIssuer)⟩) := by
  obtain ⟨auth, member, registered, found, moved, ttl⟩ := checks
  have accepted : Accepted before ⟨env, .attestation (.transferAttestation admin id newIssuer)⟩ _ :=
    (returns_transferAttestation admin id newIssuer ()).mpr
      ⟨record, ⟨auth, member, registered, found⟩, .inr ⟨moved, ttl, rfl⟩⟩
  refine inStep.miscounts accepted rfl newIssuer ?_
  simp only [Function.update_self, List.length_append, List.length_singleton]
  exact Nat.ne_of_gt (Nat.lt_succ_of_le (List.length_filter_le ..))

omit [DecidableEq Address] [Host Address] in
theorem loaded_of_revocable {issuer : Address} {storage : Storage Address} {ids : List Str}
    {records : List (Attestation Address)}
    (revocable : List.Forall₂ (Revocable issuer storage) ids records) :
    ∀ record ∈ records, ∃ id, Revocable issuer storage id record := by
  induction revocable with
  | nil => exact List.forall_mem_nil _
  | cons head _ ih => exact List.forall_mem_cons.mpr ⟨⟨_, head⟩, ih⟩

/-- The issuer's flat list has lost an id that is not deleted. -/
theorem InStep.miscounts_batch (inStep : InStep before.storage) {env : Env Address}
    {issuer : Address} {ids : List Str} {reason : Option Str} (something : ids ≠ [])
    (checks : BatchRevocable before.storage env issuer ids reason) :
    ¬ IssuerCounts
      (step before ⟨env, .attestation (.revokeAttestationsBatch issuer ids reason)⟩) := by
  obtain ⟨auth, running, registered, valid, small, distinct, each, ttl⟩ := checks
  obtain ⟨records, revocable⟩ := revocable_records each
  have accepted : Accepted before
      ⟨env, .attestation (.revokeAttestationsBatch issuer ids reason)⟩ _ :=
    (returns_void ..).mpr ⟨_, (returns_revokeAttestationsBatch issuer ids reason _).mpr
      ⟨records, ⟨auth, running, registered, valid, small, distinct, revocable, fun _ => ttl⟩,
        rfl, rfl⟩⟩
  have live : ∀ record ∈ records, record.deleted = false := by
    intro record member
    obtain ⟨id, revoked⟩ := loaded_of_revocable revocable record member
    exact inStep.live id record revoked.found revoked.active
  refine inStep.miscounts accepted
    (run_withBatchRevoked_issuerAttestationChunk issuer reason env.timestamp _ _) issuer ?_
  rw [List.filter_eq_self.mpr fun id listed => ?undeleted]
  case undeleted =>
    obtain ⟨record, found, -, active⟩ := inStep.consistent.byIssuer.sound issuer id listed
    exact undeleted_run_withBatchRevoked live
      (undeleted_iff.mpr ⟨record, found, inStep.live id record found active⟩)
  intro same
  cases revocable with
  | nil => exact something rfl
  | @cons id record _ _ head tail =>
      have whole := (sublist_run_withBatchRevoked issuer issuer reason env.timestamp before.storage
        (record :: _)).eq_of_length same
      have own := (inStep.keyed id record head.found).1
      have listed := inStep.consistent.byIssuer.complete issuer record.id
        ⟨record, own.symm ▸ head.found, head.own, head.active⟩
      rw [show before.storage.register.byIssuer issuer = _ from whole.symm] at listed
      exact (mem_run_withBatchRevoked listed).2 record List.mem_cons_self rfl

theorem InStep.miscounts_deletion (inStep : InStep before.storage) {env : Env Address}
    {subject : Address} {id : Str} {record : Attestation Address}
    (checks : Deletable before.storage env subject id record) (active : record.revoked = false) :
    ¬ IssuerCounts (step before ⟨env, .attestation (.requestDeletion subject id)⟩) := by
  obtain ⟨auth, found, own, ttl, room⟩ := checks
  have accepted : Accepted before ⟨env, .attestation (.requestDeletion subject id)⟩ _ :=
    (returns_requestDeletion subject id ()).mpr ⟨record, ⟨auth, found, own, ttl, room⟩, rfl⟩
  obtain rfl := (inStep.keyed id record found).1
  have listed := inStep.consistent.byIssuer.complete record.issuer record.id
    ⟨record, found, rfl, active⟩
  refine inStep.miscounts accepted rfl record.issuer (Nat.ne_of_gt ?_)
  -- the id stays listed on both sides, and the listing leaves it out
  refine List.length_filter_lt_length_iff_exists.mpr ⟨record.id, listed, ?_⟩
  simp [Undeleted]

/-- A call that parts them makes one issuer's count wrong. -/
theorem InStep.parted (inStep : InStep before.storage)
    (parts : PartsCounts before.storage call) : ¬ IssuerCounts (step before call) := by
  obtain ⟨env, op⟩ := call
  cases op with
  | attestation op =>
      cases op with
      | transferAttestation admin id newIssuer =>
          obtain ⟨record, checks⟩ := parts.resolve_right fun deletes => deletes
          exact inStep.miscounts_transfer checks
      | revokeAttestationsBatch issuer ids reason =>
          obtain ⟨something, checks⟩ := parts.resolve_right fun deletes => deletes
          exact inStep.miscounts_batch something checks
      | requestDeletion subject id =>
          obtain ⟨record, checks, active⟩ := parts.resolve_left fun leaves => leaves
          exact inStep.miscounts_deletion checks active
      | _ => exact (parts.elim id id).elim
  | _ => exact (parts.elim id id).elim

/-- A subject's counts always agree with its listings, so those of the issuers decide. -/
theorem countsAgree_iff_issuerCounts (calls : List (Call Address))
    (direct : ∀ call ∈ calls, ∀ op, call.op ≠ .multisig op) :
    CountsAgree (run calls) ↔ IssuerCounts (run calls) := by
  obtain ⟨valid, byIssuer, issuer, paged⟩ := paged_run calls direct
  refine ⟨fun agree => agree.issuer, fun counts => ⟨?_, counts, ?_⟩⟩
  · intro env owner limit encodes long
    have holds : ChunkedIndex.Holds (ChunkedIndex.Side.subject.chunks (run calls).storage owner)
        ((run calls).storage.validAttestations owner) := valid owner
    rw [chunkIds_of_holds holds] at long
    have living : ∀ id ∈ (run calls).storage.validAttestations owner,
        Undeleted (run calls).storage id = true := by
      intro id member
      obtain ⟨record, found, -, undeleted⟩ := paged.valid.sound owner id member
      exact undeleted_iff.mpr ⟨record, found, undeleted⟩
    refine ⟨_, (reads_listing holds long encodes _).mpr rfl, ?_⟩
    rw [List.filter_eq_self.mpr living]
    exact reads_getSubjectAttestationCount (valid owner)
  · intro env owner
    exact reads_getValidClaimCount (covers_direct calls direct) (subjects_once calls direct owner)
      (valid owner).2

/-- Counts and listings agree throughout exactly the runs in which no step parts them. -/
theorem counts_agree_iff (calls : List (Call Address))
    (direct : ∀ call ∈ calls, ∀ op, call.op ≠ .multisig op) :
    (∀ early late, calls = early ++ late → CountsAgree (run early)) ↔
      Trace.Each step (fun world call => ¬ PartsCounts world.storage call) (World.empty Address)
        calls := by
  rw [← Trace.weaker_iff_each (fun (world : World Address) inStep => InStep.issuerCounts inStep)
    (fun world call direct inStep passed => inStep.stepped direct passed)
    (fun world call direct inStep parts => inStep.parted (not_not.mp parts)) inStep_empty direct]
  refine forall_congr' fun early => forall_congr' fun late => forall_congr' fun split => ?_
  refine countsAgree_iff_issuerCounts early fun call member => direct call ?_
  rw [split]
  exact List.mem_append_left late member

end Condition

section Samples
open Xdr

theorem counts_agree_sample : CountsAgree (run (sampleDeployment ++ [sampleIssuance])) := by
  have direct : ∀ call ∈ sampleDeployment ++ [sampleIssuance], ∀ op, call.op ≠ .multisig op := by
    simp [sampleDeployment, sampleIssuance, signed]
  refine (counts_agree_iff _ direct).mpr ?_ _ [] (List.append_nil _).symm
  exact ⟨fun parts => parts.elim id id, fun parts => parts.elim id id,
    fun parts => parts.elim id id, fun parts => parts.elim id id, trivial⟩

/-- After the transfer, issuer 3 is said to have one attestation, and none is listed. -/
theorem transferred_record_counted_not_listed :
    ¬ ∀ early late, sampleDeployment ++ [sampleIssuance, sampleTransfer] = early ++ late →
      CountsAgree (run early) := by
  intro agree
  have whole := agree (sampleDeployment ++ [sampleIssuance, sampleTransfer]) []
    (List.append_nil _).symm
  have counted : ((run (sampleDeployment ++ [sampleIssuance, sampleTransfer])).storage
      |>.issuerAttestations (contractId 3)).length = 1 := by decide +kernel
  have empty : chunkIds .issuer (run (sampleDeployment ++ [sampleIssuance, sampleTransfer])).storage
      (contractId 3) = [] := by decide +kernel
  have listed : simulate (getIssuerAttestations (contractId 3)) sampleTransfer.env
      (run (sampleDeployment ++ [sampleIssuance, sampleTransfer])) 0 50 = some [] := by
    decide +kernel
  obtain ⟨ids, ⟨after, returned⟩, number⟩ := whole.issuer sampleTransfer.env (contractId 3) 50
    (by decide) (by rw [empty]; decide)
  have page := simulate_eq_some.mpr ⟨⟨by decide, by decide⟩, after, returned⟩
  obtain rfl := Option.some.inj (listed.symm.trans page)
  rw [reads_getIssuerAttestationCount, counted] at number
  cases number

end Samples

end TrustLink
