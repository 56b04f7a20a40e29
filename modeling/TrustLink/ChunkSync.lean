import Mathlib.Data.List.Induction
import TrustLink.Effects

/-!
The flat indexes against their chunked copies. Issuance, revocation and deletion
write both; a transfer and a batch revocation write the flat ones only, and the
readers of the two disagree from then on.
-/
namespace TrustLink
open Transaction Contract

section Sync
variable {Address : Type}

/-- The chunks of every owner hold the owner's flat list. -/
def Synced (flat : Address → List Str) (chunks : Address → Nat → Option (List Str)) : Prop :=
  ∀ owner, ChunkedIndex.Holds (chunks owner) (flat owner)

structure InSync (storage : Storage Address) : Prop where
  subject : Synced storage.subjectAttestations storage.subjectAttestationChunk
  issuer : Synced storage.issuerAttestations storage.issuerAttestationChunk

theorem inSync_empty : InSync (Storage.empty Address) :=
  ⟨fun _ => ChunkedIndex.holds_nil, fun _ => ChunkedIndex.holds_nil⟩

/-- The chunks of every owner hold some list. -/
def Held (chunks : Address → Nat → Option (List Str)) : Prop :=
  ∀ owner, ∃ items, ChunkedIndex.Holds (chunks owner) items

variable [DecidableEq Address]

/-- A flat index and its chunked copy go through the same changes, each of them to
the list of one owner and one that the chunks have room for. -/
inductive Edited : (Address → List Str) → (Address → Nat → Option (List Str)) →
    (Address → List Str) → (Address → Nat → Option (List Str)) → Prop
  | refl (flat chunks) : Edited flat chunks flat chunks
  | edit {flat chunks flat' chunks'} (owner : Address) (change : List Str → List Str)
      (changes : ChunkedIndex.Rewritable change (chunks owner))
      (rest : Edited (Function.update flat owner (change (flat owner)))
        (Function.update chunks owner (ChunkedIndex.rewritten change (chunks owner)))
        flat' chunks') : Edited flat chunks flat' chunks'

variable {flat flat' : Address → List Str} {chunks chunks' : Address → Nat → Option (List Str)}
  {storage : Storage Address}

theorem Edited.single {owner : Address} {change : List Str → List Str}
    (changes : ChunkedIndex.Rewritable change (chunks owner)) :
    Edited flat chunks (Function.update flat owner (change (flat owner)))
      (Function.update chunks owner (ChunkedIndex.rewritten change (chunks owner))) :=
  .edit owner change changes (.refl _ _)

theorem Synced.edited (synced : Synced flat chunks) (edited : Edited flat chunks flat' chunks') :
    Synced flat' chunks' := by
  induction edited with
  | refl flat chunks => exact synced
  | edit owner change changes rest ih =>
      refine ih fun other => ?_
      by_cases here : other = owner
      · subst here
        rw [Function.update_self, Function.update_self]
        exact (synced other).rewritten changes
      · rw [Function.update_of_ne here, Function.update_of_ne here]
        exact synced other

theorem Held.edited (held : Held chunks) (edited : Edited flat chunks flat' chunks') :
    Held chunks' := by
  induction edited with
  | refl flat chunks => exact held
  | edit owner change changes rest ih =>
      refine ih fun other => ?_
      by_cases here : other = owner
      · subst here
        obtain ⟨items, holds⟩ := held other
        exact ⟨change items, by simpa using holds.rewritten changes⟩
      · obtain ⟨items, holds⟩ := held other
        exact ⟨items, by simpa [here] using holds⟩

/-- The batch loop lists its records under their subjects, on both sides. -/
theorem edited_listed {limits : StorageLimits} {records : List (Attestation Address)}
    (listable : Trace.Each withListed (Listable limits) storage records) :
    Edited storage.subjectAttestations storage.subjectAttestationChunk
      (Trace.run withListed storage records).subjectAttestations
      (Trace.run withListed storage records).subjectAttestationChunk := by
  induction records generalizing storage with
  | nil => exact .refl _ _
  | cons record rest ih =>
      exact .edit record.subject (· ++ [record.id]) listable.1.subject (ih listable.2)

/-- Both sides of an index have gone the same way. -/
structure Edits (before after : Storage Address) : Prop where
  subject : Edited before.subjectAttestations before.subjectAttestationChunk
    after.subjectAttestations after.subjectAttestationChunk
  issuer : Edited before.issuerAttestations before.issuerAttestationChunk
    after.issuerAttestations after.issuerAttestationChunk

theorem Edits.refl (storage : Storage Address) : Edits storage storage :=
  ⟨.refl _ _, .refl _ _⟩

theorem InSync.edits {before after : Storage Address} (sync : InSync before)
    (edits : Edits before after) : InSync after :=
  ⟨sync.subject.edited edits.subject, sync.issuer.edited edits.issuer⟩

/-- The chunked indexes are as they were. -/
structure ChunksKept (before after : Storage Address) : Prop where
  subject : after.subjectAttestationChunk = before.subjectAttestationChunk
  issuer : after.issuerAttestationChunk = before.issuerAttestationChunk

end Sync

section Condition
variable {Address : Type}

/-- The checks of a batch revocation. -/
structure BatchRevocable (storage : Storage Address) (env : Env Address) (issuer : Address)
    (ids : List Str) (reason : Option Str) : Prop where
  auth : issuer ∈ env.auths
  running : storage.paused = false
  registered : storage.issuer issuer = true
  reason : validateReason reason = .ok ()
  small : ids.length ≤ 50
  distinct : ids.Nodup
  revocable : ∀ id ∈ ids, ∃ record, Revocable issuer storage id record
  ttl : TtlFits storage.ttlConfig

/-- The call passes every check and changes the flat indexes only: a transfer to
another issuer, or a batch revocation of something. -/
def LeavesChunks (storage : Storage Address) (call : Call Address) : Prop :=
  match call.op with
  | .attestation (.transferAttestation admin id newIssuer) =>
      ∃ attestation, Transferable storage call.env admin id newIssuer attestation
  | .attestation (.revokeAttestationsBatch issuer ids reason) =>
      ids ≠ [] ∧ BatchRevocable storage call.env issuer ids reason
  | _ => False

end Condition

section Batches
variable {Address : Type}

theorem revocable_of_mem {issuer : Address} {storage : Storage Address} {ids : List Str}
    {records : List (Attestation Address)}
    (revocable : List.Forall₂ (Revocable issuer storage) ids records) :
    ∀ id ∈ ids, ∃ record, Revocable issuer storage id record := by
  induction revocable with
  | nil => simp
  | cons head _ ih =>
      rw [List.forall_mem_cons]
      exact ⟨⟨_, head⟩, ih⟩

theorem revocable_records {issuer : Address} {storage : Storage Address} {ids : List Str}
    (revocable : ∀ id ∈ ids, ∃ record, Revocable issuer storage id record) :
    ∃ records, List.Forall₂ (Revocable issuer storage) ids records := by
  induction ids with
  | nil => exact ⟨[], .nil⟩
  | cons id rest ih =>
      obtain ⟨record, head⟩ := revocable id (by simp)
      obtain ⟨records, tail⟩ := ih fun other member => revocable other (by simp [member])
      exact ⟨record :: records, .cons head tail⟩

end Batches

section Steps
variable {Address : Type} [DecidableEq Address] [Host Address] {env : Env Address}
  {before after : World Address}

omit [Host Address] in
theorem edits_revokeAttestationsBatch {issuer : Address} {ids : List Str} {reason : Option Str}
    {count : Nat} (accepted : Returns (revokeAttestationsBatch issuer ids reason) env before count
      after) :
    Edits before.storage after.storage ∨
      ((ids ≠ [] ∧ BatchRevocable before.storage env issuer ids reason) ∧
        ChunksKept before.storage after.storage) := by
  obtain ⟨records, ⟨auth, running, registered, valid, small, distinct, revocable, ttl⟩, -, rfl⟩ :=
    (returns_revokeAttestationsBatch ..).mp accepted
  cases revocable with
  | nil => exact .inl ⟨.refl _ _, .refl _ _⟩
  | cons head tail =>
      let revoked := withBatchRevoked issuer reason env.timestamp
      refine .inr ⟨⟨List.cons_ne_nil _ _, auth, running, registered, valid, small, distinct,
        revocable_of_mem (.cons head tail), ttl (List.cons_ne_nil _ _)⟩, ?_, ?_⟩
      · exact Trace.run_keeps revoked (·.subjectAttestationChunk) (fun _ _ => rfl) _ _
      · exact Trace.run_keeps revoked (·.issuerAttestationChunk) (fun _ _ => rfl) _ _

/-- An operation edits both sides alike, or is one that leaves the chunks behind. -/
theorem AttestationOp.edits (op : AttestationOp Address)
    (accepted : Returns op.exec env before () after) :
    Edits before.storage after.storage ∨
      (LeavesChunks before.storage ⟨env, .attestation op⟩ ∧
        ChunksKept before.storage after.storage) := by
  cases op with
  | createAttestation | createAttestationValidFrom | createAttestationJurisdiction
  | importAttestation | bridgeAttestation | createAttestationAsDelegate =>
      obtain ⟨-, -, -, -, -, fits, entry, event, times, payments, -, -, rfl⟩ :=
        AttestationOp.issues_one accepted rfl
      exact .inl ⟨.single fits.subject, .single fits.issuer⟩
  | createAttestationsBatch issuer subjects claimType expiration =>
      obtain ⟨id, accepted⟩ := (returns_void ..).mp accepted
      obtain ⟨checks, -, rfl⟩ := (returns_createAttestationsBatch _ _ _ _ _ _ rfl).mp accepted
      -- the subjects' lists grow in the loop, the issuer's once at its end
      exact .inl ⟨edited_listed checks.listable, .single checks.chunks⟩
  | revokeAttestation issuer id reason =>
      obtain ⟨attestation, -, -, subject, issuer, rfl⟩ := (returns_revokeAttestation ..).mp accepted
      exact .inl ⟨.single subject, .single issuer⟩
  | renewAttestation issuer id newExpiration =>
      obtain ⟨attestation, -, -, details, -, rfl⟩ := (returns_renewAttestation ..).mp accepted
      exact .inl ⟨.refl _ _, .refl _ _⟩
  | revokeAttestationsBatch issuer ids reason =>
      obtain ⟨count, accepted⟩ := (returns_void ..).mp accepted
      exact edits_revokeAttestationsBatch accepted
  | updateExpiration issuer id newExpiration =>
      obtain ⟨attestation, -, -, rfl⟩ := (returns_updateExpiration ..).mp accepted
      exact .inl ⟨.refl _ _, .refl _ _⟩
  | transferAttestation admin id newIssuer =>
      obtain ⟨attestation, ⟨auth, member, registered, found⟩, ⟨same, rfl⟩ | ⟨moved, ttl, rfl⟩⟩ :=
        (returns_transferAttestation ..).mp accepted
      · exact .inl (Edits.refl _)
      -- the two issuers' flat lists are rewritten, their chunks are not
      · exact .inr ⟨⟨attestation, auth, member, registered, found, moved, ttl⟩, rfl, rfl⟩
  | requestDeletion subject id =>
      obtain ⟨attestation, ⟨-, -, -, -, room⟩, rfl⟩ := (returns_requestDeletion ..).mp accepted
      exact .inl ⟨.single room, .refl _ _⟩
  | endorseAttestation endorser id =>
      obtain ⟨-, rfl⟩ := (returns_endorseAttestation ..).mp accepted
      exact .inl ⟨.refl _ _, .refl _ _⟩

theorem RequestOp.edits (op : RequestOp Address) (accepted : Returns op.exec env before () after) :
    Edits before.storage after.storage := by
  cases op.outcome accepted with
  | fulfillRequest _ checks =>
      exact ⟨.single checks.fits.subject, .single checks.fits.issuer⟩
  | _ => exact ⟨.refl _ _, .refl _ _⟩

theorem MultisigOp.edits (op : MultisigOp Address)
    (accepted : Returns op.exec env before () after) : Edits before.storage after.storage := by
  cases op.outcome accepted with
  | bypass _ _ _ fits | completion _ _ fits =>
      exact ⟨.single fits.subject, .single fits.issuer⟩
  | _ => exact ⟨.refl _ _, .refl _ _⟩

omit [Host Address] in
theorem Untouched.edits (kept : Untouched before after) : Edits before.storage after.storage := by
  constructor
  · rw [kept.subjectChunk, show after.storage.subjectAttestations =
      before.storage.subjectAttestations from congrArg Register.bySubject kept.register]
    exact .refl _ _
  · rw [kept.issuerChunk, show after.storage.issuerAttestations =
      before.storage.issuerAttestations from congrArg Register.byIssuer kept.register]
    exact .refl _ _

theorem edits_of_accepted {call : Call Address} (accepted : Accepted before call after) :
    Edits before.storage after.storage ∨
      (LeavesChunks before.storage call ∧ ChunksKept before.storage after.storage) := by
  obtain ⟨env, op⟩ := call
  cases op with
  | attestation op => exact op.edits accepted
  | request op => exact .inl (op.edits accepted)
  | multisig op => exact .inl (op.edits accepted)
  | council op => exact .inl (op.untouched accepted).edits
  | admin op => exact .inl (op.administers accepted).toUntouched.edits

theorem inSync_of_accepted {call : Call Address} (sync : InSync before.storage)
    (passed : ¬ LeavesChunks before.storage call) (accepted : Accepted before call after) :
    InSync after.storage := by
  rcases edits_of_accepted accepted with edits | ⟨leaves, -⟩
  · exact sync.edits edits
  · exact absurd leaves passed

/-- In every reachable state the chunks of each subject and each issuer hold a list. -/
theorem held_run (calls : List (Call Address)) :
    Held (run calls).storage.subjectAttestationChunk ∧
      Held (run calls).storage.issuerAttestationChunk := by
  have keeps : ∀ (before : World Address) call after,
      (Held before.storage.subjectAttestationChunk ∧ Held before.storage.issuerAttestationChunk) →
        Accepted before call after →
          Held after.storage.subjectAttestationChunk ∧ Held after.storage.issuerAttestationChunk := by
    rintro before call after ⟨subject, issuer⟩ accepted
    rcases edits_of_accepted accepted with edits | ⟨-, kept⟩
    · exact ⟨subject.edited edits.subject, issuer.edited edits.issuer⟩
    · rw [kept.subject, kept.issuer]
      exact ⟨subject, issuer⟩
  exact invariant_of_run ⟨fun _ => ⟨[], ChunkedIndex.holds_nil⟩, fun _ => ⟨[], ChunkedIndex.holds_nil⟩⟩
    keeps calls

end Steps

section Readers
variable {Address : Type} {world : World Address}

/-- The chunked reader of each index returns what the flat one returns. -/
structure ReadersAgree (world : World Address) : Prop where
  subject : ∀ env owner ids after,
    Returns (ChunkedIndex.getSubjectAll owner) env world ids after ↔
      Returns (Storage.getSubjectAttestations owner) env world ids after
  issuer : ∀ env owner ids after,
    Returns (ChunkedIndex.getIssuerAll owner) env world ids after ↔
      Returns (Storage.getIssuerAttestations owner) env world ids after

theorem readersAgree_iff :
    ReadersAgree world ↔
      (∀ owner, Chunks.read (world.storage.subjectAttestationChunk owner) u32Range 0 [] =
        some (world.storage.subjectAttestations owner)) ∧
      ∀ owner, Chunks.read (world.storage.issuerAttestationChunk owner) u32Range 0 [] =
        some (world.storage.issuerAttestations owner) := by
  constructor
  · rintro ⟨subject, issuer⟩
    refine ⟨fun owner => ?_, fun owner => ?_⟩
    · have read := (subject ⟨0, [], fun _ => true, fun _ => true⟩ owner _ world).mpr (by simp; rfl)
      exact ((ChunkedIndex.returns_getIds ..).mp read).1
    · have read := (issuer ⟨0, [], fun _ => true, fun _ => true⟩ owner _ world).mpr (by simp; rfl)
      exact ((ChunkedIndex.returns_getIds ..).mp read).1
  · rintro ⟨subject, issuer⟩
    refine ⟨fun env owner ids after => ?_, fun env owner ids after => ?_⟩
    · simp [ChunkedIndex.getSubjectAll, subject owner, eq_comm]
    · simp [ChunkedIndex.getIssuerAll, issuer owner, eq_comm]

theorem InSync.readersAgree (sync : InSync world.storage) : ReadersAgree world :=
  readersAgree_iff.mpr ⟨fun owner => (sync.subject owner).read, fun owner => (sync.issuer owner).read⟩

end Readers

section Divergence
variable {Address : Type} [DecidableEq Address]

/-- Every record that is not revoked is listed under its issuer. -/
def IssuerListed (register : Register Address) : Prop :=
  ∀ id record, register.record id = some record → record.revoked = false →
    id ∈ register.byIssuer record.issuer

theorem run_withBatchRevoked_issuerAttestationChunk (issuer : Address) (reason : Option Str)
    (timestamp : Nat) (storage : Storage Address) (records : List (Attestation Address)) :
    (Trace.run (withBatchRevoked issuer reason timestamp) storage records).issuerAttestationChunk =
      storage.issuerAttestationChunk :=
  Trace.run_keeps (withBatchRevoked issuer reason timestamp) (·.issuerAttestationChunk)
    (fun _ _ => rfl) storage records

theorem mem_run_withBatchRevoked {issuer : Address} {reason : Option Str} {timestamp : Nat}
    {storage : Storage Address} {records : List (Attestation Address)} {id : Str}
    (listed : id ∈ (Trace.run (withBatchRevoked issuer reason timestamp) storage
      records).issuerAttestations issuer) :
    id ∈ storage.issuerAttestations issuer ∧ ∀ record ∈ records, id ≠ record.id := by
  induction records generalizing storage with
  | nil => exact ⟨listed, by simp⟩
  | cons record rest ih =>
      obtain ⟨before, others⟩ := ih listed
      simp only [withBatchRevoked, Function.update_self, List.mem_filter,
        decide_eq_true_iff] at before
      exact ⟨before.1, List.forall_mem_cons.mpr ⟨before.2, others⟩⟩

variable [Host Address] {before : World Address} {call : Call Address}

theorem IssuerListed.apply {register : Register Address} {change : Change Address}
    (listed : IssuerListed register) (enabled : Enabled register change) :
    IssuerListed (register.apply change) := by
  intro id record found live
  by_cases here : id = change.written.id
  · subst here
    simp only [Register.record_apply, Function.update_self, Option.some.injEq] at found
    subst found
    cases change with
    | issue attestation => simp [Register.apply, Change.written]
    | amend attestation expiration => exact listed _ attestation enabled live
    | transfer attestation newIssuer => simp [Register.apply, Change.written]
    | erase attestation => exact listed _ attestation enabled live
    | _ => cases live
  · simp only [Register.record_apply, Function.update_of_ne here] at found
    have kept := listed id record found live
    cases change <;> simp_all [Register.apply, Change.written]

theorem leavesChunks_disagree (listed : IssuerListed before.storage.register)
    (keyed : Keyed before.storage.register) (leaves : LeavesChunks before.storage call)
    (agree : ReadersAgree before) : ¬ ReadersAgree (step before call) := by
  rw [readersAgree_iff] at agree ⊢
  rintro ⟨-, later⟩
  obtain ⟨env, op⟩ := call
  cases op with
  | attestation op =>
      cases op with
      | transferAttestation admin id newIssuer =>
          obtain ⟨attestation, auth, member, registered, found, moved, ttl⟩ := leaves
          have accepted : Accepted before
              ⟨env, .attestation (.transferAttestation admin id newIssuer)⟩ _ :=
            (returns_transferAttestation admin id newIssuer ()).mpr
              ⟨attestation, ⟨auth, member, registered, found⟩, .inr ⟨moved, ttl, rfl⟩⟩
          rw [step_of_accepted accepted] at later
          -- the new issuer's flat list is longer by the id, the chunks are as they were
          have longer := (agree.2 newIssuer).symm.trans (later newIssuer)
          simp at longer
      | revokeAttestationsBatch issuer ids reason =>
          obtain ⟨some_id, auth, running, registered, valid, small, distinct, each, ttl⟩ := leaves
          obtain ⟨records, revocable⟩ := revocable_records each
          have accepted : Accepted before
              ⟨env, .attestation (.revokeAttestationsBatch issuer ids reason)⟩ _ :=
            (returns_void ..).mpr ⟨_, (returns_revokeAttestationsBatch issuer ids reason _).mpr
              ⟨records, ⟨auth, running, registered, valid, small, distinct, revocable,
                fun _ => ttl⟩, rfl, rfl⟩⟩
          rw [step_of_accepted accepted] at later
          cases revocable with
          | nil => exact some_id rfl
          | cons head tail =>
              -- the first record was on its issuer's list, and is off the flat one now
              have after := later issuer
              simp only [run_withBatchRevoked_issuerAttestationChunk, agree.2 issuer,
                Option.some.injEq] at after
              have own := (keyed _ _ head.found).1
              have member : _ ∈ before.storage.issuerAttestations issuer :=
                head.own ▸ listed _ _ head.found head.active
              rw [after] at member
              exact (mem_run_withBatchRevoked member).2 _ (List.mem_cons_self ..) own.symm
      | _ => cases leaves
  | _ => cases leaves

end Divergence

section Runs
variable {Address : Type} [DecidableEq Address] [Host Address]

/-- In every state of the run the readers agree. -/
def IndexesAgree (calls : List (Call Address)) : Prop :=
  ∀ early late, calls = early ++ late → ReadersAgree (run early)

theorem issuer_listed (calls : List (Call Address)) : IssuerListed (run calls).storage.register :=
  (register_invariant (fun _ _ found => nomatch found)
    (fun _ _ _ listed enabled => listed.apply enabled) calls).2

/-- The readers agree throughout exactly the runs in which no transfer and no
batch revocation changes anything. -/
theorem indexes_agree_iff (calls : List (Call Address)) :
    IndexesAgree calls ↔
      Trace.Each step (fun world call => ¬ LeavesChunks world.storage call) (World.empty Address)
        calls := by
  constructor
  · intro agree
    rw [Trace.each_iff]
    intro early call late split leaves
    have next := agree (early ++ [call]) late (by simpa using split)
    rw [run_concat] at next
    exact leavesChunks_disagree (issuer_listed early) (keyed_run early) leaves
      (agree early (call :: late) split) next
  · intro guarded early late split
    rw [split] at guarded
    exact (invariant_of_guarded_run inSync_empty (fun _ _ _ sync passed =>
      inSync_of_accepted sync passed) (Trace.each_append.mp guarded).1).readersAgree

end Runs

section Samples
open Xdr

/-- The issuer of the sample record revokes it in a batch of one. -/
def sampleBatchRevocation : Call ContractId :=
  signed 1001 (contractId 1)
    (.attestation (.revokeAttestationsBatch (contractId 1) [sampleId] none))

theorem chunks_left_behind :
    (run (sampleDeployment ++ [sampleIssuance, sampleTransfer])).storage.issuerAttestations
        (contractId 3) = [sampleId] ∧
      ¬ IndexesAgree (sampleDeployment ++ [sampleIssuance, sampleTransfer]) ∧
      (run (sampleDeployment ++ [sampleIssuance, sampleBatchRevocation])).storage.issuerAttestations
        (contractId 1) = [] ∧
      ¬ IndexesAgree (sampleDeployment ++ [sampleIssuance, sampleBatchRevocation]) := by
  have listed : (run (sampleDeployment ++ [sampleIssuance, sampleTransfer])).storage.issuerAttestations
      (contractId 3) = [sampleId] := by decide +kernel
  have unread : Chunks.read ((run (sampleDeployment ++
      [sampleIssuance, sampleTransfer])).storage.issuerAttestationChunk (contractId 3)) u32Range 0 []
        = some [] := by decide +kernel
  have pruned : (run (sampleDeployment ++
      [sampleIssuance, sampleBatchRevocation])).storage.issuerAttestations (contractId 1) = [] := by
    decide +kernel
  have stale : Chunks.read ((run (sampleDeployment ++
      [sampleIssuance, sampleBatchRevocation])).storage.issuerAttestationChunk (contractId 1))
        u32Range 0 [] = some [sampleId] := by decide +kernel
  refine ⟨listed, fun agree => ?_, pruned, fun agree => ?_⟩
  · have read := (readersAgree_iff.mp (agree _ [] (List.append_nil _).symm)).2 (contractId 3)
    rw [unread, listed] at read
    cases read
  · have read := (readersAgree_iff.mp (agree _ [] (List.append_nil _).symm)).2 (contractId 1)
    rw [stale, pruned] at read
    cases read

end Samples

end TrustLink
