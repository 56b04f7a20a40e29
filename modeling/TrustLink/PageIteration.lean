import TrustLink.ChunkSync
import TrustLink.Query
import TrustLink.Lib.Paging

/-!
The page iterators of the SDK against the listing queries, which read the chunked
indexes. The chunks of a subject hold what the valid index lists; those of an issuer
follow an index of their own, which deletions and batch revocations leave alone.
-/
namespace TrustLink
open Transaction Contract SecondaryIndex

section Listings
variable {Address : Type} [DecidableEq Address]

/-- What a change does to the chunked index of the issuers. -/
def Change.chunkIssuer (index : Address → List Str) : Change Address → Address → List Str
  | .issue attestation => add index attestation.issuer attestation.id
  | .revoke attestation _ => drop index attestation.issuer attestation.id
  | .revokeInBatch _ _ | .amend _ _ | .transfer _ _ | .erase _ => index

/-- Whatever is listed has a record, and is listed once; what a subject lists is not
deleted. -/
structure Paged (register : Register Address) (byIssuer : Address → List Str) : Prop where
  valid : Bounded register.record (·.subject) (fun record => record.revoked = false ∧
    record.deleted = false) (·.deleted = false) register.valid
  validOnce : ∀ subject, (register.valid subject).Nodup
  issuerKnown : ∀ issuer, ∀ id ∈ byIssuer issuer, (register.record id).isSome
  issuerOnce : ∀ issuer, (byIssuer issuer).Nodup

omit [DecidableEq Address] in
theorem paged_empty : Paged (Register.empty Address) fun _ => [] :=
  ⟨bounded_empty, fun _ => .nil, fun _ _ member => (nomatch member), fun _ => .nil⟩

theorem known_after {register : Register Address} (change : Change Address) {id : Str}
    (known : (register.record id).isSome) : ((register.apply change).record id).isSome := by
  rw [Register.record_apply]
  by_cases here : id = change.written.id
  · rw [here, Function.update_self]
    rfl
  · rwa [Function.update_of_ne here]

theorem Paged.apply [Host Address] {register : Register Address} {byIssuer : Address → List Str}
    (paged : Paged register byIssuer) {change : Change Address}
    (enabled : Enabled register change) (orderly : Orderly register change) :
    Paged (register.apply change) (change.chunkIssuer byIssuer) := by
  have known : ∀ issuer, ∀ id ∈ byIssuer issuer, ((register.apply change).record id).isSome :=
    fun issuer id member => known_after change (paged.issuerKnown issuer id member)
  cases change with
  | issue attestation =>
      have fresh : register.record attestation.id = none := orderly
      have same : ∀ old, register.record attestation.id = some old →
          old.subject = attestation.subject := by
        intro old found
        simp [fresh] at found
      refine ⟨paged.valid.add enabled.1.2 same, ?_, ?_, ?_⟩
      · refine fun subject => nodup_add paged.validOnce subject fun listed => ?_
        obtain ⟨record, stored, -⟩ := paged.valid.sound _ _ listed
        simp [fresh] at stored
      · intro issuer id member
        rcases (mem_add ..).mp member with listed | ⟨-, rfl⟩
        · exact known issuer id listed
        · simp [Change.written]
      · refine fun issuer => nodup_add paged.issuerOnce issuer fun listed => ?_
        simpa [fresh] using paged.issuerKnown _ _ listed
  | revoke attestation reason =>
      exact ⟨paged.valid.drop orderly fun current => Bool.noConfusion current.1,
        fun subject => nodup_drop paged.validOnce _ _ _,
        fun issuer id member => known issuer id ((mem_drop ..).mp member).1,
        fun issuer => nodup_drop paged.issuerOnce _ _ _⟩
  | revokeInBatch attestation reason =>
      exact ⟨paged.valid.replace orderly rfl (fun current => Bool.noConfusion current.1) id,
        paged.validOnce, known, paged.issuerOnce⟩
  | amend attestation expiration =>
      exact ⟨paged.valid.replace orderly rfl id id, paged.validOnce, known, paged.issuerOnce⟩
  | transfer attestation newIssuer =>
      exact ⟨paged.valid.replace orderly rfl id id, paged.validOnce, known, paged.issuerOnce⟩
  | erase attestation =>
      exact ⟨paged.valid.drop orderly fun current => Bool.noConfusion current.2,
        fun subject => nodup_drop paged.validOnce _ _ _, known, paged.issuerOnce⟩

theorem Paged.run [Host Address] {register : Register Address} {byIssuer : Address → List Str}
    {changes : List (Change Address)} (paged : Paged register byIssuer)
    (enabled : Trace.Each Register.apply Enabled register changes)
    (orderly : Trace.Each Register.apply Orderly register changes) :
    Paged (Trace.run Register.apply register changes)
      (Trace.run Change.chunkIssuer byIssuer changes) := by
  induction changes generalizing register byIssuer with
  | nil => exact paged
  | cons change rest ih =>
      exact ih (paged.apply enabled.1 orderly.1) enabled.2 orderly.2

/-- The chunks go the way of the valid index on the one side and of the changes on the
other. -/
structure Chunked (before after : World Address) (changes : List (Change Address)) : Prop where
  subject : Edited before.storage.validAttestations before.storage.subjectAttestationChunk
    after.storage.validAttestations after.storage.subjectAttestationChunk
  issuer : ∀ byIssuer, Edited byIssuer before.storage.issuerAttestationChunk
    (Trace.run Change.chunkIssuer byIssuer changes) after.storage.issuerAttestationChunk

variable {before after : World Address}

theorem Untouched.chunked (kept : Untouched before after) : Chunked before after [] := by
  constructor
  · rw [kept.subjectChunk, show after.storage.validAttestations =
      before.storage.validAttestations from congrArg Register.valid kept.register]
    exact .refl _ _
  · intro byIssuer
    rw [kept.issuerChunk]
    exact .refl _ _

theorem chunked_kept {changes : List (Change Address)}
    (valid : after.storage.validAttestations = before.storage.validAttestations)
    (subject : after.storage.subjectAttestationChunk = before.storage.subjectAttestationChunk)
    (issuer : after.storage.issuerAttestationChunk = before.storage.issuerAttestationChunk)
    (still : ∀ change ∈ changes, ∀ byIssuer, Change.chunkIssuer byIssuer change = byIssuer) :
    Chunked before after changes := by
  refine ⟨valid ▸ subject ▸ .refl _ _, fun byIssuer => ?_⟩
  have same : Trace.run Change.chunkIssuer byIssuer changes = byIssuer := by
    induction changes with
    | nil => rfl
    | cons change rest ih =>
        rw [Trace.run_cons, still change (by simp),
          ih fun other member => still other (by simp [member])]
  rw [same, issuer]
  exact .refl _ _

theorem edited_valid {limits : StorageLimits} {storage : Storage Address}
    {records : List (Attestation Address)}
    (listable : Trace.Each withListed (Listable limits) storage records) :
    Edited storage.validAttestations storage.subjectAttestationChunk
      (Trace.run withListed storage records).validAttestations
      (Trace.run withListed storage records).subjectAttestationChunk := by
  induction records generalizing storage with
  | nil => exact .refl _ _
  | cons record rest ih =>
      exact .edit record.subject (· ++ [record.id]) listable.1.subject (ih listable.2)

/-- Listing the records of a batch one by one adds their ids to the issuer's list. -/
theorem run_chunkIssuer_issues (byIssuer : Address → List Str) (issuer : Address)
    (records : List (Attestation Address)) (own : ∀ record ∈ records, record.issuer = issuer) :
    Trace.run Change.chunkIssuer byIssuer (records.map .issue) =
      Function.update byIssuer issuer (byIssuer issuer ++ records.map (·.id)) := by
  induction records generalizing byIssuer with
  | nil => simp
  | cons first rest ih =>
      rw [List.map_cons, Trace.run_cons, ih _ fun other member => own other (by simp [member])]
      simp [Change.chunkIssuer, add, own first (by simp)]

end Listings

section Operations
variable {Address : Type} [DecidableEq Address] [Host Address] {env : Env Address}
  {before after : World Address}

theorem AttestationOp.chunked (op : AttestationOp Address)
    (keyed : Keyed before.storage.register) (accepted : Returns op.exec env before () after) :
    Chunked before after (op.changes before.storage env.timestamp) := by
  cases op with
  | createAttestation | createAttestationValidFrom | createAttestationJurisdiction
  | importAttestation | bridgeAttestation | createAttestationAsDelegate =>
      obtain ⟨-, -, -, -, -, fits, entry, event, times, payments, -, -, rfl⟩ :=
        AttestationOp.issues_one accepted rfl
      exact ⟨.single fits.subject, fun _ => .single fits.issuer⟩
  | createAttestationsBatch issuer subjects claimType expiration =>
      obtain ⟨ids, accepted⟩ := (returns_void ..).mp accepted
      obtain ⟨checks, -, rfl⟩ := (returns_createAttestationsBatch _ _ _ _ _ _ rfl).mp accepted
      refine ⟨edited_valid checks.listable, fun byIssuer => ?_⟩
      have issued : (AttestationOp.createAttestationsBatch issuer subjects claimType
          expiration).changes before.storage env.timestamp =
            (subjects.map (batchRecord issuer claimType expiration env.timestamp)).map .issue := by
        rw [List.map_map]
        rfl
      rw [issued, run_chunkIssuer_issues byIssuer issuer _ fun record member => by
        obtain ⟨subject, -, rfl⟩ := List.mem_map.mp member
        rfl]
      exact .single checks.chunks
  | revokeAttestation issuer id reason =>
      obtain ⟨attestation, managed, -, subject, rewritable, rfl⟩ :=
        (returns_revokeAttestation ..).mp accepted
      obtain rfl := (keyed id attestation managed.found).1
      obtain rfl := managed.own
      rw [changes_revokeAttestation _ reason managed.found]
      exact ⟨.single subject, fun _ => .single rewritable⟩
  | renewAttestation issuer id newExpiration =>
      obtain ⟨attestation, managed, -, details, -, rfl⟩ :=
        (returns_renewAttestation ..).mp accepted
      rw [changes_renewAttestation issuer newExpiration managed.found]
      exact ⟨.refl _ _, fun _ => .refl _ _⟩
  | revokeAttestationsBatch issuer ids reason =>
      obtain ⟨count, accepted⟩ := (returns_void ..).mp accepted
      obtain ⟨records, -, -, rfl⟩ := (returns_revokeAttestationsBatch ..).mp accepted
      let revoked := withBatchRevoked issuer reason env.timestamp
      refine chunked_kept (Trace.run_keeps revoked (·.validAttestations) (fun _ _ => rfl) _ _)
        (Trace.run_keeps revoked (·.subjectAttestationChunk) (fun _ _ => rfl) _ _)
        (Trace.run_keeps revoked (·.issuerAttestationChunk) (fun _ _ => rfl) _ _) ?_
      intro change member byIssuer
      obtain ⟨id, -, there⟩ := List.mem_flatMap.mp member
      obtain ⟨record, -, rfl⟩ := List.mem_map.mp there
      rfl
  | updateExpiration issuer id newExpiration =>
      obtain ⟨attestation, managed, -, rfl⟩ := (returns_updateExpiration ..).mp accepted
      rw [changes_updateExpiration issuer newExpiration managed.found]
      exact ⟨.refl _ _, fun _ => .refl _ _⟩
  | transferAttestation admin id newIssuer =>
      obtain ⟨attestation, ⟨-, -, -, found⟩, ⟨same, rfl⟩ | ⟨moved, -, rfl⟩⟩ :=
        (returns_transferAttestation ..).mp accepted
      · rw [changes_transfer_same admin found same]
        exact ⟨.refl _ _, fun _ => .refl _ _⟩
      · rw [changes_transferAttestation admin found moved]
        exact ⟨.refl _ _, fun _ => .refl _ _⟩
  | requestDeletion subject id =>
      obtain ⟨attestation, ⟨-, found, -, -, room⟩, rfl⟩ := (returns_requestDeletion ..).mp accepted
      rw [changes_requestDeletion _ found]
      exact ⟨.single room, fun _ => .refl _ _⟩
  | endorseAttestation endorser id =>
      obtain ⟨-, rfl⟩ := (returns_endorseAttestation ..).mp accepted
      exact ⟨.refl _ _, fun _ => .refl _ _⟩

theorem RequestOp.chunked (op : RequestOp Address)
    (accepted : Returns op.exec env before () after) :
    Chunked before after (op.changes before.storage env.timestamp) := by
  cases op.outcome accepted with
  | fulfillRequest built checks =>
      subst built
      rw [changes_fulfillRequest _ _ checks.found]
      exact ⟨.single checks.fits.subject, fun _ => .single checks.fits.issuer⟩
  | _ => exact ⟨.refl _ _, fun _ => .refl _ _⟩

theorem chunked_of_accepted {call : Call Address} (keyed : Keyed before.storage.register)
    (direct : ∀ op, call.op ≠ .multisig op) (accepted : Accepted before call after) :
    Chunked before after (call.changes before.storage) := by
  obtain ⟨env, op⟩ := call
  cases op with
  | attestation op => exact op.chunked keyed accepted
  | request op => exact op.chunked accepted
  | multisig op => exact absurd rfl (direct op)
  | council op => exact (op.untouched accepted).chunked
  | admin op => exact (op.administers accepted).toUntouched.chunked

/-- In every reachable state the chunks of the subjects hold the valid index, and those of
the issuers lists that are paged. -/
theorem paged_run (calls : List (Call Address))
    (direct : ∀ call ∈ calls, ∀ op, call.op ≠ .multisig op) :
    Synced (run calls).storage.validAttestations (run calls).storage.subjectAttestationChunk ∧
      ∃ byIssuer, Synced byIssuer (run calls).storage.issuerAttestationChunk ∧
        Paged (run calls).storage.register byIssuer := by
  let invariant (world : World Address) : Prop :=
    Synced world.storage.validAttestations world.storage.subjectAttestationChunk ∧
      ∃ byIssuer, Synced byIssuer world.storage.issuerAttestationChunk ∧
        Paged world.storage.register byIssuer
  have keeps : ∀ before call after, Keyed before.storage.register → invariant before →
      (∀ op, call.op ≠ .multisig op) → Accepted before call after → invariant after := by
    rintro before call after keyed ⟨subject, byIssuer, issuer, paged⟩ direct accepted
    have checked := checked_of_accepted keyed direct accepted
    have chunked := chunked_of_accepted keyed direct accepted
    refine ⟨subject.edited chunked.subject, _, issuer.edited (chunked.issuer byIssuer), ?_⟩
    rw [checked.register]
    exact paged.run checked.enabled checked.orderly
  have initial : invariant (World.empty Address) :=
    ⟨fun _ => ChunkedIndex.holds_nil, _, fun _ => ChunkedIndex.holds_nil, paged_empty⟩
  exact @invariant_of_keyed_calls _ _ _ (fun _ call => ∀ op, call.op ≠ .multisig op) invariant
    initial keeps calls calls [] (List.append_nil calls).symm
    (Trace.each_of_forall _ fun call member _ => direct call member)

end Operations

section Client
variable {Address : Type}

/-- A listing query as the SDK simulates it; both arguments are encoded as `u32`. -/
def simulate (query : Nat → Nat → Program Address (List Str)) (env : Env Address)
    (world : World Address) (start limit : Nat) : Option (List Str) :=
  if start < u32Range ∧ limit < u32Range then
    match query start limit env world with
    | .ok (page, _) => some page
    | .error _ => none
  else none

/-- The loop of the SDK over the attestations of a subject. -/
def iterateSubjectAttestations (env : Env Address) (world : World Address) (subject : Address)
    (pageSize fuel : Nat) : Option (List Str) :=
  Paging.iterate (simulate (Query.getSubjectAttestations subject) env world · pageSize) pageSize
    fuel 0

def iterateIssuerAttestations (env : Env Address) (world : World Address) (issuer : Address)
    (pageSize fuel : Nat) : Option (List Str) :=
  Paging.iterate (simulate (Query.getIssuerAttestations issuer) env world · pageSize) pageSize
    fuel 0

/-- The ids that the chunks of an owner list. -/
def chunkIds (side : ChunkedIndex.Side) (storage : Storage Address) (owner : Address) :
    List Str :=
  (Chunks.read (side.chunks storage owner) u32Range 0 []).getD []

/-- The iteration ends and has yielded every undeleted id of the index exactly once. -/
def YieldsAll (iteration : Nat → Option (List Str)) (storage : Storage Address)
    (index : List Str) : Prop :=
  ∃ fuel yielded, iteration fuel = some yielded ∧ yielded.Nodup ∧
    ∀ id, id ∈ yielded ↔ id ∈ index ∧ Query.Undeleted storage id = true

theorem simulate_eq_some {query : Nat → Nat → Program Address (List Str)} {env : Env Address}
    {world : World Address} {start limit : Nat} {page : List Str} :
    simulate query env world start limit = some page ↔
      (start < u32Range ∧ limit < u32Range) ∧
        ∃ after, Returns (query start limit) env world page after := by
  unfold simulate
  by_cases encodes : start < u32Range ∧ limit < u32Range
  · rw [if_pos encodes]
    cases outcome : query start limit env world with
    | error fault => simp [encodes, Returns, outcome]
    | ok pair => simp [encodes, Returns, outcome, Prod.ext_iff]
  · simp [encodes]

/-- The two listing queries are one over the sides. -/
def listing (side : ChunkedIndex.Side) (owner : Address) (start limit : Nat) :
    Program Address (List Str) := do
  let page ← ChunkedIndex.getPage side owner start limit
  Query.undeletedLoop page []

/-- A listing query cuts its page out of the chunked index and filters it then. -/
theorem cuts_listing {env : Env Address} {world : World Address} {side : ChunkedIndex.Side}
    {owner : Address} {ids : List Str} {pageSize : Nat}
    (read : Chunks.read (side.chunks world.storage owner) u32Range 0 [] = some ids)
    (encodes : pageSize < u32Range) :
    Paging.Cuts (simulate (listing side owner) env world · pageSize) ids
      (Query.Undeleted world.storage) pageSize u32Range := by
  have served : ∀ start page, simulate (listing side owner) env world start pageSize =
      some page ↔
        start < u32Range ∧ (start < ids.length → start + pageSize < u32Range) ∧
          page = ((ids.drop start).take pageSize).filter (Query.Undeleted world.storage) := by
    intro start page
    simp only [simulate_eq_some, encodes, and_true, listing, returns_bind,
      ChunkedIndex.returns_getPage, Query.returns_undeletedLoop, read, Option.some.injEq,
      exists_eq_left', List.nil_append]
    refine and_congr_right fun _ => ⟨?_, ?_⟩
    · rintro ⟨after, _, _, ⟨room, rfl, rfl⟩, rfl, -⟩
      exact ⟨room, rfl⟩
    · rintro ⟨room, rfl⟩
      exact ⟨world, _, _, ⟨room, rfl, rfl⟩, rfl, rfl⟩
  refine ⟨fun start past fits => ?_, fun start inside room => ?_, fun start inside beyond => ?_⟩
  · rw [served, List.drop_eq_nil_of_le past]
    exact ⟨fits, fun inside => absurd inside (Nat.not_lt_of_le past), by simp⟩
  · exact (served _ _).mpr ⟨by omega, fun _ => room, rfl⟩
  · rw [Option.eq_none_iff_forall_ne_some]
    intro page answered
    have room := ((served start page).mp answered).2.1 inside
    omega

/-- A page size that is no `u32` gets no page. -/
theorem not_yieldsAll {query : Nat → Nat → Program Address (List Str)} {env : Env Address}
    {world : World Address} {pageSize : Nat} (large : u32Range ≤ pageSize) (fuel : Nat) :
    Paging.iterate (simulate query env world · pageSize) pageSize fuel 0 = none := by
  have refused : simulate query env world 0 pageSize = none := by
    rw [Option.eq_none_iff_forall_ne_some]
    intro page answered
    have small := (simulate_eq_some.mp answered).1.2
    omega
  cases fuel with
  | zero => rfl
  | succ fuel => rw [Paging.iterate, refused]

theorem chunkIds_of_holds {storage : Storage Address} {side : ChunkedIndex.Side} {owner : Address}
    {ids : List Str} (holds : ChunkedIndex.Holds (side.chunks storage owner) ids) :
    chunkIds side storage owner = ids := by
  rw [chunkIds, holds.read]
  rfl

theorem yieldsAll_iff {env : Env Address} {world : World Address} {side : ChunkedIndex.Side}
    {owner : Address} {ids : List Str} {pageSize : Nat}
    (holds : ChunkedIndex.Holds (side.chunks world.storage owner) ids)
    (once : ids.Nodup) (positive : 0 < pageSize) :
    YieldsAll (fun fuel => Paging.iterate (simulate (listing side owner) env world · pageSize)
        pageSize fuel 0) world.storage ids ↔
      pageSize < u32Range ∧ Paging.Compact ids (Query.Undeleted world.storage) pageSize ∧
        Paging.Roomy ids (Query.Undeleted world.storage) pageSize u32Range := by
  by_cases encodes : pageSize < u32Range
  · rw [← Paging.complete_iff (cuts_listing holds.read encodes) positive (by decide) once]
    exact (and_iff_right encodes).symm
  · refine iff_of_false ?_ fun fits => encodes fits.1
    rintro ⟨fuel, yielded, ends, -⟩
    have never : Paging.iterate (simulate (listing side owner) env world · pageSize) pageSize fuel
        0 = none := not_yieldsAll (Nat.le_of_not_lt encodes) fuel
    exact Option.some_ne_none yielded (ends.symm.trans never)

variable [DecidableEq Address] [Host Address]

/-- The iterators of the SDK yield everything undeleted exactly when no page with a deleted
entry is followed by undeleted ones and every page that is reached ends within `u32`. On
the side of a subject nothing deleted is listed. -/
theorem iteration_complete_iff (calls : List (Call Address))
    (direct : ∀ call ∈ calls, ∀ op, call.op ≠ .multisig op) (env : Env Address)
    (owner : Address) (pageSize : Nat) (positive : 0 < pageSize) :
    (YieldsAll (iterateIssuerAttestations env (run calls) owner pageSize) (run calls).storage
        (chunkIds .issuer (run calls).storage owner) ↔
      pageSize < u32Range ∧
        Paging.Compact (chunkIds .issuer (run calls).storage owner)
          (Query.Undeleted (run calls).storage) pageSize ∧
        Paging.Roomy (chunkIds .issuer (run calls).storage owner)
          (Query.Undeleted (run calls).storage) pageSize u32Range) ∧
    (YieldsAll (iterateSubjectAttestations env (run calls) owner pageSize) (run calls).storage
        (chunkIds .subject (run calls).storage owner) ↔
      pageSize < u32Range ∧
        ∀ k, k * pageSize < (chunkIds .subject (run calls).storage owner).length →
          k * pageSize + pageSize < u32Range) := by
  obtain ⟨valid, byIssuer, issuer, paged⟩ := paged_run calls direct
  refine ⟨?_, ?_⟩
  · have holds : ChunkedIndex.Holds (ChunkedIndex.Side.issuer.chunks (run calls).storage owner)
        (byIssuer owner) := issuer owner
    rw [chunkIds_of_holds holds]
    exact yieldsAll_iff holds (paged.issuerOnce owner) positive
  · have holds : ChunkedIndex.Holds (ChunkedIndex.Side.subject.chunks (run calls).storage owner)
        ((run calls).storage.validAttestations owner) := valid owner
    have living : ∀ id ∈ (run calls).storage.validAttestations owner,
        Query.Undeleted (run calls).storage id = true := by
      intro id member
      obtain ⟨attestation, found, -, undeleted⟩ := paged.valid.sound owner id member
      exact Query.undeleted_iff.mpr ⟨attestation, found, undeleted⟩
    rw [chunkIds_of_holds holds]
    refine (yieldsAll_iff holds (paged.validOnce owner) positive).trans
      (and_congr_right fun _ => ?_)
    constructor
    · rintro ⟨-, room⟩ k inside
      exact room k inside fun id member => living id (List.mem_of_mem_take member)
    · refine fun room => ⟨fun p q dead alive there lifeless => ?_, fun k inside _ => room k inside⟩
      simp [living dead (List.mem_of_getElem? there)] at lifeless

end Client

section Sample
open Xdr

/-- Issuer 1 attests KYC of contract 4, too. -/
def secondIssuance : Call ContractId :=
  signed 1001 (contractId 1) (.attestation
    (.createAttestation (contractId 1) (contractId 4) (ascii "KYC") none none none))

/-- Contract 2 has its attestation deleted. -/
def firstDeletion : Call ContractId :=
  signed 1002 (contractId 2) (.attestation (.requestDeletion (contractId 2) sampleId))

/-- With pages of one entry, the deleted first one ends the iteration before the second. -/
theorem iteration_stops_early :
    let calls := sampleDeployment ++ [sampleIssuance, secondIssuance, firstDeletion]
    ¬ YieldsAll (iterateIssuerAttestations firstDeletion.env (run calls) (contractId 1) 1)
      (run calls).storage (chunkIds .issuer (run calls).storage (contractId 1)) := by
  rintro calls ⟨fuel, yielded, ends, -, all⟩
  have empty : simulate (Query.getIssuerAttestations (contractId 1)) firstDeletion.env (run calls)
      0 1 = some [] := by
    decide +kernel
  have stays : (chunkIds .issuer (run calls).storage (contractId 1)).any
      (Query.Undeleted (run calls).storage) = true := by
    decide +kernel
  obtain ⟨id, listed, undeleted⟩ := List.any_eq_true.mp stays
  cases fuel with
  | zero => cases ends
  | succ fuel =>
      rw [iterateIssuerAttestations, Paging.iterate, empty] at ends
      obtain rfl := Option.some.inj ends
      cases (all id).mpr ⟨listed, undeleted⟩

theorem iteration_complete_iff_sample :
    let calls := sampleDeployment ++ [sampleIssuance]
    YieldsAll (iterateIssuerAttestations sampleIssuance.env (run calls) (contractId 1) 20)
        (run calls).storage (chunkIds .issuer (run calls).storage (contractId 1)) ∧
      YieldsAll (iterateSubjectAttestations sampleIssuance.env (run calls) (contractId 2) 20)
        (run calls).storage (chunkIds .subject (run calls).storage (contractId 2)) := by
  intro calls
  have direct : ∀ call ∈ calls, ∀ op, call.op ≠ .multisig op := by
    simp [calls, sampleDeployment, sampleIssuance, signed]
  have one : (chunkIds .issuer (run calls).storage (contractId 1)).length = 1 ∧
      (chunkIds .subject (run calls).storage (contractId 2)).length = 1 := by
    decide +kernel
  have iff := fun owner => iteration_complete_iff calls direct sampleIssuance.env owner 20 (by decide)
  constructor
  · refine (iff (contractId 1)).1.mpr ⟨by decide, ?_, ?_⟩
    · intro p q dead alive _ _ found _
      obtain ⟨inside, -⟩ := List.getElem?_eq_some_iff.mp found
      omega
    · intro k inside _
      rw [one.1] at inside
      simp only [u32Range]
      omega
  · refine (iff (contractId 2)).2.mpr ⟨by decide, fun k inside => ?_⟩
    rw [one.2] at inside
    simp only [u32Range]
    omega

end Sample

end TrustLink
