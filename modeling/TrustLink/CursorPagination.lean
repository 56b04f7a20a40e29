import TrustLink.ChunkSync
import TrustLink.Lib.Cursor
import TrustLink.Readers

/-!
Reading what a subject has in a range page by page, while the subject has some of it
deleted. The pages follow the index, which is in the order of issuance; the place of a
cursor that has been deleted is looked up by time and id.
-/
namespace TrustLink
open Transaction Contract Query Relation

section Pages
variable {Address : Type}

/-- The order in which the place of a deleted cursor is looked up. -/
def comesBefore (first second : Attestation Address) : Bool :=
  first.timestamp < second.timestamp ∨
    second.timestamp = first.timestamp ∧ first.id < second.id

theorem comesBefore_asymm (first second : Attestation Address)
    (before : comesBefore first second = true) : comesBefore second first = false := by
  simp only [comesBefore, decide_eq_true_eq, decide_eq_false_iff_not] at before ⊢
  rintro (later | ⟨same, other⟩)
  · rcases before with earlier | ⟨same, -⟩ <;> omega
  · rcases before with earlier | ⟨-, smaller⟩
    · omega
    · exact List.lt_asymm smaller other

theorem comesBefore_total (first second : Attestation Address) (apart : first.id ≠ second.id) :
    comesBefore first second = true ∨ comesBefore second first = true := by
  simp only [comesBefore, decide_eq_true_eq]
  rcases Nat.lt_trichotomy first.timestamp second.timestamp with earlier | same | later
  · exact .inl (.inl earlier)
  · by_cases smaller : first.id < second.id
    · exact .inl (.inr ⟨same.symm, smaller⟩)
    · by_cases larger : second.id < first.id
      · exact .inr (.inr ⟨same, larger⟩)
      · exact absurd (List.le_antisymm larger smaller) apart
  · exact .inr (.inl later)

/-- The attestation still has a record of its id and time. -/
def Backed (storage : Storage Address) (attestation : Attestation Address) : Prop :=
  ∃ record, storage.attestation attestation.id = some record ∧ record.id = attestation.id ∧
    record.timestamp = attestation.timestamp

theorem startIndexAfter_eq {filtered : List (Attestation Address)}
    {last record : Attestation Address} (sameId : record.id = last.id)
    (sameTime : record.timestamp = last.timestamp) :
    startIndexAfter filtered last.id record =
      Cursor.resume (·.id) comesBefore filtered last := by
  rw [startIndexAfter, Cursor.resume, sameId, sameTime]
  rfl

/-- The range query reads a page behind its cursor. -/
theorem returns_getAttestationsInRangeAfter {env : Env Address} {before after : World Address}
    {subject : Address} {fromTs toTs limit : Nat} {cursor : Option (Attestation Address)}
    {page : List (Attestation Address)} (encodes : limit < u32Range)
    (backed : ∀ last ∈ cursor, Backed before.storage last) :
    Returns (getAttestationsInRangeAfter subject fromTs toTs (cursor.map (·.id)) limit) env before
        page after ↔
      (∀ index, Cursor.start (·.id) comesBefore (inRange before.storage subject fromTs toTs)
          cursor = some index → index + limit < u32Range) ∧
        page = Cursor.page (·.id) comesBefore limit (inRange before.storage subject fromTs toTs)
          cursor ∧ after = before := by
  by_cases backwards : toTs < fromTs
  · -- nothing lies in a range that ends before it begins
    have empty : inRange before.storage subject fromTs toTs = [] := by
      refine List.filterMap_eq_nil_iff.mpr fun id _ => Option.filter_eq_none_iff.mpr ?_
      intro attestation _ within
      have between := (of_decide_eq_true within).2
      omega
    cases cursor with
    | none =>
        simp [getAttestationsInRangeAfter, backwards, empty, Cursor.page, Cursor.start, encodes]
    | some last =>
        simp [getAttestationsInRangeAfter, backwards, empty, Cursor.page, Cursor.start,
          Cursor.resume]
  · cases cursor with
    | none =>
        simp [getAttestationsInRangeAfter, backwards, returns_rangeLoop, returns_rangePage,
          Cursor.page, Cursor.start, inRange]
    | some last =>
        obtain ⟨record, found, sameId, sameTime⟩ := backed last rfl
        have looked : startIndexAfter (inRange before.storage subject fromTs toTs) last.id record =
            Cursor.resume (·.id) comesBefore (inRange before.storage subject fromTs toTs) last :=
          startIndexAfter_eq sameId sameTime
        cases starts : Cursor.resume (·.id) comesBefore
            (inRange before.storage subject fromTs toTs) last with
        | none =>
            rw [starts, inRange] at looked
            rw [inRange] at starts
            simp [getAttestationsInRangeAfter, backwards, returns_rangeLoop, inRange, found,
              looked, starts, Cursor.page, Cursor.start]
        | some index =>
            rw [starts, inRange] at looked
            rw [inRange] at starts
            simp [getAttestationsInRangeAfter, backwards, returns_rangeLoop, inRange, found,
              looked, starts, returns_rangePage, Cursor.page, Cursor.start]

end Pages

section Clients
variable {Address : Type}

/-- A client, with what it has received so far. -/
structure Client (Address : Type) where
  world : World Address
  received : List (Attestation Address)

/-- The client passes the id of the last attestation it has received. -/
def Client.cursor (client : Client Address) : Option Str :=
  client.received.getLast?.map (·.id)

/-- What the client reads. -/
def Client.crawl (client : Client Address) (subject : Address) (fromTs toTs : Nat) :
    Cursor.Crawl (Attestation Address) :=
  ⟨inRange client.world.storage subject fromTs toTs, client.received⟩

/-- No attestation is left out of the index of the subject in the range. -/
def FullyListed (storage : Storage Address) (subject : Address) (fromTs toTs : Nat) : Prop :=
  ∀ id attestation, storage.attestation id = some attestation → attestation.subject = subject →
    WithinRange fromTs toTs attestation → id ∈ storage.subjectAttestations subject

theorem mem_inRange {storage : Storage Address} {subject : Address} {fromTs toTs : Nat}
    {attestation : Attestation Address} (keyed : ∀ id record, storage.attestation id = some record →
      record.id = id) :
    attestation ∈ inRange storage subject fromTs toTs ↔
      attestation.id ∈ storage.subjectAttestations subject ∧
        storage.attestation attestation.id = some attestation ∧
        WithinRange fromTs toTs attestation := by
  simp only [inRange, List.mem_filterMap, Option.filter_eq_some_iff, decide_eq_true_eq]
  constructor
  · rintro ⟨id, listed, found, within⟩
    obtain rfl := keyed id attestation found
    exact ⟨listed, found, within⟩
  · rintro ⟨listed, found, within⟩
    exact ⟨attestation.id, listed, found, within⟩

/-- What a deletion by the subject does to its list and to the records. -/
structure Deleted (before after : Storage Address) (subject : Address) (id : Str) : Prop where
  record : ∃ attestation, before.attestation id = some attestation ∧ attestation.id = id ∧
    after.attestation = Function.update before.attestation id
      (some { attestation with deleted := true })
  listed : after.subjectAttestations subject =
    (before.subjectAttestations subject).filter (· ≠ id)
  ttl : after.ttlConfig = before.ttlConfig

variable {before after : Storage Address} {subject : Address} {id : Str}
  (deleted : Deleted before after subject id)
include deleted

theorem Deleted.found (other : Str) (attestation : Attestation Address)
    (undeleted : attestation.deleted = false) :
    after.attestation other = some attestation ↔
      other ≠ id ∧ before.attestation other = some attestation := by
  obtain ⟨gone, -, -, updated⟩ := deleted.record
  rw [updated]
  by_cases here : other = id
  · subst here
    rw [Function.update_self]
    refine iff_of_false (fun same => ?_) fun apart => apart.1 rfl
    obtain rfl := Option.some.inj same
    cases undeleted
  · rw [Function.update_of_ne here]
    exact (and_iff_right here).symm

theorem Deleted.backed {attestation : Attestation Address} (backed : Backed before attestation) :
    Backed after attestation := by
  obtain ⟨record, found, sameId, sameTime⟩ := backed
  obtain ⟨gone, stored, named, updated⟩ := deleted.record
  rw [Backed, updated]
  by_cases here : attestation.id = id
  · subst here
    rw [stored] at found
    obtain rfl := Option.some.inj found
    exact ⟨_, Function.update_self .., sameId, sameTime⟩
  · exact ⟨record, by rwa [Function.update_of_ne here], sameId, sameTime⟩

theorem Deleted.kept {fromTs toTs : Nat} (complete : FullyListed before subject fromTs toTs) :
    FullyListed after subject fromTs toTs := by
  intro other attestation found own within
  obtain ⟨apart, stored⟩ := (deleted.found other attestation within.1).mp found
  rw [deleted.listed]
  exact List.mem_filter.mpr ⟨complete other attestation stored own within, decide_eq_true apart⟩

theorem Deleted.filters (keyed : ∀ id record, before.attestation id = some record →
      record.id = id) (fromTs toTs : Nat) :
    inRange after subject fromTs toTs =
      (inRange before subject fromTs toTs).filter fun other => other.id ≠ id := by
  rw [inRange, inRange, deleted.listed, List.filterMap_filter, List.filter_filterMap]
  refine List.filterMap_congr fun other _ => ?_
  obtain ⟨gone, stored, named, updated⟩ := deleted.record
  by_cases here : other = id
  · subst here
    by_cases within : WithinRange fromTs toTs gone <;>
      simp [Option.filter_some, stored, named, within]
  · rw [if_pos (decide_eq_true here), updated, Function.update_of_ne here]
    cases found : before.attestation other with
    | none => rfl
    | some attestation =>
        have named := keyed other attestation found
        by_cases within : WithinRange fromTs toTs attestation <;>
          simp [Option.filter_some, within, named, here]

end Clients

section Simulation
variable {Address : Type} [DecidableEq Address] [Host Address]

theorem deleted_of_accepted {env : Env Address} {before after : World Address} {subject : Address}
    {id : Str} (keyed : Keyed before.storage.register)
    (accepted : Accepted before ⟨env, .attestation (.requestDeletion subject id)⟩ after) :
    Deleted before.storage after.storage subject id := by
  obtain ⟨attestation, ⟨-, found, -, -, -⟩, rfl⟩ := (returns_requestDeletion ..).mp accepted
  obtain rfl := (keyed id attestation found).1
  exact ⟨⟨attestation, found, rfl, rfl⟩, Function.update_self .., rfl⟩

/-- The client receives a page, or the subject has one of its attestations deleted. -/
inductive Client.Step (subject : Address) (fromTs toTs limit : Nat) :
    Client Address → Client Address → Prop
  | fetch (client : Client Address) (env : Env Address) (page : List (Attestation Address))
      (after : World Address)
      (returned : Returns (getAttestationsInRangeAfter subject fromTs toTs client.cursor limit) env
        client.world page after)
      (more : page ≠ []) : Step subject fromTs toTs limit client ⟨after, client.received ++ page⟩
  | delete (client : Client Address) (env : Env Address) (id : Str) (after : World Address)
      (started : client.received ≠ [])
      (accepted : Accepted client.world ⟨env, .attestation (.requestDeletion subject id)⟩ after) :
      Step subject fromTs toTs limit client ⟨after, client.received⟩

/-- Nothing has been received twice, the next page can be fetched, and when it is empty all
that has not been deleted has been received. -/
structure Client.Served (subject : Address) (fromTs toTs limit : Nat) (client : Client Address) :
    Prop where
  once : (client.received.map (·.id)).Nodup
  answered : ∀ env, ∃ page after, Returns
    (getAttestationsInRangeAfter subject fromTs toTs client.cursor limit) env client.world page after
  complete : ∀ env after, Returns
    (getAttestationsInRangeAfter subject fromTs toTs client.cursor limit) env client.world [] after →
    ∀ id attestation, client.world.storage.attestation id = some attestation →
      attestation.subject = subject → WithinRange fromTs toTs attestation →
        id ∈ client.received.map (·.id)

/-- However the fetches and the deletions fall, the client is served. -/
def SurvivesDeletions (world : World Address) (subject : Address) (fromTs toTs limit : Nat) :
    Prop :=
  ∀ client, ReflTransGen (Client.Step subject fromTs toTs limit) ⟨world, []⟩ client →
    client.Served subject fromTs toTs limit

/-- A call that nobody has signed. -/
def unsigned : Env Address := ⟨0, [], fun _ => true, fun _ => true⟩

/-- What the steps of a client keep. -/
structure Serving (initial : World Address) (subject : Address) (fromTs toTs : Nat)
    (client : Client Address) : Prop where
  reachable : ∃ calls, client.world = run calls
  ttl : client.world.storage.ttlConfig = initial.storage.ttlConfig
  listed : FullyListed initial.storage subject fromTs toTs →
    FullyListed client.world.storage subject fromTs toTs
  backed : ∀ attestation ∈ client.received, Backed client.world.storage attestation

variable {initial : World Address} {subject : Address} {fromTs toTs limit : Nat}
  {client : Client Address}

theorem Serving.keyed (serving : Serving initial subject fromTs toTs client) :
    Keyed client.world.storage.register := by
  obtain ⟨calls, reached⟩ := serving.reachable
  exact reached ▸ keyed_run calls

theorem Serving.named (serving : Serving initial subject fromTs toTs client) (id : Str)
    (record : Attestation Address) (found : client.world.storage.attestation id = some record) :
    record.id = id :=
  (serving.keyed id record found).1

/-- What is read belongs to the subject. -/
theorem Serving.own (serving : Serving initial subject fromTs toTs client)
    (sound : Host.Sound Address) {attestation : Attestation Address}
    (listed : attestation ∈ inRange client.world.storage subject fromTs toTs) :
    client.world.storage.attestation attestation.id = some attestation ∧
      attestation.subject = subject ∧ WithinRange fromTs toTs attestation := by
  obtain ⟨indexed, stored, within⟩ := (mem_inRange serving.named).mp listed
  obtain ⟨calls, reached⟩ := serving.reachable
  have covers := covers_run sound calls
  rw [← reached] at covers
  obtain ⟨record, found, own, -⟩ := covers.bySubject.sound subject attestation.id indexed
  obtain rfl := Option.some.inj (found.symm.trans stored)
  exact ⟨stored, own, within⟩

theorem Serving.returns (serving : Serving initial subject fromTs toTs client)
    (encodes : limit < u32Range) {env : Env Address} {page : List (Attestation Address)}
    {after : World Address} :
    Returns (getAttestationsInRangeAfter subject fromTs toTs client.cursor limit) env client.world
        page after ↔
      (∀ index, Cursor.start (·.id) comesBefore (client.crawl subject fromTs toTs).live
          (client.crawl subject fromTs toTs).yielded.getLast? = some index →
            index + limit < u32Range) ∧
        page = Cursor.page (·.id) comesBefore limit (client.crawl subject fromTs toTs).live
          (client.crawl subject fromTs toTs).yielded.getLast? ∧ after = client.world :=
  returns_getAttestationsInRangeAfter encodes fun last member =>
    serving.backed last (List.mem_of_getLast? member)

theorem Serving.fetch (serving : Serving initial subject fromTs toTs client)
    {page : List (Attestation Address)}
    (taken : ∀ attestation ∈ page, attestation ∈ inRange client.world.storage subject fromTs toTs) :
    Serving initial subject fromTs toTs ⟨client.world, client.received ++ page⟩ := by
  refine ⟨serving.reachable, serving.ttl, serving.listed, fun attestation member => ?_⟩
  rcases List.mem_append.mp member with early | late
  · exact serving.backed attestation early
  · have stored := ((mem_inRange serving.named).mp (taken attestation late)).2.1
    exact ⟨attestation, stored, rfl, rfl⟩

theorem Serving.delete (serving : Serving initial subject fromTs toTs client) {env : Env Address}
    {id : Str} {after : World Address}
    (accepted : Accepted client.world ⟨env, .attestation (.requestDeletion subject id)⟩ after) :
    Serving initial subject fromTs toTs ⟨after, client.received⟩ := by
  have deleted := deleted_of_accepted serving.keyed accepted
  obtain ⟨calls, reached⟩ := serving.reachable
  refine ⟨⟨calls ++ [⟨env, .attestation (.requestDeletion subject id)⟩], ?_⟩,
    deleted.ttl.trans serving.ttl, fun complete => deleted.kept (serving.listed complete),
    fun attestation member => deleted.backed (serving.backed attestation member)⟩
  rw [run_concat, ← reached, step_of_accepted accepted]

variable {calls : List (Call Address)}

/-- A client that is served goes through what it reads as a reader behind a cursor does. -/
theorem crawls_of_reaches (encodes : limit < u32Range)
    (reaches : ReflTransGen (Client.Step subject fromTs toTs limit) ⟨run calls, []⟩ client) :
    Serving (run calls) subject fromTs toTs client ∧
      ReflTransGen (Cursor.Step (·.id) comesBefore limit (TtlFits (run calls).storage.ttlConfig))
        ⟨inRange (run calls).storage subject fromTs toTs, []⟩
        (client.crawl subject fromTs toTs) := by
  induction reaches with
  | refl => exact ⟨⟨⟨calls, rfl⟩, rfl, id, fun _ member => (nomatch member)⟩, .refl⟩
  | @tail client _ _ step ih =>
      obtain ⟨serving, crawls⟩ := ih
      cases step with
      | fetch env page after returned more =>
          obtain ⟨-, rfl, rfl⟩ := (serving.returns encodes).mp returned
          exact ⟨serving.fetch fun _ => Cursor.mem_of_mem_page, crawls.tail (.fetch _ more)⟩
      | delete env id after started accepted =>
          refine ⟨serving.delete accepted, ?_⟩
          obtain ⟨attestation, ⟨-, -, -, ttl, -⟩, -⟩ := (returns_requestDeletion ..).mp accepted
          have deleted := deleted_of_accepted serving.keyed accepted
          rw [Client.crawl, deleted.filters serving.named]
          rw [serving.ttl] at ttl
          by_cases there : ∃ item ∈ inRange client.world.storage subject fromTs toTs,
              item.id = id
          · obtain ⟨item, listed, rfl⟩ := there
            exact crawls.tail (.delete _ item ttl started listed)
          · -- the attestation is none of those that are read
            have untouched : ∀ item ∈ inRange client.world.storage subject fromTs toTs,
                item.id ≠ id := fun item listed same => there ⟨item, listed, same⟩
            rw [List.filter_eq_self.mpr fun item listed => decide_eq_true (untouched item listed)]
            exact crawls

/-- While a client is served, all that a reader behind a cursor can do is done by some
client. -/
theorem reaches_of_crawls (sound : Host.Sound Address) (encodes : limit < u32Range)
    (survives : SurvivesDeletions (run calls) subject fromTs toTs limit) {deletes : Prop}
    (fits : deletes → TtlFits (run calls).storage.ttlConfig)
    {crawl : Cursor.Crawl (Attestation Address)}
    (crawls : ReflTransGen (Cursor.Step (·.id) comesBefore limit deletes)
      ⟨inRange (run calls).storage subject fromTs toTs, []⟩ crawl) :
    ∃ client, ReflTransGen (Client.Step subject fromTs toTs limit) ⟨run calls, []⟩ client ∧
      client.crawl subject fromTs toTs = crawl ∧ (¬ deletes → client.world = run calls) := by
  induction crawls with
  | refl => exact ⟨_, .refl, rfl, fun _ => rfl⟩
  | tail _ step ih =>
      obtain ⟨client, reaches, rfl, same⟩ := ih
      have serving := (crawls_of_reaches encodes reaches).1
      cases step with
      | fetch more =>
          obtain ⟨page, after, returned⟩ := (survives client reaches).answered unsigned
          obtain ⟨-, rfl, rfl⟩ := (serving.returns encodes).mp returned
          exact ⟨_, reaches.tail (.fetch client _ _ _ returned more), rfl, same⟩
      | delete item allowed started listed =>
          obtain ⟨stored, own, -⟩ := serving.own sound listed
          obtain ⟨later, reached⟩ := serving.reachable
          obtain ⟨items, holds⟩ := (held_run later).1 subject
          rw [← reached] at holds
          have room : ChunkedIndex.Rewritable (·.filter (· ≠ item.id))
              (client.world.storage.subjectAttestationChunk subject) :=
            (holds.rewritable_iff _).mpr (Nat.lt_of_le_of_lt (List.length_filter_le ..) holds.2)
          have accepted : Accepted client.world
              ⟨{ unsigned with auths := [subject] },
                .attestation (.requestDeletion subject item.id)⟩ _ :=
            (returns_requestDeletion subject item.id ()).mpr ⟨item,
              ⟨List.mem_singleton_self _, stored, own, serving.ttl ▸ fits allowed, room⟩, rfl⟩
          have deleted := deleted_of_accepted serving.keyed accepted
          refine ⟨_, reaches.tail (.delete client _ _ _ started accepted), ?_,
            fun never => absurd allowed never⟩
          rw [Client.crawl, deleted.filters serving.named]
          rfl

theorem survives_of_clients (sound : Host.Sound Address) (encodes : limit < u32Range)
    (survives : SurvivesDeletions (run calls) subject fromTs toTs limit) :
    Cursor.Survives (·.id) comesBefore limit u32Range (TtlFits (run calls).storage.ttlConfig)
      (inRange (run calls).storage subject fromTs toTs) := by
  intro crawl crawls
  obtain ⟨client, reaches, rfl, -⟩ := reaches_of_crawls sound encodes survives id crawls
  have serving := (crawls_of_reaches encodes reaches).1
  have served := survives client reaches
  obtain ⟨page, after, returned⟩ := served.answered unsigned
  obtain ⟨room, rfl, rfl⟩ := (serving.returns encodes).mp returned
  refine ⟨served.once, room, fun ends item listed => ?_⟩
  rw [ends] at returned
  obtain ⟨stored, own, within⟩ := serving.own sound listed
  exact served.complete _ _ returned item.id item stored own within

/-- Without deletions the client reads all that is listed, so nothing else is in the range. -/
theorem listed_of_survives (sound : Host.Sound Address) (positive : 0 < limit)
    (encodes : limit < u32Range)
    (survives : SurvivesDeletions (run calls) subject fromTs toTs limit) :
    FullyListed (run calls).storage subject fromTs toTs := by
  intro id attestation found own within
  obtain ⟨distinct, room⟩ :=
    Cursor.nodup_of_survives positive (survives_of_clients sound encodes survives)
  have quiet : Cursor.Survives (·.id) comesBefore limit u32Range False
      (inRange (run calls).storage subject fromTs toTs) :=
    (Cursor.survives_iff positive comesBefore_asymm comesBefore_total).mpr
      ⟨distinct, room, False.elim⟩
  obtain ⟨client, reaches, reads, same⟩ :=
    reaches_of_crawls sound encodes survives False.elim (Cursor.reaches_all positive quiet)
  have serving := (crawls_of_reaches encodes reaches).1
  have served := survives client reaches
  obtain ⟨page, after, returned⟩ := served.answered unsigned
  obtain ⟨-, rfl, rfl⟩ := (serving.returns encodes).mp returned
  rw [reads, (Cursor.start_of_all distinct).2] at returned
  have received := served.complete _ _ returned id attestation (by rwa [same not_false]) own within
  rw [show client.received = _ from congrArg (·.yielded) reads] at received
  obtain ⟨item, listed, rfl⟩ := List.mem_map.mp received
  exact ((mem_inRange fun id record found => (keyed_run calls id record found).1).mp listed).1

end Simulation

section Samples
open Xdr

/-- Issuer 3 attests KYC of contract 2, too. -/
def laterIssuance : Call ContractId :=
  signed 1001 (contractId 3) (.attestation
    (.createAttestation (contractId 3) (contractId 2) (ascii "KYC") none none none))

/-- The same, imported as of an earlier time. -/
def earlierImport : Call ContractId :=
  signed 1001 (contractId 9) (.attestation
    (.importAttestation (contractId 9) (contractId 3) (contractId 2) (ascii "KYC") 500 none))

end Samples

end TrustLink
