import TrustLink.Lib.Blind
import TrustLink.PageIteration
import TrustLink.Questions
import TrustLink.Readers

/-!
What the queries show of a deleted attestation: their answers in a reachable state against
those in the state without the record and without the index entries of its id.
-/
namespace TrustLink
open Transaction Query

section States
variable {Address : Type}

/-- Without the record and without the entries of the indexes that name it. -/
def Storage.without (storage : Storage Address) (id : Str) : Storage Address :=
  { storage with
    attestation := Function.update storage.attestation id none
    subjectAttestations := fun subject => (storage.subjectAttestations subject).filter (· ≠ id)
    validAttestations := fun subject => (storage.validAttestations subject).filter (· ≠ id)
    issuerAttestations := fun issuer => (storage.issuerAttestations issuer).filter (· ≠ id)
    subjectAttestationChunk := fun subject => ChunkedIndex.rewritten (·.filter (· ≠ id))
      (storage.subjectAttestationChunk subject)
    issuerAttestationChunk := fun issuer => ChunkedIndex.rewritten (·.filter (· ≠ id))
      (storage.issuerAttestationChunk issuer)
    endorserIndex := fun endorser =>
      (storage.endorserIndex endorser).filter fun entry => entry.attestationId ≠ id }

def World.without (world : World Address) (id : Str) : World Address :=
  ⟨world.storage.without id, world.events, world.payments⟩

/-- No answer differs from the one that is given without the record. -/
def SameAnswer [DecidableEq Address] (world : World Address) (id : Str) (env : Env Address)
    (question : Question Address) : Prop :=
  answer question.exec env world = answer question.exec env (world.without id)

/-- No subject lists the id, and the chunks are sound. -/
structure Unindexed (storage : Storage Address) (id : Str) : Prop where
  subject : ∀ owner, id ∉ storage.subjectAttestations owner
  valid : ∀ owner, id ∉ storage.validAttestations owner
  chunks : Synced storage.validAttestations storage.subjectAttestationChunk

/-- The storage on the one side, the one without the id on the other. -/
def Twins (storage : Storage Address) (id : Str) (first second : World Address) : Prop :=
  first.storage = storage ∧ second.storage = storage.without id

variable {storage : Storage Address} {id : Str} {env : Env Address} {α : Type}

theorem blind_emit (event : Event Address) : Blind (Twins storage id) (emit event) env :=
  blind_modify fun _ _ alike => alike

theorem blind_timestamp : Blind (Twins storage id) (ledgerTimestamp : Program Address Nat) env :=
  blind_ask.bind fun env => blind_pure env.timestamp

theorem blind_checkedU32 (value : Nat) :
    Blind (Twins storage id) (checkedU32 value : Program Address Nat) env :=
  (blind_failIf _ _).bind fun _ => blind_pure value

/-- A part of the storage that is the same without the id. -/
theorem blind_load {β : Type} {next : β → Program Address α} (field : Storage Address → β)
    (same : field (storage.without id) = field storage)
    (rest : Blind (Twins storage id) (next (field storage)) env) :
    Blind (Twins storage id) (load field >>= next) env := by
  refine Blind.read (field storage) (fun first second alike => ?_) rest
  rw [alike.1, alike.2]
  exact ⟨rfl, same⟩

theorem blind_part {β : Type} (field : Storage Address → β)
    (same : field (storage.without id) = field storage) :
    Blind (Twins storage id) (load field) env := by
  rintro first second ⟨left, right⟩
  have equal : field first.storage = field second.storage := by rw [left, right, same]
  simp only [load, reads, equal]
  exact .returned ⟨left, right⟩

theorem blind_record {next : Option (Attestation Address) → Program Address α} {other : Str}
    (away : other ≠ id) (rest : Blind (Twins storage id) (next (storage.attestation other)) env) :
    Blind (Twins storage id) (load (·.attestation other) >>= next) env :=
  blind_load (·.attestation other) (Function.update_of_ne away ..) rest

theorem filter_absent {ids : List Str} (absent : id ∉ ids) : ids.filter (· ≠ id) = ids :=
  List.filter_eq_self.mpr fun other member => by
    simpa using fun here : other = id => absent (here ▸ member)

theorem Unindexed.subject_same (unindexed : Unindexed storage id) (owner : Address) :
    (storage.without id).subjectAttestations owner = storage.subjectAttestations owner :=
  filter_absent (unindexed.subject owner)

theorem Unindexed.valid_same (unindexed : Unindexed storage id) (owner : Address) :
    (storage.without id).validAttestations owner = storage.validAttestations owner :=
  filter_absent (unindexed.valid owner)

theorem Unindexed.chunk_same (unindexed : Unindexed storage id) (owner : Address) :
    (storage.without id).subjectAttestationChunk owner = storage.subjectAttestationChunk owner :=
  ((unindexed.chunks owner).rewritten_self (·.filter (· ≠ id))
    (filter_absent (unindexed.valid owner))).2

end States

section Loops
variable {Address : Type} {storage : Storage Address} {id : Str} {env : Env Address}
  {ids : List Str}

theorem away_of_absent (absent : id ∉ ids) {other : Str} (member : other ∈ ids) : other ≠ id :=
  fun here => absent (here ▸ member)

theorem blind_reportValid (subject : Address) (other : Str) (attestation : Attestation Address)
    (currentTime : Nat) :
    Blind (Twins storage id) (reportValid subject other attestation currentTime) env := by
  have hooked : Blind (Twins storage id) (maybeTriggerExpirationHook subject other
      (attestation.expiration.getD (u64Range - 1)) currentTime) env := by
    refine blind_load (·.expirationHook subject) rfl ?_
    cases storage.expirationHook subject with
    | none => exact blind_pure ()
    | some hook =>
        dsimp only
        split
        · exact blind_emit _
        · exact blind_pure ()
  exact hooked.bind fun _ => blind_pure true

/-- A loop over ids that are not the one, which starts each turn with loading a record. -/
theorem blind_loop {α β : Type} {loop : List Str → β → Program Address α}
    {body : Str → List Str → β → Option (Attestation Address) → Program Address α}
    (ends : ∀ result, Blind (Twins storage id) (loop [] result) env)
    (unfolds : ∀ first rest result,
      loop (first :: rest) result = load (·.attestation first) >>= body first rest result)
    (turns : ∀ first rest result found, (∀ later, Blind (Twins storage id) (loop rest later) env) →
      Blind (Twins storage id) (body first rest result found) env)
    (absent : id ∉ ids) (result : β) : Blind (Twins storage id) (loop ids result) env := by
  induction ids generalizing result with
  | nil => exact ends result
  | cons first rest ih =>
      rw [unfolds]
      exact blind_record (Ne.symm (List.ne_of_not_mem_cons absent))
        (turns _ _ _ _ (ih (List.not_mem_of_not_mem_cons absent)))

theorem blind_validClaimsLoop (currentTime : Nat) (absent : id ∉ ids) (result : List Str) :
    Blind (Twins storage id) (validClaimsLoop currentTime ids result) env := by
  refine blind_loop (fun _ => blind_pure _) (fun _ _ _ => rfl) (fun first rest kept found ih => ?_)
    absent result
  cases found with
  | none => exact ih _
  | some attestation =>
      dsimp only
      split
      · split
        · exact ih _
        · exact ih _
      · exact ih _

theorem blind_undeletedLoop (absent : id ∉ ids) (result : List Str) :
    Blind (Twins storage id) (undeletedLoop ids result) env := by
  refine blind_loop (fun _ => blind_pure _) (fun _ _ _ => rfl) (fun first rest kept found ih => ?_)
    absent result
  cases found with
  | none => exact ih _
  | some attestation =>
      dsimp only
      split
      · exact ih _
      · exact ih _

theorem blind_rangeLoop (fromTs toTs : Nat) (absent : id ∉ ids)
    (filtered : List (Attestation Address)) :
    Blind (Twins storage id) (rangeLoop fromTs toTs ids filtered) env := by
  refine blind_loop (fun _ => blind_pure _) (fun _ _ _ => rfl) (fun first rest kept found ih => ?_)
    absent filtered
  cases found with
  | none => exact ih _
  | some attestation =>
      dsimp only
      split
      · exact ih _
      · exact ih _

theorem blind_pickLoop (keep : Attestation Address → Bool) (absent : id ∉ ids)
    (result : List Str) : Blind (Twins storage id) (pickLoop keep ids result) env := by
  refine blind_loop (fun _ => blind_pure _) (fun _ _ _ => rfl) (fun first rest kept found ih => ?_)
    absent result
  cases found with
  | none => exact ih _
  | some attestation =>
      dsimp only
      split
      · exact ih _
      · exact ih _

theorem blind_recordsLoop (absent : id ∉ ids) (result : List (Attestation Address)) :
    Blind (Twins storage id) (recordsLoop ids result) env := by
  refine blind_loop (fun _ => blind_pure _) (fun _ _ _ => rfl) (fun first rest kept found ih => ?_)
    absent result
  cases found with
  | none => exact ih _
  | some attestation => exact ih _

theorem blind_validCountLoop (currentTime : Nat) (absent : id ∉ ids) (count : Nat) :
    Blind (Twins storage id) (validCountLoop currentTime ids count) env := by
  refine blind_loop (fun _ => blind_pure _) (fun _ _ _ => rfl) (fun first rest kept found ih => ?_)
    absent count
  cases found with
  | none => exact ih _
  | some attestation =>
      dsimp only
      split
      · exact (blind_checkedU32 _).bind fun next => ih next
      · exact ih _

theorem blind_attestationByTypeLoop (claimType : Str) (currentTime : Nat) (absent : id ∉ ids)
    (index : Nat) :
    Blind (Twins storage id) (attestationByTypeLoop claimType currentTime ids index) env := by
  induction index with
  | zero => exact blind_pure none
  | succ index ih =>
      rw [attestationByTypeLoop]
      cases entry : ids[index]? with
      | none => exact ih
      | some other =>
          refine blind_record (away_of_absent absent (List.mem_of_getElem? entry)) ?_
          cases storage.attestation other with
          | none => exact ih
          | some attestation =>
              dsimp only
              split
              · exact blind_pure _
              · exact ih

theorem blind_paginate (list : List Str) (start limit : Nat) :
    Blind (Twins storage id) (ChunkedIndex.paginate list start limit) env := by
  unfold ChunkedIndex.paginate
  dsimp only
  split
  · exact blind_pure _
  · exact (blind_checkedU32 _).bind fun sum => blind_pure _

theorem blind_rangePage (filtered : List (Attestation Address)) (start limit : Nat) :
    Blind (Twins storage id) (rangePage filtered start limit) env :=
  (blind_checkedU32 _).bind fun _ => blind_pure _

theorem blind_getIds (unindexed : Unindexed storage id) (subject : Address) :
    Blind (Twins storage id) (ChunkedIndex.getIds .subject subject) env :=
  blind_load (·.subjectAttestationChunk subject) (unindexed.chunk_same subject)
    (blind_orFail _ _)

/-- What the chunks of a subject list does not name the id. -/
theorem blind_page {α : Type} {next : List Str → Program Address α}
    (unindexed : Unindexed storage id) (subject : Address) (start limit : Nat)
    (rest : ∀ page, id ∉ page → Blind (Twins storage id) (next page) env) :
    Blind (Twins storage id) (ChunkedIndex.getSubjectPage subject start limit >>= next) env := by
  have page : Blind (Twins storage id) (ChunkedIndex.getSubjectPage subject start limit) env :=
    (blind_getIds unindexed subject).bind fun ids => blind_paginate ids start limit
  refine page.bind_of (fun first _ ids after alike ran => ?_) rest
  obtain ⟨listed, read, -, rfl, -⟩ := (ChunkedIndex.returns_getPage ..).mp ran
  rw [alike.1, ChunkedIndex.Side.chunks_subject, (unindexed.chunks subject).read] at read
  obtain rfl := Option.some.inj read
  exact fun member => unindexed.valid subject (List.mem_of_mem_drop (List.mem_of_mem_take member))

/-- A loop over the index of a subject. -/
theorem blind_subject {α : Type} {next : List Str → Program Address α}
    (unindexed : Unindexed storage id) (subject : Address)
    (rest : ∀ ids, id ∉ ids → Blind (Twins storage id) (next ids) env) :
    Blind (Twins storage id) (load (·.subjectAttestations subject) >>= next) env :=
  blind_load (·.subjectAttestations subject) (unindexed.subject_same subject)
    (rest _ (unindexed.subject subject))

/-- What is picked from ids has no others. -/
theorem blind_picked {α : Type} {next : List Str → Program Address α}
    (keep : Attestation Address → Bool) (absent : id ∉ ids)
    (rest : ∀ picked, id ∉ picked → Blind (Twins storage id) (next picked) env) :
    Blind (Twins storage id) (pickLoop keep ids [] >>= next) env := by
  refine (blind_pickLoop keep absent []).bind_of (fun first _ picked after _ ran => ?_) rest
  obtain ⟨rfl, -⟩ := (returns_pickLoop ..).mp ran
  exact fun member => absent (List.mem_filter.mp member).1

theorem blind_paginated {α : Type} {next : List Str → Program Address α} (absent : id ∉ ids)
    (start limit : Nat)
    (rest : ∀ page, id ∉ page → Blind (Twins storage id) (next page) env) :
    Blind (Twins storage id) (ChunkedIndex.paginate ids start limit >>= next) env := by
  refine (blind_paginate ids start limit).bind_of (fun first _ page after _ ran => ?_) rest
  obtain ⟨-, rfl, -⟩ := (ChunkedIndex.returns_paginate ..).mp ran
  exact fun member => absent (List.mem_of_mem_drop (List.mem_of_mem_take member))

end Loops

section Questions
variable {Address : Type} [DecidableEq Address] {storage : Storage Address} {id : Str}
  {env : Env Address}

/-- The score of the id is asked for, or an index that may list it. -/
def Exposed (id : Str) : Question Address → Prop
  | .getConfidenceScore other => other = id
  | .getIssuerAttestations _ _ _ | .getIssuerAttestationCount _ => True
  | _ => False

omit [DecidableEq Address] in
/-- A deleted record is refused like one that is not there. -/
theorem blind_present {α : Type} {next : Attestation Address → Program Address α}
    {record : Attestation Address} (found : storage.attestation id = some record)
    (deleted : record.deleted = true) (other : Str)
    (rest : ∀ attestation, Blind (Twins storage id) (next attestation) env) :
    Blind (Twins storage id) (Storage.getAttestation other >>= fun attestation =>
      failWhen (attestation.deleted = true) .notFound >>= fun _ => next attestation) env := by
  by_cases here : other = id
  · -- refused for the deletion on the one side, for the absence on the other
    subst here
    intro first second alike
    have refused : ∀ world : World Address, world.storage.attestation other = some record ∨
        world.storage.attestation other = none →
        (Storage.getAttestation other >>= fun attestation =>
          failWhen (attestation.deleted = true) .notFound >>= fun _ => next attestation) env world =
          .error (.error .notFound) := by
      rintro world (stored | absent)
      · simp [Storage.getAttestation, bind, reads, stored, failIf, deleted, fail, orFail, pure]
      · simp [Storage.getAttestation, bind, reads, absent, fail, orFail]
    rw [refused first (.inl (alike.1 ▸ found)),
      refused second (.inr (alike.2 ▸ Function.update_self ..))]
    exact .failed
  · have read : Blind (Twins storage id) (Storage.getAttestation other) env :=
      blind_record here (blind_orFail _ _)
    exact read.bind fun attestation => (blind_failIf _ _).bind fun _ => rest attestation

theorem blind_question {record : Attestation Address}
    (found : storage.attestation id = some record) (deleted : record.deleted = true)
    (unindexed : Unindexed storage id) (question : Question Address)
    (covered : ¬ Exposed id question) (cursor : question.cursor? ≠ some id) :
    Blind (Twins storage id) question.exec env := by
  cases question with
  | hasValidClaim subject claimType =>
      refine blind_load (·.validAttestations subject) (unindexed.valid_same subject) ?_
      refine blind_timestamp.bind fun now => blind_search fun other member => ?_
      refine blind_record (away_of_absent (unindexed.valid subject) member) ?_
      cases storage.attestation other with
      | none => exact blind_pure false
      | some attestation =>
          dsimp only
          split
          · exact blind_pure false
          · split
            · exact blind_reportValid _ _ _ _
            · exact blind_pure false
  | hasValidClaimFromIssuer subject claimType issuer =>
      refine blind_subject unindexed subject fun ids absent => ?_
      refine blind_timestamp.bind fun now => blind_search fun other member => ?_
      refine blind_record (away_of_absent absent member) ?_
      cases storage.attestation other with
      | none => exact blind_pure false
      | some attestation =>
          dsimp only
          split
          · exact blind_pure false
          · split
            · split
              · exact blind_reportValid _ _ _ _
              · exact (blind_emit _).bind fun _ => blind_pure false
              · exact blind_pure false
            · exact blind_pure false
  | hasAnyClaim subject claimTypes =>
      change Blind _ (hasAnyClaim subject claimTypes) env
      unfold hasAnyClaim
      split
      · exact blind_pure false
      · refine blind_subject unindexed subject fun ids absent => ?_
        refine blind_timestamp.bind fun now => blind_search fun claimType _ =>
          blind_search fun other member => ?_
        refine blind_record (away_of_absent absent member) ?_
        cases storage.attestation other with
        | none => exact blind_pure false
        | some attestation =>
            dsimp only
            split
            · exact blind_reportValid _ _ _ _
            · exact blind_pure false
  | hasAllClaims subject claimTypes =>
      change Blind _ (hasAllClaims subject claimTypes) env
      unfold hasAllClaims
      split
      · exact blind_pure true
      · refine blind_subject unindexed subject fun ids absent => ?_
        refine blind_timestamp.bind fun now => blind_every fun claimType _ =>
          blind_search fun other member => ?_
        refine blind_record (away_of_absent absent member) ?_
        cases storage.attestation other with
        | none => exact blind_pure false
        | some attestation => exact blind_pure _
  | getAttestation other =>
      exact blind_present found deleted other fun attestation => blind_pure attestation
  | getDelegation delegator delegate claimType =>
      exact blind_part (·.delegation delegator delegate claimType) rfl
  | getAttestationStatus other =>
      refine blind_present found deleted other fun attestation => ?_
      refine blind_timestamp.bind fun now => ?_
      dsimp only
      split
      · exact (blind_emit _).bind fun _ => blind_pure _
      · exact blind_pure _
  | getSubjectAttestations subject start limit =>
      refine blind_page unindexed subject start limit fun page absent => ?_
      exact blind_undeletedLoop absent []
  | getAttestationsInRange subject fromTs toTs start limit =>
      refine blind_subject unindexed subject fun ids absent => ?_
      refine blind_picked _ absent fun picked still => ?_
      exact blind_paginated still start limit fun page none => blind_recordsLoop none []
  | getAttestationsInRangeAfter subject fromTs toTs afterAttestationId limit =>
      change Blind _ (getAttestationsInRangeAfter subject fromTs toTs afterAttestationId limit) env
      unfold getAttestationsInRangeAfter
      split
      · exact blind_pure []
      · refine blind_subject unindexed subject fun ids absent => ?_
        refine (blind_rangeLoop fromTs toTs absent []).bind fun filtered => ?_
        cases afterAttestationId with
        | none => exact blind_rangePage filtered 0 limit
        | some cursorId =>
            -- a missing cursor ends the reading, so the id must not be the cursor
            have away : cursorId ≠ id := fun here => cursor (congrArg some here)
            refine blind_record away ?_
            cases storage.attestation cursorId with
            | none => exact blind_pure []
            | some attestation =>
                dsimp only
                cases startIndexAfter filtered cursorId attestation with
                | none => exact blind_pure []
                | some start => exact blind_rangePage filtered start limit
  | getAttestationsByTag subject tag =>
      exact blind_subject unindexed subject fun ids absent => blind_pickLoop _ absent []
  | getAttestationsByJurisdiction subject jurisdiction start limit =>
      refine blind_subject unindexed subject fun ids absent => ?_
      exact (blind_pickLoop _ absent []).bind fun filtered => blind_paginate filtered start limit
  | getIssuerAttestations issuer start limit => exact absurd trivial covered
  | getIssuerAttestationCount issuer => exact absurd trivial covered
  | getValidClaims subject =>
      refine blind_timestamp.bind fun now => ?_
      exact blind_subject unindexed subject fun ids absent => blind_validClaimsLoop now absent []
  | getAttestationByType subject claimType =>
      refine blind_subject unindexed subject fun ids absent => ?_
      exact blind_timestamp.bind fun now =>
        blind_attestationByTypeLoop claimType now absent ids.length
  | getSubjectAttestationCount subject =>
      exact (blind_getIds unindexed subject).bind fun ids => blind_pure ids.length
  | getValidClaimCount subject =>
      refine blind_timestamp.bind fun now => ?_
      exact blind_subject unindexed subject fun ids absent => blind_validCountLoop now absent 0
  | getGlobalStats => exact blind_part (·.globalStats) rfl
  | getConfidenceScore other =>
      refine blind_record covered ?_
      cases storage.attestation other with
      | none => exact blind_pure none
      | some attestation =>
          refine blind_load (·.issuerTier attestation.issuer) rfl ?_
          refine blind_load (·.endorsements other) rfl ?_
          exact (blind_checkedU32 _).bind fun doubled => blind_pure _

end Questions

section Issuers
variable {Address : Type} {storage : Storage Address} {id : Str} {env : Env Address}

/-- The page of the list is not the page of the list without the id. -/
def ShiftsPage (storage : Storage Address) (id : Str) (ids : List Str) (start limit : Nat) : Prop :=
  id ∈ ids ∧ start < ids.length ∧
    if u32Range ≤ start + limit then start + 1 = ids.length
    else 0 < limit ∧ ids.idxOf id < start + limit ∧
      ((ids.idxOf id < start ∧ ∃ other ∈ ids[start]?, Undeleted storage other = true) ∨
        ∃ other ∈ ids[start + limit]?, Undeleted storage other = true)

theorem answer_getIssuerAttestations {world : World Address} {issuer : Address} {ids : List Str}
    (holds : ChunkedIndex.Holds (world.storage.issuerAttestationChunk issuer) ids)
    (start limit : Nat) :
    answer (getIssuerAttestations issuer start limit) env world =
      if start < ids.length ∧ u32Range ≤ start + limit then .error .trap
      else .ok (Paging.shown (Undeleted world.storage) ids start limit) := by
  split
  · rename_i large
    have past : ¬ ids.length ≤ start := Nat.not_le_of_lt large.1
    simp [answer, getIssuerAttestations, ChunkedIndex.getIssuerPage, ChunkedIndex.getPage,
      ChunkedIndex.getIds, ChunkedIndex.paginate, bind, reads, holds.read, orFail, pure, past,
      checkedU32, failIf, large.2, fail, Except.map]
  · rename_i fits
    have ran : Returns (getIssuerAttestations issuer start limit) env world
        (Paging.shown (Undeleted world.storage) ids start limit) world := by
      refine (returns_bind ..).mpr ⟨_, world, (ChunkedIndex.returns_getPage ..).mpr
        ⟨ids, holds.read, fun inside => ?_, rfl, rfl⟩, (returns_undeletedLoop ..).mpr ⟨rfl, rfl⟩⟩
      exact Nat.lt_of_not_le fun large => fits ⟨inside, large⟩
    exact answer_of_returns ran

theorem shown_same {ids : List Str} (absent : id ∉ ids) (start limit : Nat) :
    Paging.shown (Undeleted (storage.without id)) ids start limit =
      Paging.shown (Undeleted storage) ids start limit := by
  refine List.filter_congr fun other member => ?_
  have away : other ≠ id :=
    away_of_absent absent (List.mem_of_mem_drop (List.mem_of_mem_take member))
  rw [Undeleted, Undeleted, show (storage.without id).attestation other =
    storage.attestation other from Function.update_of_ne away ..]

/-- The listing query shows the id by the page it cuts. -/
theorem same_page_iff {world : World Address} {issuer : Address} {ids : List Str}
    (holds : ChunkedIndex.Holds (world.storage.issuerAttestationChunk issuer) ids)
    (once : ids.Nodup) (hidden : Undeleted world.storage id = false) (start limit : Nat) :
    answer (getIssuerAttestations issuer start limit) env world =
        answer (getIssuerAttestations issuer start limit) env (world.without id) ↔
      ¬ ShiftsPage world.storage id ids start limit := by
  have short : (ids.filter (· ≠ id)).length < u32Range :=
    Nat.lt_of_le_of_lt (List.length_filter_le ..) holds.2
  have later : ChunkedIndex.Holds ((world.without id).storage.issuerAttestationChunk issuer)
      (ids.filter (· ≠ id)) := holds.rewritten ((holds.rewritable_iff _).mpr short)
  rw [answer_getIssuerAttestations holds, answer_getIssuerAttestations later,
    show (world.without id).storage = world.storage.without id from rfl,
    shown_same (by simp)]
  by_cases member : id ∈ ids
  · obtain ⟨front, back, rfl⟩ := List.append_of_mem member
    obtain ⟨-, behind, apart⟩ := List.nodup_append.mp once
    have early : id ∉ front := fun listed => apart id listed id List.mem_cons_self rfl
    have late : id ∉ back := (List.nodup_cons.mp behind).1
    have rest : (front ++ id :: back).filter (· ≠ id) = front ++ back := by
      rw [List.filter_append, List.filter_cons_of_neg (by simp), filter_absent early,
        filter_absent late]
    have place : (front ++ id :: back).idxOf id = front.length := by
      rw [List.idxOf_append_of_notMem early, List.idxOf_cons_self, Nat.add_zero]
    have length : (front ++ id :: back).length = (front ++ back).length + 1 := by
      simp [Nat.add_assoc]
    rw [rest, ShiftsPage, and_iff_right member, place, length]
    by_cases large : u32Range ≤ start + limit
    · -- the sum overflows only while the page starts inside of the list
      simp only [large, and_true, if_true]
      rcases Nat.lt_trichotomy start (front ++ back).length with inside | ends | past
      · rw [if_pos (by omega), if_pos inside]
        exact iff_of_true rfl (by omega)
      · rw [if_pos (by omega), if_neg (by omega)]
        exact iff_of_false nofun (by omega)
      · rw [if_neg (by omega), if_neg (by omega)]
        refine iff_of_true ?_ (by omega)
        rw [Paging.shown, Paging.shown, List.drop_eq_nil_of_le (by omega),
          List.drop_eq_nil_of_le (by omega)]
    · -- without an overflow the two pages are windows of lists one entry apart
      simp only [large, and_false, if_false, Except.ok.injEq]
      rw [Paging.shown_without_iff hidden once]
      constructor
      · rintro same ⟨-, positive, reaches, ⟨inside, other, entry, kept⟩ | ⟨other, entry, kept⟩⟩
        · exact Bool.false_ne_true (((same positive reaches).1 inside other entry).symm.trans kept)
        · exact Bool.false_ne_true (((same positive reaches).2 other entry).symm.trans kept)
      · intro stays positive reaches
        have inside : ∀ index other, other ∈ (front ++ id :: back)[index]? → start ≤ index →
            start < (front ++ back).length + 1 := by
          intro index other entry upper
          obtain ⟨within, -⟩ := List.getElem?_eq_some_iff.mp entry
          omega
        refine ⟨fun behind other entry => ?_, fun other entry => ?_⟩
        · refine Bool.eq_false_iff.mpr fun kept => stays ⟨?_, positive, reaches, ?_⟩
          · exact inside start other entry (Nat.le_refl _)
          · exact .inl ⟨behind, other, entry, kept⟩
        · refine Bool.eq_false_iff.mpr fun kept => stays ⟨?_, positive, reaches, ?_⟩
          · exact inside (start + limit) other entry (Nat.le_add_right ..)
          · exact .inr ⟨other, entry, kept⟩
  · rw [filter_absent member]
    exact iff_of_true rfl fun shifts => member shifts.1

end Issuers

section Deletions
variable {Address : Type}

/-- The answer still shows the deleted record: the score, which does not look at the deletion,
and the indexes of the issuers, which keep its id. -/
def Shows (storage : Storage Address) (id : Str) : Question Address → Prop
  | .getConfidenceScore attestationId => attestationId = id
  | .getIssuerAttestationCount issuer => id ∈ storage.issuerAttestations issuer
  | .getIssuerAttestations issuer start limit =>
      ShiftsPage storage id (chunkIds .issuer storage issuer) start limit
  | _ => False

variable {world : World Address} {id : Str} {record : Attestation Address} {env : Env Address}

theorem confidence_shows (found : world.storage.attestation id = some record) :
    answer (Contract.getConfidenceScore id) env world ≠
      answer (Contract.getConfidenceScore id) env (world.without id) := by
  have absent : (world.without id).storage.attestation id = none := Function.update_self ..
  have none_later : Returns (Contract.getConfidenceScore id) env (world.without id) none
      (world.without id) := by
    simp [Contract.getConfidenceScore, absent]
  intro same
  obtain ⟨after, ran⟩ := returns_of_answer (same.trans (answer_of_returns none_later))
  simp [Contract.getConfidenceScore, found] at ran

theorem same_count_iff (issuer : Address) :
    answer (getIssuerAttestationCount issuer) env world =
        answer (getIssuerAttestationCount issuer) env (world.without id) ↔
      id ∉ world.storage.issuerAttestations issuer := by
  have counted : ∀ world : World Address, answer (getIssuerAttestationCount issuer) env world =
      .ok (world.storage.issuerAttestations issuer).length := fun world =>
    @answer_of_returns _ _ _ _ _ world _ _ world (by simp [getIssuerAttestationCount])
  rw [counted, counted, Except.ok.injEq, World.without, Storage.without, eq_comm,
    List.length_filter_eq_length_iff]
  simp only [decide_eq_true_eq]
  exact ⟨fun away member => away id member rfl, fun absent other member =>
    away_of_absent absent member⟩

variable [DecidableEq Address] [Host Address]

theorem unindexed_of_deleted {calls : List (Call Address)}
    (direct : ∀ call ∈ calls, ∀ op, call.op ≠ .multisig op)
    (found : (run calls).storage.attestation id = some record) (deleted : record.deleted = true) :
    Unindexed (run calls).storage id := by
  have covers := covers_direct calls direct
  have listed : ∀ owner, ¬ SecondaryIndex.Owns (run calls).storage.attestation (·.subject)
      (·.deleted = false) owner id := by
    rintro owner ⟨stored, same, -, undeleted⟩
    obtain rfl := Option.some.inj (found.symm.trans same)
    exact Bool.false_ne_true (undeleted.symm.trans deleted)
  exact ⟨fun owner member => listed owner (covers.bySubject.sound owner id member),
    fun owner member => listed owner (covers.valid.sound owner id member),
    (paged_run calls direct).1⟩

/-- A deleted record is invisible to a question exactly when the question is neither for its
score nor shifted by its entries in the indexes of the issuers. -/
theorem deleted_invisible_iff (calls : List (Call Address))
    (direct : ∀ call ∈ calls, ∀ op, call.op ≠ .multisig op) (id : Str)
    (record : Attestation Address) (found : (run calls).storage.attestation id = some record)
    (deleted : record.deleted = true) (env : Env Address) (question : Question Address)
    (aside : question.cursor? ≠ some id) :
    SameAnswer (run calls) id env question ↔ ¬ Shows (run calls).storage id question := by
  have unindexed := unindexed_of_deleted direct found deleted
  have blind : ¬ Exposed id question → SameAnswer (run calls) id env question := fun covered =>
    (blind_question found deleted unindexed question covered aside).answer ⟨rfl, rfl⟩
  cases question with
  | getConfidenceScore other =>
      by_cases here : other = id
      · subst here
        exact iff_of_false (confidence_shows found) fun hidden => hidden rfl
      · exact iff_of_true (blind here) here
  | getIssuerAttestationCount issuer => exact same_count_iff issuer
  | getIssuerAttestations issuer start limit =>
      obtain ⟨-, byIssuer, synced, paged⟩ := paged_run calls direct
      have holds := synced issuer
      have listed : chunkIds .issuer (run calls).storage issuer = byIssuer issuer :=
        chunkIds_of_holds holds
      have hidden : Undeleted (run calls).storage id = false := by
        simp [Undeleted, found, deleted]
      rw [Shows, listed]
      exact same_page_iff holds (paged.issuerOnce issuer) hidden start limit
  | _ => exact iff_of_true (blind (by rintro ⟨⟩)) (by rintro ⟨⟩)

end Deletions

section Sample
open Xdr

/-- The subject of the sample attestation deletes it. -/
def erasureRun : List (Call ContractId) :=
  sampleDeployment ++ [sampleIssuance, signed 1001 (contractId 2)
    (.attestation (.requestDeletion (contractId 2) sampleId))]

theorem direct_erasureRun : ∀ call ∈ erasureRun, ∀ op, call.op ≠ .multisig op := by
  simp [erasureRun, sampleDeployment, sampleIssuance, signed]

theorem deleted_invisible_sample :
    ∃ record, (run erasureRun).storage.attestation sampleId = some record ∧
      record.deleted = true ∧
      (SameAnswer (run erasureRun) sampleId sampleIssuance.env (.getAttestation sampleId) ↔
        ¬ Shows (run erasureRun).storage sampleId (.getAttestation sampleId)) := by
  have stored : ((run erasureRun).storage.attestation sampleId).map (·.deleted) = some true := by
    decide +kernel
  obtain ⟨record, found, deleted⟩ := Option.map_eq_some_iff.mp stored
  exact ⟨record, found, deleted, deleted_invisible_iff erasureRun direct_erasureRun sampleId record
    found deleted sampleIssuance.env (.getAttestation sampleId) nofun⟩

theorem deleted_attestation_scores :
    ((run erasureRun).storage.attestation sampleId).map (·.deleted) = some true ∧
      answer (Contract.getConfidenceScore sampleId) sampleIssuance.env (run erasureRun) =
        .ok (some 30) ∧
      answer (getIssuerAttestationCount (contractId 1)) sampleIssuance.env (run erasureRun) =
        .ok 1 ∧
      ¬ SameAnswer (run erasureRun) sampleId sampleIssuance.env (.getConfidenceScore sampleId) := by
  have scored : answer (Contract.getConfidenceScore sampleId) sampleIssuance.env (run erasureRun) =
      .ok (some 30) := by decide +kernel
  have counted : answer (getIssuerAttestationCount (contractId 1)) sampleIssuance.env
      (run erasureRun) = .ok 1 := by decide +kernel
  have stored : ((run erasureRun).storage.attestation sampleId).map (·.deleted) = some true := by
    decide +kernel
  obtain ⟨record, found, deleted⟩ := Option.map_eq_some_iff.mp stored
  exact ⟨stored, scored, counted, confidence_shows found⟩

end Sample

end TrustLink
