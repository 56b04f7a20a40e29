import TrustLink.Attestation

/-!
The claim readers of query.rs. Each is a loop over an index; a reader may emit
events, and the notification of an expiration hook is taken to leave the
contract alone. `Answers` gives every reader its value as a function of storage.
-/
namespace TrustLink.Query
open Transaction

section Model
variable {Address : Type}

/-- The call of the hook's contract has no part in the state of this one. -/
def maybeTriggerExpirationHook (subject : Address) (attestationId : Str)
    (expiration currentTime : Nat) : Program Address Unit := do
  let hook ← load (·.expirationHook subject)
  match hook with
  | none => pure ()
  | some hook =>
      let notifyFrom := expiration - hook.notifyDaysBefore * secsPerDay
      if notifyFrom ≤ currentTime ∧ currentTime < expiration then
        emit (.expirationHookTriggered subject attestationId expiration)
      else pure ()

/-- A valid attestation has been found. -/
def reportValid (subject : Address) (attestationId : Str) (attestation : Attestation Address)
    (currentTime : Nat) : Program Address Bool := do
  maybeTriggerExpirationHook subject attestationId
    (attestation.expiration.getD (u64Range - 1)) currentTime
  pure true

def hasValidClaim (subject : Address) (claimType : Str) : Program Address Bool := do
  let attestationIds ← load (·.validAttestations subject)
  let currentTime ← ledgerTimestamp
  search (fun id => do
    let attestation ← load (·.attestation id)
    match attestation with
    | none => pure false
    | some attestation =>
        if attestation.claimType ≠ claimType then pure false
        else if attestation.getStatus currentTime = .valid then
          reportValid subject id attestation currentTime
        else pure false) attestationIds

def hasValidClaimFromIssuer [DecidableEq Address] (subject : Address) (claimType : Str)
    (issuer : Address) : Program Address Bool := do
  let attestationIds ← load (·.subjectAttestations subject)
  let currentTime ← ledgerTimestamp
  search (fun id => do
    let attestation ← load (·.attestation id)
    match attestation with
    | none => pure false
    | some attestation =>
        if attestation.deleted = true then pure false
        else if attestation.claimType = claimType ∧ attestation.issuer = issuer then
          match attestation.getStatus currentTime with
          | .valid => reportValid subject id attestation currentTime
          | .expired => do
              emit (.attestationExpired id subject)
              pure false
          | _ => pure false
        else pure false) attestationIds

/-- The test of the last four readers. -/
def holdsClaim (claimType : Str) (currentTime : Nat) (attestation : Attestation Address) : Bool :=
  !attestation.deleted && decide (attestation.claimType = claimType) &&
    decide (attestation.getStatus currentTime = .valid)

def hasAnyClaim (subject : Address) (claimTypes : List Str) : Program Address Bool := do
  if claimTypes = [] then pure false
  else do
    let attestationIds ← load (·.subjectAttestations subject)
    let currentTime ← ledgerTimestamp
    search (fun claimType =>
      search (fun id => do
        let attestation ← load (·.attestation id)
        match attestation with
        | none => pure false
        | some attestation =>
            if holdsClaim claimType currentTime attestation = true then
              reportValid subject id attestation currentTime
            else pure false) attestationIds) claimTypes

def hasAllClaims (subject : Address) (claimTypes : List Str) : Program Address Bool := do
  if claimTypes = [] then pure true
  else do
    let attestationIds ← load (·.subjectAttestations subject)
    let currentTime ← ledgerTimestamp
    every (fun claimType =>
      search (fun id => do
        let attestation ← load (·.attestation id)
        match attestation with
        | none => pure false
        | some attestation => pure (holdsClaim claimType currentTime attestation))
        attestationIds) claimTypes

def validClaimsLoop (currentTime : Nat) : List Str → List Str → Program Address (List Str)
  | [], result => pure result
  | id :: rest, result => do
      let attestation ← load (·.attestation id)
      match attestation with
      | none => validClaimsLoop currentTime rest result
      | some attestation =>
          if attestation.deleted = false ∧ attestation.getStatus currentTime = .valid then
            if attestation.claimType ∈ result then validClaimsLoop currentTime rest result
            else validClaimsLoop currentTime rest (result ++ [attestation.claimType])
          else validClaimsLoop currentTime rest result

def getValidClaims (subject : Address) : Program Address (List Str) := do
  let currentTime ← ledgerTimestamp
  let attestationIds ← load (·.subjectAttestations subject)
  validClaimsLoop currentTime attestationIds []

/-- The loop runs from the newest entry down. -/
def attestationByTypeLoop (claimType : Str) (currentTime : Nat) (attestationIds : List Str) :
    Nat → Program Address (Option (Attestation Address))
  | 0 => pure none
  | index + 1 =>
      match attestationIds[index]? with
      | none => attestationByTypeLoop claimType currentTime attestationIds index
      | some id => do
          let attestation ← load (·.attestation id)
          match attestation with
          | none => attestationByTypeLoop claimType currentTime attestationIds index
          | some attestation =>
              if holdsClaim claimType currentTime attestation = true then pure (some attestation)
              else attestationByTypeLoop claimType currentTime attestationIds index

def getAttestationByType (subject : Address) (claimType : Str) :
    Program Address (Option (Attestation Address)) := do
  let attestationIds ← load (·.subjectAttestations subject)
  let currentTime ← ledgerTimestamp
  attestationByTypeLoop claimType currentTime attestationIds attestationIds.length

/-- The loop of the two listing queries, over a page that has been cut already. -/
def undeletedLoop : List Str → List Str → Program Address (List Str)
  | [], result => pure result
  | id :: rest, result => do
      let attestation ← load (·.attestation id)
      match attestation with
      | none => undeletedLoop rest result
      | some attestation =>
          if attestation.deleted = false then undeletedLoop rest (result ++ [id])
          else undeletedLoop rest result

def getSubjectAttestations (subject : Address) (start limit : Nat) :
    Program Address (List Str) := do
  let ids ← ChunkedIndex.getSubjectPage subject start limit
  undeletedLoop ids []

def getIssuerAttestations (issuer : Address) (start limit : Nat) :
    Program Address (List Str) := do
  let ids ← ChunkedIndex.getIssuerPage issuer start limit
  undeletedLoop ids []

/-- Not deleted, and issued between the two times. -/
def WithinRange (fromTs toTs : Nat) (attestation : Attestation Address) : Prop :=
  attestation.deleted = false ∧ fromTs ≤ attestation.timestamp ∧ attestation.timestamp ≤ toTs

instance (fromTs toTs : Nat) : DecidablePred (@WithinRange Address fromTs toTs) :=
  fun _ => inferInstanceAs (Decidable (_ ∧ _))

/-- The first loop of the range query. -/
def rangeLoop (fromTs toTs : Nat) :
    List Str → List (Attestation Address) → Program Address (List (Attestation Address))
  | [], filtered => pure filtered
  | id :: rest, filtered => do
      let attestation ← load (·.attestation id)
      match attestation with
      | none => rangeLoop fromTs toTs rest filtered
      | some attestation =>
          if WithinRange fromTs toTs attestation then
            rangeLoop fromTs toTs rest (filtered ++ [attestation])
          else rangeLoop fromTs toTs rest filtered

/-- The second and the third: behind the cursor, or at the first attestation that is newer
than the cursor's record, with the id to tell equal times apart. -/
def startIndexAfter (filtered : List (Attestation Address)) (cursorId : Str)
    (cursorAttestation : Attestation Address) : Option Nat :=
  match filtered.findIdx? fun attestation => attestation.id = cursorAttestation.id with
  | some i => some (i + 1)
  | none => filtered.findIdx? fun attestation =>
      cursorAttestation.timestamp < attestation.timestamp ∨
        attestation.timestamp = cursorAttestation.timestamp ∧ cursorId < attestation.id

/-- The last loop. -/
def rangePage (filtered : List (Attestation Address)) (startIndex limit : Nat) :
    Program Address (List (Attestation Address)) := do
  let bound ← checkedU32 (startIndex + limit)
  pure ((filtered.take (min bound filtered.length)).drop startIndex)

def getAttestationsInRangeAfter (subject : Address) (fromTs toTs : Nat)
    (afterAttestationId : Option Str) (limit : Nat) :
    Program Address (List (Attestation Address)) := do
  if toTs < fromTs then pure []
  else do
    let attestationIds ← load (·.subjectAttestations subject)
    let filtered ← rangeLoop fromTs toTs attestationIds []
    match afterAttestationId with
    | none => rangePage filtered 0 limit
    | some cursorId => do
        let cursorAttestation ← load (·.attestation cursorId)
        match cursorAttestation with
        | none => pure []
        | some cursorAttestation =>
            match startIndexAfter filtered cursorId cursorAttestation with
            | none => pure []
            | some startIndex => rangePage filtered startIndex limit

end Model

section Listings
variable {Address : Type}

/-- The record is there and has not been deleted. -/
def Undeleted (storage : Storage Address) (id : Str) : Bool :=
  (storage.attestation id).any fun attestation => !attestation.deleted

theorem undeleted_iff {storage : Storage Address} {id : Str} :
    Undeleted storage id = true ↔
      ∃ attestation, storage.attestation id = some attestation ∧ attestation.deleted = false := by
  simp [Undeleted, Option.any_eq_true]

theorem returns_undeletedLoop {env : Env Address} {before after : World Address}
    (ids result kept : List Str) :
    Returns (undeletedLoop ids result) env before kept after ↔
      kept = result ++ ids.filter (Undeleted before.storage) ∧ after = before := by
  induction ids generalizing result with
  | nil => simp [undeletedLoop]
  | cons id rest ih =>
      cases found : before.storage.attestation id with
      | none =>
          have gone : Undeleted before.storage id = false := by simp [Undeleted, found]
          simp [undeletedLoop, found, ih, gone]
      | some attestation =>
          cases deleted : attestation.deleted with
          | true =>
              have gone : Undeleted before.storage id = false := by
                simp [Undeleted, found, deleted]
              simp [undeletedLoop, found, deleted, ih, gone]
          | false =>
              have stays : Undeleted before.storage id = true := by
                simp [Undeleted, found, deleted]
              simp [undeletedLoop, found, deleted, ih, stays]

/-- What the index of a subject lists within a range. -/
def inRange (storage : Storage Address) (subject : Address) (fromTs toTs : Nat) :
    List (Attestation Address) :=
  (storage.subjectAttestations subject).filterMap fun id =>
    (storage.attestation id).filter fun attestation => WithinRange fromTs toTs attestation

theorem returns_rangeLoop {env : Env Address} {before after : World Address} (fromTs toTs : Nat)
    (ids : List Str) (filtered result : List (Attestation Address)) :
    Returns (rangeLoop fromTs toTs ids filtered) env before result after ↔
      result = filtered ++ (ids.filterMap fun id => (before.storage.attestation id).filter
        fun attestation => WithinRange fromTs toTs attestation) ∧ after = before := by
  induction ids generalizing filtered with
  | nil => simp [rangeLoop]
  | cons id rest ih =>
      cases found : before.storage.attestation id with
      | none => simp [rangeLoop, found, ih]
      | some attestation =>
          by_cases within : WithinRange fromTs toTs attestation <;>
            simp [rangeLoop, Option.filter_some, found, within, ih]

theorem returns_rangePage {env : Env Address} {before after : World Address}
    (filtered page : List (Attestation Address)) (startIndex limit : Nat) :
    Returns (rangePage filtered startIndex limit) env before page after ↔
      startIndex + limit < u32Range ∧ page = (filtered.drop startIndex).take limit ∧
        after = before := by
  have slice : (filtered.take (min (startIndex + limit) filtered.length)).drop startIndex =
      (filtered.drop startIndex).take limit := by
    rw [← List.take_eq_take_min, List.drop_take, Nat.add_sub_cancel_left]
  simp [rangePage, slice]
  tauto

end Listings

section Answers
variable {Address : Type} {env : Env Address} {storage : Storage Address}

theorem answers_load {α : Type} (field : Storage Address → α) :
    Answers (·.storage) storage (load field) env (field storage) :=
  .of_returns fun before holds => (returns_reads ..).mpr ⟨by rw [← holds], rfl⟩

theorem answers_ledgerTimestamp :
    Answers (·.storage) storage (ledgerTimestamp : Program Address Nat) env env.timestamp :=
  .of_returns fun before _ => by simp

theorem answers_emit (event : Event Address) :
    Answers (·.storage) storage (emit event) env () :=
  fun before holds => ⟨before.publish event, (returns_emit ..).mpr rfl, holds⟩

theorem answers_reportValid (subject : Address) (id : Str) (attestation : Attestation Address)
    (currentTime : Nat) :
    Answers (·.storage) storage (reportValid subject id attestation currentTime) env true := by
  have hooked : Answers (·.storage) storage (maybeTriggerExpirationHook subject id
      (attestation.expiration.getD (u64Range - 1)) currentTime) env () := by
    refine (answers_load fun storage => storage.expirationHook subject).bind ?_
    cases storage.expirationHook subject with
    | none => exact answers_pure ()
    | some hook =>
        dsimp only
        split
        · exact answers_emit _
        · exact answers_pure ()
  exact hooked.bind (answers_pure true)

/-- A stored record passes the test. -/
def Finds (storage : Storage Address) (test : Attestation Address → Bool) (id : Str) : Bool :=
  (storage.attestation id).any test

theorem answers_hasValidClaim (subject : Address) (claimType : Str) :
    Answers (·.storage) storage (hasValidClaim subject claimType) env
      ((storage.validAttestations subject).any (Finds storage fun attestation =>
        decide (attestation.claimType = claimType) &&
          decide (attestation.getStatus env.timestamp = .valid))) := by
  refine (answers_load fun storage => storage.validAttestations subject).bind
    (answers_ledgerTimestamp.bind (answers_search (fun id => ?_) _))
  refine (answers_load fun storage => storage.attestation id).bind ?_
  cases found : storage.attestation id with
  | none => simpa [Finds, found] using answers_pure false
  | some attestation =>
      by_cases type : attestation.claimType = claimType <;>
        by_cases valid : attestation.getStatus env.timestamp = .valid
      · simpa [Finds, found, type, valid] using answers_reportValid subject id attestation _
      all_goals simpa [Finds, found, type, valid] using answers_pure false

theorem answers_hasValidClaimFromIssuer [DecidableEq Address] (subject : Address)
    (claimType : Str) (issuer : Address) :
    Answers (·.storage) storage (hasValidClaimFromIssuer subject claimType issuer) env
      ((storage.subjectAttestations subject).any (Finds storage fun attestation =>
        holdsClaim claimType env.timestamp attestation && decide (attestation.issuer = issuer))) := by
  refine (answers_load fun storage => storage.subjectAttestations subject).bind
    (answers_ledgerTimestamp.bind (answers_search (fun id => ?_) _))
  refine (answers_load fun storage => storage.attestation id).bind ?_
  cases found : storage.attestation id with
  | none => simpa [Finds, found] using answers_pure false
  | some attestation =>
      by_cases gone : attestation.deleted = true
      · simpa [Finds, found, holdsClaim, gone] using answers_pure false
      by_cases match_ : attestation.claimType = claimType ∧ attestation.issuer = issuer
      · cases status : attestation.getStatus env.timestamp with
        | valid =>
            simpa [Finds, found, holdsClaim, gone, match_, status] using
              answers_reportValid subject id attestation _
        | expired =>
            simpa [Finds, found, holdsClaim, gone, match_, status] using
              (answers_emit (.attestationExpired id subject)).bind (answers_pure false)
        | _ => simpa [Finds, found, holdsClaim, gone, match_, status] using answers_pure false
      · have test : (holdsClaim claimType env.timestamp attestation &&
            decide (attestation.issuer = issuer)) = false := by
          simp only [holdsClaim]
          grind
        simpa [Finds, found, gone, match_, test] using answers_pure false

theorem answers_hasAnyClaim (subject : Address) (claimTypes : List Str) :
    Answers (·.storage) storage (hasAnyClaim subject claimTypes) env
      (claimTypes.any fun claimType => (storage.subjectAttestations subject).any
        (Finds storage (holdsClaim claimType env.timestamp))) := by
  unfold hasAnyClaim
  split
  · rename_i empty
    simpa [empty] using answers_pure false
  refine (answers_load fun storage => storage.subjectAttestations subject).bind
    (answers_ledgerTimestamp.bind
      (answers_search (fun claimType => answers_search (fun id => ?_) _) _))
  refine (answers_load fun storage => storage.attestation id).bind ?_
  cases found : storage.attestation id with
  | none => simpa [Finds, found] using answers_pure false
  | some attestation =>
      cases test : holdsClaim claimType env.timestamp attestation with
      | true => simpa [Finds, found, test] using answers_reportValid subject id attestation _
      | false => simpa [Finds, found, test] using answers_pure false

theorem answers_hasAllClaims (subject : Address) (claimTypes : List Str) :
    Answers (·.storage) storage (hasAllClaims subject claimTypes) env
      (claimTypes.all fun claimType => (storage.subjectAttestations subject).any
        (Finds storage (holdsClaim claimType env.timestamp))) := by
  unfold hasAllClaims
  split
  · rename_i empty
    simpa [empty] using answers_pure true
  refine (answers_load fun storage => storage.subjectAttestations subject).bind
    (answers_ledgerTimestamp.bind
      (answers_every (fun claimType => answers_search (fun id => ?_) _) _))
  refine (answers_load fun storage => storage.attestation id).bind ?_
  cases found : storage.attestation id with
  | none => simpa [Finds, found] using answers_pure false
  | some attestation => simpa [Finds, found] using answers_pure _

theorem finds_of_found {id : Str} {attestation : Attestation Address}
    (found : storage.attestation id = some attestation) (test : Attestation Address → Bool) :
    Finds storage test id = test attestation := by
  rw [Finds, found, Option.any_some]

variable (env storage) in
theorem answers_validClaimsLoop (ids result : List Str) :
    ∃ claims, Answers (·.storage) storage (validClaimsLoop env.timestamp ids result) env claims ∧
      (result.Nodup → claims.Nodup) ∧
      ∀ claimType, claimType ∈ claims ↔
        claimType ∈ result ∨ ids.any (Finds storage (holdsClaim claimType env.timestamp)) := by
  induction ids generalizing result with
  | nil => exact ⟨result, answers_pure result, id, fun claimType => by simp⟩
  | cons first rest ih =>
      have head : Answers (·.storage) storage (load (·.attestation first)) env
          (storage.attestation first) := answers_load _
      cases found : storage.attestation first with
      | none =>
          obtain ⟨claims, answer, once, members⟩ := ih result
          refine ⟨claims, head.bind (by rw [found]; exact answer), once, fun claimType => ?_⟩
          simp [members, Finds, found]
      | some attestation =>
          by_cases live : attestation.deleted = false ∧
            attestation.getStatus env.timestamp = .valid
          · by_cases known : attestation.claimType ∈ result
            · -- a claim type that is in the result is not added again
              obtain ⟨claims, answer, once, members⟩ := ih result
              refine ⟨claims, head.bind (by simpa [found, live, known] using answer), once,
                fun claimType => ?_⟩
              rw [members, List.any_cons, finds_of_found found]
              simp only [holdsClaim, live]
              grind
            · obtain ⟨claims, answer, once, members⟩ := ih (result ++ [attestation.claimType])
              refine ⟨claims, head.bind (by simpa [found, live, known] using answer),
                fun distinct => once (by simp [List.nodup_append, distinct]; grind),
                fun claimType => ?_⟩
              rw [members, List.any_cons, finds_of_found found]
              simp only [holdsClaim, live]
              grind
          · obtain ⟨claims, answer, once, members⟩ := ih result
            refine ⟨claims, head.bind (by simpa [found, live] using answer), once,
              fun claimType => ?_⟩
            rw [members, List.any_cons, finds_of_found found]
            simp only [holdsClaim]
            grind

variable (env storage) in
theorem answers_attestationByTypeLoop (claimType : Str) (ids : List Str) (index : Nat) :
    ∃ answer, Answers (·.storage) storage
        (attestationByTypeLoop claimType env.timestamp ids index) env answer ∧
      (answer.isSome ↔
        (ids.take index).any (Finds storage (holdsClaim claimType env.timestamp)) = true) := by
  induction index with
  | zero => exact ⟨none, answers_pure none, by simp⟩
  | succ index ih =>
      obtain ⟨answer, below, present⟩ := ih
      rw [List.take_add_one, attestationByTypeLoop]
      cases entry : ids[index]? with
      | none => exact ⟨answer, below, by simpa using present⟩
      | some id =>
          have head : Answers (·.storage) storage (load (·.attestation id)) env
              (storage.attestation id) := answers_load _
          cases found : storage.attestation id with
          | none =>
              refine ⟨answer, head.bind (by rw [found]; exact below), ?_⟩
              simpa [Finds, found] using present
          | some attestation =>
              cases test : holdsClaim claimType env.timestamp attestation with
              | true =>
                  refine ⟨some attestation, head.bind (by simpa [found, test] using answers_pure _),
                    ?_⟩
                  simp [finds_of_found found, test]
              | false =>
                  refine ⟨answer, head.bind (by simpa [found, test] using below), ?_⟩
                  simpa [finds_of_found found, test] using present

variable (env storage) in
theorem answers_getValidClaims (subject : Address) :
    ∃ claims, Answers (·.storage) storage (getValidClaims subject) env claims ∧ claims.Nodup ∧
      ∀ claimType, claimType ∈ claims ↔ (storage.subjectAttestations subject).any
        (Finds storage (holdsClaim claimType env.timestamp)) = true := by
  obtain ⟨claims, answer, once, members⟩ :=
    answers_validClaimsLoop env storage (storage.subjectAttestations subject) []
  refine ⟨claims, ?_, once List.nodup_nil, fun claimType => by simpa using members claimType⟩
  exact answers_ledgerTimestamp.bind
    ((answers_load fun storage => storage.subjectAttestations subject).bind answer)

variable (env storage) in
theorem answers_getAttestationByType (subject : Address) (claimType : Str) :
    ∃ answer, Answers (·.storage) storage (getAttestationByType subject claimType) env answer ∧
      (answer.isSome ↔ (storage.subjectAttestations subject).any
        (Finds storage (holdsClaim claimType env.timestamp)) = true) := by
  obtain ⟨answer, loop, present⟩ := answers_attestationByTypeLoop env storage claimType
    (storage.subjectAttestations subject) (storage.subjectAttestations subject).length
  refine ⟨answer, ?_, by rwa [List.take_length] at present⟩
  exact (answers_load fun storage => storage.subjectAttestations subject).bind
    (answers_ledgerTimestamp.bind loop)

end Answers

end TrustLink.Query
