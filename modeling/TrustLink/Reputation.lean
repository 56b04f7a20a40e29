import TrustLink.Endorsements
import TrustLink.PagedLists
import TrustLink.Questions

/-!
Endorsements and tiers over histories, and what is read of them: the two tables of the
endorsements, `has_valid_claim_from_tier` and the confidence score.
-/
namespace TrustLink
open Transaction Contract Query

section Model
variable {Address : Type}

def IssuerTier.rank : IssuerTier → Nat
  | .basic => 0
  | .verified => 1
  | .premium => 2

namespace Contract

def getEndorsementCount (attestationId : Str) : Program Address Nat := do
  let endorsements ← Storage.getEndorsements attestationId
  pure endorsements.length

/-- Neither the hook nor an event for an expired attestation, unlike its siblings of query.rs. -/
def hasValidClaimFromTier (subject : Address) (claimType : Str) (minTier : IssuerTier) :
    Program Address Bool := do
  let attestationIds ← load (·.subjectAttestations subject)
  let currentTime ← ledgerTimestamp
  let minRank := minTier.rank
  search (fun id => do
    let attestation ← load (·.attestation id)
    match attestation with
    | none => pure false
    | some attestation =>
        if attestation.deleted = true then pure false
        else if attestation.claimType ≠ claimType then pure false
        else if attestation.getStatus currentTime ≠ .valid then pure false
        else do
          let tier ← Storage.getIssuerTier attestation.issuer
          match tier with
          | none => pure false
          | some tier => pure (decide (minRank ≤ tier.rank))) attestationIds

end Contract

end Model

section Ledger
variable {Address : Type} [DecidableEq Address]

/-- The endorsement that a call asks for. -/
def Call.endorsement? (call : Call Address) : Option (Endorsement Address) :=
  match call.op with
  | .attestation (.endorseAttestation endorser id) => some ⟨id, endorser, call.env.timestamp⟩
  | _ => none

variable [Host Address]

/-- The endorsement that a call makes, if it is accepted. -/
def endorsementMade (world : World Address) (call : Call Address) : Option (Endorsement Address) :=
  match call.op.exec call.env world with
  | .ok _ => call.endorsement?
  | .error _ => none

/-- All endorsements of a run, in the order in which they are made. -/
def endorsementsMade (calls : List (Call Address)) : List (Endorsement Address) :=
  (Trace.outputs step endorsementMade (World.empty Address) calls).filterMap id

/-- Both tables are read off the one list. -/
structure ReadOff (made : List (Endorsement Address)) (storage : Storage Address) : Prop where
  byAttestation : ∀ id, storage.endorsements id = made.filter fun entry => entry.attestationId = id
  byEndorser : ∀ endorser,
    storage.endorserIndex endorser = made.filter fun entry => entry.endorser = endorser

theorem endorsementMade_of_accepted {world after : World Address} {call : Call Address}
    (accepted : Accepted world call after) : endorsementMade world call = call.endorsement? := by
  rw [endorsementMade, show call.op.exec call.env world = .ok ((), after) from accepted]

theorem endorsementMade_of_refused {world : World Address} {call : Call Address}
    (refused : ∀ after, ¬ Accepted world call after) : endorsementMade world call = none := by
  unfold endorsementMade
  cases outcome : call.op.exec call.env world with
  | error fault => rfl
  | ok pair => exact absurd outcome (refused pair.2)

theorem endorsementsMade_concat (calls : List (Call Address)) (call : Call Address) :
    endorsementsMade (calls ++ [call]) =
      endorsementsMade calls ++ (endorsementMade (run calls) call).toList := by
  rw [endorsementsMade, Trace.outputs_concat, List.filterMap_append]
  cases endorsementMade (run calls) call <;> rfl

/-- Neither table is written but by an endorsement. -/
theorem endorsement_tables_kept {before after : World Address} {call : Call Address}
    (accepted : Accepted before call after) (none : call.endorsement? = none) :
    after.storage.endorsements = before.storage.endorsements ∧
      after.storage.endorserIndex = before.storage.endorserIndex := by
  obtain ⟨env, op⟩ := call
  cases op with
  | attestation op =>
      have other : ∀ endorser id, op ≠ .endorseAttestation endorser id := by
        rintro endorser id rfl
        cases none
      have works := op.works accepted other
      exact ⟨works.kept (·.endorsements) fun _ _ => rfl, works.kept (·.endorserIndex) fun _ _ => rfl⟩
  | request op =>
      have works := op.works accepted
      exact ⟨works.kept (·.endorsements) fun _ _ => rfl, works.kept (·.endorserIndex) fun _ _ => rfl⟩
  | multisig op =>
      have works := op.works accepted
      exact ⟨works.kept (·.endorsements) fun _ _ => rfl, works.kept (·.endorserIndex) fun _ _ => rfl⟩
  | council op =>
      have governs := op.governs accepted
      exact ⟨governs.kept (·.endorsements) fun _ _ => rfl,
        governs.kept (·.endorserIndex) fun _ _ => rfl⟩
  | admin op =>
      have governs := op.governs accepted
      exact ⟨governs.kept (·.endorsements) fun _ _ => rfl,
        governs.kept (·.endorserIndex) fun _ _ => rfl⟩

/-- What an endorsement has checked. -/
structure Endorsable (world : World Address) (env : Env Address) (endorser : Address) (id : Str) :
    Prop where
  auth : endorser ∈ env.auths
  registered : world.storage.issuer endorser = true
  foreign : ∃ attestation, world.storage.attestation id = some attestation ∧
    attestation.issuer ≠ endorser ∧ attestation.revoked = false
  first : ∀ endorsement ∈ world.storage.endorsements id, endorsement.endorser ≠ endorser

theorem endorsement_accepted {before after : World Address} {env : Env Address}
    {endorser : Address} {id : Str}
    (accepted : Accepted before ⟨env, .attestation (.endorseAttestation endorser id)⟩ after) :
    Endorsable before env endorser id ∧
      after.storage.endorsements = Function.update before.storage.endorsements id
        (before.storage.endorsements id ++ [⟨id, endorser, env.timestamp⟩]) ∧
      after.storage.endorserIndex = Function.update before.storage.endorserIndex endorser
        (before.storage.endorserIndex endorser ++ [⟨id, endorser, env.timestamp⟩]) := by
  obtain ⟨⟨auth, registered, -, foreign, first, -⟩, rfl⟩ :=
    (returns_endorseAttestation ..).mp accepted
  exact ⟨⟨auth, registered, foreign, first⟩, rfl, rfl⟩

omit [DecidableEq Address] [Host Address] in
theorem endorsement_asked {call : Call Address} {entry : Endorsement Address}
    (asked : call.endorsement? = some entry) :
    ∃ env endorser id, call = ⟨env, .attestation (.endorseAttestation endorser id)⟩ ∧
      entry = ⟨id, endorser, env.timestamp⟩ := by
  obtain ⟨env, op⟩ := call
  unfold Call.endorsement? at asked
  split at asked
  case h_1 endorser id same =>
    obtain rfl : op = _ := same
    exact ⟨env, endorser, id, rfl, (Option.some.inj asked).symm⟩
  case h_2 => cases asked

omit [DecidableEq Address] [Host Address] in
/-- An entry goes to the end of one list. -/
theorem filter_concat_update {Key : Type} [DecidableEq Key] {made : List (Endorsement Address)}
    {table : Key → List (Endorsement Address)} (key : Endorsement Address → Key)
    (readOff : ∀ place, table place = made.filter fun entry => key entry = place)
    (entry : Endorsement Address) (place : Key) :
    Function.update table (key entry) (table (key entry) ++ [entry]) place =
      (made ++ [entry]).filter fun entry => key entry = place := by
  rw [List.filter_append, ← readOff]
  by_cases here : place = key entry
  · subst here
    simp
  · simp [here, Ne.symm here]

theorem readOff_run (calls : List (Call Address)) :
    ReadOff (endorsementsMade calls) (run calls).storage := by
  induction calls using List.reverseRecOn with
  | nil => exact ⟨fun _ => rfl, fun _ => rfl⟩
  | append_singleton calls call ih =>
      rw [run_concat, endorsementsMade_concat]
      rcases step_outcome (run calls) call with accepted | ⟨same, refused⟩
      · rw [endorsementMade_of_accepted accepted]
        cases asked : call.endorsement? with
        | none =>
            obtain ⟨byAttestation, byEndorser⟩ := endorsement_tables_kept accepted asked
            simp only [Option.toList_none, List.append_nil]
            exact ⟨byAttestation ▸ ih.byAttestation, byEndorser ▸ ih.byEndorser⟩
        | some entry =>
            obtain ⟨env, endorser, id, rfl, rfl⟩ := endorsement_asked asked
            obtain ⟨-, byAttestation, byEndorser⟩ := endorsement_accepted accepted
            rw [Option.toList_some]
            constructor
            · rw [byAttestation]
              exact filter_concat_update (·.attestationId) ih.byAttestation ⟨id, endorser, env.timestamp⟩
            · rw [byEndorser]
              exact filter_concat_update (·.endorser) ih.byEndorser ⟨id, endorser, env.timestamp⟩
      · rw [same, endorsementMade_of_refused refused, Option.toList_none, List.append_nil]
        exact ih

/-- A new entry is put to the list by a call that has passed the checks. -/
theorem made_cases (calls : List (Call Address)) (call : Call Address) :
    endorsementsMade (calls ++ [call]) = endorsementsMade calls ∨
      ∃ env endorser id, call = ⟨env, .attestation (.endorseAttestation endorser id)⟩ ∧
        Endorsable (run calls) env endorser id ∧
        endorsementsMade (calls ++ [call]) =
          endorsementsMade calls ++ [⟨id, endorser, env.timestamp⟩] := by
  rw [endorsementsMade_concat]
  rcases step_outcome (run calls) call with accepted | ⟨-, refused⟩
  · rw [endorsementMade_of_accepted accepted]
    cases asked : call.endorsement? with
    | none => exact .inl (List.append_nil _)
    | some entry =>
        obtain ⟨env, endorser, id, rfl, rfl⟩ := endorsement_asked asked
        exact .inr ⟨env, endorser, id, rfl, (endorsement_accepted accepted).1, rfl⟩
  · rw [endorsementMade_of_refused refused]
    exact .inl (List.append_nil _)

/-- Nobody endorses the same attestation twice. -/
theorem made_once (calls : List (Call Address)) :
    ((endorsementsMade calls).map fun entry => (entry.attestationId, entry.endorser)).Nodup := by
  induction calls using List.reverseRecOn with
  | nil => exact List.nodup_nil
  | append_singleton calls call ih =>
      rcases made_cases calls call with same | ⟨env, endorser, id, rfl, checks, grown⟩
      · rwa [same]
      · rw [grown, List.map_append, List.nodup_append]
        refine ⟨ih, List.nodup_singleton _, fun pair listed other last => ?_⟩
        obtain ⟨entry, member, rfl⟩ := List.mem_map.mp listed
        obtain rfl := List.mem_singleton.mp last
        intro same
        obtain ⟨sameId, sameEndorser⟩ := Prod.mk.inj same
        refine checks.first entry ?_ sameEndorser
        rw [(readOff_run calls).byAttestation, List.mem_filter]
        exact ⟨member, decide_eq_true sameId⟩

theorem made_checked (calls : List (Call Address)) :
    ∀ entry ∈ endorsementsMade calls, ∃ early env late,
      calls = early ++ ⟨env, .attestation (.endorseAttestation entry.endorser
        entry.attestationId)⟩ :: late ∧
        entry.timestamp = env.timestamp ∧
        Endorsable (run early) env entry.endorser entry.attestationId := by
  induction calls using List.reverseRecOn with
  | nil => exact fun entry member => nomatch member
  | append_singleton calls call ih =>
      intro entry member
      have earlier : entry ∈ endorsementsMade calls → ∃ early env late,
          calls ++ [call] = early ++ ⟨env, .attestation (.endorseAttestation entry.endorser
            entry.attestationId)⟩ :: late ∧
            entry.timestamp = env.timestamp ∧
            Endorsable (run early) env entry.endorser entry.attestationId := by
        intro listed
        obtain ⟨early, env, late, rfl, time, checks⟩ := ih entry listed
        exact ⟨early, env, late ++ [call], by simp, time, checks⟩
      rcases made_cases calls call with same | ⟨env, endorser, id, rfl, checks, grown⟩
      · exact earlier (same ▸ member)
      · rw [grown, List.mem_append] at member
        rcases member with before | last
        · exact earlier before
        · obtain rfl := List.mem_singleton.mp last
          exact ⟨calls, env, [], rfl, rfl, checks⟩

/-- In every history the two tables of the endorsements, the count of an attestation and the pages
of an endorser are read off one list: that of the accepted endorsements in order, each of which was
made once, by a registered issuer who signed it and whose attestation it was not. -/
theorem endorsements_booked (calls : List (Call Address)) :
    ReadOff (endorsementsMade calls) (run calls).storage ∧
    ((endorsementsMade calls).map fun entry => (entry.attestationId, entry.endorser)).Nodup ∧
    (∀ entry ∈ endorsementsMade calls, ∃ early env late,
      calls = early ++ ⟨env, .attestation (.endorseAttestation entry.endorser
        entry.attestationId)⟩ :: late ∧
        entry.timestamp = env.timestamp ∧
        Endorsable (run early) env entry.endorser entry.attestationId) ∧
    ∀ env,
      (∀ id count, Reads (getEndorsementCount id) env (run calls) count ↔
        count = (endorsementsMade calls).countP fun entry => entry.attestationId = id) ∧
      ∀ endorser start limit page,
        Reads (listEndorsementsByEndorser endorser start limit) env (run calls) page ↔
          min start ((endorsementsMade calls).countP fun entry => entry.endorser = endorser) +
              limit < u32Range ∧
            page = pageOf ((endorsementsMade calls).filter fun entry => entry.endorser = endorser)
              start limit := by
  have readOff := readOff_run calls
  refine ⟨readOff, made_once calls, made_checked calls, fun env => ⟨fun id count => ?_, ?_⟩⟩
  · simp [Reads, getEndorsementCount, readOff.byAttestation, List.countP_eq_length_filter]
  · intro endorser start limit page
    simp [Reads, returns_listEndorsementsByEndorser, readOff.byEndorser,
      List.countP_eq_length_filter]

end Ledger

section Tiers
variable {Address : Type} [DecidableEq Address]

/-- The tier that a call asks to be given to an issuer. -/
def Call.tierSet? (issuer : Address) (call : Call Address) : Option IssuerTier :=
  match call.op with
  | .admin (.setIssuerTier _ target tier) => if target = issuer then some tier else none
  | _ => none

theorem tier_asked {issuer : Address} {call : Call Address} {tier : IssuerTier}
    (asked : call.tierSet? issuer = some tier) :
    ∃ env admin, call = ⟨env, .admin (.setIssuerTier admin issuer tier)⟩ := by
  obtain ⟨env, op⟩ := call
  unfold Call.tierSet? at asked
  split at asked
  case h_1 admin target given same =>
    obtain rfl : op = _ := same
    split_ifs at asked with here
    rw [here, Option.some.inj asked]
    exact ⟨env, admin, rfl⟩
  case h_2 => cases asked

variable [Host Address] {before after : World Address} {call : Call Address}

/-- A tier is what it was, unless the call sets it. -/
theorem tier_of_accepted (accepted : Accepted before call after) (issuer : Address) :
    after.storage.issuerTier issuer =
      (call.tierSet? issuer).or (before.storage.issuerTier issuer) := by
  obtain ⟨env, op⟩ := call
  cases op with
  | attestation op =>
      exact congrFun (op.kept accepted (·.issuerTier) (fun _ _ => rfl) fun _ _ _ => rfl) issuer
  | request op => exact congrFun ((op.works accepted).kept (·.issuerTier) fun _ _ => rfl) issuer
  | multisig op => exact congrFun ((op.works accepted).kept (·.issuerTier) fun _ _ => rfl) issuer
  | council op =>
      obtain ⟨storage, written, left⟩ := op.leaves accepted
      rw [left.storage]
      cases written <;> rfl
  | admin op =>
      obtain ⟨storage, written, left⟩ := op.leaves accepted
      rw [left.storage]
      cases written with
      | setIssuerTier admin target tier =>
          by_cases here : target = issuer
          · simp [Call.tierSet?, here]
          · simp [Call.tierSet?, here, Function.update_of_ne (Ne.symm here)]
      | _ => rfl

/-- An accepted call sets the tier of the issuer. -/
def SetsTier (issuer : Address) (world : World Address) (call : Call Address) : Prop :=
  Accepted world call (step world call) ∧ (call.tierSet? issuer).isSome = true

/-- The tier that the history has given the issuer last. -/
def LastTier (calls : List (Call Address)) (issuer : Address) (tier : IssuerTier) : Prop :=
  ∃ early env admin late,
    calls = early ++ ⟨env, .admin (.setIssuerTier admin issuer tier)⟩ :: late ∧
      Accepted (run early) ⟨env, .admin (.setIssuerTier admin issuer tier)⟩
        (run (early ++ [⟨env, .admin (.setIssuerTier admin issuer tier)⟩])) ∧
      Trace.Each step (fun world next => ¬ SetsTier issuer world next)
        (run (early ++ [⟨env, .admin (.setIssuerTier admin issuer tier)⟩])) late

theorem tier_kept {world : World Address} {issuer : Address} (other : ¬ SetsTier issuer world call) :
    (step world call).storage.issuerTier issuer = world.storage.issuerTier issuer := by
  rcases step_cases world call with accepted | same
  · rw [tier_of_accepted accepted issuer]
    have unset : call.tierSet? issuer = none := by
      simpa using fun isSet => other ⟨accepted, isSet⟩
    rw [unset, Option.none_or]
  · rw [same]

theorem issuerTier_iff (calls : List (Call Address)) (issuer : Address) (tier : IssuerTier) :
    (run calls).storage.issuerTier issuer = some tier ↔ LastTier calls issuer tier := by
  constructor
  · intro found
    obtain ⟨early, call, late, split, ⟨accepted, isSet⟩, held, quiet⟩ :=
      @Trace.latest_write _ _ step _ (fun world => world.storage.issuerTier issuer)
        (SetsTier issuer) (fun _ _ other => tier_kept other) (World.empty Address) rfl _ _ found
    obtain ⟨given, asked⟩ := Option.isSome_iff_exists.mp isSet
    rw [← run_concat] at accepted
    have written := tier_of_accepted accepted issuer
    rw [asked, Option.some_or] at written
    obtain rfl := Option.some.inj (written.symm.trans held)
    obtain ⟨env, admin, rfl⟩ := tier_asked asked
    exact ⟨early, env, admin, late, split, accepted, quiet⟩
  · rintro ⟨early, env, admin, late, rfl, accepted, quiet⟩
    have written := tier_of_accepted accepted issuer
    have asked : Call.tierSet? issuer ⟨env, .admin (.setIssuerTier admin issuer tier)⟩ =
        some tier := if_pos rfl
    rw [asked, Option.some_or] at written
    rw [List.append_cons, run_append]
    have keeps : ∀ (world : World Address) (next : Call Address),
        world.storage.issuerTier issuer = some tier → ¬ SetsTier issuer world next →
          (step world next).storage.issuerTier issuer = some tier :=
      fun world next held other => (tier_kept other).trans held
    exact Trace.invariant_of_each keeps written quiet

omit [DecidableEq Address] [Host Address] in
theorem answers_hasValidClaimFromTier {storage : Storage Address} {env : Env Address}
    (subject : Address) (claimType : Str) (minTier : IssuerTier) :
    Answers (·.storage) storage (hasValidClaimFromTier subject claimType minTier) env
      ((storage.subjectAttestations subject).any (Finds storage fun attestation =>
        holdsClaim claimType env.timestamp attestation &&
          (storage.issuerTier attestation.issuer).any fun tier => minTier.rank ≤ tier.rank)) := by
  refine (answers_load fun storage => storage.subjectAttestations subject).bind
    (answers_ledgerTimestamp.bind (answers_search (fun id => ?_) _))
  refine (answers_load fun storage => storage.attestation id).bind ?_
  cases found : storage.attestation id with
  | none => simpa [Finds, found] using answers_pure false
  | some attestation =>
      by_cases gone : attestation.deleted = true
      · simpa [Finds, found, holdsClaim, gone] using answers_pure false
      by_cases type : attestation.claimType = claimType
      · by_cases valid : attestation.getStatus env.timestamp = .valid
        · have asks : Answers (·.storage) storage
              (do
                let tier ← Storage.getIssuerTier attestation.issuer
                match tier with
                | none => pure false
                | some tier => pure (decide (minTier.rank ≤ tier.rank))) env
              ((storage.issuerTier attestation.issuer).any fun tier => minTier.rank ≤ tier.rank) := by
            refine (answers_load fun storage => storage.issuerTier attestation.issuer).bind ?_
            cases storage.issuerTier attestation.issuer <;> exact answers_pure _
          simpa [Finds, found, holdsClaim, gone, type, valid] using asks
        · simpa [Finds, found, holdsClaim, gone, type, valid] using answers_pure false
      · simpa [Finds, found, holdsClaim, gone, type] using answers_pure false

/-- A valid attestation for the claim by an issuer whose last tier is at least this one. -/
def ClaimedFrom (calls : List (Call Address)) (now : Nat) (subject : Address) (claimType : Str)
    (minTier : IssuerTier) : Prop :=
  ∃ id attestation, (run calls).storage.attestation id = some attestation ∧
    attestation.subject = subject ∧ attestation.claimType = claimType ∧
    attestation.deleted = false ∧ attestation.getStatus now = .valid ∧
    ∃ tier, LastTier calls attestation.issuer tier ∧ minTier.rank ≤ tier.rank

/-- In every history `has_valid_claim_from_tier` goes by the tier that an issuer was last given,
be it registered or not; a lower tier asks for less, and any asks for a valid claim. -/
theorem tier_claims (sound : Host.Sound Address) (calls : List (Call Address)) (env : Env Address)
    (subject : Address) (claimType : Str) :
    (∀ minTier, Reads (hasValidClaimFromTier subject claimType minTier) env (run calls) true ↔
      ClaimedFrom calls env.timestamp subject claimType minTier) ∧
    (∀ low high, low.rank ≤ high.rank →
      Reads (hasValidClaimFromTier subject claimType high) env (run calls) true →
        Reads (hasValidClaimFromTier subject claimType low) env (run calls) true) ∧
    ∀ minTier, Reads (hasValidClaimFromTier subject claimType minTier) env (run calls) true →
      Reads (hasValidClaim subject claimType) env (run calls) true := by
  have covers := covers_run sound calls
  have exact : ∀ minTier, Reads (hasValidClaimFromTier subject claimType minTier) env (run calls)
      true ↔ ClaimedFrom calls env.timestamp subject claimType minTier := by
    intro minTier
    rw [reads_iff (answers_hasValidClaimFromTier subject claimType minTier), eq_comm]
    refine (any_finds env.timestamp covers.bySubject subject fun attestation passes => by
      simp_all [holdsClaim]).trans ?_
    simp only [ClaimedFrom, ← issuerTier_iff, holdsClaim, Bool.and_eq_true, Bool.not_eq_true',
      Option.any_eq_true, decide_eq_true_eq]
    refine exists_congr fun id => exists_congr fun attestation => ?_
    tauto
  refine ⟨exact, fun low high below => ?_, fun minTier => ?_⟩
  · rw [exact, exact]
    rintro ⟨id, attestation, found, owned, type, undeleted, valid, tier, last, above⟩
    exact ⟨id, attestation, found, owned, type, undeleted, valid, tier, last,
      Nat.le_trans below above⟩
  · rw [exact, reads_hasValidClaim covers]
    rintro ⟨id, attestation, found, owned, type, undeleted, valid, -⟩
    exact ⟨id, attestation, found, owned, type, undeleted, valid⟩

open Xdr in
/-- The issuer of the sample attestation has become a verified one. -/
theorem tier_claims_sample :
    Reads (hasValidClaimFromTier (contractId 2) (ascii "KYC") .basic) sampleIssuance.env
      (run (sampleDeployment ++ [sampleIssuance,
        signed 1001 (contractId 9) (.admin (.setIssuerTier (contractId 9) (contractId 1) .verified))]))
      true := by
  let calls := sampleDeployment ++ [sampleIssuance,
    signed 1001 (contractId 9) (.admin (.setIssuerTier (contractId 9) (contractId 1) .verified))]
  have stored : ((run calls).storage.attestation sampleId).any
      (fun attestation => decide (attestation.subject = contractId 2 ∧
        attestation.claimType = ascii "KYC" ∧ attestation.deleted = false ∧
        attestation.getStatus sampleIssuance.env.timestamp = .valid ∧
        attestation.issuer = contractId 1)) = true := by
    decide +kernel
  have given : (run calls).storage.issuerTier (contractId 1) = some .verified := by decide +kernel
  obtain ⟨attestation, found, holds⟩ := (Option.any_eq_true ..).mp stored
  obtain ⟨owned, type, undeleted, valid, issuer⟩ := of_decide_eq_true holds
  have last : LastTier calls attestation.issuer .verified :=
    (issuerTier_iff ..).mp (issuer ▸ given)
  exact ((tier_claims sampleHost_sound calls sampleIssuance.env (contractId 2) (ascii "KYC")).1
    .basic).mpr ⟨sampleId, attestation, found, owned, type, undeleted, valid, .verified, last,
      by decide⟩

end Tiers

section Scores
variable {Address : Type}

def endorsementBonus (count : Nat) : Nat := min (count * 2) 10

/-- The score of a stored attestation. -/
def Storage.score? (storage : Storage Address) (id : Str) : Option Nat :=
  (storage.attestation id).map fun attestation =>
    tierScore (storage.issuerTier attestation.issuer) +
      endorsementBonus (storage.endorsements id).length

theorem reads_getConfidenceScore {env : Env Address} {world : World Address} (id : Str)
    (value : Option Nat) :
    Reads (getConfidenceScore id) env world value ↔
      ((world.storage.attestation id).isSome = true →
        (world.storage.endorsements id).length * 2 < u32Range) ∧ value = world.storage.score? id := by
  unfold Reads getConfidenceScore Storage.score?
  cases found : world.storage.attestation id with
  | none => simp [found]
  | some attestation => simp [found, endorsementBonus]

theorem tierScore_bounds (tier : Option IssuerTier) : 30 ≤ tierScore tier ∧ tierScore tier ≤ 90 := by
  rcases tier with _ | _ | _ | _ <;> decide

/-- A step between two tiers outweighs all endorsements. -/
theorem tierScore_gap {lower higher : Option IssuerTier} (below : tierScore lower < tierScore higher) :
    tierScore lower + 30 ≤ tierScore higher := by
  rcases lower with _ | _ | _ | _ <;> rcases higher with _ | _ | _ | _ <;>
    simp_all [tierScore]

theorem score_le_iff {lower higher : Option IssuerTier} {fewer more : Nat} (grows : fewer ≤ more) :
    tierScore higher + endorsementBonus fewer ≤ tierScore lower + endorsementBonus more ↔
      tierScore higher ≤ tierScore lower := by
  unfold endorsementBonus
  constructor
  · intro kept
    by_contra fallen
    have gap := tierScore_gap (Nat.lt_of_not_le fallen)
    omega
  · omega

variable [DecidableEq Address] [Host Address] {before after : World Address} {call : Call Address}

/-- No endorsement is withdrawn. -/
theorem endorsements_grow (accepted : Accepted before call after) (id : Str) :
    (before.storage.endorsements id).length ≤ (after.storage.endorsements id).length := by
  cases asked : call.endorsement? with
  | none =>
      have same := (endorsement_tables_kept accepted asked).1
      exact Nat.le_of_eq (congrArg (fun table => (table id).length) same.symm)
  | some entry =>
      obtain ⟨env, endorser, target, rfl, rfl⟩ := endorsement_asked asked
      rw [(endorsement_accepted accepted).2.1]
      by_cases here : id = target
      · simp [here]
      · simp [here]

/-- The call is accepted and lowers the tier behind the attestation: it gives its issuer another
tier, or gives the attestation to another issuer. -/
def LowersTier (id : Str) (world : World Address) (call : Call Address) : Prop :=
  Accepted world call (step world call) ∧ ∃ record later,
    world.storage.attestation id = some record ∧
    (step world call).storage.attestation id = some later ∧
    ((call.tierSet? record.issuer).isSome = true ∨ later.issuer ≠ record.issuer) ∧
    tierScore ((step world call).storage.issuerTier later.issuer) <
      tierScore (world.storage.issuerTier record.issuer)

/-- The attestation keeps a score at least as high. -/
def Rises (id : Str) (earlier later : World Address) : Prop :=
  ∀ score, earlier.storage.score? id = some score →
    ∃ higher, later.storage.score? id = some higher ∧ score ≤ higher

theorem rises_step_iff {world : World Address} (keyed : Keyed world.storage.register) (id : Str)
    (call : Call Address) :
    Rises id world (step world call) ↔ ¬ LowersTier id world call := by
  rcases step_outcome world call with accepted | ⟨same, refused⟩
  · cases found : world.storage.attestation id with
    | none =>
        refine iff_of_true (fun score scored => ?_) ?_
        · simp [Storage.score?, found] at scored
        · rintro ⟨-, record, later, stored, -⟩
          cases found.symm.trans stored
    | some record =>
        obtain ⟨later, there⟩ : ∃ later, (step world call).storage.attestation id = some later := by
          refine Option.ne_none_iff_exists'.mp fun free => ?_
          cases found.symm.trans (free_of_accepted keyed accepted free)
        have rises : Rises id world (step world call) ↔
            tierScore (world.storage.issuerTier record.issuer) ≤
              tierScore ((step world call).storage.issuerTier later.issuer) := by
          rw [← score_le_iff (endorsements_grow accepted id)]
          simp [Rises, Storage.score?, found, there]
        rw [rises, ← Nat.not_lt, not_iff_not]
        constructor
        · intro below
          refine ⟨accepted, record, later, found, there, ?_, below⟩
          by_contra neither
          push Not at neither
          obtain ⟨unset, same⟩ := neither
          rw [same, tier_of_accepted accepted, Option.not_isSome_iff_eq_none.mp unset,
            Option.none_or] at below
          exact Nat.lt_irrefl _ below
        · rintro ⟨-, stored, now, atFirst, atLast, -, below⟩
          obtain rfl := Option.some.inj (atFirst.symm.trans found)
          obtain rfl := Option.some.inj (atLast.symm.trans there)
          exact below
  · refine iff_of_true ?_ fun lowers => refused _ lowers.1
    rw [same]
    exact fun score scored => ⟨score, scored, Nat.le_refl _⟩

/-- The score never falls from one state of the history to a later one. -/
def NeverFalls (id : Str) (calls : List (Call Address)) : Prop :=
  ∀ early middle late, calls = early ++ middle ++ late → Rises id (run early) (run (early ++ middle))

/-- In every history the score of a stored attestation is the score of its issuer's tier and a
bonus of two for each endorsement, up to ten; and it never falls exactly if no accepted call gives
the issuer a tier of lower score or the attestation to an issuer with one. -/
theorem confidence_falls_iff (calls : List (Call Address)) (id : Str) :
    (∀ env value, Reads (getConfidenceScore id) env (run calls) value ↔
      (((run calls).storage.attestation id).isSome = true →
        ((run calls).storage.endorsements id).length * 2 < u32Range) ∧
      value = (run calls).storage.score? id) ∧
    (∀ score, (run calls).storage.score? id = some score → 30 ≤ score ∧ score ≤ 100) ∧
    (NeverFalls id calls ↔
      Trace.Each step (fun world call => ¬ LowersTier id world call) (World.empty Address) calls) := by
  refine ⟨fun env value => reads_getConfidenceScore id value, fun score scored => ?_, ?_, ?_⟩
  · obtain ⟨attestation, -, rfl⟩ := Option.map_eq_some_iff.mp scored
    have bounds := tierScore_bounds ((run calls).storage.issuerTier attestation.issuer)
    unfold endorsementBonus
    omega
  · intro never
    rw [Trace.each_iff]
    intro early call late split
    have rises := never early [call] late (by rw [split, List.append_assoc]; rfl)
    rw [run_concat] at rises
    exact (rises_step_iff (keyed_run early) id call).mp rises
  · rintro unlowered early middle late rfl
    have sofar := (Trace.each_append.mp unlowered).1
    clear unlowered
    induction middle using List.reverseRecOn with
    | nil =>
        rw [List.append_nil]
        exact fun score scored => ⟨score, scored, Nat.le_refl _⟩
    | append_singleton middle call ih =>
        rw [← List.append_assoc] at sofar ⊢
        obtain ⟨before, passed, -⟩ := Trace.each_append.mp sofar
        rw [run_concat]
        have last := (rises_step_iff (keyed_run (early ++ middle)) id call).mpr passed
        intro score scored
        obtain ⟨between, reached, above⟩ := ih before score scored
        obtain ⟨final, scoredLast, higher⟩ := last between reached
        exact ⟨final, scoredLast, Nat.le_trans above higher⟩

end Scores

end TrustLink
