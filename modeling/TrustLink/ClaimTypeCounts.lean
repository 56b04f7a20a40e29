import TrustLink.Lib.Census
import TrustLink.PublicCalls
import TrustLink.Warrants

/-!
The counts of the claim types. `store_attestation` of lib.rs counts what it stores, the one
of attestation.rs does not; the revocations of lib.rs take from the counts.
-/
namespace TrustLink
open Transaction

section Counts
variable {Address : Type}

/-- An attestation that the analytics are to count for the claim type. -/
def ActiveOf (claimType : Str) (attestation : Attestation Address) : Prop :=
  attestation.claimType = claimType ∧ attestation.revoked = false

/-- `get_claim_type_count` is the number of active attestations. -/
def CountsMatch (storage : Storage Address) : Prop :=
  ∀ claimType, storage.claimTypeCount claimType =
    Census.count storage.attestation (ActiveOf claimType)

/-- What every reachable storage is like. -/
structure Countable (storage : Storage Address) : Prop where
  own : OwnIds storage
  finite : (Census.stored storage.attestation).Finite
  fits : ∀ claimType, storage.claimTypeCount claimType < u64Range

variable {storage : Storage Address}

/-- A record may be written under its own id. -/
theorem Countable.enter {later : Storage Address} {record : Attestation Address}
    (countable : Countable storage)
    (stored : later.attestation = Function.update storage.attestation record.id (some record))
    (fits : ∀ claimType, later.claimTypeCount claimType < u64Range) : Countable later where
  own := by
    intro id attestation found
    rw [stored] at found
    by_cases here : id = record.id
    · rw [here, Function.update_self] at found
      rw [here, Option.some.inj found]
    · rw [Function.update_of_ne here] at found
      exact countable.own id attestation found
  finite := by
    rw [stored]
    exact Census.finite_update countable.finite
  fits := fits

theorem fits_withdrawn (countable : Countable storage) (claimType other : Str) :
    Function.update storage.claimTypeCount claimType (storage.claimTypeCount claimType - 1) other <
      u64Range := by
  by_cases here : other = claimType
  · rw [here, Function.update_self]
    exact Nat.lt_of_le_of_lt (Nat.sub_le ..) (countable.fits claimType)
  · rw [Function.update_of_ne here]
    exact countable.fits other

/-- Nothing is counted when no record and no count changes. -/
theorem counted_of_kept {later : Storage Address} (countable : Countable storage)
    (records : later.attestation = storage.attestation)
    (counts : later.claimTypeCount = storage.claimTypeCount) :
    Countable later ∧ (CountsMatch later ↔ CountsMatch storage) := by
  refine ⟨⟨?_, ?_, ?_⟩, ?_⟩
  · rw [OwnIds, records]
    exact countable.own
  · rw [records]
    exact countable.finite
  · rw [counts]
    exact countable.fits
  · rw [CountsMatch, CountsMatch, records, counts]

/-- A record that is not counted leaves its claim type one short. -/
theorem uncounted_of_stored {later : Storage Address} {record : Attestation Address}
    (countable : Countable storage) (matching : CountsMatch storage)
    (fresh : storage.attestation record.id = none) (active : record.revoked = false)
    (stored : later.attestation = Function.update storage.attestation record.id (some record))
    (counts : later.claimTypeCount = storage.claimTypeCount) :
    Countable later ∧ ¬ CountsMatch later := by
  refine ⟨countable.enter stored (by rw [counts]; exact countable.fits), fun later => ?_⟩
  have one := later record.claimType
  rw [stored, counts, matching, Census.count_add countable.finite fresh ⟨rfl, active⟩] at one
  omega

/-- The record under the id is of the claim type. -/
def TypedAs (storage : Storage Address) (claimType id : Str) : Prop :=
  (storage.attestation id).map (·.claimType) = some claimType

instance (storage : Storage Address) (claimType : Str) :
    DecidablePred (TypedAs storage claimType) :=
  fun id => inferInstanceAs
    (Decidable ((storage.attestation id).map (·.claimType) = some claimType))

section Turns
variable [DecidableEq Address] {issuer : Address} {reason : Option Str} {timestamp : Nat}

theorem attestation_turn (own : OwnIds storage) (first id : Str) :
    (Entry.revokeTurn issuer reason timestamp storage first).attestation id =
      if id = first then
        (storage.attestation id).map fun attestation =>
          { attestation with revoked := true, revocationReason := reason }
      else storage.attestation id := by
  cases found : storage.attestation first with
  | none =>
      have same : Entry.revokeTurn issuer reason timestamp storage first = storage := by
        rw [Entry.revokeTurn, found]
      by_cases here : id = first
      · simp [same, here, found]
      · simp [same, here]
  | some attestation =>
      have named := own first attestation found
      rw [revokeTurn_of_found found, withEntryTurn]
      by_cases here : id = first
      · simp [here, named, found]
      · simp [here, named]

theorem ownIds_turn (own : OwnIds storage) (first : Str) :
    OwnIds (Entry.revokeTurn issuer reason timestamp storage first) := by
  intro id attestation found
  rw [attestation_turn own] at found
  split at found
  · obtain ⟨before, stored, rfl⟩ := Option.map_eq_some_iff.mp found
    exact own id before stored
  · exact own id attestation found

/-- A revocation leaves the claim type of every record. -/
theorem typedAs_turn (own : OwnIds storage) (first claimType : Str) :
    TypedAs (Entry.revokeTurn issuer reason timestamp storage first) claimType =
      TypedAs storage claimType := by
  funext id
  rw [TypedAs, attestation_turn own, TypedAs]
  split
  · rw [Option.map_map]
    rfl
  · rfl

/-- The records that the second loop of a batch revocation leaves. -/
theorem attestation_turns (own : OwnIds storage) (ids : List Str) (id : Str) :
    (Trace.run (Entry.revokeTurn issuer reason timestamp) storage ids).attestation id =
      if id ∈ ids then
        (storage.attestation id).map fun attestation =>
          { attestation with revoked := true, revocationReason := reason }
      else storage.attestation id := by
  induction ids generalizing storage with
  | nil => rfl
  | cons first rest ih =>
      rw [Trace.run_cons, ih (ownIds_turn own first), attestation_turn own]
      by_cases here : id = first
      · subst here
        -- a second revocation writes what the first one has written
        by_cases again : id ∈ rest <;> simp [again, Function.comp_def]
      · simp [here]

theorem count_turn (first claimType : Str) :
    (Entry.revokeTurn issuer reason timestamp storage first).claimTypeCount claimType =
      storage.claimTypeCount claimType - if TypedAs storage claimType first then 1 else 0 := by
  cases found : storage.attestation first with
  | none => simp [Entry.revokeTurn, found, TypedAs]
  | some attestation =>
      rw [revokeTurn_of_found found, withEntryTurn]
      by_cases here : claimType = attestation.claimType
      · subst here
        simp [TypedAs, found]
      · simp [TypedAs, found, here, Ne.symm here]

/-- The counts fall once for each turn. -/
theorem counts_turns (own : OwnIds storage) (ids : List Str) (claimType : Str) :
    (Trace.run (Entry.revokeTurn issuer reason timestamp) storage ids).claimTypeCount claimType =
      storage.claimTypeCount claimType - (ids.filter (TypedAs storage claimType)).length := by
  induction ids generalizing storage with
  | nil => simp
  | cons first rest ih =>
      have later := @ih (Entry.revokeTurn issuer reason timestamp storage first)
        (ownIds_turn own first)
      rw [Trace.run_cons]
      by_cases typed : TypedAs storage claimType first
      · rw [later, count_turn, List.filter_cons_of_pos (by simpa using typed), if_pos typed]
        simp only [typedAs_turn own, List.length_cons]
        omega
      · rw [later, count_turn, List.filter_cons_of_neg (by simpa using typed), if_neg typed]
        simp only [typedAs_turn own, Nat.sub_zero]

theorem countable_turn (countable : Countable storage) (first : Str) :
    Countable (Entry.revokeTurn issuer reason timestamp storage first) := by
  cases found : storage.attestation first with
  | none =>
      rw [Entry.revokeTurn, found]
      exact countable
  | some attestation =>
      rw [revokeTurn_of_found found]
      exact @Countable.enter _ _ _ { attestation with revoked := true, revocationReason := reason }
        countable rfl (fits_withdrawn countable attestation.claimType)

theorem countable_turns (countable : Countable storage) (ids : List Str) :
    Countable (Trace.run (Entry.revokeTurn issuer reason timestamp) storage ids) :=
  @Trace.invariant_of_steps _ _ _ Countable (fun _ first holds => countable_turn holds first) _
    countable ids

/-- An id of the claim type is listed twice, and not every active attestation of the claim
type is listed. -/
def RepeatsId (storage : Storage Address) (ids : List Str) : Prop :=
  ∃ claimType, ¬ (ids.filter (TypedAs storage claimType)).Nodup ∧
    ∃ id ∈ Census.keys storage.attestation (ActiveOf claimType), id ∉ ids

omit [DecidableEq Address] in
theorem listed_active {ids : List Str} (claimType : Str)
    (active : ∀ id ∈ ids, ∃ record, storage.attestation id = some record ∧ record.revoked = false) :
    ∀ id ∈ ids.filter (TypedAs storage claimType),
      id ∈ Census.keys storage.attestation (ActiveOf claimType) := by
  intro id member
  obtain ⟨listed, typed⟩ := List.mem_filter.mp member
  obtain ⟨record, found, unrevoked⟩ := active id listed
  rw [decide_eq_true_iff, TypedAs, found] at typed
  exact ⟨record, found, Option.some.inj typed, unrevoked⟩

/-- What is active after the turns was active before, and is not listed. -/
theorem mem_keys_turns (own : OwnIds storage) (ids : List Str) (claimType id : Str) :
    id ∈ Census.keys (Trace.run (Entry.revokeTurn issuer reason timestamp) storage
        ids).attestation (ActiveOf claimType) ↔
      id ∈ Census.keys storage.attestation (ActiveOf claimType) ∧
        id ∉ ids.filter (TypedAs storage claimType) := by
  constructor
  · rintro ⟨record, found, typed, unrevoked⟩
    rw [attestation_turns own] at found
    split at found
    · obtain ⟨before, -, rfl⟩ := Option.map_eq_some_iff.mp found
      cases unrevoked
    · rename_i unlisted
      exact ⟨⟨record, found, typed, unrevoked⟩, fun member =>
        unlisted (List.mem_filter.mp member).1⟩
  · rintro ⟨⟨record, found, typed, unrevoked⟩, unlisted⟩
    have away : id ∉ ids := fun member => unlisted (List.mem_filter.mpr
      ⟨member, by simp [TypedAs, found, typed]⟩)
    exact ⟨record, by rw [attestation_turns own, if_neg away, found], typed, unrevoked⟩

/-- A repeated id is taken from the counts twice. -/
theorem countsMatch_turns_iff (countable : Countable storage) (counts : CountsMatch storage)
    {ids : List Str}
    (active : ∀ id ∈ ids, ∃ record, storage.attestation id = some record ∧ record.revoked = false) :
    CountsMatch (Trace.run (Entry.revokeTurn issuer reason timestamp) storage ids) ↔
      ¬ RepeatsId storage ids := by
  have among := fun claimType => listed_active claimType active
  rw [RepeatsId, not_exists]
  refine forall_congr' fun claimType => ?_
  rw [counts_turns countable.own, counts claimType,
    Census.count_withdraw (among claimType) (mem_keys_turns countable.own ids claimType),
    Census.withdrawals_iff countable.finite (among claimType), not_and_or, Classical.not_not]
  refine or_congr_right ⟨fun all => ?_, fun none id member => ?_⟩
  · rintro ⟨id, member, away⟩
    exact away (List.mem_filter.mp (all id member)).1
  · by_contra unlisted
    refine none ⟨id, member, fun listed => unlisted ?_⟩
    obtain ⟨record, found, typed, -⟩ := member
    exact List.mem_filter.mpr ⟨listed, by simp [TypedAs, found, typed]⟩

end Turns

section Issuance
variable [DecidableEq Address] {records : List (Attestation Address)} {claimType : Str}

theorem countable_listed (countable : Countable storage) (record : Attestation Address) :
    Countable (withEntryListed storage record) := by
  refine countable.enter rfl fun claimType => ?_
  change Function.update storage.claimTypeCount record.claimType
    (saturatingAddU64 (storage.claimTypeCount record.claimType) 1) claimType < _
  by_cases here : claimType = record.claimType
  · rw [here, Function.update_self, saturatingAddU64]
    exact Nat.lt_of_le_of_lt (Nat.min_le_right ..) (by decide)
  · rw [Function.update_of_ne here]
    exact countable.fits claimType

/-- What the loop of a batch stores is counted, up to the largest count there is. -/
theorem counted_listed (countable : Countable storage)
    (typed : ∀ record ∈ records, ActiveOf claimType record)
    (fresh : Trace.Each withEntryListed
      (fun storage record => storage.attestation record.id = none) storage records) :
    Countable (Trace.run withEntryListed storage records) ∧
      (∀ other, Census.count (Trace.run withEntryListed storage records).attestation
          (ActiveOf other) = Census.count storage.attestation (ActiveOf other) +
            if other = claimType then records.length else 0) ∧
      ∀ other, (Trace.run withEntryListed storage records).claimTypeCount other =
        if other = claimType then
          min (storage.claimTypeCount other + records.length) (u64Range - 1)
        else storage.claimTypeCount other := by
  -- the census grows by every record, the count only as far as 64 bits go
  induction records generalizing storage with
  | nil =>
      refine ⟨countable, fun other => by simp, fun other => ?_⟩
      have fits := countable.fits other
      rw [Trace.run_nil, List.length_nil]
      split
      · omega
      · rfl
  | cons record rest ih =>
      obtain ⟨named, unrevoked⟩ := typed record List.mem_cons_self
      obtain ⟨later, census, counts⟩ := ih (countable_listed countable record)
        (fun next member => typed next (List.mem_cons_of_mem _ member)) fresh.2
      have stored : (withEntryListed storage record).attestation =
        Function.update storage.attestation record.id (some record) := rfl
      have counted : (withEntryListed storage record).claimTypeCount =
        Function.update storage.claimTypeCount record.claimType
          (saturatingAddU64 (storage.claimTypeCount record.claimType) 1) := rfl
      rw [Trace.run_cons]
      refine ⟨later, fun other => ?_, fun other => ?_⟩
      · rw [census other, stored]
        by_cases here : other = claimType
        · have kept : ActiveOf other record := ⟨named.trans here.symm, unrevoked⟩
          rw [Census.count_add countable.finite fresh.1 kept, if_pos here, if_pos here,
            List.length_cons]
          omega
        · have dropped : ¬ ActiveOf other record := fun kept =>
            here (kept.1.symm.trans named)
          rw [Census.count_add_other fresh.1 dropped, if_neg here, if_neg here]
      · rw [counts other, counted, named]
        by_cases here : other = claimType
        · rw [if_pos here, if_pos here, here, Function.update_self, saturatingAddU64,
            List.length_cons]
          omega
        · rw [if_neg here, if_neg here, Function.update_of_ne here]

/-- A batch is counted unless its claim type runs out of counts. -/
theorem countsMatch_listed_iff (countable : Countable storage) (counts : CountsMatch storage)
    (typed : ∀ record ∈ records, ActiveOf claimType record)
    (fresh : Trace.Each withEntryListed
      (fun storage record => storage.attestation record.id = none) storage records) :
    CountsMatch (Trace.run withEntryListed storage records) ↔
      storage.claimTypeCount claimType + records.length < u64Range := by
  obtain ⟨-, census, counted⟩ := counted_listed countable typed fresh
  constructor
  · intro later
    have matching := later claimType
    rw [census, counted, if_pos rfl, if_pos rfl, ← counts claimType] at matching
    have positive : 0 < u64Range := by decide
    omega
  · intro room other
    rw [census, counted]
    by_cases here : other = claimType
    · rw [if_pos here, if_pos here, ← counts other, here]
      omega
    · rw [if_neg here, if_neg here, counts other]
      rfl

end Issuance

section Calls
variable [DecidableEq Address]

/-- The entry points of the analytics, and those that set the contract up. -/
inductive Analysed : Entry.Op Address → Prop
  | createAttestation {issuer subject : Address} {claimType : Str} {expiration : Option Nat}
      {metadata : Option Str} {tags : Option (List Str)} :
      Analysed (.delegated (.attestation
        (.createAttestation issuer subject claimType expiration metadata tags)))
  | importAttestation {admin issuer subject : Address} {claimType : Str} {timestamp : Nat}
      {expiration : Option Nat} :
      Analysed (.delegated (.attestation
        (.importAttestation admin issuer subject claimType timestamp expiration)))
  | createAttestationsBatch {issuer : Address} {subjects : List Address} {claimType : Str}
      {expiration : Option Nat} :
      Analysed (.createAttestationsBatch issuer subjects claimType expiration)
  | bridgeAttestation {bridge subject : Address} {claimType sourceChain sourceTx : Str} :
      Analysed (.bridgeAttestation bridge subject claimType sourceChain sourceTx)
  | revokeAttestation {issuer : Address} {id : Str} {reason : Option Str} :
      Analysed (.revokeAttestation issuer id reason)
  | revokeAttestationsBatch {issuer : Address} {ids : List Str} {reason : Option Str} :
      Analysed (.revokeAttestationsBatch issuer ids reason)
  | council {op : CouncilOp Address} : Analysed (.delegated (.council op))
  | admin {op : AdminOp Address} : Analysed (.delegated (.admin op))
  | setRequireRegisteredClaimType {admin : Address} {required : Bool} :
      Analysed (.setRequireRegisteredClaimType admin required)

variable [Host Address]

/-- A call that passes its checks and counts wrongly. -/
inductive Miscounts (storage : Storage Address) (env : Env Address) : Entry.Op Address → Prop
  | createAttestation {issuer subject : Address} {claimType : Str} {expiration : Option Nat}
      {metadata : Option Str} {tags : Option (List Str)}
      (checks : Contract.CreateChecks storage env issuer subject claimType expiration metadata none
        tags none { nativeRecord issuer subject claimType env.timestamp with
          expiration, metadata, tags })
      (fee : ∃ paid, FeePaid storage.feeConfig env issuer paid) :
      Miscounts storage env (.delegated (.attestation
        (.createAttestation issuer subject claimType expiration metadata tags)))
  | importAttestation {admin issuer subject : Address} {claimType : Str} {timestamp : Nat}
      {expiration : Option Nat}
      (checks : Contract.ImportChecks storage env admin issuer timestamp expiration
        { nativeRecord issuer subject claimType timestamp with origin := .imported, expiration }) :
      Miscounts storage env (.delegated (.attestation
        (.importAttestation admin issuer subject claimType timestamp expiration)))
  | createAttestationsBatch {issuer : Address} {subjects : List Address} {claimType : Str}
      {expiration : Option Nat}
      (checks : Entry.BatchChecks storage env issuer subjects claimType expiration
        (subjects.map (Contract.batchRecord issuer claimType expiration env.timestamp)))
      (full : u64Range ≤ storage.claimTypeCount claimType + subjects.length) :
      Miscounts storage env (.createAttestationsBatch issuer subjects claimType expiration)
  | bridgeAttestation {bridge subject : Address} {claimType sourceChain sourceTx : Str}
      (checks : Entry.BridgeChecks storage env bridge sourceChain sourceTx
        { Attestation.issued
          (Attestation.generateBridgeId bridge subject claimType sourceChain sourceTx env.timestamp)
          bridge subject claimType env.timestamp .bridged with
            sourceChain := some sourceChain, sourceTx := some sourceTx })
      (full : u64Range ≤ storage.claimTypeCount claimType + 1) :
      Miscounts storage env (.bridgeAttestation bridge subject claimType sourceChain sourceTx)
  | revokeAttestationsBatch {issuer : Address} {ids : List Str} {reason : Option Str}
      (checks : issuer ∈ env.auths ∧ storage.issuer issuer = true ∧
        validateReason reason = .ok () ∧ ids.length ≤ 50 ∧
        (∀ id ∈ ids, ∃ record, Contract.Revocable issuer storage id record) ∧
        (ids ≠ [] → TtlFits storage.ttlConfig))
      (repeats : RepeatsId storage ids) :
      Miscounts storage env (.revokeAttestationsBatch issuer ids reason)

omit [DecidableEq Address] [Host Address] in
/-- A revocation takes its record from the count of its claim type. -/
theorem countsMatch_revoked {later : Storage Address} {id : Str}
    {record revoked : Attestation Address}
    (own : OwnIds storage) (counts : CountsMatch storage)
    (found : storage.attestation id = some record) (active : record.revoked = false)
    (dropped : revoked.revoked = true)
    (stored : later.attestation = Function.update storage.attestation record.id (some revoked))
    (counted : later.claimTypeCount = Function.update storage.claimTypeCount record.claimType
      (storage.claimTypeCount record.claimType - 1)) : CountsMatch later := by
  obtain rfl := own id record found
  have gone : ∀ other, ¬ ActiveOf other revoked := fun other kept =>
    Bool.false_ne_true (kept.2.symm.trans dropped)
  intro other
  rw [stored, counted]
  by_cases here : other = record.claimType
  · rw [here, Function.update_self, Census.count_leave found ⟨rfl, active⟩ (gone _), counts]
  · have elsewhere : ¬ ActiveOf other record := fun kept => here kept.1.symm
    rw [Function.update_of_ne here,
      Census.count_replace found (iff_of_false elsewhere (gone other)), counts]

variable {before after : World Address} {call : Entry.Call Address}

/-- An accepted call counts rightly exactly when it is none that miscounts. -/
theorem counted_of_accepted (countable : Countable before.storage)
    (counts : CountsMatch before.storage) (analysed : Analysed call.op)
    (accepted : Entry.Accepted before call after) :
    Countable after.storage ∧
      (CountsMatch after.storage ↔ ¬ Miscounts before.storage call.env call.op) := by
  obtain ⟨env, _⟩ := call
  cases analysed with
  | createAttestation =>
      obtain ⟨id, accepted⟩ := (returns_void ..).mp accepted
      obtain ⟨checks, -, paid, fee, rfl⟩ :=
        (Contract.returns_createAttestationInternal _ _ _ _ _ _ _ _ _ _ rfl).mp accepted
      refine And.imp_right (fun short => ?_)
        (uncounted_of_stored countable counts checks.fresh rfl rfl rfl)
      exact iff_of_false short fun right => right (.createAttestation checks ⟨paid, fee⟩)
  | importAttestation =>
      obtain ⟨id, accepted⟩ := (returns_void ..).mp accepted
      obtain ⟨checks, -, rfl⟩ :=
        (Contract.returns_importAttestation _ _ _ _ _ _ _ _ rfl).mp accepted
      refine And.imp_right (fun short => ?_)
        (uncounted_of_stored countable counts checks.fresh rfl rfl rfl)
      exact iff_of_false short fun right => right (.importAttestation checks)
  | @createAttestationsBatch issuer subjects claimType expiration =>
      obtain ⟨ids, accepted⟩ := (returns_void ..).mp accepted
      obtain ⟨checks, -, rfl⟩ := (returns_entryBatch _ _ _ _ _ _ rfl).mp accepted
      have typed : ∀ record ∈ subjects.map (Contract.batchRecord issuer claimType expiration
          env.timestamp), ActiveOf claimType record := by
        intro record member
        obtain ⟨subject, -, rfl⟩ := List.mem_map.mp member
        exact ⟨rfl, rfl⟩
      have fresh := checks.listable.imp fun _ _ listable => listable.fresh
      obtain ⟨later, -⟩ := counted_listed countable typed fresh
      refine ⟨⟨later.own, later.finite, later.fits⟩, ?_⟩
      refine (countsMatch_listed_iff countable counts typed fresh).trans ?_
      rw [List.length_map, ← Nat.not_le]
      exact not_congr ⟨fun full => .createAttestationsBatch checks full,
        fun | .createAttestationsBatch _ full => full⟩
  | bridgeAttestation =>
      obtain ⟨id, accepted⟩ := (returns_void ..).mp accepted
      obtain ⟨checks, -, rfl⟩ := (returns_entryBridge _ _ _ _ _ _ _ rfl).mp accepted
      -- a bridge is a batch of one record
      have matched := @countsMatch_listed_iff _ _ _ [_] _ countable counts
        (fun record member => by
          rw [List.mem_singleton.mp member]
          exact ⟨rfl, rfl⟩) ⟨checks.fresh, trivial⟩
      obtain ⟨own, finite, fits⟩ := countable_listed countable _
      refine ⟨⟨own, finite, fits⟩, matched.trans ?_⟩
      rw [List.length_singleton, ← Nat.not_le]
      exact not_congr ⟨fun full => .bridgeAttestation checks full,
        fun | .bridgeAttestation _ full => full⟩
  | @revokeAttestation issuer id reason =>
      obtain ⟨attestation, managed, -, rfl⟩ := (returns_entryRevoke ..).mp accepted
      exact ⟨@Countable.enter _ _ _ { attestation with revoked := true, revocationReason := reason }
          countable rfl (fits_withdrawn countable attestation.claimType),
        iff_of_true (countsMatch_revoked countable.own counts managed.found managed.active rfl rfl
          rfl) nofun⟩
  | revokeAttestationsBatch =>
      obtain ⟨total, accepted⟩ := (returns_void ..).mp accepted
      obtain ⟨checks, -, rfl⟩ := (returns_entryRevokeBatch ..).mp accepted
      have revocable := checks.2.2.2.2.1
      have active : ∀ id ∈ _, ∃ record, before.storage.attestation id = some record ∧
          record.revoked = false := fun id member => by
        obtain ⟨record, revoked⟩ := revocable id member
        exact ⟨record, revoked.found, revoked.active⟩
      refine ⟨countable_turns countable _, (countsMatch_turns_iff countable counts active).trans ?_⟩
      exact not_congr ⟨fun repeats => .revokeAttestationsBatch checks repeats,
        fun | .revokeAttestationsBatch _ repeats => repeats⟩
  | @council op =>
      have governs : Governs before.storage after.storage := op.governs accepted
      obtain ⟨later, same⟩ := counted_of_kept countable
        (governs.kept (·.attestation) fun _ _ => rfl)
        (governs.kept (·.claimTypeCount) fun _ _ => rfl)
      exact ⟨later, iff_of_true (same.mpr counts) nofun⟩
  | @admin op =>
      have governs : Governs before.storage after.storage := op.governs accepted
      obtain ⟨later, same⟩ := counted_of_kept countable
        (governs.kept (·.attestation) fun _ _ => rfl)
        (governs.kept (·.claimTypeCount) fun _ _ => rfl)
      exact ⟨later, iff_of_true (same.mpr counts) nofun⟩
  | setRequireRegisteredClaimType =>
      obtain ⟨-, rfl⟩ := (returns_entrySwitch ..).mp accepted
      exact ⟨⟨countable.own, countable.finite, countable.fits⟩, iff_of_true counts nofun⟩

/-- A call that miscounts is accepted. -/
theorem accepted_of_miscounts (miscounts : Miscounts before.storage call.env call.op) :
    ∃ later, Entry.Accepted before call later := by
  obtain ⟨env, _⟩ := call
  cases miscounts with
  | createAttestation checks fee =>
      obtain ⟨paid, fee⟩ := fee
      exact ⟨_, (returns_void ..).mpr ⟨_, (Contract.returns_createAttestationInternal
        _ _ _ _ _ _ _ _ _ _ rfl).mpr ⟨checks, rfl, paid, fee, rfl⟩⟩⟩
  | importAttestation checks =>
      exact ⟨_, (returns_void ..).mpr ⟨_, (Contract.returns_importAttestation
        _ _ _ _ _ _ _ _ rfl).mpr ⟨checks, rfl, rfl⟩⟩⟩
  | createAttestationsBatch checks full =>
      exact ⟨_, (returns_void ..).mpr ⟨_, (returns_entryBatch _ _ _ _ _ _ rfl).mpr
        ⟨checks, rfl, rfl⟩⟩⟩
  | bridgeAttestation checks full =>
      exact ⟨_, (returns_void ..).mpr ⟨_, (returns_entryBridge _ _ _ _ _ _ _ rfl).mpr
        ⟨checks, rfl, rfl⟩⟩⟩
  | revokeAttestationsBatch checks repeats =>
      exact ⟨_, (returns_void ..).mpr ⟨_, (returns_entryRevokeBatch ..).mpr ⟨checks, rfl, rfl⟩⟩⟩

/-- A call keeps the counts right exactly when it is none that miscounts. -/
theorem counted_step_iff {world : World Address} (analysed : Analysed call.op)
    (countable : Countable world.storage) (counts : CountsMatch world.storage) :
    Countable (Entry.step world call).storage ∧ (CountsMatch (Entry.step world call).storage ↔
      ¬ Miscounts world.storage call.env call.op) := by
  rcases Entry.step_cases world call with accepted | same
  · exact counted_of_accepted countable counts analysed accepted
  · rw [same]
    refine ⟨countable, iff_of_true counts fun miscounts => ?_⟩
    obtain ⟨after, accepted⟩ := accepted_of_miscounts miscounts
    have left := Entry.step_of_accepted accepted
    obtain rfl := same.symm.trans left
    exact (counted_of_accepted countable counts analysed accepted).2.mp counts miscounts

omit [DecidableEq Address] [Host Address] in
theorem countable_empty : Countable (World.empty Address).storage where
  own := by
    intro id attestation found
    cases found
  finite := by
    rw [Census.stored, show (World.empty Address).storage.attestation = fun _ => none from rfl,
      Census.keys_empty]
    exact Set.finite_empty
  fits := by
    intro claimType
    exact (by decide : 0 < u64Range)

omit [DecidableEq Address] [Host Address] in
theorem countsMatch_empty : CountsMatch (World.empty Address).storage := by
  intro claimType
  rw [show (World.empty Address).storage.attestation = fun _ => none from rfl, Census.count_empty]
  rfl

/-- The counts are those of the active attestations in exactly the runs of the entry points
in which no call miscounts. -/
theorem claim_type_counts_iff (calls : List (Entry.Call Address))
    (listed : ∀ call ∈ calls, Analysed call.op) :
    (∀ early late, calls = early ++ late → CountsMatch (Entry.run early).storage) ↔
      Trace.Each Entry.step (fun world call => ¬ Miscounts world.storage call.env call.op)
        (World.empty Address) calls := by
  exact @Trace.always_iff_each_of _ _ Entry.step
    (fun call : Entry.Call Address => Analysed call.op) _
    (fun world => Countable world.storage) (fun world => CountsMatch world.storage)
    (fun _ _ analysed countable counts => counted_step_iff analysed countable counts) _
    countable_empty countsMatch_empty calls listed

end Calls

end Counts

section Counting
open Xdr

/-- Issuer 1 attests KYC of contracts 2 and 4 in one batch and revokes the second. -/
def countedRun : List (Entry.Call ContractId) :=
  sampleDeployment.map (fun call => ⟨call.env, .delegated call.op⟩) ++ [
    ⟨⟨1000, [contractId 1], fun _ => true, fun _ => true⟩,
      .createAttestationsBatch (contractId 1) [contractId 2, contractId 4] (ascii "KYC") none⟩,
    ⟨⟨1001, [contractId 1], fun _ => true, fun _ => true⟩, .revokeAttestationsBatch (contractId 1)
      [Attestation.generateId (contractId 1) (contractId 4) (ascii "KYC") 1000] none⟩]

theorem analysed_countedRun : ∀ call ∈ countedRun, Analysed call.op := by
  intro call member
  simp only [countedRun, sampleDeployment, signed, List.map_cons, List.map_nil, List.cons_append,
    List.nil_append, List.mem_cons, List.not_mem_nil, or_false] at member
  rcases member with rfl | rfl | rfl | rfl | rfl
  · exact .council
  · exact .admin
  · exact .admin
  · exact .createAttestationsBatch
  · exact .revokeAttestationsBatch

theorem claim_type_counts_sample :
    (Entry.run countedRun).storage.claimTypeCount (ascii "KYC") = 1 ∧
      ((∀ early late, countedRun = early ++ late → CountsMatch (Entry.run early).storage) ↔
        Trace.Each Entry.step (fun world call => ¬ Miscounts world.storage call.env call.op)
          (World.empty ContractId) countedRun) :=
  ⟨by decide +kernel, claim_type_counts_iff countedRun analysed_countedRun⟩

/-- Issuer 1 attests KYC of contract 2. -/
def uncountedRun : List (Entry.Call ContractId) :=
  (sampleDeployment ++ [sampleIssuance]).map fun call => ⟨call.env, .delegated call.op⟩

theorem created_attestation_not_counted :
    (Entry.run uncountedRun).storage.claimTypeCount (ascii "KYC") = 0 ∧
      Census.count (Entry.run uncountedRun).storage.attestation (ActiveOf (ascii "KYC")) = 1 ∧
      ¬ CountsMatch (Entry.run uncountedRun).storage := by
  have zero : (Entry.run uncountedRun).storage.claimTypeCount (ascii "KYC") = 0 := by
    decide +kernel
  have record : (Entry.run uncountedRun).storage.attestation =
      Function.update (fun _ => none) sampleId (some
        { nativeRecord (contractId 1) (contractId 2) (ascii "KYC") 1000 with
          metadata := some (ascii "level 2") }) := rfl
  have one : Census.count (Entry.run uncountedRun).storage.attestation
      (ActiveOf (ascii "KYC")) = 1 := by
    have finite : (Census.stored fun _ : Str => (none : Option (Attestation ContractId))).Finite :=
      countable_empty.finite
    rw [record, Census.count_add finite rfl ⟨rfl, rfl⟩, Census.count_empty]
  refine ⟨zero, one, fun counts => ?_⟩
  have matching := counts (ascii "KYC")
  rw [zero, one] at matching
  exact absurd matching (by decide)

end Counting

end TrustLink
