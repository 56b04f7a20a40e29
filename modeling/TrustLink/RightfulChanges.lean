import TrustLink.History
import TrustLink.SubjectChecks
import TrustLink.Warrants

/-!
Who may change a record. A call on attestations or requests changes the record of an id
only for the party the record names, and leaves the indexes of everybody else alone.
-/
namespace TrustLink
open Transaction Contract

section Indexes
variable {Address : Type}

/-- The three index entries of an address are the same in both registers. -/
structure SameEntries (before after : Register Address) (address : Address) : Prop where
  bySubject : after.bySubject address = before.bySubject address
  byIssuer : after.byIssuer address = before.byIssuer address
  valid : after.valid address = before.valid address

theorem SameEntries.trans {before middle after : Register Address} {address : Address}
    (first : SameEntries before middle address) (second : SameEntries middle after address) :
    SameEntries before after address where
  bySubject := second.bySubject.trans first.bySubject
  byIssuer := second.byIssuer.trans first.byIssuer
  valid := second.valid.trans first.valid

/-- The subject, or the issuer before or after the change. -/
def Change.Party (change : Change Address) (address : Address) : Prop :=
  ∃ record, (change.base = some record ∨ change.written = record) ∧
    (address = record.subject ∨ address = record.issuer)

variable [DecidableEq Address] {register : Register Address} {change : Change Address}
  {address : Address}

/-- Index entries change only for the parties of a change. -/
theorem sameEntries_apply (stranger : ¬ change.Party address) :
    SameEntries register (register.apply change) address := by
  have subject : address ≠ change.written.subject :=
    fun here => stranger ⟨change.written, .inr rfl, .inl here⟩
  have issuer : address ≠ change.written.issuer :=
    fun here => stranger ⟨change.written, .inr rfl, .inr here⟩
  cases change with
  | issue record | revoke record reason | revokeInBatch record reason | erase record =>
      constructor <;>
        simp_all [Register.apply, Change.written, SecondaryIndex.add, SecondaryIndex.drop]
  | amend record expiration => exact ⟨rfl, rfl, rfl⟩
  | transfer record newIssuer =>
      have given : address ≠ record.issuer :=
        fun here => stranger ⟨record, .inl rfl, .inr here⟩
      constructor <;>
        simp_all [Register.apply, Change.written, SecondaryIndex.add, SecondaryIndex.drop]

/-- Over a list of changes an address keeps its entries unless it is a party of a change
that writes indexes. -/
theorem sameEntries_run {changes : List (Change Address)}
    (strangers : ∀ change ∈ changes, ∀ register : Register Address,
      SameEntries register (register.apply change) address) :
    SameEntries register (Trace.run Register.apply register changes) address := by
  induction changes generalizing register with
  | nil => exact ⟨rfl, rfl, rfl⟩
  | cons change rest ih =>
      rw [Trace.run_cons]
      exact (strangers change (by simp) register).trans
        (ih fun other member => strangers other (by simp [member]))

end Indexes

section Erasure
variable {Address : Type}

/-- The subject of a deleted record does not find it in its indexes. -/
def Erased (register : Register Address) : Prop :=
  ∀ id record, register.record id = some record → record.deleted = true →
    id ∉ register.bySubject record.subject ∧ id ∉ register.valid record.subject

variable [DecidableEq Address] [Host Address]

theorem Erased.apply {register : Register Address} {change : Change Address}
    (erased : Erased register) (enabled : Enabled register change) :
    Erased (register.apply change) := by
  intro id record found gone
  by_cases here : id = change.written.id
  · subst here
    simp only [Register.record_apply, Function.update_self, Option.some.injEq] at found
    subst found
    rcases enabled.cases with ⟨issued, rfl, flags, -⟩ | ⟨old, base, stored⟩
    · -- nothing is issued as deleted
      exact absurd gone (by simp [Change.written, flags.2])
    · have before := erased _ old stored
      cases change with
      | issue issued => cases base
      | _ =>
          obtain rfl := Option.some.inj base
          simp_all [Register.apply, Change.written]
  · rw [Register.record_apply, Function.update_of_ne here] at found
    have before := erased id record found gone
    cases change <;> simp_all [Register.apply, Change.written]

theorem erased_run (calls : List (Call Address)) : Erased (run calls).storage.register :=
  (register_invariant (fun _ _ found => nomatch found)
    (fun _ _ _ erased enabled => erased.apply enabled) calls).2

omit [Host Address] in
theorem drop_absent {index : Address → List Str} {owner : Address} {id : Str}
    (absent : id ∉ index owner) : SecondaryIndex.drop index owner id = index := by
  have same : (index owner).filter (· ≠ id) = index owner := by
    refine List.filter_eq_self.mpr fun other member => ?_
    simpa using fun here : other = id => absent (here ▸ member)
  rw [SecondaryIndex.drop, same, Function.update_eq_self]

omit [Host Address] in
/-- A second deletion of a record changes nothing. -/
theorem apply_erase_deleted {register : Register Address} (erased : Erased register)
    {record : Attestation Address} (found : register.record record.id = some record)
    (gone : record.deleted = true) : register.apply (.erase record) = register := by
  obtain ⟨unlisted, invalid⟩ := erased record.id record found gone
  have same : ({ record with deleted := true } : Attestation Address) = record := by
    rw [← gone]
  simp only [Register.apply, Change.written, same, drop_absent unlisted, drop_absent invalid,
    ← found, Function.update_eq_self]

end Erasure

section Changes
variable {Address : Type} [DecidableEq Address] [Host Address] {before after : World Address}
  {call : Call Address}

def Op.OnRecords : Op Address → Prop
  | .attestation _ | .request _ => True
  | .multisig _ | .council _ | .admin _ => False

omit [DecidableEq Address] [Host Address] in
theorem Op.OnRecords.direct {op : Op Address} (records : op.OnRecords) :
    ∀ other, op ≠ .multisig other := by
  rintro other rfl
  exact records

omit [DecidableEq Address] in
theorem nodup_of_revocable {issuer : Address} {storage : Storage Address} {ids : List Str}
    {records : List (Attestation Address)} (keyed : Keyed storage.register)
    (distinct : ids.Nodup) (revocable : List.Forall₂ (Revocable issuer storage) ids records)
    (reason : Option Str) :
    ((records.map (Change.revokeInBatch · reason)).map (·.written.id)).Nodup := by
  rw [List.map_map]
  have same : records.map ((·.written.id) ∘ (Change.revokeInBatch · reason)) =
      records.map (·.id) := rfl
  rw [same, ids_of_revocable keyed revocable]
  exact distinct

/-- A call writes no id twice. -/
theorem distinct_of_accepted (keyed : Keyed before.storage.register)
    (records : call.op.OnRecords) (accepted : Accepted before call after) :
    ((call.changes before.storage).map (·.written.id)).Nodup := by
  have checked := checked_of_accepted keyed records.direct accepted
  obtain ⟨env, op⟩ := call
  cases op with
  | attestation op =>
      cases op with
      | createAttestationsBatch issuer subjects claimType expiration =>
          have distinct := (fresh_of_orderly checked.orderly).2
          simpa [Call.changes, AttestationOp.changes, Change.issued?, List.filterMap_map,
            Function.comp_def, Change.written] using distinct
      | revokeAttestationsBatch issuer ids reason =>
          obtain ⟨count, accepted⟩ := (returns_void ..).mp accepted
          obtain ⟨loaded, ⟨-, -, -, -, -, distinct, revocable, -⟩, -, -⟩ :=
            (returns_revokeAttestationsBatch ..).mp accepted
          simp only [Call.changes, AttestationOp.changes, map_of_revocable _ revocable]
          exact nodup_of_revocable keyed distinct revocable reason
      | createAttestation | createAttestationValidFrom | createAttestationJurisdiction
      | importAttestation | bridgeAttestation | createAttestationAsDelegate =>
          exact List.nodup_singleton _
      | endorseAttestation => exact List.nodup_nil
      | revokeAttestation issuer id | renewAttestation issuer id | updateExpiration issuer id
      | requestDeletion subject id =>
          cases found : before.storage.attestation id <;>
            simp [Call.changes, AttestationOp.changes, found]
      | transferAttestation admin id newIssuer =>
          cases found : before.storage.attestation id with
          | none => simp [Call.changes, AttestationOp.changes, found]
          | some record =>
              by_cases same : record.issuer = newIssuer <;>
                simp [Call.changes, AttestationOp.changes, found, same]
  | request op =>
      cases op with
      | fulfillRequest issuer requestId expiration =>
          cases found : before.storage.request requestId <;>
            simp [Call.changes, RequestOp.changes, found]
      | _ => exact List.nodup_nil
  | multisig op => exact records.elim
  | council op => exact List.nodup_nil
  | admin op => exact List.nodup_nil

omit [Host Address] in
/-- Every record written once is there at the end, and no other has changed. -/
theorem record_of_distinct {register : Register Address} {changes : List (Change Address)}
    (distinct : (changes.map (·.written.id)).Nodup) :
    (∀ change ∈ changes, (Trace.run Register.apply register changes).record change.written.id =
      some change.written) ∧
    ∀ id, (∀ change ∈ changes, change.written.id ≠ id) →
      (Trace.run Register.apply register changes).record id = register.record id := by
  -- both at once: a record written first is kept by the changes behind it
  induction changes generalizing register with
  | nil => exact ⟨fun _ member => absurd member List.not_mem_nil, fun _ _ => rfl⟩
  | cons change rest ih =>
      obtain ⟨once, distinct⟩ := List.nodup_cons.mp distinct
      obtain ⟨written, kept⟩ := @ih (register.apply change) distinct
      rw [Trace.run_cons]
      constructor
      · intro other member
        rcases List.mem_cons.mp member with rfl | later
        · have untouched := kept other.written.id fun next listed same =>
            once (List.mem_map.mpr ⟨next, listed, same⟩)
          rw [untouched, Register.record_apply, Function.update_self]
        · exact written other later
      · intro id elsewhere
        rw [kept id fun next listed => elsewhere next (List.mem_cons_of_mem _ listed),
          Register.record_apply,
          Function.update_of_ne (elsewhere change List.mem_cons_self).symm]

end Changes

section Rightful
variable {Address : Type} [DecidableEq Address] [Host Address]

/-- A registered issuer calls about an unrevoked record that is its own. -/
structure OwnIssuer (storage : Storage Address) (env : Env Address) (issuer : Address)
    (record : Attestation Address) : Prop where
  auth : issuer ∈ env.auths
  registered : storage.issuer issuer = true
  own : record.issuer = issuer
  active : record.revoked = false

/-- The operation is one that may change the record under the id, it is called by the
party that may, and it changes no other field than it is for. -/
inductive RightfulChange (storage : Storage Address) (env : Env Address) :
    Op Address → Str → Attestation Address → Attestation Address → Prop
  | revokeAttestation {issuer : Address} {id : Str} {reason : Option Str}
      {record : Attestation Address} (caller : OwnIssuer storage env issuer record) :
      RightfulChange storage env (.attestation (.revokeAttestation issuer id reason)) id record
        { record with revoked := true, revocationReason := reason }
  | revokeAttestationsBatch {issuer : Address} {ids : List Str} {id : Str} {reason : Option Str}
      {record : Attestation Address} (member : id ∈ ids)
      (caller : OwnIssuer storage env issuer record) :
      RightfulChange storage env (.attestation (.revokeAttestationsBatch issuer ids reason)) id
        record { record with revoked := true, revocationReason := reason }
  | renewAttestation {issuer : Address} {id : Str} {expiration : Option Nat}
      {record : Attestation Address} (caller : OwnIssuer storage env issuer record) :
      RightfulChange storage env (.attestation (.renewAttestation issuer id expiration)) id record
        { record with expiration }
  | updateExpiration {issuer : Address} {id : Str} {expiration : Option Nat}
      {record : Attestation Address} (caller : OwnIssuer storage env issuer record) :
      RightfulChange storage env (.attestation (.updateExpiration issuer id expiration)) id record
        { record with expiration }
  | transferAttestation {admin newIssuer : Address} {id : Str} {record : Attestation Address}
      (auth : admin ∈ env.auths) (seated : admin ∈ storage.council)
      (registered : storage.issuer newIssuer = true) :
      RightfulChange storage env (.attestation (.transferAttestation admin id newIssuer)) id record
        { record with issuer := newIssuer }
  | requestDeletion {subject : Address} {id : Str} {record : Attestation Address}
      (auth : subject ∈ env.auths) (own : record.subject = subject) :
      RightfulChange storage env (.attestation (.requestDeletion subject id)) id record
        { record with deleted := true }

/-- The address is a party of a record that the step has changed or stored. -/
def Concerned (before after : Storage Address) (address : Address) : Prop :=
  ∃ id record, after.attestation id ≠ before.attestation id ∧
    (before.attestation id = some record ∨ after.attestation id = some record) ∧
    (address = record.subject ∨ address = record.issuer)

/-- A step changes stored records by right only, and no index entry of an address that is
not concerned. -/
structure ChangesRightly (before after : World Address) (call : Call Address) : Prop where
  records : ∀ id old, before.storage.attestation id = some old →
    after.storage.attestation id = some old ∨
      ∃ new, after.storage.attestation id = some new ∧
        RightfulChange before.storage call.env call.op id old new
  entries : ∀ address, ¬ Concerned before.storage after.storage address →
    after.storage.subjectAttestations address = before.storage.subjectAttestations address ∧
      after.storage.issuerAttestations address = before.storage.issuerAttestations address ∧
      after.storage.validAttestations address = before.storage.validAttestations address

variable {before after : World Address} {call : Call Address}

omit [DecidableEq Address] [Host Address] in
theorem ownIssuer_of_managed {storage : Storage Address} {env : Env Address} {issuer : Address}
    {id : Str} {record : Attestation Address} (managed : Managed storage env issuer id record) :
    OwnIssuer storage env issuer record :=
  ⟨managed.auth, managed.registered, managed.own, managed.active⟩

/-- The warrant of a change of a record makes it rightful. -/
theorem rightful_of_warrant {storage : Storage Address} {env : Env Address} {op : Op Address}
    {change : Change Address} {record : Attestation Address} (keyed : Keyed storage.register)
    (warrant : Warrant storage env op change) (base : change.base = some record) :
    storage.attestation record.id = some record ∧
      RightfulChange storage env op record.id record change.written := by
  cases warrant with
  | revokeAttestation managed =>
      obtain rfl := Option.some.inj base
      obtain rfl := (keyed _ _ managed.found).1
      exact ⟨managed.found, .revokeAttestation (ownIssuer_of_managed managed)⟩
  | revokeAttestationsBatch member managed =>
      obtain rfl := Option.some.inj base
      obtain rfl := (keyed _ _ managed.found).1
      exact ⟨managed.found, .revokeAttestationsBatch member (ownIssuer_of_managed managed)⟩
  | renewAttestation managed =>
      obtain rfl := Option.some.inj base
      obtain rfl := (keyed _ _ managed.found).1
      exact ⟨managed.found, .renewAttestation (ownIssuer_of_managed managed)⟩
  | updateExpiration managed =>
      obtain rfl := Option.some.inj base
      obtain rfl := (keyed _ _ managed.found).1
      exact ⟨managed.found, .updateExpiration (ownIssuer_of_managed managed)⟩
  | transferAttestation checks =>
      obtain rfl := Option.some.inj base
      obtain rfl := (keyed _ _ checks.found).1
      exact ⟨checks.found, .transferAttestation checks.auth checks.member checks.registered⟩
  | requestDeletion checks =>
      obtain rfl := Option.some.inj base
      obtain rfl := (keyed _ _ checks.found).1
      exact ⟨checks.found, .requestDeletion checks.auth checks.own⟩
  | _ => cases base

/-- An accepted call finds the records of its changes in the store, and none under the id
of a record it issues. -/
theorem base_of_accepted (keyed : Keyed before.storage.register) (records : call.op.OnRecords)
    (accepted : Accepted before call after) {change : Change Address}
    (member : change ∈ call.changes before.storage) :
    before.storage.attestation change.written.id = change.base := by
  cases change with
  | issue record =>
      have orderly := (checked_of_accepted keyed records.direct accepted).orderly
      exact (fresh_of_orderly orderly).1 record (mem_filterMap_issued.mpr member)
  | _ => exact (rightful_of_warrant keyed (warrant_of_accepted accepted member) rfl).1

theorem records_of_accepted (keyed : Keyed before.storage.register) (records : call.op.OnRecords)
    (accepted : Accepted before call after) (id : Str) (old : Attestation Address)
    (found : before.storage.attestation id = some old) :
    after.storage.attestation id = some old ∨
      ∃ new, after.storage.attestation id = some new ∧
        RightfulChange before.storage call.env call.op id old new := by
  have register := (follows_of_accepted keyed accepted).register
  obtain ⟨written, kept⟩ := @record_of_distinct _ _ before.storage.register _
    (distinct_of_accepted keyed records accepted)
  rw [← register] at written kept
  by_cases here : ∃ change ∈ call.changes before.storage, change.written.id = id
  · obtain ⟨change, member, rfl⟩ := here
    have base : change.base = some old :=
      (base_of_accepted keyed records accepted member).symm.trans found
    have rightful := (rightful_of_warrant keyed (warrant_of_accepted accepted member) base).2
    rw [← Change.written_id base] at rightful
    exact .inr ⟨change.written, written change member, rightful⟩
  · push Not at here
    exact .inl ((kept id here).trans found)

/-- A change leaves its record as it was only when it asks for what the record has. -/
theorem changed_of_accepted (accepted : Accepted before call after) {change : Change Address}
    (member : change ∈ call.changes before.storage) :
    change.base ≠ some change.written ∨ (∃ record expiration, change = .amend record expiration) ∨
      ∃ record, call.changes before.storage = [.erase record] ∧ record.deleted = true := by
  obtain ⟨env, op⟩ := call
  cases warrant_of_accepted accepted member with
  | revokeAttestation managed | revokeAttestationsBatch _ managed =>
      left
      intro same
      have revoked := congrArg (·.map Attestation.revoked) same
      simp [Change.base, Change.written, managed.active] at revoked
  | renewAttestation | updateExpiration => exact .inr (.inl ⟨_, _, rfl⟩)
  | transferAttestation checks =>
      left
      intro same
      have issuer := congrArg (·.map Attestation.issuer) same
      simp [Change.base, Change.written, checks.moved] at issuer
  | @requestDeletion subject id record checks =>
      by_cases gone : record.deleted = true
      · have changes : AttestationOp.changes before.storage env.timestamp
            (.requestDeletion subject id) = [.erase record] :=
          changes_requestDeletion subject checks.found
        exact .inr (.inr ⟨record, changes, gone⟩)
      · left
        intro same
        have deleted := congrArg (·.map Attestation.deleted) same
        simp [Change.base, Change.written, gone] at deleted
  | _ => exact .inl (by rintro ⟨⟩)

theorem entries_of_accepted (keyed : Keyed before.storage.register)
    (erased : Erased before.storage.register) (records : call.op.OnRecords)
    (accepted : Accepted before call after) {address : Address}
    (unconcerned : ¬ Concerned before.storage after.storage address) :
    SameEntries before.storage.register after.storage.register address := by
  have register := (follows_of_accepted keyed accepted).register
  by_cases again : ∃ record, call.changes before.storage = [.erase record] ∧ record.deleted = true
  · -- the record is not changed, and its subject's indexes have lost the id already
    obtain ⟨record, changes, gone⟩ := again
    have found : before.storage.register.record record.id = some record :=
      @base_of_accepted _ _ _ before after call keyed records accepted (.erase record)
        (changes ▸ List.mem_singleton_self _)
    rw [register, changes, Trace.run_cons, apply_erase_deleted erased found gone]
    exact ⟨rfl, rfl, rfl⟩
  · obtain ⟨written, -⟩ := @record_of_distinct _ _ before.storage.register _
      (distinct_of_accepted keyed records accepted)
    rw [← register] at written
    rw [register]
    refine sameEntries_run fun change member next => ?_
    rcases changed_of_accepted accepted member with
      changed | ⟨record, expiration, rfl⟩ | gone
    · refine sameEntries_apply fun ⟨record, stored, party⟩ => ?_
      have before_id := base_of_accepted keyed records accepted member
      have after_id : after.storage.attestation change.written.id = some change.written :=
        written change member
      refine unconcerned ⟨change.written.id, record, ?_, ?_, party⟩
      · rw [before_id, after_id]
        exact changed.symm
      · rcases stored with base | rfl
        · exact .inl (before_id.trans base)
        · exact .inr after_id
    · -- a new expiration touches no index, whether it is the old one or not
      exact ⟨rfl, rfl, rfl⟩
    · exact absurd gone again

/-- A call on attestations or requests, made in any reachable state, changes records by
right only. -/
theorem rightful_changes (calls : List (Call Address)) (call : Call Address)
    (records : call.op.OnRecords) : ChangesRightly (run calls) (step (run calls) call) call := by
  rcases step_cases (run calls) call with accepted | same
  · have keyed := keyed_run calls
    refine ⟨records_of_accepted keyed records accepted, fun address unconcerned => ?_⟩
    have same := entries_of_accepted keyed (erased_run calls) records accepted unconcerned
    exact ⟨same.bySubject, same.byIssuer, same.valid⟩
  · rw [same]
    exact ⟨fun _ _ found => .inl found, fun _ _ => ⟨rfl, rfl, rfl⟩⟩

end Rightful

section Sample
open Xdr

def subjectDeletion : Call ContractId :=
  signed 1001 (contractId 2) (.attestation (.requestDeletion (contractId 2) sampleId))

/-- The subject of the sample attestation deletes it. -/
theorem rightful_changes_sample :
    subjectDeletion.op.OnRecords ∧
      ChangesRightly (run (sampleDeployment ++ [sampleIssuance]))
        (step (run (sampleDeployment ++ [sampleIssuance])) subjectDeletion) subjectDeletion :=
  ⟨trivial, rightful_changes _ subjectDeletion trivial⟩

end Sample

end TrustLink
