import TrustLink.SubjectChecks

/-!
The audit log against the records. Every change that an operation of
attestation.rs makes is logged under the id it writes; a fulfilment and the two
multi-sig paths to a record log nothing.
-/
namespace TrustLink
open Transaction Contract

section Logging
variable {Address : Type}

/-- The log of a record: created first and only then, and marked as revoked or
deleted exactly when the record is. -/
structure Story (log : List (AuditEntry Address)) (record : Attestation Address) : Prop where
  created : ∃ first rest, log = first :: rest ∧ first.action = .created ∧
    ∀ entry ∈ rest, entry.action ≠ .created
  revoked : (∃ entry ∈ log, entry.action = .revoked) ↔ record.revoked = true
  deleted : (∃ entry ∈ log, entry.action = .deleted) ↔ record.deleted = true

/-- The entry that a change leaves. -/
def Records : Change Address → AuditAction → Prop
  | .issue _, action => action = .created
  | .amend _ _, action => action = .renewed ∨ action = .updated
  | .revoke _ _, action | .revokeInBatch _ _, action => action = .revoked
  | .transfer _ _, action => action = .transferred
  | .erase _, action => action = .deleted

/-- Each change appended one entry to the log of the id it wrote. -/
inductive Logs : (Str → List (AuditEntry Address)) → List (Change Address) →
    (Str → List (AuditEntry Address)) → Prop
  | nil (log) : Logs log [] log
  | cons {log change changes after} (entry : AuditEntry Address)
      (records : Records change entry.action)
      (rest : Logs (Function.update log change.written.id (log change.written.id ++ [entry]))
        changes after) : Logs log (change :: changes) after

theorem Logs.single {log : Str → List (AuditEntry Address)} {change : Change Address}
    (entry : AuditEntry Address) (records : Records change entry.action) :
    Logs log [change]
      (Function.update log change.written.id (log change.written.id ++ [entry])) :=
  .cons entry records (.nil _)

theorem Logs.grows {log after : Str → List (AuditEntry Address)} {changes : List (Change Address)}
    (logs : Logs log changes after) (id : Str) : log id <+: after id := by
  induction logs with
  | nil log => exact List.prefix_refl _
  | @cons log change changes after entry records rest ih =>
      refine List.IsPrefix.trans ?_ ih
      by_cases here : id = change.written.id
      · subst here
        rw [Function.update_self]
        exact List.prefix_append _ _
      · have same := Function.update_of_ne here (log change.written.id ++ [entry]) log
        exact same.symm ▸ List.prefix_refl _

/-- Where nothing is stored nothing is logged. -/
def Silent (register : Register Address) (log : Str → List (AuditEntry Address)) : Prop :=
  ∀ id, register.record id = none → log id = []

/-- Moreover what is stored has its story. -/
structure Told (register : Register Address) (log : Str → List (AuditEntry Address)) : Prop where
  silent : Silent register log
  story : ∀ id record, register.record id = some record → Story (log id) record

theorem Story.append {log : List (AuditEntry Address)} {old new : Attestation Address}
    {entry : AuditEntry Address} (story : Story log old) (later : entry.action ≠ .created)
    (revoked : new.revoked = true ↔ old.revoked = true ∨ entry.action = .revoked)
    (deleted : new.deleted = true ↔ old.deleted = true ∨ entry.action = .deleted) :
    Story (log ++ [entry]) new where
  created := by
    obtain ⟨first, rest, rfl, created, once⟩ := story.created
    refine ⟨first, rest ++ [entry], rfl, created, fun other member => ?_⟩
    rcases List.mem_append.mp member with earlier | last
    · exact once other earlier
    · rw [List.mem_singleton.mp last]
      exact later
  revoked := by simp [revoked, ← story.revoked, or_and_right, exists_or]
  deleted := by simp [deleted, ← story.deleted, or_and_right, exists_or]

theorem Story.replace {log : List (AuditEntry Address)} {old new : Attestation Address}
    (story : Story log old) (revoked : new.revoked = old.revoked)
    (deleted : new.deleted = old.deleted) : Story log new where
  created := story.created
  revoked := by rw [story.revoked, revoked]
  deleted := by rw [story.deleted, deleted]

theorem story_created {record : Attestation Address} {entry : AuditEntry Address}
    (flags : record.revoked = false ∧ record.deleted = false) (created : entry.action = .created) :
    Story [entry] record where
  created := ⟨entry, [], rfl, created, by simp⟩
  revoked := by simp [created, flags.1]
  deleted := by simp [created, flags.2]

variable [DecidableEq Address]

theorem Silent.apply {register : Register Address} {log : Str → List (AuditEntry Address)}
    (silent : Silent register log) (change : Change Address) (entry : AuditEntry Address) :
    Silent (register.apply change)
      (Function.update log change.written.id (log change.written.id ++ [entry])) := by
  intro id free
  by_cases here : id = change.written.id
  · simp [here] at free
  · rw [Register.record_apply, Function.update_of_ne here] at free
    rw [Function.update_of_ne here]
    exact silent id free

theorem Silent.run {register : Register Address} {log after : Str → List (AuditEntry Address)}
    {changes : List (Change Address)} (silent : Silent register log)
    (logs : Logs log changes after) : Silent (Trace.run Register.apply register changes) after := by
  induction logs generalizing register with
  | nil log => exact silent
  | cons entry records rest ih => exact ih (silent.apply _ entry)

variable [Host Address]

theorem Told.apply {register : Register Address} {log : Str → List (AuditEntry Address)}
    {change : Change Address} {entry : AuditEntry Address} (told : Told register log)
    (enabled : Enabled register change) (orderly : Orderly register change)
    (records : Records change entry.action) :
    Told (register.apply change)
      (Function.update log change.written.id (log change.written.id ++ [entry])) where
  silent := told.silent.apply change entry
  story := by
    intro id record stored
    by_cases here : id = change.written.id
    · rw [Register.record_apply, here, Function.update_self, Option.some.injEq] at stored
      subst here stored
      rw [Function.update_self]
      cases change with
      | issue attestation =>
          -- the id was free, so its log was empty until now
          rw [told.silent _ orderly]
          exact story_created enabled.1 records
      | amend attestation expiration =>
          have story := told.story _ attestation orderly
          -- a renewal and an update differ in their entry only
          rcases records with renewed | updated
          · exact story.append (by simp [renewed]) (by simp [Change.written, renewed])
              (by simp [Change.written, renewed])
          · exact story.append (by simp [updated]) (by simp [Change.written, updated])
              (by simp [Change.written, updated])
      | revoke attestation reason | revokeInBatch attestation reason =>
          have revoked : entry.action = .revoked := records
          exact (told.story _ attestation orderly).append (by simp [revoked])
            (by simp [Change.written, revoked]) (by simp [Change.written, revoked])
      | transfer attestation newIssuer =>
          have transferred : entry.action = .transferred := records
          exact (told.story _ attestation orderly).append (by simp [transferred])
            (by simp [Change.written, transferred]) (by simp [Change.written, transferred])
      | erase attestation =>
          have deleted : entry.action = .deleted := records
          exact (told.story _ attestation orderly).append (by simp [deleted])
            (by simp [Change.written, deleted]) (by simp [Change.written, deleted])
    · rw [Register.record_apply, Function.update_of_ne here] at stored
      rw [Function.update_of_ne here]
      exact told.story id record stored

theorem Told.run {register : Register Address} {log after : Str → List (AuditEntry Address)}
    {changes : List (Change Address)} (told : Told register log) (logs : Logs log changes after)
    (enabled : Trace.Each Register.apply Enabled register changes)
    (orderly : Trace.Each Register.apply Orderly register changes) :
    Told (Trace.run Register.apply register changes) after := by
  induction logs generalizing register with
  | nil log => exact told
  | cons entry records rest ih =>
      exact ih (told.apply enabled.1 orderly.1 records) enabled.2 orderly.2

end Logging

section Operations
variable {Address : Type} [DecidableEq Address]

theorem logs_issues (storage : Storage Address) (records : List (Attestation Address)) :
    Logs storage.auditLog (records.map .issue)
      (Trace.run withListed storage records).auditLog := by
  induction records generalizing storage with
  | nil => exact .nil _
  | cons record rest ih =>
      exact .cons ⟨.created, record.issuer, record.timestamp, none⟩ rfl (ih (withListed storage record))

theorem logs_revocations (issuer : Address) (reason : Option Str) (timestamp : Nat)
    (storage : Storage Address) (records : List (Attestation Address)) :
    Logs storage.auditLog (records.map (.revokeInBatch · reason))
      (Trace.run (withBatchRevoked issuer reason timestamp) storage records).auditLog := by
  induction records generalizing storage with
  | nil => exact .nil _
  | cons record rest ih =>
      exact .cons ⟨.revoked, issuer, timestamp, reason⟩ rfl
        (ih (withBatchRevoked issuer reason timestamp storage record))

variable [Host Address] {env : Env Address} {before after : World Address}

theorem AttestationOp.logs (op : AttestationOp Address) (keyed : Keyed before.storage.register)
    (accepted : Returns op.exec env before () after) :
    Logs before.storage.auditLog (op.changes before.storage env.timestamp)
      after.storage.auditLog := by
  cases op with
  | createAttestation | createAttestationValidFrom | createAttestationJurisdiction
  | importAttestation | bridgeAttestation | createAttestationAsDelegate =>
      obtain ⟨-, -, -, -, -, -, entry, event, times, payments, created, -, rfl⟩ :=
        AttestationOp.issues_one accepted rfl
      exact .single entry created
  | createAttestationsBatch issuer subjects claimType expiration =>
      obtain ⟨ids, accepted⟩ := (returns_void ..).mp accepted
      obtain ⟨-, -, rfl⟩ := (returns_createAttestationsBatch _ _ _ _ _ _ rfl).mp accepted
      have logs := logs_issues before.storage
        (subjects.map (batchRecord issuer claimType expiration env.timestamp))
      rw [List.map_map] at logs
      exact logs
  | revokeAttestation issuer id reason =>
      obtain ⟨attestation, managed, -, -, -, rfl⟩ := (returns_revokeAttestation ..).mp accepted
      obtain rfl := (keyed id attestation managed.found).1
      rw [changes_revokeAttestation issuer reason managed.found]
      exact .single ⟨.revoked, issuer, env.timestamp, reason⟩ rfl
  | renewAttestation issuer id newExpiration =>
      obtain ⟨attestation, managed, -, details, -, rfl⟩ :=
        (returns_renewAttestation ..).mp accepted
      obtain rfl := (keyed id attestation managed.found).1
      rw [changes_renewAttestation issuer newExpiration managed.found]
      exact .single ⟨.renewed, issuer, env.timestamp, details⟩ (.inl rfl)
  | revokeAttestationsBatch issuer ids reason =>
      obtain ⟨count, accepted⟩ := (returns_void ..).mp accepted
      obtain ⟨records, ⟨-, -, -, -, -, -, revocable, -⟩, -, rfl⟩ :=
        (returns_revokeAttestationsBatch ..).mp accepted
      simp only [AttestationOp.changes, map_of_revocable _ revocable]
      exact logs_revocations issuer reason env.timestamp before.storage records
  | updateExpiration issuer id newExpiration =>
      obtain ⟨attestation, managed, -, rfl⟩ := (returns_updateExpiration ..).mp accepted
      obtain rfl := (keyed id attestation managed.found).1
      rw [changes_updateExpiration issuer newExpiration managed.found]
      exact .single ⟨.updated, issuer, env.timestamp, none⟩ (.inr rfl)
  | transferAttestation admin id newIssuer =>
      obtain ⟨attestation, ⟨-, -, -, found⟩, ⟨same, rfl⟩ | ⟨moved, -, rfl⟩⟩ :=
        (returns_transferAttestation ..).mp accepted
      · rw [changes_transfer_same admin found same]
        exact .nil _
      · obtain rfl := (keyed id attestation found).1
        rw [changes_transferAttestation admin found moved]
        exact .single ⟨.transferred, admin, env.timestamp, some (Host.addressToString newIssuer)⟩ rfl
  | requestDeletion subject id =>
      obtain ⟨attestation, ⟨-, found, -, -, -⟩, rfl⟩ := (returns_requestDeletion ..).mp accepted
      obtain rfl := (keyed id attestation found).1
      rw [changes_requestDeletion subject found]
      exact .single ⟨.deleted, subject, env.timestamp, none⟩ rfl
  | endorseAttestation endorser id =>
      obtain ⟨-, rfl⟩ := (returns_endorseAttestation ..).mp accepted
      exact .nil _

/-- No other operation writes to an audit log. -/
theorem auditLog_of_accepted {call : Call Address} (other : ∀ op, call.op ≠ .attestation op)
    (accepted : Accepted before call after) :
    after.storage.auditLog = before.storage.auditLog := by
  obtain ⟨env, op⟩ := call
  cases op with
  | attestation op => exact absurd rfl (other op)
  | request op => exact (op.keeps accepted).2.2.1
  | multisig op => exact (op.keeps accepted).2.2.2
  | council op => exact (op.keeps accepted).2.1.auditLog
  | admin op => exact (op.keeps accepted).1.auditLog

/-- Every operation only appends to the logs. -/
theorem auditLog_grows {call : Call Address} (keyed : Keyed before.storage.register)
    (accepted : Accepted before call after) (id : Str) :
    before.storage.auditLog id <+: after.storage.auditLog id := by
  by_cases direct : ∃ op, call.op = .attestation op
  · obtain ⟨env, op⟩ := call
    obtain ⟨op, rfl⟩ := direct
    exact (op.logs keyed accepted).grows id
  · have same := auditLog_of_accepted (not_exists.mp direct) accepted
    exact same.symm ▸ List.prefix_refl _

end Operations

section Steps
variable {Address : Type} [DecidableEq Address] [Host Address] {before after : World Address}
  {world : World Address} {call : Call Address} {record : Attestation Address}

/-- A record that is neither revoked nor deleted is stored under the id. -/
def Standing (storage : Storage Address) (id : Str) : Prop :=
  ∃ old, storage.attestation id = some old ∧ old.revoked = false ∧ old.deleted = false

/-- A fulfilment or a multi-sig call that passes its checks stores the record
where no standing one was. None of these is logged. -/
structure Unlogged (storage : Storage Address) (call : Call Address)
    (record : Attestation Address) : Prop where
  other : ∀ op, call.op ≠ .attestation op
  issues : IssuesUnvetted storage call record
  new : ¬ Standing storage record.id

theorem silent_of_accepted (keyed : Keyed before.storage.register)
    (silent : Silent before.storage.register before.storage.auditLog)
    (accepted : Accepted before call after) :
    Silent after.storage.register after.storage.auditLog := by
  have follows := follows_of_accepted keyed accepted
  by_cases direct : ∃ op, call.op = .attestation op
  · obtain ⟨env, op⟩ := call
    obtain ⟨op, rfl⟩ := direct
    rw [follows.register]
    exact silent.run (op.logs keyed accepted)
  · rw [auditLog_of_accepted (not_exists.mp direct) accepted, follows.register]
    rcases changes_of_other before.storage call (not_exists.mp direct) with none | ⟨single, only⟩
    · rw [none]
      exact silent
    · intro id free
      rw [only, Trace.run_cons, Trace.run_nil, Register.record_apply] at free
      by_cases here : id = (Change.issue single).written.id
      · simp [here] at free
      · rw [Function.update_of_ne here] at free
        exact silent id free

theorem silent_run (calls : List (Call Address)) :
    Silent (run calls).storage.register (run calls).storage.auditLog := by
  have keeps : ∀ (before : World Address) call after, Keyed before.storage.register →
      Silent before.storage.register before.storage.auditLog → Accepted before call after →
        Silent after.storage.register after.storage.auditLog :=
    fun _ _ _ keyed silent accepted => silent_of_accepted keyed silent accepted
  have initial : Silent (World.empty Address).storage.register (World.empty Address).storage.auditLog :=
    fun _ _ => rfl
  exact invariant_of_keyed_run initial keeps calls

theorem flags_of_unvetted (unvetted : IssuesUnvetted world.storage call record)
    (keyed : Keyed world.storage.register) : record.revoked = false ∧ record.deleted = false := by
  obtain ⟨accepted, issued, -⟩ := issued_of_unvetted unvetted
  have enabled := (follows_of_accepted keyed accepted).enabled
  rw [Trace.each_iff] at enabled
  obtain ⟨early, late, split⟩ := List.append_of_mem issued
  exact (enabled early _ late split).1

theorem told_of_accepted (keyed : Keyed before.storage.register)
    (told : Told before.storage.register before.storage.auditLog)
    (passed : ∀ record, ¬ Unlogged before.storage call record)
    (accepted : Accepted before call after) :
    Told after.storage.register after.storage.auditLog := by
  have silent := silent_of_accepted keyed told.silent accepted
  by_cases direct : ∃ op, call.op = .attestation op
  · obtain ⟨env, op⟩ := call
    obtain ⟨op, rfl⟩ := direct
    have checked := op.checked keyed accepted
    rw [checked.register]
    exact told.run (op.logs keyed accepted) checked.enabled checked.orderly
  · have other := not_exists.mp direct
    refine ⟨silent, ?_⟩
    rw [auditLog_of_accepted other accepted, (follows_of_accepted keyed accepted).register]
    rcases changes_of_other before.storage call other with none | ⟨single, only⟩
    · rw [none]
      exact told.story
    · have issues := unvetted_of_other other accepted (only ▸ List.mem_singleton_self _)
      have flags : single.revoked = false ∧ single.deleted = false := by
        rw [← step_of_accepted accepted] at accepted
        exact flags_of_unvetted issues keyed
      have standing : Standing before.storage single.id := by
        by_contra new
        exact passed single ⟨other, issues, new⟩
      obtain ⟨old, found, active, kept⟩ := standing
      intro id record stored
      rw [only, Trace.run_cons, Trace.run_nil, Register.record_apply] at stored
      by_cases here : id = (Change.issue single).written.id
      · rw [here, Function.update_self, Option.some.injEq] at stored
        subst here stored
        exact (told.story _ old found).replace (flags.1.trans active.symm)
          (flags.2.trans kept.symm)
      · rw [Function.update_of_ne here] at stored
        exact told.story id record stored

/-- A record stored without an entry where none was standing has no story. -/
theorem not_story_of_unlogged (keyed : Keyed world.storage.register)
    (told : Told world.storage.register world.storage.auditLog)
    (unlogged : Unlogged world.storage call record) :
    ¬ Story ((step world call).storage.auditLog record.id) record := by
  intro story
  have flags := flags_of_unvetted unlogged.issues keyed
  rw [auditLog_of_accepted unlogged.other (issued_of_unvetted unlogged.issues).1] at story
  cases found : world.storage.attestation record.id with
  | none =>
      obtain ⟨first, rest, log, -⟩ := story.created
      rw [told.silent _ found] at log
      cases log
  | some old =>
      have before := told.story _ old found
      refine unlogged.new ⟨old, found, ?_, ?_⟩
      · rw [Bool.eq_false_iff]
        intro revoked
        exact Bool.noConfusion (flags.1.symm.trans (story.revoked.mp (before.revoked.mpr revoked)))
      · rw [Bool.eq_false_iff]
        intro deleted
        exact Bool.noConfusion (flags.2.symm.trans (story.deleted.mp (before.deleted.mpr deleted)))

end Steps

section Runs
variable {Address : Type} [DecidableEq Address] [Host Address]

/-- Every log only grows, and in every state each stored attestation has its story. -/
structure TellsWholeStory (calls : List (Call Address)) : Prop where
  story : ∀ early late, calls = early ++ late → ∀ id record,
    (run early).storage.attestation id = some record →
      Story ((run early).storage.auditLog record.id) record
  grows : ∀ early call late, calls = early ++ call :: late → ∀ id,
    (run early).storage.auditLog id <+: (step (run early) call).storage.auditLog id

theorem auditLog_grows_run (calls : List (Call Address)) (call : Call Address) (id : Str) :
    (run calls).storage.auditLog id <+: (step (run calls) call).storage.auditLog id := by
  rcases step_cases (run calls) call with accepted | same
  · exact auditLog_grows (keyed_run calls) accepted id
  · exact same.symm ▸ List.prefix_refl _

theorem told_run {calls : List (Call Address)} (told : ∀ id record,
    (run calls).storage.attestation id = some record →
      Story ((run calls).storage.auditLog record.id) record) :
    Told (run calls).storage.register (run calls).storage.auditLog where
  silent := silent_run calls
  story id record found := by
    obtain rfl := (keyed_run calls id record found).1
    exact told _ record found

/-- The audit log is complete in exactly the runs in which no fulfilment and no
multi-sig call stores a record where none was standing. -/
theorem audit_trail_iff (calls : List (Call Address)) :
    TellsWholeStory calls ↔
      Trace.Each step (fun world call => ∀ record, ¬ Unlogged world.storage call record)
        (World.empty Address) calls := by
  constructor
  · intro tells
    rw [Trace.each_iff]
    intro early call late split record unlogged
    have told := told_run (tells.story early (call :: late) split)
    have next := tells.story (early ++ [call]) late (by simpa using split) record.id record
    rw [run_concat] at next
    exact not_story_of_unlogged (keyed_run early) told unlogged
      (next (stored_of_unvetted (keyed_run early) unlogged.issues))
  · intro guarded
    refine ⟨fun early late split id record found => ?_,
      fun early call late _ id => auditLog_grows_run early call id⟩
    have keeps : ∀ (before : World Address) call after, Keyed before.storage.register →
        Told before.storage.register before.storage.auditLog →
          (∀ record, ¬ Unlogged before.storage call record) → Accepted before call after →
            Told after.storage.register after.storage.auditLog :=
      fun _ _ _ keyed told logged accepted => told_of_accepted keyed told logged accepted
    have initial : Told (World.empty Address).storage.register (World.empty Address).storage.auditLog :=
      ⟨fun _ _ => rfl, fun _ _ found => nomatch found⟩
    have told := invariant_of_keyed_calls initial keeps split guarded
    obtain rfl := (keyed_run early id record found).1
    exact told.story _ record found

end Runs

section Sample
open Xdr

/-- Contract 2 asks issuer 1 for its KYC, and gets it. -/
def fulfilledRun : List (Call ContractId) :=
  sampleDeployment ++ [
    signed 990 (contractId 2) (.request
      (.requestAttestation (contractId 2) (contractId 1) (ascii "KYC"))),
    signed 1000 (contractId 1) (.request (.fulfillRequest (contractId 1)
      (AttestationRequest.generateId (contractId 2) (contractId 1) (ascii "KYC") 990) none))]

theorem fulfilled_request_unlogged :
    ((run fulfilledRun).storage.attestation sampleId).map (·.id) = some sampleId ∧
      (run fulfilledRun).storage.auditLog sampleId = [] ∧ ¬ TellsWholeStory fulfilledRun := by
  have stored : ((run fulfilledRun).storage.attestation sampleId).map (·.id) = some sampleId := by
    decide +kernel
  have silent : (run fulfilledRun).storage.auditLog sampleId = [] := by decide +kernel
  refine ⟨stored, silent, fun tells => ?_⟩
  obtain ⟨record, found, named⟩ := Option.map_eq_some_iff.mp stored
  have story := tells.story fulfilledRun [] (List.append_nil _).symm _ record found
  rw [named, silent] at story
  obtain ⟨first, rest, log, -⟩ := story.created
  cases log

end Sample

end TrustLink
