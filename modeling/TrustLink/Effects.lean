import TrustLink.Frame

/-!
What each operation means for the register. `changes` lists the changes an
accepted call makes; the theorems say that the contract's storage follows them,
and which of them the contract has checked.
-/
namespace TrustLink
open Transaction Contract

section Changes
variable {Address : Type} [DecidableEq Address] [Host Address]

def AttestationOp.changes (storage : Storage Address) (now : Nat) :
    AttestationOp Address → List (Change Address)
  | .createAttestation issuer subject claimType expiration metadata tags =>
      [.issue { nativeRecord issuer subject claimType now with expiration, metadata, tags }]
  | .createAttestationValidFrom issuer subject claimType expiration metadata tags validFrom =>
      [.issue { nativeRecord issuer subject claimType now with
        expiration, metadata, tags, validFrom := some validFrom }]
  | .createAttestationJurisdiction issuer subject claimType expiration metadata jurisdiction
      tags =>
      [.issue { nativeRecord issuer subject claimType now with
        expiration, metadata, jurisdiction, tags }]
  | .importAttestation _ issuer subject claimType timestamp expiration =>
      [.issue { nativeRecord issuer subject claimType timestamp with
        origin := .imported, expiration }]
  | .bridgeAttestation bridge subject claimType sourceChain sourceTx =>
      [.issue { Attestation.issued
        (Attestation.generateBridgeId bridge subject claimType sourceChain sourceTx now) bridge
        subject claimType now .bridged with
          sourceChain := some sourceChain, sourceTx := some sourceTx }]
  | .createAttestationsBatch issuer subjects claimType expiration =>
      subjects.map fun subject => .issue (batchRecord issuer claimType expiration now subject)
  | .createAttestationAsDelegate _ delegator subject claimType expiration metadata =>
      [.issue { nativeRecord delegator subject claimType now with expiration, metadata }]
  | .revokeAttestation _ id reason => (storage.attestation id).toList.map (.revoke · reason)
  | .renewAttestation _ id newExpiration | .updateExpiration _ id newExpiration =>
      (storage.attestation id).toList.map (.amend · newExpiration)
  | .revokeAttestationsBatch _ ids reason =>
      ids.flatMap fun id => (storage.attestation id).toList.map (.revokeInBatch · reason)
  | .transferAttestation _ id newIssuer =>
      ((storage.attestation id).toList.filter (·.issuer ≠ newIssuer)).map (.transfer · newIssuer)
  | .requestDeletion _ id => (storage.attestation id).toList.map .erase
  | .endorseAttestation _ _ => []

def RequestOp.changes (storage : Storage Address) (now : Nat) :
    RequestOp Address → List (Change Address)
  | .fulfillRequest issuer requestId expiration =>
      (storage.request requestId).toList.map fun request =>
        .issue { nativeRecord issuer request.subject request.claimType now with expiration }
  | _ => []

def MultisigOp.changes (storage : Storage Address) (now : Nat) :
    MultisigOp Address → List (Change Address)
  | .proposeAttestation proposer subject claimType _ _ =>
      if Bypasses storage proposer claimType then
        [.issue (nativeRecord proposer subject claimType now)]
      else []
  | .cosignAttestation _ proposalId =>
      ((storage.multisigProposal proposalId).toList.filter fun proposal =>
        proposal.threshold ≤ proposal.signers.length + 1).map fun proposal =>
          .issue (proposedRecord proposal)

def Call.changes (storage : Storage Address) (call : Call Address) : List (Change Address) :=
  match call.op with
  | .attestation op => op.changes storage call.env.timestamp
  | .request op => op.changes storage call.env.timestamp
  | .multisig op => op.changes storage call.env.timestamp
  | .council _ | .admin _ => []

end Changes

section Loaded
variable {Address : Type} [Host Address] {storage : Storage Address} {now : Nat} {id : Str}

/-- The change of a fulfilment, for the request it loads. -/
theorem changes_fulfillRequest (issuer : Address) (expiration : Option Nat)
    {request : AttestationRequest Address} (found : storage.request id = some request) :
    (RequestOp.fulfillRequest issuer id expiration).changes storage now =
      [.issue { nativeRecord issuer request.subject request.claimType now with expiration }] := by
  simp [RequestOp.changes, found]

theorem changes_bypass {proposer : Address} {claimType : Str} (subject : Address)
    (signers : List Address) (threshold : Nat) (bypasses : Bypasses storage proposer claimType) :
    (MultisigOp.proposeAttestation proposer subject claimType signers threshold).changes storage
      now = [.issue (nativeRecord proposer subject claimType now)] :=
  if_pos bypasses

theorem changes_proposal {proposer : Address} {claimType : Str} (subject : Address)
    (signers : List Address) (threshold : Nat) (stays : ¬ Bypasses storage proposer claimType) :
    (MultisigOp.proposeAttestation proposer subject claimType signers threshold).changes storage
      now = [] :=
  if_neg stays

theorem changes_completion (issuer : Address) {proposal : MultiSigProposal Address}
    (found : storage.multisigProposal id = some proposal)
    (reached : proposal.threshold ≤ proposal.signers.length + 1) :
    (MultisigOp.cosignAttestation issuer id).changes storage now =
      [.issue (proposedRecord proposal)] := by
  simp [MultisigOp.changes, found, reached]

theorem changes_cosignature (issuer : Address) {proposal : MultiSigProposal Address}
    (found : storage.multisigProposal id = some proposal)
    (short : proposal.signers.length + 1 < proposal.threshold) :
    (MultisigOp.cosignAttestation issuer id).changes storage now = [] := by
  simp [MultisigOp.changes, found, Nat.not_le_of_lt short]

variable [DecidableEq Address] {attestation : Attestation Address}

theorem changes_revokeAttestation (issuer : Address) (reason : Option Str)
    (found : storage.attestation id = some attestation) :
    (AttestationOp.revokeAttestation issuer id reason).changes storage now =
      [.revoke attestation reason] := by
  simp [AttestationOp.changes, found]

theorem changes_renewAttestation (issuer : Address) (newExpiration : Option Nat)
    (found : storage.attestation id = some attestation) :
    (AttestationOp.renewAttestation issuer id newExpiration).changes storage now =
      [.amend attestation newExpiration] := by
  simp [AttestationOp.changes, found]

theorem changes_updateExpiration (issuer : Address) (newExpiration : Option Nat)
    (found : storage.attestation id = some attestation) :
    (AttestationOp.updateExpiration issuer id newExpiration).changes storage now =
      [.amend attestation newExpiration] := by
  simp [AttestationOp.changes, found]

theorem changes_requestDeletion (subject : Address)
    (found : storage.attestation id = some attestation) :
    (AttestationOp.requestDeletion subject id).changes storage now = [.erase attestation] := by
  simp [AttestationOp.changes, found]

theorem changes_transferAttestation (admin : Address) {newIssuer : Address}
    (found : storage.attestation id = some attestation) (moved : attestation.issuer ≠ newIssuer) :
    (AttestationOp.transferAttestation admin id newIssuer).changes storage now =
      [.transfer attestation newIssuer] := by
  simp [AttestationOp.changes, found, moved]

theorem changes_transfer_same (admin : Address) {newIssuer : Address}
    (found : storage.attestation id = some attestation) (same : attestation.issuer = newIssuer) :
    (AttestationOp.transferAttestation admin id newIssuer).changes storage now = [] := by
  simp [AttestationOp.changes, found, same]

end Loaded

section Outcomes
variable {Address : Type} [DecidableEq Address] [Host Address] {before after : World Address}
  {changes : List (Change Address)}

/-- The world followed a list of changes, each of them enabled. -/
structure Follows (before after : World Address) (changes : List (Change Address)) : Prop where
  register : after.storage.register = Trace.run Register.apply before.storage.register changes
  announced : after.announced = before.announced ++ changes.filterMap Change.issued?
  enabled : Trace.Each Register.apply Enabled before.storage.register changes

/-- Moreover every change found the record it starts from, and nothing was
issued in the name of an unregistered issuer. -/
structure Checked (before after : World Address) (changes : List (Change Address)) : Prop
    extends Follows before after changes where
  orderly : Trace.Each Register.apply Orderly before.storage.register changes
  registered : ∀ change ∈ changes, ∀ attestation, change.issued? = some attestation →
    attestation.origin ≠ .bridged → before.storage.issuer attestation.issuer = true

theorem Follows.created (follows : Follows before after changes) :
    created before after = changes.filterMap Change.issued? :=
  created_of_announced _ follows.announced

theorem checked_nothing (register : after.storage.register = before.storage.register)
    (announced : after.announced = before.announced) : Checked before after [] where
  register := register
  announced := by simpa using announced
  enabled := trivial
  orderly := trivial
  registered := by simp

theorem Untouched.checked (kept : Untouched before after) : Checked before after [] :=
  checked_nothing kept.register kept.announced

theorem follows_issue (attestation : Attestation Address)
    (register : after.storage.register = (before.storage.withIssued attestation).register)
    (announced : after.announced = before.announced ++ [attestation])
    (enabled : Enabled before.storage.register (.issue attestation)) :
    Follows before after [.issue attestation] where
  register := register
  announced := announced
  enabled := ⟨enabled, trivial⟩

theorem checked_issue (attestation : Attestation Address)
    (register : after.storage.register = (before.storage.withIssued attestation).register)
    (announced : after.announced = before.announced ++ [attestation])
    (enabled : Enabled before.storage.register (.issue attestation))
    (fresh : before.storage.attestation attestation.id = none)
    (registered : attestation.origin ≠ .bridged →
      before.storage.issuer attestation.issuer = true) :
    Checked before after [.issue attestation] where
  toFollows := follows_issue attestation register announced enabled
  orderly := ⟨fresh, trivial⟩
  registered := by
    intro change member issued same native
    rw [List.mem_singleton] at member
    subst member
    obtain rfl := Option.some.inj same
    exact registered native

omit [DecidableEq Address] in
/-- A change of a stored record is both enabled and orderly. -/
theorem enabled_of_found {register : Register Address} {change : Change Address}
    {attestation : Attestation Address} (base : change.base = some attestation)
    (found : register.record attestation.id = some attestation) :
    Enabled register change ∧ Orderly register change := by
  have orderly : Orderly register change := by
    rw [Orderly, Change.written_id base, base, found]
  cases change with
  | issue issued => cases base
  | _ => exact ⟨orderly, orderly⟩

theorem checked_change (change : Change Address) {attestation : Attestation Address}
    (base : change.base = some attestation)
    (found : before.storage.attestation attestation.id = some attestation)
    (register : after.storage.register = before.storage.register.apply change)
    (announced : after.announced = before.announced) : Checked before after [change] := by
  have sound : Enabled before.storage.register change ∧ Orderly before.storage.register change :=
    enabled_of_found base found
  have silent : change.issued? = none := by
    cases change <;> simp_all [Change.base, Change.issued?]
  refine ⟨⟨register, ?_, sound.1, trivial⟩, ⟨sound.2, trivial⟩, ?_⟩
  · simp [announced, silent]
  · intro other member issued same
    rw [List.mem_singleton] at member
    rw [member, silent] at same
    cases same

end Outcomes

section Batches
variable {Address : Type} [DecidableEq Address]

/-- A batch issues its records one by one. Only the issuer's index is written at
the end, which is where the two sides part in between. -/
theorem run_issues (storage : Storage Address) (register : Register Address) (issuer : Address)
    (records : List (Attestation Address)) (own : ∀ record ∈ records, record.issuer = issuer)
    (record : register.record = storage.attestation)
    (bySubject : register.bySubject = storage.subjectAttestations)
    (valid : register.valid = storage.validAttestations) :
    Trace.run Register.apply register (records.map .issue) =
      { (Trace.run withListed storage records).register with
        byIssuer := Function.update register.byIssuer issuer
          (register.byIssuer issuer ++ records.map (·.id)) } := by
  induction records generalizing storage register with
  | nil => simp [Storage.register, ← record, ← bySubject, ← valid]
  | cons first rest ih =>
      rw [List.map_cons, Trace.run_cons, Trace.run_cons,
        ih (withListed storage first) _ (fun other member => own other (by simp [member]))]
      · simp [Register.apply, SecondaryIndex.add, own first (by simp)]
      · simp [Register.apply, Change.written, withListed, record]
      · simp [Register.apply, SecondaryIndex.add, withListed, bySubject]
      · simp [Register.apply, SecondaryIndex.add, withListed, valid]

theorem orderly_issues {limits : StorageLimits} {storage : Storage Address}
    {register : Register Address} {records : List (Attestation Address)}
    (listable : Trace.Each withListed (Listable limits) storage records)
    (record : register.record = storage.attestation) :
    Trace.Each Register.apply Orderly register (records.map .issue) := by
  induction records generalizing storage register with
  | nil => trivial
  | cons first rest ih =>
      refine ⟨?_, ih listable.2 ?_⟩
      · rw [Orderly, record]
        exact listable.1.fresh
      · simp [Register.apply, Change.written, withListed, record]

theorem run_revocations {issuer : Address} {reason : Option Str} {timestamp : Nat}
    {storage : Storage Address} {records : List (Attestation Address)}
    (own : ∀ record ∈ records, record.issuer = issuer) :
    (Trace.run (withBatchRevoked issuer reason timestamp) storage records).register =
      Trace.run Register.apply storage.register (records.map (.revokeInBatch · reason)) := by
  induction records generalizing storage with
  | nil => rfl
  | cons first rest ih =>
      rw [List.map_cons, Trace.run_cons, Trace.run_cons,
        ih fun other member => own other (by simp [member])]
      obtain rfl := own first (by simp)
      rfl

omit [DecidableEq Address] in
/-- The records a batch revocation has loaded are those of its ids. -/
theorem map_of_revocable {β : Type} {issuer : Address} {storage : Storage Address}
    {ids : List Str} {records : List (Attestation Address)} (f : Attestation Address → β)
    (revocable : List.Forall₂ (Revocable issuer storage) ids records) :
    (ids.flatMap fun id => (storage.attestation id).toList.map f) = records.map f := by
  induction revocable with
  | nil => rfl
  | cons head _ ih => simp [head.found, ih]

variable [Host Address]

omit [DecidableEq Address] in
theorem ids_of_revocable {issuer : Address} {storage : Storage Address} {ids : List Str}
    {records : List (Attestation Address)} (keyed : Keyed storage.register)
    (revocable : List.Forall₂ (Revocable issuer storage) ids records) :
    records.map (·.id) = ids := by
  induction revocable with
  | nil => rfl
  | cons head _ ih => rw [List.map_cons, ih, (keyed _ _ head.found).1]

omit [DecidableEq Address] in
theorem found_of_revocable {issuer : Address} {storage : Storage Address} {ids : List Str}
    {records : List (Attestation Address)} (keyed : Keyed storage.register)
    (revocable : List.Forall₂ (Revocable issuer storage) ids records) :
    ∀ record ∈ records, record.issuer = issuer ∧
      storage.attestation record.id = some record := by
  induction revocable with
  | nil => simp
  | cons head _ ih =>
      rw [List.forall_mem_cons]
      exact ⟨⟨head.own, (keyed _ _ head.found).1.symm ▸ head.found⟩, ih⟩

theorem orderly_revocations {register : Register Address} (reason : Option Str)
    {records : List (Attestation Address)}
    (found : ∀ record ∈ records, register.record record.id = some record)
    (distinct : (records.map (·.id)).Nodup) :
    Trace.Each Register.apply (fun register change => Enabled register change ∧
      Orderly register change) register (records.map (.revokeInBatch · reason)) := by
  induction records generalizing register with
  | nil => trivial
  | cons first rest ih =>
      obtain ⟨once, distinct⟩ := List.nodup_cons.mp distinct
      refine ⟨enabled_of_found rfl (found first (by simp)), ih (fun other member => ?_) distinct⟩
      have apart : other.id ≠ first.id :=
        fun same => once (List.mem_map.mpr ⟨other, member, same⟩)
      simp [Register.apply, Change.written, Function.update_of_ne apart, found other, member]

end Batches

section Operations
variable {Address : Type} [DecidableEq Address] [Host Address] {env : Env Address}
  {before after : World Address}

theorem checked_native {issuer : Address} {claimType : Str} {timestamp : Nat}
    (attestation : Attestation Address)
    (id : attestation.id = Attestation.generateId issuer attestation.subject claimType timestamp)
    (flags : attestation.revoked = false ∧ attestation.deleted = false)
    (register : after.storage.register = (before.storage.withIssued attestation).register)
    (announced : after.announced = before.announced ++ [attestation])
    (fresh : before.storage.attestation attestation.id = none)
    (registered : before.storage.issuer attestation.issuer = true) :
    Checked before after [.issue attestation] :=
  checked_issue attestation register announced ⟨flags, .inl ⟨_, _, _, id⟩⟩ fresh fun _ => registered

theorem IssuesOne.checked {record : Attestation Address} (issues : IssuesOne before after record) :
    Checked before after [.issue record] := by
  obtain ⟨-, registered, flags, named, fresh, -, entry, event, times, payments, -, announces, rfl⟩ :=
    issues
  exact checked_issue record rfl (by simp [World.announced, announces])
    ⟨flags, named.imp_right fun bridged => ⟨bridged, fresh⟩⟩ fresh registered

theorem checked_createAttestationsBatch (issuer : Address) (subjects : List Address)
    (claimType : Str) (expiration : Option Nat) (ids : List Str)
    (accepted : Returns (createAttestationsBatch issuer subjects claimType expiration)
      env before ids after) :
    Checked before after (subjects.map fun subject =>
      .issue (batchRecord issuer claimType expiration env.timestamp subject)) := by
  obtain ⟨records, built⟩ : ∃ records,
      records = subjects.map (batchRecord issuer claimType expiration env.timestamp) := ⟨_, rfl⟩
  obtain ⟨⟨-, registered, -, -, -, -, -, listable, -, -⟩, -, rfl⟩ :=
    (returns_createAttestationsBatch _ _ _ _ _ records built).mp accepted
  have changes : (subjects.map fun subject =>
      Change.issue (batchRecord issuer claimType expiration env.timestamp subject)) =
        records.map .issue := by
    rw [built, List.map_map]
    rfl
  have own : ∀ record ∈ records, record.issuer = issuer ∧
      (record.revoked = false ∧ record.deleted = false) ∧ NativeName record.id record.subject := by
    intro record member
    rw [built] at member
    obtain ⟨subject, -, rfl⟩ := List.mem_map.mp member
    exact ⟨rfl, ⟨rfl, rfl⟩, issuer, claimType, env.timestamp, rfl⟩
  rw [changes]
  refine ⟨⟨?_, ?_, ?_⟩, orderly_issues listable rfl, ?_⟩
  · rw [run_issues before.storage _ issuer records (fun record member => (own record member).1)
      rfl rfl rfl]
    rfl
  · simp [World.announced, List.filterMap_map, Function.comp_def, Event.creation?, Change.issued?]
  · refine Trace.each_of_forall _ fun change member register => ?_
    obtain ⟨record, listed, rfl⟩ := List.mem_map.mp member
    exact ⟨(own record listed).2.1, .inl (own record listed).2.2⟩
  · intro change member attestation issued _
    obtain ⟨record, listed, rfl⟩ := List.mem_map.mp member
    obtain rfl := Option.some.inj issued
    rw [(own record listed).1]
    exact registered

theorem checked_amendment {issuer : Address} {id : Str} {attestation : Attestation Address}
    (newExpiration : Option Nat) (action : AuditAction) (details : Option Str)
    (keyed : Keyed before.storage.register)
    (managed : Managed before.storage env issuer id attestation) :
    Checked before
      (afterRenewal env before issuer id attestation newExpiration action details)
      [.amend attestation newExpiration] := by
  obtain rfl := (keyed id attestation managed.found).1
  exact checked_change _ rfl managed.found rfl
    (by simp [World.announced, afterRenewal, Event.creation?])

theorem checked_revokeAttestationsBatch (issuer : Address) (ids : List Str)
    (reason : Option Str) (count : Nat) (keyed : Keyed before.storage.register)
    (accepted : Returns (revokeAttestationsBatch issuer ids reason) env before count after) :
    Checked before after (ids.flatMap fun id =>
      (before.storage.attestation id).toList.map (.revokeInBatch · reason)) := by
  obtain ⟨records, ⟨-, -, -, -, -, distinct, revocable, -⟩, -, rfl⟩ :=
    (returns_revokeAttestationsBatch _ _ _ _).mp accepted
  rw [map_of_revocable _ revocable]
  have found := found_of_revocable keyed revocable
  have stored : ∀ record ∈ records, before.storage.register.record record.id = some record :=
    fun record member => (found record member).2
  have each := orderly_revocations reason stored (ids_of_revocable keyed revocable ▸ distinct)
  refine ⟨⟨?_, ?_, ?_⟩, ?_, ?_⟩
  · rw [← run_revocations fun record member => (found record member).1]
    rfl
  · simp [World.announced, List.filterMap_map, Function.comp_def, Event.creation?, Change.issued?]
  · exact each.imp fun _ _ => And.left
  · exact each.imp fun _ _ => And.right
  · intro change member attestation issued
    obtain ⟨record, -, rfl⟩ := List.mem_map.mp member
    cases issued

theorem AttestationOp.checked (op : AttestationOp Address)
    (keyed : Keyed before.storage.register) (accepted : Returns op.exec env before () after) :
    Checked before after (op.changes before.storage env.timestamp) := by
  cases op with
  | createAttestation | createAttestationValidFrom | createAttestationJurisdiction
  | importAttestation | bridgeAttestation | createAttestationAsDelegate =>
      exact (AttestationOp.issues_one accepted rfl).checked
  | createAttestationsBatch issuer subjects claimType expiration =>
      obtain ⟨ids, accepted⟩ := (returns_void ..).mp accepted
      exact checked_createAttestationsBatch _ _ _ _ ids accepted
  | revokeAttestation issuer id reason =>
      obtain ⟨attestation, managed, -, -, -, rfl⟩ := (returns_revokeAttestation ..).mp accepted
      obtain rfl := (keyed id attestation managed.found).1
      obtain rfl := managed.own
      rw [changes_revokeAttestation _ reason managed.found]
      exact checked_change _ rfl managed.found rfl (by simp [World.announced, Event.creation?])
  | renewAttestation issuer id newExpiration =>
      obtain ⟨attestation, managed, -, details, -, rfl⟩ :=
        (returns_renewAttestation ..).mp accepted
      rw [changes_renewAttestation issuer newExpiration managed.found]
      exact checked_amendment newExpiration .renewed details keyed managed
  | revokeAttestationsBatch issuer ids reason =>
      obtain ⟨count, accepted⟩ := (returns_void ..).mp accepted
      exact checked_revokeAttestationsBatch _ _ _ count keyed accepted
  | updateExpiration issuer id newExpiration =>
      obtain ⟨attestation, managed, -, rfl⟩ := (returns_updateExpiration ..).mp accepted
      rw [changes_updateExpiration issuer newExpiration managed.found]
      exact checked_amendment newExpiration .updated none keyed managed
  | transferAttestation admin id newIssuer =>
      obtain ⟨attestation, ⟨-, -, -, found⟩, ⟨same, rfl⟩ | ⟨moved, -, rfl⟩⟩ :=
        (returns_transferAttestation ..).mp accepted
      · rw [changes_transfer_same admin found same]
        exact Untouched.checked ⟨rfl, rfl, rfl, rfl, rfl⟩
      · obtain rfl := (keyed id attestation found).1
        rw [changes_transferAttestation admin found moved]
        refine checked_change _ rfl found ?_ (by simp [World.announced, Event.creation?])
        simp [Storage.register, Register.apply, Change.written, SecondaryIndex.add,
          SecondaryIndex.drop, Function.update_of_ne (Ne.symm moved)]
  | requestDeletion subject id =>
      obtain ⟨attestation, ⟨-, found, rfl, -, -⟩, rfl⟩ := (returns_requestDeletion ..).mp accepted
      obtain rfl := (keyed id attestation found).1
      rw [changes_requestDeletion _ found]
      exact checked_change _ rfl found rfl (by simp [World.announced, Event.creation?])
  | endorseAttestation endorser id =>
      obtain ⟨-, rfl⟩ := (returns_endorseAttestation ..).mp accepted
      exact Untouched.checked ⟨rfl, rfl, rfl, rfl, rfl⟩

theorem RequestOp.checked (op : RequestOp Address) (accepted : Returns op.exec env before () after) :
    Checked before after (op.changes before.storage env.timestamp) := by
  cases op.outcome accepted with
  | fulfillRequest built checks =>
      subst built
      rw [changes_fulfillRequest _ _ checks.found]
      exact checked_native _ rfl ⟨rfl, rfl⟩ rfl
        (by simp [World.announced, Event.creation?, nativeRecord]) checks.fresh checks.registered
  | _ =>
      exact Untouched.checked ⟨rfl, rfl, rfl, rfl, by simp [World.announced, Event.creation?]⟩

/-- The two multi-sig paths to a record do not look for one under its id. -/
theorem MultisigOp.follows (op : MultisigOp Address)
    (accepted : Returns op.exec env before () after) :
    Follows before after (op.changes before.storage env.timestamp) := by
  cases op.outcome accepted with
  | bypass built _ bypasses =>
      subst built
      rw [changes_bypass _ _ _ bypasses]
      exact follows_issue _ rfl (by simp [World.announced, Event.creation?, nativeRecord])
        ⟨⟨rfl, rfl⟩, .inl ⟨_, _, _, rfl⟩⟩
  | proposal _ _ stays =>
      rw [changes_proposal _ _ _ stays]
      refine Checked.toFollows (checked_nothing rfl ?_)
      simp [World.announced, Event.creation?]
  | completion cosignable reached =>
      rw [changes_completion _ cosignable.found reached]
      exact follows_issue _ rfl (by simp [World.announced, List.filterMap_cons, Event.creation?])
        ⟨⟨rfl, rfl⟩, .inl ⟨_, _, _, rfl⟩⟩
  | cosignature cosignable short =>
      rw [changes_cosignature _ cosignable.found short]
      refine Checked.toFollows (checked_nothing rfl ?_)
      simp [World.announced, Event.creation?]

/-- Every accepted call changes the register as `changes` says. -/
theorem follows_of_accepted {call : Call Address} (keyed : Keyed before.storage.register)
    (accepted : Accepted before call after) :
    Follows before after (call.changes before.storage) := by
  obtain ⟨env, op⟩ := call
  cases op with
  | attestation op => exact (op.checked keyed accepted).toFollows
  | request op => exact (op.checked accepted).toFollows
  | multisig op => exact op.follows accepted
  | council op => exact (op.untouched accepted).checked.toFollows
  | admin op => exact (op.administers accepted).toUntouched.checked.toFollows

/-- Outside multi-sig the changes are also checked against the store. -/
theorem checked_of_accepted {call : Call Address} (keyed : Keyed before.storage.register)
    (direct : ∀ op, call.op ≠ .multisig op) (accepted : Accepted before call after) :
    Checked before after (call.changes before.storage) := by
  obtain ⟨env, op⟩ := call
  cases op with
  | attestation op => exact op.checked keyed accepted
  | request op => exact op.checked accepted
  | multisig op => exact absurd rfl (direct op)
  | council op => exact (op.untouched accepted).checked
  | admin op => exact (op.administers accepted).toUntouched.checked

/-- A transfer among the changes of a call is that of a transfer which passed its checks. -/
theorem transferable_of_change {call : Call Address} {attestation : Attestation Address}
    {newIssuer : Address} (accepted : Accepted before call after)
    (member : .transfer attestation newIssuer ∈ call.changes before.storage) :
    ∃ admin id, call.op = .attestation (.transferAttestation admin id newIssuer) ∧
      Transferable before.storage call.env admin id newIssuer attestation := by
  obtain ⟨env, op⟩ := call
  cases op with
  | attestation op =>
      cases op with
      | transferAttestation admin id target =>
          obtain ⟨stored, ⟨auth, council, registered, found⟩, ⟨same, -⟩ | ⟨moved, ttl, -⟩⟩ :=
            (returns_transferAttestation ..).mp accepted
          · simp [Call.changes, changes_transfer_same admin found same] at member
          · simp only [Call.changes, changes_transferAttestation admin found moved] at member
            obtain ⟨rfl, rfl⟩ := Change.transfer.inj (List.mem_singleton.mp member)
            exact ⟨admin, id, rfl, auth, council, registered, found, moved, ttl⟩
      | _ => simp [Call.changes, AttestationOp.changes] at member
  | request op => cases op <;> simp [Call.changes, RequestOp.changes] at member
  | multisig op => cases op <;> simp [Call.changes, MultisigOp.changes] at member
  | _ => cases member

/-- An invariant of the register that every enabled change keeps holds after
every run. -/
theorem register_invariant {invariant : Register Address → Prop}
    (initial : invariant (Register.empty Address))
    (keeps : ∀ register change, Keyed register → invariant register → Enabled register change →
      invariant (register.apply change))
    (calls : List (Call Address)) :
    Keyed (run calls).storage.register ∧ invariant (run calls).storage.register := by
  have keeps_call : ∀ before call after, (Keyed before.storage.register ∧
      invariant before.storage.register) → Accepted before call after →
        Keyed after.storage.register ∧ invariant after.storage.register := by
    intro before call after holds accepted
    have follows := follows_of_accepted holds.1 accepted
    have step : ∀ register change, (Keyed register ∧ invariant register) →
        Enabled register change →
          Keyed (register.apply change) ∧ invariant (register.apply change) :=
      fun register change kept enabled =>
        ⟨kept.1.apply enabled, keeps register change kept.1 kept.2 enabled⟩
    rw [follows.register]
    exact Trace.invariant_of_each step holds follows.enabled
  exact invariant_of_run ⟨keyed_empty, initial⟩ keeps_call calls

theorem keyed_run (calls : List (Call Address)) : Keyed (run calls).storage.register :=
  (register_invariant keyed_empty (fun _ _ keyed _ enabled => keyed.apply enabled) calls).1

/-- The states in which the calls of a run are made are reachable, so their
records are keyed. -/
theorem each_keyed {condition : World Address → Call Address → Prop}
    {calls : List (Call Address)} (guarded : Trace.Each step condition (World.empty Address) calls) :
    Trace.Each step (fun world call => Keyed world.storage.register ∧ condition world call)
      (World.empty Address) calls := by
  rw [Trace.each_iff] at *
  exact fun before call after split => ⟨keyed_run before, guarded before call after split⟩

/-- An invariant that accepted calls keep in keyed states, under a condition, holds in
every state of a run whose calls meet the condition. -/
theorem invariant_of_keyed_calls {condition : World Address → Call Address → Prop}
    {invariant : World Address → Prop} (initial : invariant (World.empty Address))
    (keeps : ∀ before call after, Keyed before.storage.register → invariant before →
      condition before call → Accepted before call after → invariant after)
    {calls early late : List (Call Address)} (split : calls = early ++ late)
    (guarded : Trace.Each step condition (World.empty Address) calls) : invariant (run early) := by
  rw [split] at guarded
  exact invariant_of_guarded_run initial
    (fun before call after holds checks accepted =>
      keeps before call after checks.1 holds checks.2 accepted)
    (each_keyed (Trace.each_append.mp guarded).1)

theorem invariant_of_keyed_run {invariant : World Address → Prop}
    (initial : invariant (World.empty Address))
    (keeps : ∀ before call after, Keyed before.storage.register → invariant before →
      Accepted before call after → invariant after)
    (calls : List (Call Address)) : invariant (run calls) :=
  invariant_of_keyed_calls initial
    (fun before call after keyed holds _ accepted => keeps before call after keyed holds accepted)
    (List.append_nil calls).symm (Trace.each_of_forall _ fun _ _ _ => trivial)

/-- Without multi-sig every change is checked. An invariant of the register that such
changes keep holds after every run. -/
theorem direct_invariant {invariant : Register Address → Prop}
    (initial : invariant (Register.empty Address))
    (keeps : ∀ register change, invariant register → Enabled register change →
      Orderly register change → invariant (register.apply change))
    (calls : List (Call Address)) (direct : ∀ call ∈ calls, ∀ op, call.op ≠ .multisig op) :
    invariant (run calls).storage.register := by
  refine @invariant_of_keyed_calls _ _ _ (fun _ call => ∀ op, call.op ≠ .multisig op)
    (fun world => invariant world.storage.register) initial ?_ calls calls []
    (List.append_nil calls).symm (Trace.each_of_forall _ fun call member _ => direct call member)
  intro before call after keyed holds direct accepted
  have checked := checked_of_accepted keyed direct accepted
  rw [checked.register]
  exact Trace.invariant_of_each (fun register change kept passed =>
    keeps register change kept passed.1 passed.2) holds (checked.enabled.and checked.orderly)

end Operations

end TrustLink
