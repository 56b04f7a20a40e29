import TrustLink.IssuerRegistry

/-!
What the issuing operations ask about the subject. A direct issuance wants a
listed subject other than its issuer; that of a delegate only the latter; a
batch, a fulfilment and the two multi-sig paths to a record want neither.
-/
namespace TrustLink
open Transaction Contract

section Conditions
variable {Address : Type} [DecidableEq Address] [Host Address]

/-- The subject was checked against the issuer and the issuer's whitelist. -/
structure Vetted (storage : Storage Address) (record : Attestation Address) : Prop where
  distinct : record.issuer ≠ record.subject
  listed : storage.whitelistEnabled record.issuer = true →
    storage.whitelist record.issuer record.subject = true

/-- The call passes every check of an operation that issues the record without
looking at the whitelist. -/
def IssuesUnvetted (storage : Storage Address) (call : Call Address)
    (record : Attestation Address) : Prop :=
  match call.op with
  | .attestation (.createAttestationsBatch issuer subjects claimType expiration) =>
      BatchChecks storage call.env issuer subjects claimType expiration
          (subjects.map (batchRecord issuer claimType expiration call.env.timestamp)) ∧
        record ∈ subjects.map (batchRecord issuer claimType expiration call.env.timestamp)
  | .attestation (.createAttestationAsDelegate delegate delegator subject claimType expiration
      metadata) =>
      record = { nativeRecord delegator subject claimType call.env.timestamp with
          expiration, metadata } ∧
        DelegateChecks storage call.env delegate delegator subject claimType expiration metadata
          record
  | .request (.fulfillRequest issuer requestId expiration) =>
      ∃ request,
        record = { nativeRecord issuer request.subject request.claimType call.env.timestamp with
          expiration } ∧
        FulfillChecks storage call.env issuer requestId expiration request record
  | .multisig (.proposeAttestation proposer subject claimType _ _) =>
      record = nativeRecord proposer subject claimType call.env.timestamp ∧
        Active storage call.env proposer ∧ Bypasses storage proposer claimType ∧
        StoreFits storage record
  | .multisig (.cosignAttestation issuer proposalId) =>
      ∃ proposal, record = proposedRecord proposal ∧
        Cosignable storage call.env issuer proposalId proposal ∧
        proposal.threshold ≤ proposal.signers.length + 1 ∧ StoreFits storage record
  | _ => False

/-- The issuer is in whitelist mode and the subject is not on the list. -/
def Unlisted (storage : Storage Address) (record : Attestation Address) : Prop :=
  storage.whitelistEnabled record.issuer = true ∧
    storage.whitelist record.issuer record.subject = false

/-- The call passes its checks and leaves a native record that its subject
issued: a new one, or one transferred to its subject. -/
def SelfCertifies (storage : Storage Address) (call : Call Address) : Prop :=
  (∃ record, IssuesUnvetted storage call record ∧ record.issuer = record.subject) ∨
    ∃ admin id newIssuer attestation,
      call.op = .attestation (.transferAttestation admin id newIssuer) ∧
        Transferable storage call.env admin id newIssuer attestation ∧
        attestation.origin = .native ∧ attestation.subject = newIssuer

/-- The step announces the record as new, or puts it under an id that was free. -/
def Stores (world : World Address) (call : Call Address) (record : Attestation Address) : Prop :=
  record ∈ created world (step world call) ∨
    ∃ id, world.storage.attestation id = none ∧
      (step world call).storage.attestation id = some record

end Conditions

section Issues
variable {Address : Type} [DecidableEq Address] [Host Address] {before after : World Address}
  {world : World Address} {call : Call Address} {record : Attestation Address}

omit [DecidableEq Address] [Host Address] in
theorem mem_filterMap_issued {changes : List (Change Address)} :
    record ∈ changes.filterMap Change.issued? ↔ .issue record ∈ changes := by
  rw [List.mem_filterMap]
  constructor
  · rintro ⟨change, member, issued⟩
    cases change with
    | issue attestation => exact Option.some.inj issued ▸ member
    | _ => cases issued
  · intro member
    exact ⟨_, member, rfl⟩

/-- What a step stores, an accepted call issued. -/
theorem Stores.issued (stores : Stores world call record)
    (keyed : Keyed world.storage.register) :
    Accepted world call (step world call) ∧ .issue record ∈ call.changes world.storage := by
  rcases step_cases world call with accepted | same
  · have follows := follows_of_accepted keyed accepted
    refine ⟨accepted, mem_filterMap_issued.mp ?_⟩
    rw [← follows.created]
    exact stores.elim id fun ⟨_, free, found⟩ => issued_of_new follows free found
  · rw [Stores, same] at stores
    rcases stores with announced | ⟨id, free, found⟩
    · simp [created] at announced
    · cases free.symm.trans found

theorem stores_of_issue (keyed : Keyed world.storage.register)
    (accepted : Accepted world call (step world call))
    (issued : .issue record ∈ call.changes world.storage) : Stores world call record := by
  refine .inl ?_
  rw [(follows_of_accepted keyed accepted).created]
  exact mem_filterMap_issued.mpr issued

theorem vetted_of_createAttestationInternal {env : Env Address} {issuer subject : Address}
    {claimType : Str} {expiration : Option Nat} {metadata jurisdiction : Option Str}
    {tags : Option (List Str)} {validFrom : Option Nat} {id : Str}
    (accepted : Returns (createAttestationInternal issuer subject claimType expiration metadata
      jurisdiction tags validFrom) env before id after)
    (names : record.issuer = issuer ∧ record.subject = subject) : Vetted before.storage record := by
  obtain ⟨checks, -⟩ := (returns_createAttestationInternal _ _ _ _ _ _ _ _ _ _ rfl).mp accepted
  obtain ⟨rfl, rfl⟩ := names
  exact ⟨checks.distinct, checks.listed⟩

theorem AttestationOp.vetted_or_unvetted {env : Env Address} (op : AttestationOp Address)
    (accepted : Returns op.exec env before () after)
    (issued : .issue record ∈ op.changes before.storage env.timestamp)
    (native : record.origin = .native) :
    Vetted before.storage record ∨
      IssuesUnvetted before.storage ⟨env, .attestation op⟩ record := by
  cases op with
  | createAttestation | createAttestationValidFrom | createAttestationJurisdiction =>
      obtain ⟨id, accepted⟩ := (returns_void ..).mp accepted
      obtain rfl := Change.issue.inj (List.mem_singleton.mp issued)
      exact .inl (vetted_of_createAttestationInternal accepted ⟨rfl, rfl⟩)
  | importAttestation | bridgeAttestation =>
      -- the record is not a native one
      obtain rfl := Change.issue.inj (List.mem_singleton.mp issued)
      cases native
  | createAttestationsBatch issuer subjects claimType expiration =>
      obtain ⟨ids, accepted⟩ := (returns_void ..).mp accepted
      obtain ⟨checks, -⟩ := (returns_createAttestationsBatch _ _ _ _ _ _ rfl).mp accepted
      obtain ⟨subject, member, same⟩ := List.mem_map.mp issued
      exact .inr ⟨checks, List.mem_map.mpr ⟨subject, member, Change.issue.inj same⟩⟩
  | createAttestationAsDelegate delegate delegator subject claimType expiration metadata =>
      obtain ⟨id, accepted⟩ := (returns_void ..).mp accepted
      obtain ⟨checks, -⟩ := (returns_createAttestationAsDelegate _ _ _ _ _ _ _ _ rfl).mp accepted
      obtain rfl := Change.issue.inj (List.mem_singleton.mp issued)
      exact .inr ⟨rfl, checks⟩
  | _ => simp [AttestationOp.changes] at issued

theorem RequestOp.unvetted {env : Env Address} (op : RequestOp Address)
    (accepted : Returns op.exec env before () after)
    (issued : .issue record ∈ op.changes before.storage env.timestamp) :
    IssuesUnvetted before.storage ⟨env, .request op⟩ record := by
  cases op.outcome accepted with
  | @fulfillRequest _ _ _ request _ built checks =>
      subst built
      rw [changes_fulfillRequest _ _ checks.found] at issued
      obtain rfl := Change.issue.inj (List.mem_singleton.mp issued)
      exact ⟨request, rfl, checks⟩
  | _ => cases issued

theorem MultisigOp.unvetted {env : Env Address} (op : MultisigOp Address)
    (accepted : Returns op.exec env before () after)
    (issued : .issue record ∈ op.changes before.storage env.timestamp) :
    IssuesUnvetted before.storage ⟨env, .multisig op⟩ record := by
  cases op.outcome accepted with
  | bypass built active bypasses fits =>
      subst built
      rw [changes_bypass _ _ _ bypasses] at issued
      obtain rfl := Change.issue.inj (List.mem_singleton.mp issued)
      exact ⟨rfl, active, bypasses, fits⟩
  | proposal _ _ stays =>
      rw [changes_proposal _ _ _ stays] at issued
      cases issued
  | @completion _ _ proposal cosignable reached fits =>
      rw [changes_completion _ cosignable.found reached] at issued
      obtain rfl := Change.issue.inj (List.mem_singleton.mp issued)
      exact ⟨proposal, rfl, cosignable, reached, fits⟩
  | cosignature cosignable short =>
      rw [changes_cosignature _ cosignable.found short] at issued
      cases issued

/-- A request or multi-sig call makes no change, or issues one record. -/
theorem changes_of_other (storage : Storage Address) (call : Call Address)
    (other : ∀ op, call.op ≠ .attestation op) :
    call.changes storage = [] ∨ ∃ record, call.changes storage = [.issue record] := by
  obtain ⟨env, op⟩ := call
  cases op with
  | attestation op => exact absurd rfl (other op)
  | request op =>
      cases op with
      | fulfillRequest issuer requestId expiration =>
          cases found : storage.request requestId <;> simp [Call.changes, RequestOp.changes, found]
      | _ => exact .inl rfl
  | multisig op =>
      cases op with
      | proposeAttestation proposer subject claimType requiredSigners threshold =>
          by_cases bypasses : Bypasses storage proposer claimType <;>
            simp [Call.changes, MultisigOp.changes, bypasses]
      | cosignAttestation issuer proposalId =>
          cases found : storage.multisigProposal proposalId with
          | none => simp [Call.changes, MultisigOp.changes, found]
          | some proposal =>
              by_cases reached : proposal.threshold ≤ proposal.signers.length + 1 <;>
                simp [Call.changes, MultisigOp.changes, found, reached]
  | _ => exact .inl rfl

/-- Neither of them looks at the whitelist before it does so. -/
theorem unvetted_of_other (other : ∀ op, call.op ≠ .attestation op)
    (accepted : Accepted before call after)
    (issued : .issue record ∈ call.changes before.storage) :
    IssuesUnvetted before.storage call record := by
  obtain ⟨env, op⟩ := call
  cases op with
  | attestation op => exact absurd rfl (other op)
  | request op => exact op.unvetted accepted issued
  | multisig op => exact op.unvetted accepted issued
  | _ => cases issued

/-- A native record is issued with a checked subject, or on one of the paths
that do not look at the whitelist. -/
theorem vetted_or_unvetted (accepted : Accepted before call after)
    (issued : .issue record ∈ call.changes before.storage) (native : record.origin = .native) :
    Vetted before.storage record ∨ IssuesUnvetted before.storage call record := by
  by_cases direct : ∃ op, call.op = .attestation op
  · obtain ⟨env, op⟩ := call
    obtain ⟨op, rfl⟩ := direct
    exact op.vetted_or_unvetted accepted issued native
  · exact .inr (unvetted_of_other (not_exists.mp direct) accepted issued)

/-- Such a path does issue the record. -/
theorem issued_of_unvetted (unvetted : IssuesUnvetted world.storage call record) :
    Accepted world call (step world call) ∧ .issue record ∈ call.changes world.storage ∧
      record.origin = .native := by
  have accept : ∀ {after}, Accepted world call after → Accepted world call (step world call) :=
    fun accepted => step_of_accepted accepted ▸ accepted
  obtain ⟨env, op⟩ := call
  cases op with
  | attestation op =>
      cases op with
      | createAttestationsBatch issuer subjects claimType expiration =>
          obtain ⟨checks, member⟩ := unvetted
          obtain ⟨subject, listed, rfl⟩ := List.mem_map.mp member
          exact ⟨accept ((returns_void ..).mpr ⟨_, (returns_createAttestationsBatch issuer subjects
            claimType expiration _ _ rfl).mpr ⟨checks, rfl, rfl⟩⟩),
            List.mem_map.mpr ⟨subject, listed, rfl⟩, rfl⟩
      | createAttestationAsDelegate delegate delegator subject claimType expiration metadata =>
          obtain ⟨rfl, checks⟩ := unvetted
          exact ⟨accept ((returns_void ..).mpr ⟨_, (returns_createAttestationAsDelegate delegate
            delegator subject claimType expiration metadata _ _ rfl).mpr ⟨checks, rfl, rfl⟩⟩),
            List.mem_singleton.mpr rfl, rfl⟩
      | _ => cases unvetted
  | request op =>
      cases op with
      | fulfillRequest issuer requestId expiration =>
          obtain ⟨request, rfl, checks⟩ := unvetted
          refine ⟨accept ((returns_void ..).mpr ⟨_, (returns_fulfillRequest issuer requestId
            expiration _).mpr ⟨request, _, rfl, checks, rfl, rfl⟩⟩), ?_, rfl⟩
          simp [Call.changes, changes_fulfillRequest issuer expiration checks.found]
      | _ => cases unvetted
  | multisig op =>
      cases op with
      | proposeAttestation proposer subject claimType requiredSigners threshold =>
          obtain ⟨rfl, active, bypasses, fits⟩ := unvetted
          refine ⟨accept ((returns_void ..).mpr ⟨_, (returns_proposeAttestation proposer subject
            claimType requiredSigners threshold _).mpr ⟨active, .inl ⟨bypasses,
              (returns_issueAsPremium _ _ _ _ _ rfl).mpr ⟨fits, rfl, rfl⟩⟩⟩⟩), ?_, rfl⟩
          simp [Call.changes, changes_bypass subject requiredSigners threshold bypasses]
      | cosignAttestation issuer proposalId =>
          obtain ⟨proposal, rfl, cosignable, reached, fits⟩ := unvetted
          refine ⟨accept ((returns_cosignAttestation issuer proposalId ()).mpr
            ⟨proposal, cosignable, .inl ⟨reached, fits, rfl⟩⟩), ?_, rfl⟩
          simp [Call.changes, changes_completion issuer cosignable.found reached]
  | _ => cases unvetted

end Issues

section Whitelist
variable {Address : Type} [DecidableEq Address] [Host Address]

/-- Whenever a step stores a native attestation of an issuer in whitelist mode,
its subject is on the issuer's list. -/
def WhitelistEnforced (calls : List (Call Address)) : Prop :=
  ∀ early call late, calls = early ++ call :: late →
    ∀ record : Attestation Address, record.origin = .native → Stores (run early) call record →
      (run early).storage.whitelistEnabled record.issuer = true →
        (run early).storage.whitelist record.issuer record.subject = true

/-- This holds of exactly the runs in which the paths that do not look at the
whitelist never meet a subject that is missing from it. -/
theorem whitelist_enforced_iff (calls : List (Call Address)) :
    WhitelistEnforced calls ↔
      Trace.Each step (fun world call =>
        ∀ record, IssuesUnvetted world.storage call record → ¬ Unlisted world.storage record)
        (World.empty Address) calls := by
  rw [Trace.each_iff]
  constructor
  · intro enforced early call late split record unvetted unlisted
    obtain ⟨accepted, issued, native⟩ := issued_of_unvetted unvetted
    have listed := enforced early call late split record native
      (stores_of_issue (keyed_run early) accepted issued) unlisted.1
    exact Bool.noConfusion (listed.symm.trans unlisted.2)
  · intro guarded early call late split record native stores enabled
    obtain ⟨accepted, issued⟩ := stores.issued (keyed_run early)
    rcases vetted_or_unvetted accepted issued native with vetted | unvetted
    · exact vetted.listed enabled
    · by_contra absent
      exact guarded early call late split record unvetted
        ⟨enabled, Bool.eq_false_iff.mpr absent⟩

end Whitelist

section Whitelisting
open Xdr

/-- Issuer 1 turns whitelist mode on and attests KYC of contract 2 in a batch. -/
def unlistedBatch : List (Call ContractId) :=
  sampleDeployment ++ [
    signed 999 (contractId 1) (.admin (.setWhitelistEnabled (contractId 1) true)),
    signed 1000 (contractId 1) (.attestation
      (.createAttestationsBatch (contractId 1) [contractId 2] (ascii "KYC") none))]

theorem batch_ignores_whitelist :
    (run (unlistedBatch.take 4)).storage.whitelistEnabled (contractId 1) = true ∧
      (run (unlistedBatch.take 4)).storage.whitelist (contractId 1) (contractId 2) = false ∧
      ((run unlistedBatch).storage.attestation sampleId).map
        (fun record => (record.issuer, record.subject, record.origin)) =
          some (contractId 1, contractId 2, .native) ∧
      ¬ WhitelistEnforced unlistedBatch := by
  have enabled : (run (unlistedBatch.take 4)).storage.whitelistEnabled (contractId 1) = true := by
    decide +kernel
  have absent : (run (unlistedBatch.take 4)).storage.whitelist (contractId 1) (contractId 2) =
      false := by decide +kernel
  have free : (run (unlistedBatch.take 4)).storage.attestation sampleId = none := by
    decide +kernel
  have stored : ((run unlistedBatch).storage.attestation sampleId).map
      (fun record => (record.issuer, record.subject, record.origin)) =
        some (contractId 1, contractId 2, .native) := by decide +kernel
  refine ⟨enabled, absent, stored, fun enforced => ?_⟩
  obtain ⟨record, found, fields⟩ := Option.map_eq_some_iff.mp stored
  obtain ⟨issuer, fields⟩ := Prod.mk.inj fields
  obtain ⟨subject, origin⟩ := Prod.mk.inj fields
  have listed := enforced (unlistedBatch.take 4) _ [] rfl record origin
    (.inr ⟨sampleId, free, found⟩)
  rw [issuer, subject, enabled, absent] at listed
  exact Bool.noConfusion (listed rfl)

end Whitelisting

section Certification
variable {Address : Type} [DecidableEq Address] [Host Address] {before after : World Address}
  {world : World Address} {call : Call Address} {record : Attestation Address}

/-- No native record was issued by its own subject. -/
def SelfFree (register : Register Address) : Prop :=
  ∀ id record, register.record id = some record → record.origin = .native →
    record.issuer ≠ record.subject

/-- A change that does not make anybody the issuer of a native record about themselves. -/
def Fair : Change Address → Prop
  | .issue record => record.origin = .native → record.issuer ≠ record.subject
  | .transfer attestation newIssuer => attestation.origin = .native → newIssuer ≠ attestation.subject
  | _ => True

omit [Host Address] in
theorem SelfFree.apply {register : Register Address} {change : Change Address}
    (free : SelfFree register) (found : ∀ attestation, change.base = some attestation →
      register.record attestation.id = some attestation) (fair : Fair change) :
    SelfFree (register.apply change) := by
  intro id record stored native
  by_cases here : id = change.written.id
  · rw [Register.record_apply, here, Function.update_self, Option.some.injEq] at stored
    subst stored
    cases change with
    | issue attestation | transfer attestation newIssuer => exact fair native
    | amend attestation _ | revoke attestation _ | revokeInBatch attestation _
    | erase attestation =>
        -- the record keeps its issuer and its subject
        exact free _ attestation (found _ rfl) native
  · rw [Register.record_apply, Function.update_of_ne here] at stored
    exact free id record stored native

theorem fair_of_accepted (passed : ¬ SelfCertifies before.storage call)
    (accepted : Accepted before call after) :
    ∀ change ∈ call.changes before.storage, Fair change := by
  intro change member
  cases change with
  | issue record =>
      intro native same
      rcases vetted_or_unvetted accepted member native with vetted | unvetted
      · exact vetted.distinct same
      · exact passed (.inl ⟨record, unvetted, same⟩)
  | transfer attestation newIssuer =>
      intro native same
      obtain ⟨admin, id, named, checks⟩ := transferable_of_change accepted member
      exact passed (.inr ⟨admin, id, newIssuer, attestation, named, checks, native, same.symm⟩)
  | _ => trivial

theorem selfFree_of_accepted (keyed : Keyed before.storage.register)
    (free : SelfFree before.storage.register) (passed : ¬ SelfCertifies before.storage call)
    (accepted : Accepted before call after) : SelfFree after.storage.register := by
  have follows := follows_of_accepted keyed accepted
  have fair : Trace.Each Register.apply (fun _ change => Fair change)
      before.storage.register (call.changes before.storage) :=
    Trace.each_of_forall _ fun change member _ => fair_of_accepted passed accepted change member
  rw [follows.register]
  refine Trace.invariant_of_each (fun register change free checks => ?_) free
    (follows.enabled.and fair)
  refine free.apply (fun attestation base => ?_) checks.2
  rcases checks.1.cases with ⟨issued, rfl, -⟩ | ⟨start, started, found⟩
  · cases base
  · obtain rfl := Option.some.inj (started.symm.trans base)
    exact found

omit [Host Address] in
/-- A record stays where it is as long as only free ids are written to. -/
theorem kept_of_orderly {register : Register Address} {changes : List (Change Address)}
    (issues : ∀ change ∈ changes, change.base = none)
    (orderly : Trace.Each Register.apply Orderly register changes) {id : Str}
    (stored : register.record id = some record) :
    (Trace.run Register.apply register changes).record id = some record := by
  induction changes generalizing register with
  | nil => exact stored
  | cons change rest ih =>
      refine ih (fun other member => issues other (by simp [member])) orderly.2 ?_
      have free : register.record change.written.id = none :=
        orderly.1.trans (issues change (by simp))
      have other : id ≠ change.written.id := by
        rintro rfl
        exact absurd (free.symm.trans stored) nofun
      rw [Register.record_apply, Function.update_of_ne other, stored]

omit [Host Address] in
theorem stored_of_orderly {register : Register Address} {changes : List (Change Address)}
    (issues : ∀ change ∈ changes, change.base = none)
    (orderly : Trace.Each Register.apply Orderly register changes)
    (member : .issue record ∈ changes) :
    (Trace.run Register.apply register changes).record record.id = some record := by
  induction changes generalizing register with
  | nil => cases member
  | cons change rest ih =>
      have later : ∀ change ∈ rest, change.base = none :=
        fun other member => issues other (by simp [member])
      rcases List.mem_cons.mp member with rfl | member
      · exact kept_of_orderly later orderly.2 (by
          rw [Register.record_apply, Change.written, Function.update_self])
      · exact ih later orderly.2 member

/-- What an unchecked path issues is in the store after the call. -/
theorem stored_of_unvetted (keyed : Keyed world.storage.register)
    (unvetted : IssuesUnvetted world.storage call record) :
    (step world call).storage.attestation record.id = some record := by
  obtain ⟨accepted, issued, -⟩ := issued_of_unvetted unvetted
  have follows := follows_of_accepted keyed accepted
  have final : (Trace.run Register.apply world.storage.register
      (call.changes world.storage)).record record.id = some record := by
    by_cases direct : ∀ op, call.op ≠ .multisig op
    · have issues : ∀ change ∈ call.changes world.storage, change.base = none :=
        (changes_uniform world.storage call).elim id fun updates => absurd rfl (updates _ issued)
      exact stored_of_orderly issues (checked_of_accepted keyed direct accepted).orderly issued
    · push Not at direct
      obtain ⟨op, named⟩ := direct
      rcases changes_of_other world.storage call (by simp [named]) with none | ⟨single, only⟩
      · rw [none] at issued
        cases issued
      · rw [only] at issued ⊢
        obtain rfl := Change.issue.inj (List.mem_singleton.mp issued)
        rw [Trace.run_cons, Trace.run_nil, Register.record_apply, Change.written,
          Function.update_self]
  rw [← follows.register] at final
  exact final

/-- A call that certifies its own subject leaves such a record. -/
theorem not_selfFree_of_selfCertifies (keyed : Keyed world.storage.register)
    (certifies : SelfCertifies world.storage call) :
    ¬ SelfFree (step world call).storage.register := by
  intro free
  rcases certifies with ⟨record, unvetted, same⟩ |
    ⟨admin, id, newIssuer, attestation, named, checks, native, same⟩
  · exact free record.id record (stored_of_unvetted keyed unvetted)
      (issued_of_unvetted unvetted).2.2 same
  · obtain ⟨env, op⟩ := call
    subst named
    have accepted : Accepted world ⟨env, .attestation (.transferAttestation admin id newIssuer)⟩ _ :=
      (returns_transferAttestation admin id newIssuer ()).mpr ⟨attestation,
        ⟨checks.auth, checks.member, checks.registered, checks.found⟩,
        .inr ⟨checks.moved, checks.ttl, rfl⟩⟩
    rw [step_of_accepted accepted] at free
    exact free attestation.id { attestation with issuer := newIssuer }
      (Function.update_self ..) native same.symm

/-- In every state of the run, no stored native attestation has its issuer as subject. -/
def NoSelfCertification (calls : List (Call Address)) : Prop :=
  ∀ early late, calls = early ++ late → ∀ id record,
    (run early).storage.attestation id = some record → record.origin = .native →
      record.issuer ≠ record.subject

/-- This holds of exactly the runs in which the paths that do not ask are not
used to certify an issuer, nor a transfer to hand a record to its subject. -/
theorem no_self_certification_iff (calls : List (Call Address)) :
    NoSelfCertification calls ↔
      Trace.Each step (fun world call => ¬ SelfCertifies world.storage call) (World.empty Address)
        calls := by
  constructor
  · intro free
    rw [Trace.each_iff]
    intro early call late split certifies
    have next := free (early ++ [call]) late (by simpa using split)
    rw [run_concat] at next
    exact not_selfFree_of_selfCertifies (keyed_run early) certifies next
  · intro guarded early late split
    have keeps : ∀ (before : World Address) call after, Keyed before.storage.register →
        SelfFree before.storage.register → ¬ SelfCertifies before.storage call →
          Accepted before call after → SelfFree after.storage.register :=
      fun _ _ _ keyed free passed accepted => selfFree_of_accepted keyed free passed accepted
    have initial : SelfFree (World.empty Address).storage.register := fun _ _ found => nomatch found
    exact invariant_of_keyed_calls initial keeps split guarded

end Certification

section SelfCertification
open Xdr

/-- Issuer 1 names itself in a batch. -/
def selfBatch : List (Call ContractId) :=
  sampleDeployment ++ [signed 1000 (contractId 1) (.attestation
    (.createAttestationsBatch (contractId 1) [contractId 1] (ascii "KYC") none))]

theorem batch_certifies_its_issuer :
    ((run selfBatch).storage.attestation
        (Attestation.generateId (contractId 1) (contractId 1) (ascii "KYC") 1000)).map
      (fun record => (record.issuer, record.subject, record.origin)) =
        some (contractId 1, contractId 1, .native) ∧
      ¬ NoSelfCertification selfBatch := by
  have stored : ((run selfBatch).storage.attestation
      (Attestation.generateId (contractId 1) (contractId 1) (ascii "KYC") 1000)).map
        (fun record => (record.issuer, record.subject, record.origin)) =
          some (contractId 1, contractId 1, .native) := by decide +kernel
  refine ⟨stored, fun free => ?_⟩
  obtain ⟨record, found, fields⟩ := Option.map_eq_some_iff.mp stored
  obtain ⟨issuer, fields⟩ := Prod.mk.inj fields
  obtain ⟨subject, origin⟩ := Prod.mk.inj fields
  exact free selfBatch [] (List.append_nil _).symm _ record found origin
    (issuer.trans subject.symm)

end SelfCertification

end TrustLink
