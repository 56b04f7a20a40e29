import TrustLink.Effects

/-!
The history of attestations (ADR-003). A record keeps what it says and its flags
only rise, as long as no creation writes over a stored id. Only the two
multi-sig paths can do that, since they do not ask for the id.
-/
namespace TrustLink
open Transaction Contract

section Records
variable {Address : Type}

/-- The later form of a record: what it attests is the same, and it is still
revoked or deleted if it was. -/
structure Later (old new : Attestation Address) : Prop where
  subject : new.subject = old.subject
  claimType : new.claimType = old.claimType
  timestamp : new.timestamp = old.timestamp
  metadata : new.metadata = old.metadata
  jurisdiction : new.jurisdiction = old.jurisdiction
  validFrom : new.validFrom = old.validFrom
  origin : new.origin = old.origin
  sourceChain : new.sourceChain = old.sourceChain
  sourceTx : new.sourceTx = old.sourceTx
  tags : new.tags = old.tags
  revoked : old.revoked = true → new.revoked = true
  deleted : old.deleted = true → new.deleted = true

theorem Later.refl (record : Attestation Address) : Later record record := by
  constructor <;> simp

theorem Later.trans {first second third : Attestation Address} (early : Later first second)
    (late : Later second third) : Later first third where
  subject := late.subject.trans early.subject
  claimType := late.claimType.trans early.claimType
  timestamp := late.timestamp.trans early.timestamp
  metadata := late.metadata.trans early.metadata
  jurisdiction := late.jurisdiction.trans early.jurisdiction
  validFrom := late.validFrom.trans early.validFrom
  origin := late.origin.trans early.origin
  sourceChain := late.sourceChain.trans early.sourceChain
  sourceTx := late.sourceTx.trans early.sourceTx
  tags := late.tags.trans early.tags
  revoked := late.revoked ∘ early.revoked
  deleted := late.deleted ∘ early.deleted

/-- A change writes a later form of the record it starts from. -/
theorem later_written {change : Change Address} {record : Attestation Address}
    (base : change.base = some record) : Later record change.written := by
  cases change with
  | issue issued => cases base
  | _ =>
      obtain rfl := Option.some.inj base
      constructor <;> simp [Change.written]

/-- Every stored record is still there, in a later form. -/
def Preserves (before after : Str → Option (Attestation Address)) : Prop :=
  ∀ id old, before id = some old → ∃ new, after id = some new ∧ Later old new

theorem Preserves.refl (records : Str → Option (Attestation Address)) :
    Preserves records records :=
  fun _ old found => ⟨old, found, .refl old⟩

theorem Preserves.trans {first second third : Str → Option (Attestation Address)}
    (early : Preserves first second) (late : Preserves second third) : Preserves first third := by
  intro id old found
  obtain ⟨middle, stored, kept⟩ := early id old found
  obtain ⟨new, there, later⟩ := late id middle stored
  exact ⟨new, there, kept.trans later⟩

variable [DecidableEq Address]

theorem Orderly.preserves {register : Register Address} {change : Change Address}
    (orderly : Orderly register change) :
    Preserves register.record (register.apply change).record := by
  intro id old found
  by_cases here : id = change.written.id
  · subst here
    exact ⟨change.written, Function.update_self .., later_written (orderly.symm.trans found)⟩
  · exact ⟨old, by rw [Register.record_apply, Function.update_of_ne here, found], .refl old⟩

/-- Records issued by orderly changes had free ids, one each. -/
theorem fresh_of_orderly {register : Register Address} {changes : List (Change Address)}
    (orderly : Trace.Each Register.apply Orderly register changes) :
    (∀ record ∈ changes.filterMap Change.issued?, register.record record.id = none) ∧
      ((changes.filterMap Change.issued?).map (·.id)).Nodup := by
  induction changes generalizing register with
  | nil => simp
  | cons change rest ih =>
      obtain ⟨free, distinct⟩ := ih orderly.2
      -- an id that is free after a change was free before, and is not the one written
      have earlier : ∀ record ∈ rest.filterMap Change.issued?,
          record.id ≠ change.written.id ∧ register.record record.id = none := by
        intro record member
        have empty := free record member
        by_cases here : record.id = change.written.id
        · simp [here] at empty
        · rw [Register.record_apply, Function.update_of_ne here] at empty
          exact ⟨here, empty⟩
      cases change with
      | issue issued =>
          simp only [Change.issued?, List.filterMap_cons, List.forall_mem_cons, List.map_cons,
            List.nodup_cons]
          refine ⟨⟨orderly.1, fun record member => (earlier record member).2⟩, ?_, distinct⟩
          intro taken
          obtain ⟨record, member, same⟩ := List.mem_map.mp taken
          exact (earlier record member).1 same
      | _ => exact ⟨fun record member => (earlier record member).2, distinct⟩

end Records

section Condition
variable {Address : Type} [DecidableEq Address] [Host Address]

/-- The call passes every check of one of the two multi-sig paths to a record,
and the id of the record is taken. -/
def Overwrites (storage : Storage Address) (call : Call Address) : Prop :=
  match call.op with
  | .multisig (.proposeAttestation proposer subject claimType _ _) =>
      let record := nativeRecord proposer subject claimType call.env.timestamp
      Active storage call.env proposer ∧ Bypasses storage proposer claimType ∧
        StoreFits storage record ∧ storage.attestation record.id ≠ none
  | .multisig (.cosignAttestation issuer proposalId) =>
      ∃ proposal, Cosignable storage call.env issuer proposalId proposal ∧
        proposal.threshold ≤ proposal.signers.length + 1 ∧
        StoreFits storage (proposedRecord proposal) ∧
        storage.attestation (proposedRecord proposal).id ≠ none
  | _ => False

variable {before after : World Address} {call : Call Address}

theorem orderly_of_accepted (keyed : Keyed before.storage.register)
    (passed : ¬ Overwrites before.storage call) (accepted : Accepted before call after) :
    Trace.Each Register.apply Orderly before.storage.register (call.changes before.storage) := by
  by_cases direct : ∀ op, call.op ≠ .multisig op
  · exact (checked_of_accepted keyed direct accepted).orderly
  obtain ⟨env, op⟩ := call
  push Not at direct
  obtain ⟨op, rfl⟩ := direct
  cases op.outcome accepted with
  | bypass built active bypasses fits =>
      subst built
      simp only [Call.changes, changes_bypass _ _ _ bypasses]
      refine ⟨?_, trivial⟩
      by_contra taken
      exact passed ⟨active, bypasses, fits, taken⟩
  | proposal _ _ stays =>
      simp only [Call.changes, changes_proposal _ _ _ stays]
      trivial
  | @completion _ _ proposal cosignable reached fits =>
      simp only [Call.changes, changes_completion _ cosignable.found reached]
      refine ⟨?_, trivial⟩
      by_contra taken
      exact passed ⟨proposal, cosignable, reached, fits, taken⟩
  | cosignature cosignable short =>
      simp only [Call.changes, changes_cosignature _ cosignable.found short]
      trivial

/-- A call that overwrites is accepted, and announces a record whose id was taken. -/
theorem created_of_overwrites (overwrites : Overwrites before.storage call) :
    ∃ record ∈ created before (step before call), before.storage.attestation record.id ≠ none := by
  obtain ⟨env, op⟩ := call
  cases op with
  | multisig op =>
      cases op with
      | proposeAttestation proposer subject claimType requiredSigners threshold =>
          obtain ⟨active, bypasses, fits, taken⟩ := overwrites
          have issued := (returns_issueAsPremium _ _ _ _ _ rfl).mpr ⟨fits, rfl, rfl⟩
          have proposed := (returns_proposeAttestation proposer subject claimType requiredSigners
            threshold _).mpr ⟨active, .inl ⟨bypasses, issued⟩⟩
          have accepted : Accepted before ⟨env, .multisig (.proposeAttestation proposer subject
            claimType requiredSigners threshold)⟩ _ := (returns_void ..).mpr ⟨_, proposed⟩
          rw [step_of_accepted accepted, (MultisigOp.follows (.proposeAttestation proposer subject
            claimType requiredSigners threshold) accepted).created]
          rw [changes_bypass subject requiredSigners threshold bypasses]
          exact ⟨_, List.mem_singleton_self _, taken⟩
      | cosignAttestation issuer proposalId =>
          obtain ⟨proposal, cosignable, reached, fits, taken⟩ := overwrites
          have accepted : Accepted before ⟨env, .multisig (.cosignAttestation issuer proposalId)⟩ _ :=
            (returns_cosignAttestation issuer proposalId ()).mpr
              ⟨proposal, cosignable, .inl ⟨reached, fits, rfl⟩⟩
          rw [step_of_accepted accepted, (MultisigOp.follows (.cosignAttestation issuer proposalId)
            accepted).created]
          rw [changes_completion issuer cosignable.found reached]
          exact ⟨_, List.mem_singleton_self _, taken⟩
  | _ => cases overwrites

end Condition

section Runs
variable {Address : Type} [DecidableEq Address] [Host Address]

/-- What the ADR promises of a run: earlier records are kept, and what is created
is new, also within one call. -/
structure HistoryKept (calls : List (Call Address)) : Prop where
  kept : ∀ early late, calls = early ++ late →
    Preserves (run early).storage.attestation (run calls).storage.attestation
  fresh : ∀ early call late, calls = early ++ call :: late →
    ∀ record ∈ created (run early) (step (run early) call),
      (run early).storage.attestation record.id = none
  once : ∀ early call late, calls = early ++ call :: late →
    ((created (run early) (step (run early) call)).map (·.id)).Nodup

theorem step_keeps {world : World Address} {call : Call Address}
    (keyed : Keyed world.storage.register) (passed : ¬ Overwrites world.storage call) :
    Preserves world.storage.attestation (step world call).storage.attestation ∧
      (∀ record ∈ created world (step world call), world.storage.attestation record.id = none) ∧
      ((created world (step world call)).map (·.id)).Nodup := by
  rcases step_cases world call with accepted | same
  · have follows := follows_of_accepted keyed accepted
    have orderly := orderly_of_accepted keyed passed accepted
    obtain ⟨free, distinct⟩ := fresh_of_orderly orderly
    rw [follows.created]
    refine ⟨?_, free, distinct⟩
    have whole := Trace.related_of_each
      (fun first second : Register Address => Preserves first.record second.record)
      (fun register => .refl _) Preserves.trans (fun register change => Orderly.preserves) orderly
    rw [← follows.register] at whole
    exact whole
  · rw [same, created, List.drop_length]
    exact ⟨.refl _, by simp, by simp⟩

/-- History is kept by exactly the runs in which no multi-sig call finds the id
of its record taken. -/
theorem history_kept_iff (calls : List (Call Address)) :
    HistoryKept calls ↔
      Trace.Each step (fun world call => ¬ Overwrites world.storage call) (World.empty Address)
        calls := by
  constructor
  · intro history
    rw [Trace.each_iff]
    intro early call late split overwrites
    obtain ⟨record, announced, taken⟩ := created_of_overwrites overwrites
    exact taken (history.fresh early call late split record announced)
  · intro guarded
    have keyed := each_keyed guarded
    refine ⟨fun early late split => ?_, fun early call late split => ?_,
      fun early call late split => ?_⟩
    · subst split
      rw [run_append]
      exact Trace.related_of_each
        (fun first second : World Address =>
          Preserves first.storage.attestation second.storage.attestation)
        (fun world => .refl _) Preserves.trans
        (fun world call holds => (step_keeps holds.1 holds.2).1) (Trace.each_append.mp keyed).2
    · obtain ⟨holds, passed⟩ := Trace.each_iff.mp keyed early call late split
      exact (step_keeps holds passed).2.1
    · obtain ⟨holds, passed⟩ := Trace.each_iff.mp keyed early call late split
      exact (step_keeps holds passed).2.2

end Runs

section Overwriting
open Xdr

/-- Issuer 1 proposes an attestation, issues it directly in the same ledger and
revokes it; then the co-signature completes the proposal. -/
def rewritingRun : List (Call ContractId) :=
  sampleDeployment ++ [sampleProposal, sampleIssuance,
    signed 1001 (contractId 1) (.attestation (.revokeAttestation (contractId 1) sampleId none)),
    sampleCosignature]

/-- The revoked record is replaced by one that is valid and has no metadata. -/
theorem cosign_rewrites_history :
    Host.Sound ContractId ∧
      ((run (rewritingRun.take 6)).storage.attestation sampleId).map
        (fun record => (record.revoked, record.metadata)) = some (true, some (ascii "level 2")) ∧
      ((run rewritingRun).storage.attestation sampleId).map
        (fun record => (record.revoked, record.metadata)) = some (false, none) ∧
      ¬ HistoryKept rewritingRun := by
  have early : ((run (rewritingRun.take 6)).storage.attestation sampleId).map
      (fun record => (record.revoked, record.metadata)) = some (true, some (ascii "level 2")) := by
    decide +kernel
  have final : ((run rewritingRun).storage.attestation sampleId).map
      (fun record => (record.revoked, record.metadata)) = some (false, none) := by
    decide +kernel
  refine ⟨sampleHost_sound, early, final, fun history => ?_⟩
  obtain ⟨old, found, flags⟩ := Option.map_eq_some_iff.mp early
  obtain ⟨new, stored, later⟩ :=
    history.kept (rewritingRun.take 6) (rewritingRun.drop 6) rfl sampleId old found
  rw [stored, Option.map_some, Option.some.injEq, Prod.mk.injEq, later.metadata] at final
  rw [Prod.mk.injEq] at flags
  rw [final.2] at flags
  cases flags.2

end Overwriting

end TrustLink
