import TrustLink.Effects

/-!
Warrants: what a call had checked for each change it makes. Properties of single
records follow from the warrant of the change that wrote them.
-/
namespace TrustLink
open Transaction Contract

section Warrants
variable {Address : Type} [DecidableEq Address] [Host Address]

/-- The operation passed the checks of its source before making the change. -/
inductive Warrant (storage : Storage Address) (env : Env Address) :
    Op Address → Change Address → Prop
  | createAttestation {issuer subject : Address} {claimType : Str} {expiration : Option Nat}
      {metadata : Option Str} {tags : Option (List Str)} {record : Attestation Address}
      (built : record = { nativeRecord issuer subject claimType env.timestamp with
        expiration, metadata, tags })
      (checks : CreateChecks storage env issuer subject claimType expiration metadata none tags
        none record)
      (fee : ∃ paid, FeePaid storage.feeConfig env issuer paid) :
      Warrant storage env (.attestation
        (.createAttestation issuer subject claimType expiration metadata tags)) (.issue record)
  | createAttestationValidFrom {issuer subject : Address} {claimType : Str}
      {expiration : Option Nat}
      {metadata : Option Str} {tags : Option (List Str)} {validFrom : Nat}
      {record : Attestation Address}
      (built : record = { nativeRecord issuer subject claimType env.timestamp with
        expiration, metadata, tags, validFrom := some validFrom })
      (checks : CreateChecks storage env issuer subject claimType expiration metadata none tags
        (some validFrom) record)
      (fee : ∃ paid, FeePaid storage.feeConfig env issuer paid) :
      Warrant storage env (.attestation (.createAttestationValidFrom issuer subject claimType
        expiration metadata tags validFrom)) (.issue record)
  | createAttestationJurisdiction {issuer subject : Address} {claimType : Str}
      {expiration : Option Nat}
      {metadata jurisdiction : Option Str} {tags : Option (List Str)}
      {record : Attestation Address}
      (built : record = { nativeRecord issuer subject claimType env.timestamp with
        expiration, metadata, jurisdiction, tags })
      (checks : CreateChecks storage env issuer subject claimType expiration metadata jurisdiction
        tags none record)
      (fee : ∃ paid, FeePaid storage.feeConfig env issuer paid) :
      Warrant storage env (.attestation (.createAttestationJurisdiction issuer subject claimType
        expiration metadata jurisdiction tags)) (.issue record)
  | importAttestation {admin issuer subject : Address} {claimType : Str} {timestamp : Nat}
      {expiration : Option Nat} {record : Attestation Address}
      (built : record = { nativeRecord issuer subject claimType timestamp with
        origin := .imported, expiration })
      (checks : ImportChecks storage env admin issuer timestamp expiration record) :
      Warrant storage env (.attestation
        (.importAttestation admin issuer subject claimType timestamp expiration)) (.issue record)
  | bridgeAttestation {bridge subject : Address} {claimType sourceChain sourceTx : Str}
      {record : Attestation Address}
      (built : record = { Attestation.issued (Attestation.generateBridgeId bridge subject claimType
        sourceChain sourceTx env.timestamp) bridge subject claimType env.timestamp .bridged with
          sourceChain := some sourceChain, sourceTx := some sourceTx })
      (checks : BridgeChecks storage env bridge sourceChain sourceTx record) :
      Warrant storage env (.attestation
        (.bridgeAttestation bridge subject claimType sourceChain sourceTx)) (.issue record)
  | createAttestationsBatch {issuer subject : Address} {subjects : List Address} {claimType : Str}
      {expiration : Option Nat} {record : Attestation Address}
      (built : record = batchRecord issuer claimType expiration env.timestamp subject)
      (member : subject ∈ subjects)
      (checks : BatchChecks storage env issuer subjects claimType expiration
        (subjects.map (batchRecord issuer claimType expiration env.timestamp))) :
      Warrant storage env (.attestation
        (.createAttestationsBatch issuer subjects claimType expiration)) (.issue record)
  | createAttestationAsDelegate {delegate delegator subject : Address} {claimType : Str}
      {expiration : Option Nat} {metadata : Option Str} {record : Attestation Address}
      (built : record = { nativeRecord delegator subject claimType env.timestamp with
        expiration, metadata })
      (checks : DelegateChecks storage env delegate delegator subject claimType expiration metadata
        record) :
      Warrant storage env (.attestation (.createAttestationAsDelegate delegate delegator subject
        claimType expiration metadata)) (.issue record)
  | fulfillRequest {issuer : Address} {requestId : Str} {expiration : Option Nat}
      {request : AttestationRequest Address} {record : Attestation Address}
      (built : record = { nativeRecord issuer request.subject request.claimType env.timestamp with
        expiration })
      (checks : FulfillChecks storage env issuer requestId expiration request record) :
      Warrant storage env (.request (.fulfillRequest issuer requestId expiration)) (.issue record)
  | proposeAttestation {proposer subject : Address} {claimType : Str} {signers : List Address}
      {threshold : Nat} {record : Attestation Address}
      (built : record = nativeRecord proposer subject claimType env.timestamp)
      (active : Active storage env proposer) (bypasses : Bypasses storage proposer claimType)
      (fits : StoreFits storage record) :
      Warrant storage env
        (.multisig (.proposeAttestation proposer subject claimType signers threshold))
        (.issue record)
  | cosignAttestation {issuer : Address} {proposalId : Str} {proposal : MultiSigProposal Address}
      {record : Attestation Address} (built : record = proposedRecord proposal)
      (checks : Cosignable storage env issuer proposalId proposal)
      (reached : proposal.threshold ≤ proposal.signers.length + 1)
      (fits : StoreFits storage record) :
      Warrant storage env (.multisig (.cosignAttestation issuer proposalId)) (.issue record)
  | revokeAttestation {issuer : Address} {id : Str} {reason : Option Str}
      {record : Attestation Address}
      (managed : Managed storage env issuer id record) :
      Warrant storage env (.attestation (.revokeAttestation issuer id reason))
        (.revoke record reason)
  | renewAttestation {issuer : Address} {id : Str} {expiration : Option Nat}
      {record : Attestation Address}
      (managed : Managed storage env issuer id record)
      (future : ∀ time ∈ expiration, env.timestamp < time)
      (logged : ∃ details, expiration.mapM u64ToString = some details) :
      Warrant storage env (.attestation (.renewAttestation issuer id expiration))
        (.amend record expiration)
  | updateExpiration {issuer : Address} {id : Str} {expiration : Option Nat}
      {record : Attestation Address}
      (managed : Managed storage env issuer id record)
      (future : ∀ time ∈ expiration, env.timestamp < time) :
      Warrant storage env (.attestation (.updateExpiration issuer id expiration))
        (.amend record expiration)
  | revokeAttestationsBatch {issuer : Address} {ids : List Str} {id : Str} {reason : Option Str}
      {record : Attestation Address} (member : id ∈ ids)
      (managed : Managed storage env issuer id record) :
      Warrant storage env (.attestation (.revokeAttestationsBatch issuer ids reason))
        (.revokeInBatch record reason)
  | transferAttestation {admin newIssuer : Address} {id : Str} {record : Attestation Address}
      (checks : Transferable storage env admin id newIssuer record) :
      Warrant storage env (.attestation (.transferAttestation admin id newIssuer))
        (.transfer record newIssuer)
  | requestDeletion {subject : Address} {id : Str} {record : Attestation Address}
      (checks : Deletable storage env subject id record) :
      Warrant storage env (.attestation (.requestDeletion subject id)) (.erase record)

variable {env : Env Address} {before after : World Address}

omit [DecidableEq Address] [Host Address] in
theorem exists_loaded {issuer : Address} {storage : Storage Address} {ids : List Str}
    {records : List (Attestation Address)}
    (revocable : List.Forall₂ (Revocable issuer storage) ids records) {id : Str}
    (member : id ∈ ids) : ∃ record ∈ records, Revocable issuer storage id record := by
  induction revocable with
  | nil => cases member
  | cons head _ ih =>
      rcases List.mem_cons.mp member with rfl | later
      · exact ⟨_, List.mem_cons_self, head⟩
      · obtain ⟨record, listed, loaded⟩ := ih later
        exact ⟨record, List.mem_cons_of_mem _ listed, loaded⟩

omit [Host Address] in
/-- The check of a single revocation has passed for every record of a batch. -/
theorem managed_of_batch {issuer : Address} {ids : List Str} {reason : Option Str} {count : Nat}
    (accepted : Returns (revokeAttestationsBatch issuer ids reason) env before count after)
    {id : Str} {record : Attestation Address} (member : id ∈ ids)
    (found : before.storage.attestation id = some record) :
    Managed before.storage env issuer id record := by
  obtain ⟨records, ⟨auth, running, registered, -, -, -, revocable, ttl⟩, -, -⟩ :=
    (returns_revokeAttestationsBatch ..).mp accepted
  obtain ⟨loaded, listed, revoked⟩ := exists_loaded revocable member
  obtain rfl : loaded = record := Option.some.inj (revoked.found.symm.trans found)
  exact ⟨auth, running, registered, found, revoked.own, revoked.active,
    ttl (List.ne_nil_of_mem listed)⟩

theorem AttestationOp.warrant (op : AttestationOp Address)
    (accepted : Returns op.exec env before () after) {change : Change Address}
    (member : change ∈ op.changes before.storage env.timestamp) :
    Warrant before.storage env (.attestation op) change := by
  cases op with
  | createAttestation issuer subject claimType expiration metadata tags =>
      obtain ⟨id, accepted⟩ := (returns_void ..).mp accepted
      obtain ⟨checks, -, paid, fee, -⟩ :=
        (returns_createAttestationInternal _ _ _ _ _ _ _ _ _ _ rfl).mp accepted
      obtain rfl := List.mem_singleton.mp member
      exact .createAttestation rfl checks ⟨paid, fee⟩
  | createAttestationValidFrom issuer subject claimType expiration metadata tags validFrom =>
      obtain ⟨id, accepted⟩ := (returns_void ..).mp accepted
      obtain ⟨checks, -, paid, fee, -⟩ :=
        (returns_createAttestationInternal _ _ _ _ _ _ _ _ _ _ rfl).mp accepted
      obtain rfl := List.mem_singleton.mp member
      exact .createAttestationValidFrom rfl checks ⟨paid, fee⟩
  | createAttestationJurisdiction issuer subject claimType expiration metadata jurisdiction tags =>
      obtain ⟨id, accepted⟩ := (returns_void ..).mp accepted
      obtain ⟨checks, -, paid, fee, -⟩ :=
        (returns_createAttestationInternal _ _ _ _ _ _ _ _ _ _ rfl).mp accepted
      obtain rfl := List.mem_singleton.mp member
      exact .createAttestationJurisdiction rfl checks ⟨paid, fee⟩
  | importAttestation admin issuer subject claimType timestamp expiration =>
      obtain ⟨id, accepted⟩ := (returns_void ..).mp accepted
      obtain ⟨checks, -⟩ := (returns_importAttestation _ _ _ _ _ _ _ _ rfl).mp accepted
      obtain rfl := List.mem_singleton.mp member
      exact .importAttestation rfl checks
  | bridgeAttestation bridge subject claimType sourceChain sourceTx =>
      obtain ⟨id, accepted⟩ := (returns_void ..).mp accepted
      obtain ⟨checks, -⟩ := (returns_bridgeAttestation _ _ _ _ _ _ _ rfl).mp accepted
      obtain rfl := List.mem_singleton.mp member
      exact .bridgeAttestation rfl checks
  | createAttestationsBatch issuer subjects claimType expiration =>
      obtain ⟨ids, accepted⟩ := (returns_void ..).mp accepted
      obtain ⟨checks, -⟩ := (returns_createAttestationsBatch _ _ _ _ _ _ rfl).mp accepted
      obtain ⟨subject, listed, rfl⟩ := List.mem_map.mp member
      exact .createAttestationsBatch rfl listed checks
  | createAttestationAsDelegate delegate delegator subject claimType expiration metadata =>
      obtain ⟨id, accepted⟩ := (returns_void ..).mp accepted
      obtain ⟨checks, -⟩ := (returns_createAttestationAsDelegate _ _ _ _ _ _ _ _ rfl).mp accepted
      obtain rfl := List.mem_singleton.mp member
      exact .createAttestationAsDelegate rfl checks
  | revokeAttestation issuer id reason =>
      obtain ⟨attestation, managed, -⟩ := (returns_revokeAttestation ..).mp accepted
      rw [changes_revokeAttestation issuer reason managed.found, List.mem_singleton] at member
      subst member
      exact .revokeAttestation managed
  | renewAttestation issuer id newExpiration =>
      obtain ⟨attestation, managed, future, details, logged, -⟩ :=
        (returns_renewAttestation ..).mp accepted
      rw [changes_renewAttestation issuer newExpiration managed.found, List.mem_singleton] at member
      subst member
      exact .renewAttestation managed future ⟨details, logged⟩
  | revokeAttestationsBatch issuer ids reason =>
      obtain ⟨count, accepted⟩ := (returns_void ..).mp accepted
      obtain ⟨id, listed, loaded⟩ := List.mem_flatMap.mp member
      obtain ⟨record, found, rfl⟩ := List.mem_map.mp loaded
      exact .revokeAttestationsBatch listed
        (managed_of_batch accepted listed (Option.mem_toList.mp found))
  | updateExpiration issuer id newExpiration =>
      obtain ⟨attestation, managed, future, -⟩ := (returns_updateExpiration ..).mp accepted
      rw [changes_updateExpiration issuer newExpiration managed.found, List.mem_singleton] at member
      subst member
      exact .updateExpiration managed future
  | transferAttestation admin id newIssuer =>
      obtain ⟨attestation, ⟨auth, council, registered, found⟩, ⟨same, -⟩ | ⟨moved, ttl, -⟩⟩ :=
        (returns_transferAttestation ..).mp accepted
      · rw [changes_transfer_same admin found same] at member
        cases member
      · rw [changes_transferAttestation admin found moved, List.mem_singleton] at member
        subst member
        exact .transferAttestation ⟨auth, council, registered, found, moved, ttl⟩
  | requestDeletion subject id =>
      obtain ⟨attestation, ⟨auth, found, own, ttl, room⟩, -⟩ :=
        (returns_requestDeletion ..).mp accepted
      rw [changes_requestDeletion subject found, List.mem_singleton] at member
      subst member
      exact .requestDeletion ⟨auth, found, own, ttl, room⟩
  | endorseAttestation endorser id => cases member

theorem RequestOp.warrant (op : RequestOp Address) (accepted : Returns op.exec env before () after)
    {change : Change Address} (member : change ∈ op.changes before.storage env.timestamp) :
    Warrant before.storage env (.request op) change := by
  cases op.outcome accepted with
  | fulfillRequest built checks =>
      subst built
      rw [changes_fulfillRequest _ _ checks.found, List.mem_singleton] at member
      subst member
      exact .fulfillRequest rfl checks
  | _ => cases member

theorem MultisigOp.warrant (op : MultisigOp Address)
    (accepted : Returns op.exec env before () after) {change : Change Address}
    (member : change ∈ op.changes before.storage env.timestamp) :
    Warrant before.storage env (.multisig op) change := by
  cases op.outcome accepted with
  | bypass built active bypasses fits =>
      subst built
      rw [changes_bypass _ _ _ bypasses, List.mem_singleton] at member
      subst member
      exact .proposeAttestation rfl active bypasses fits
  | proposal _ _ stays =>
      rw [changes_proposal _ _ _ stays] at member
      cases member
  | completion cosignable reached fits =>
      rw [changes_completion _ cosignable.found reached, List.mem_singleton] at member
      subst member
      exact .cosignAttestation rfl cosignable reached fits
  | cosignature cosignable short =>
      rw [changes_cosignature _ cosignable.found short] at member
      cases member

/-- Every change an accepted call makes has its warrant. -/
theorem warrant_of_accepted {call : Call Address} (accepted : Accepted before call after)
    {change : Change Address} (member : change ∈ call.changes before.storage) :
    Warrant before.storage call.env call.op change := by
  obtain ⟨env, op⟩ := call
  cases op with
  | attestation op => exact op.warrant accepted member
  | request op => exact op.warrant accepted member
  | multisig op => exact op.warrant accepted member
  | council op => cases member
  | admin op => cases member

end Warrants

section Records
variable {Address : Type}

/-- Every stored record is as asked. -/
def Register.All (good : Attestation Address → Prop) (register : Register Address) : Prop :=
  ∀ id record, register.record id = some record → good record

variable {good : Attestation Address → Prop}

theorem all_empty : (Register.empty Address).All good := by
  intro id record found
  cases found

variable [DecidableEq Address] {register : Register Address} {change : Change Address}

/-- A change puts at risk only the record it writes. -/
theorem all_apply_iff (holds : register.All good) :
    (register.apply change).All good ↔ good change.written := by
  constructor
  · intro later
    exact later change.written.id change.written (Function.update_self ..)
  · intro written id record found
    by_cases here : id = change.written.id
    · subst here
      simp only [Register.record_apply, Function.update_self, Option.some.injEq] at found
      subst found
      exact written
    · rw [Register.record_apply, Function.update_of_ne here] at found
      exact holds id record found

variable [Host Address] {before after : World Address} {call : Call Address}

theorem keyed_of_accepted (keyed : Keyed before.storage.register)
    (accepted : Accepted before call after) : Keyed after.storage.register := by
  have follows := follows_of_accepted keyed accepted
  rw [follows.register]
  exact Trace.invariant_of_each (fun _ _ holds enabled => holds.apply enabled) keyed
    follows.enabled

/-- A property of records holds after a call whose issued records have it and whose
other changes keep it. -/
theorem all_of_accepted (keyed : Keyed before.storage.register)
    (holds : before.storage.register.All good) (accepted : Accepted before call after)
    (issued : ∀ record, .issue record ∈ call.changes before.storage → good record)
    (kept : ∀ change ∈ call.changes before.storage, ∀ record, change.base = some record →
      good record → good change.written) :
    after.storage.register.All good := by
  have follows := follows_of_accepted keyed accepted
  have among : Trace.Each Register.apply (fun _ change => change ∈ call.changes before.storage)
      before.storage.register (call.changes before.storage) :=
    Trace.each_of_forall _ fun change member _ => member
  rw [follows.register]
  refine Trace.invariant_of_each (fun register change all allowed => ?_) holds
    (follows.enabled.and among)
  obtain ⟨enabled, member⟩ := allowed
  refine (all_apply_iff all).mpr ?_
  rcases enabled.cases with ⟨record, rfl, -⟩ | ⟨record, base, found⟩
  · exact issued record member
  · exact kept change member record base (all record.id record found)

end Records

end TrustLink
