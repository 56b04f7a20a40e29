import TrustLink.Effects

/-!
The events that tell the indexer of attestations: what creates and what revokes them.
An accepted call publishes one for each of its changes that does either, in order.
-/
namespace TrustLink
open Transaction Contract

section Notices
variable {Address : Type}

/-- The event that announces a new attestation. -/
def Attestation.announcement (attestation : Attestation Address) : Event Address :=
  match attestation.origin with
  | .native => .attestationCreated attestation
  | .imported => .attestationImported attestation
  | .bridged => .attestationBridged attestation

def Change.notice? : Change Address → Option (Event Address)
  | .issue attestation => some attestation.announcement
  | .revoke attestation reason =>
      some (.attestationRevoked attestation.id attestation.issuer reason)
  | .revokeInBatch attestation reason =>
      some (.attestationRevokedWithReason attestation.id attestation.issuer reason)
  | .amend _ _ | .transfer _ _ | .erase _ => none

end Notices

section Publishing
variable {Address : Type} [DecidableEq Address] {env : Env Address} {before after : World Address}

theorem CouncilOp.noticesKept (op : CouncilOp Address)
    (accepted : Returns op.exec env before () after) : after.notices = before.notices := by
  obtain ⟨storage, -, left⟩ := op.leaves accepted
  exact left.notices

theorem AdminOp.noticesKept (op : AdminOp Address)
    (accepted : Returns op.exec env before () after) : after.notices = before.notices := by
  obtain ⟨storage, -, left⟩ := op.leaves accepted
  exact left.notices

omit [DecidableEq Address] in
theorem notices_published (storage : Storage Address) (events fresh : List (Event Address))
    (payments : List (Payment Address)) :
    World.notices ⟨storage, events ++ fresh, payments⟩ =
      events.filter Event.isNotice ++ fresh.filter Event.isNotice :=
  List.filter_append ..

variable [Host Address]

theorem notices_createAttestationInternal {issuer subject : Address} {claimType : Str}
    {expiration : Option Nat} {metadata jurisdiction : Option Str} {tags : Option (List Str)}
    {validFrom : Option Nat} {id : Str}
    (accepted : Returns (createAttestationInternal issuer subject claimType expiration metadata
      jurisdiction tags validFrom) env before id after) :
    after.notices = before.notices ++ [.attestationCreated
      { nativeRecord issuer subject claimType env.timestamp with
        expiration, metadata, jurisdiction, tags, validFrom }] := by
  obtain ⟨-, -, paid, -, rfl⟩ :=
    (returns_createAttestationInternal _ _ _ _ _ _ _ _ _ _ rfl).mp accepted
  exact notices_published ..

theorem AttestationOp.notices_of_accepted (op : AttestationOp Address)
    (keyed : Keyed before.storage.register) (accepted : Returns op.exec env before () after) :
    after.notices = before.notices ++
      (op.changes before.storage env.timestamp).filterMap Change.notice? := by
  cases op with
  | createAttestation | createAttestationValidFrom | createAttestationJurisdiction =>
      obtain ⟨id, accepted⟩ := (returns_void ..).mp accepted
      exact notices_createAttestationInternal accepted
  | importAttestation admin issuer subject claimType timestamp expiration =>
      obtain ⟨id, accepted⟩ := (returns_void ..).mp accepted
      obtain ⟨-, -, rfl⟩ := (returns_importAttestation _ _ _ _ _ _ _ _ rfl).mp accepted
      exact notices_published ..
  | bridgeAttestation bridge subject claimType sourceChain sourceTx =>
      obtain ⟨id, accepted⟩ := (returns_void ..).mp accepted
      obtain ⟨-, -, rfl⟩ := (returns_bridgeAttestation _ _ _ _ _ _ _ rfl).mp accepted
      exact notices_published ..
  | createAttestationAsDelegate delegate delegator subject claimType expiration metadata =>
      obtain ⟨id, accepted⟩ := (returns_void ..).mp accepted
      obtain ⟨-, -, rfl⟩ := (returns_createAttestationAsDelegate _ _ _ _ _ _ _ _ rfl).mp accepted
      exact notices_published ..
  | createAttestationsBatch issuer subjects claimType expiration =>
      obtain ⟨ids, accepted⟩ := (returns_void ..).mp accepted
      obtain ⟨-, -, rfl⟩ := (returns_createAttestationsBatch _ _ _ _ _ _ rfl).mp accepted
      refine (notices_published ..).trans (congrArg (before.notices ++ ·) ?_)
      simp [AttestationOp.changes, List.filterMap_map, List.filter_map, Function.comp_def,
        Event.isNotice, Change.notice?, Attestation.announcement, batchRecord, Attestation.issued]
  | revokeAttestation issuer id reason =>
      obtain ⟨attestation, managed, -, -, -, rfl⟩ := (returns_revokeAttestation ..).mp accepted
      obtain rfl := (keyed id attestation managed.found).1
      obtain rfl := managed.own
      rw [changes_revokeAttestation _ reason managed.found]
      exact notices_published ..
  | renewAttestation issuer id newExpiration =>
      obtain ⟨attestation, managed, -, details, -, rfl⟩ :=
        (returns_renewAttestation ..).mp accepted
      rw [changes_renewAttestation issuer newExpiration managed.found]
      exact notices_published ..
  | revokeAttestationsBatch issuer ids reason =>
      obtain ⟨count, accepted⟩ := (returns_void ..).mp accepted
      obtain ⟨records, ⟨-, -, -, -, -, -, revocable, -⟩, -, rfl⟩ :=
        (returns_revokeAttestationsBatch _ _ _ _).mp accepted
      have own : ∀ record ∈ records, record.issuer = issuer :=
        fun record member => (found_of_revocable keyed revocable record member).1
      refine (notices_published ..).trans (congrArg (before.notices ++ ·) ?_)
      rw [AttestationOp.changes, map_of_revocable _ revocable, List.filterMap_map,
        List.filter_eq_self.mpr (by simp [Event.isNotice]), ← List.filterMap_eq_map]
      refine List.filterMap_congr fun record member => ?_
      simp [Change.notice?, own record member]
  | updateExpiration issuer id newExpiration =>
      obtain ⟨attestation, managed, -, rfl⟩ := (returns_updateExpiration ..).mp accepted
      rw [changes_updateExpiration issuer newExpiration managed.found]
      exact notices_published ..
  | transferAttestation admin id newIssuer =>
      obtain ⟨attestation, ⟨-, -, -, found⟩, ⟨same, rfl⟩ | ⟨moved, -, rfl⟩⟩ :=
        (returns_transferAttestation ..).mp accepted
      · rw [changes_transfer_same admin found same]
        exact (List.append_nil _).symm
      · rw [changes_transferAttestation admin found moved]
        exact notices_published ..
  | requestDeletion subject id =>
      obtain ⟨attestation, ⟨-, found, -, -, -⟩, rfl⟩ := (returns_requestDeletion ..).mp accepted
      rw [changes_requestDeletion _ found]
      exact notices_published ..
  | endorseAttestation endorser id =>
      obtain ⟨-, rfl⟩ := (returns_endorseAttestation ..).mp accepted
      exact (List.append_nil _).symm

/-- Neither a request nor a proposal: what changes the register by itself. -/
def Op.Direct : Op Address → Prop
  | .request _ | .multisig _ => False
  | .attestation _ | .council _ | .admin _ => True

theorem notices_of_accepted {call : Call Address} (keyed : Keyed before.storage.register)
    (direct : call.op.Direct) (accepted : Accepted before call after) :
    after.notices = before.notices ++
      (call.changes before.storage).filterMap Change.notice? := by
  obtain ⟨env, op⟩ := call
  cases op with
  | attestation op => exact op.notices_of_accepted keyed accepted
  | request op => exact absurd direct id
  | multisig op => exact absurd direct id
  | council op => exact (op.noticesKept accepted).trans (List.append_nil _).symm
  | admin op => exact (op.noticesKept accepted).trans (List.append_nil _).symm

end Publishing

end TrustLink
