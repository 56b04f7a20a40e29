import TrustLink.Activities

/-!
What an observer of the events knows of the attestations. It folds the published data of each
event and holds at any time the records, as far as events tell of them, and the indexes of the
subjects and of the issuers. No event tells of tags, of a jurisdiction or of the window of a
direct issuance, and none tells a revocation in a batch from a single one, so the index of valid
attestations stays hidden.
-/
namespace TrustLink
open SecondaryIndex Contract

section Records
variable {Address : Type}

/-- What the events tell of an attestation: of a bridged one not the time, of a native one no
source. -/
structure PublicRecord (Address : Type) where
  issuer : Address
  subject : Address
  claimType : Str
  origin : AttestationOrigin
  timestamp : Option Nat
  metadata : Option Str
  source : Option (Str × Str)
  revocation : Option (Option Str)
  deleted : Bool

def Attestation.posted (attestation : Attestation Address) : PublicRecord Address where
  issuer := attestation.issuer
  subject := attestation.subject
  claimType := attestation.claimType
  origin := attestation.origin
  timestamp := if attestation.origin = .bridged then none else some attestation.timestamp
  metadata := if attestation.origin = .native then attestation.metadata else none
  source := if attestation.origin = .bridged then
    some (attestation.sourceChain.getD [], attestation.sourceTx.getD []) else none
  revocation := if attestation.revoked then some attestation.revocationReason else none
  deleted := attestation.deleted

structure PublicRegister (Address : Type) where
  record : Str → Option (PublicRecord Address)
  bySubject : Address → List Str
  byIssuer : Address → List Str

def PublicRegister.empty (Address : Type) : PublicRegister Address :=
  ⟨fun _ => none, fun _ => [], fun _ => []⟩

/-- The part of the register that events tell of. -/
def Register.posted (register : Register Address) : PublicRegister Address where
  record := Option.map Attestation.posted ∘ register.record
  bySubject := register.bySubject
  byIssuer := register.byIssuer

end Records

section Absorbing
variable {Address : Type} [DecidableEq Address] (register : PublicRegister Address)

namespace PublicRegister

def announce (id : Str) (record : PublicRecord Address) : PublicRegister Address where
  record := Function.update register.record id (some record)
  bySubject := add register.bySubject record.subject id
  byIssuer := add register.byIssuer record.issuer id

/-- The subject is that of the record, which the event does not name. -/
def revoke (id : Str) (issuer : Address) (reason : Option Str) : PublicRegister Address :=
  match register.record id with
  | none => register
  | some record =>
      { record := Function.update register.record id
          (some { record with revocation := some reason })
        bySubject := drop register.bySubject record.subject id
        byIssuer := drop register.byIssuer issuer id }

def reassign (id : Str) (oldIssuer newIssuer : Address) : PublicRegister Address where
  record := Function.update register.record id
    ((register.record id).map fun record => { record with issuer := newIssuer })
  bySubject := register.bySubject
  byIssuer := add (drop register.byIssuer oldIssuer id) newIssuer id

def erase (id : Str) (subject : Address) : PublicRegister Address where
  record := Function.update register.record id
    ((register.record id).map fun record => { record with deleted := true })
  bySubject := drop register.bySubject subject id
  byIssuer := register.byIssuer

/-- The observer reads of an event what `env.events().publish` is given. -/
def absorb (register : PublicRegister Address) : Event Address → PublicRegister Address
  | .attestationCreated attestation =>
      register.announce attestation.id ⟨attestation.issuer, attestation.subject,
        attestation.claimType, .native, some attestation.timestamp, attestation.metadata, none,
        none, false⟩
  | .attestationImported attestation =>
      register.announce attestation.id ⟨attestation.issuer, attestation.subject,
        attestation.claimType, .imported, some attestation.timestamp, none, none, none, false⟩
  | .attestationBridged attestation =>
      register.announce attestation.id ⟨attestation.issuer, attestation.subject,
        attestation.claimType, .bridged, none, none,
        some (attestation.sourceChain.getD [], attestation.sourceTx.getD []), none, false⟩
  | .attestationRevoked id issuer reason | .attestationRevokedWithReason id issuer reason =>
      register.revoke id issuer reason
  | .attestationTransferred id oldIssuer newIssuer => register.reassign id oldIssuer newIssuer
  | .deletionRequested subject id _ => register.erase id subject
  | _ => register

end PublicRegister

end Absorbing

section Changes
variable {Address : Type} [DecidableEq Address] {register : Register Address}

omit [DecidableEq Address] in
/-- Writing a record writes its public part. -/
theorem posted_update (record : Str → Option (Attestation Address)) (id : Str)
    (attestation : Attestation Address) :
    Option.map Attestation.posted ∘ Function.update record id (some attestation) =
      Function.update (Option.map Attestation.posted ∘ record) id (some attestation.posted) :=
  Function.comp_update ..

variable [Host Address]

/-- One change, as its event tells it. -/
theorem posted_apply {change : Change Address} (enabled : Enabled register change) (now : Nat) :
    (register.apply change).posted =
      Trace.run PublicRegister.absorb register.posted (change.posting? now).toList := by
  cases change with
  | issue attestation =>
      obtain ⟨⟨inForce, kept⟩, -⟩ := enabled
      cases origin : attestation.origin <;>
        simp [Change.posting?, Change.notice?, Attestation.announcement, origin,
          PublicRegister.absorb, PublicRegister.announce, Register.posted, Register.apply,
          Change.written, posted_update, Attestation.posted, inForce, kept]
  | amend attestation expiration =>
      have found : register.record attestation.id = some attestation := enabled
      -- the events tell of no expiration, so the public part stays
      have same : ({ attestation with expiration } : Attestation Address).posted =
          attestation.posted := rfl
      simp [Change.posting?, Change.notice?, Register.posted, Register.apply, Change.written,
        posted_update, same, found]
  | revoke attestation reason =>
      have found : register.record attestation.id = some attestation := enabled
      simp [Change.posting?, Change.notice?, PublicRegister.absorb, PublicRegister.revoke,
        Register.posted, Register.apply, Change.written, posted_update, found, Attestation.posted]
  | revokeInBatch attestation reason =>
      have found : register.record attestation.id = some attestation := enabled
      simp [Change.posting?, Change.notice?, PublicRegister.absorb, PublicRegister.revoke,
        Register.posted, Register.apply, Change.written, posted_update, found, Attestation.posted]
  | transfer attestation newIssuer =>
      have found : register.record attestation.id = some attestation := enabled
      simp [Change.posting?, PublicRegister.absorb, PublicRegister.reassign,
        Register.posted, Register.apply, Change.written, posted_update, found, Attestation.posted]
  | erase attestation =>
      have found : register.record attestation.id = some attestation := enabled
      simp [Change.posting?, PublicRegister.absorb, PublicRegister.erase,
        Register.posted, Register.apply, Change.written, posted_update, found, Attestation.posted]

/-- All changes of a call. -/
theorem posted_run (now : Nat) {changes : List (Change Address)}
    (enabled : Trace.Each Register.apply Enabled register changes) :
    (Trace.run Register.apply register changes).posted =
      Trace.run PublicRegister.absorb register.posted (changes.filterMap (Change.posting? now)) := by
  induction changes generalizing register with
  | nil => rfl
  | cons change rest ih =>
      rw [Trace.run_cons, ih enabled.2, posted_apply enabled.1 now]
      cases posting : change.posting? now <;> simp [posting]

end Changes

section Runs
variable {Address : Type} [DecidableEq Address] [Host Address] {before after : World Address}

/-- The event is one of those that tell of the register. -/
def Event.isPublic : Event Address → Bool
  | .attestationCreated _ | .attestationImported _ | .attestationBridged _
  | .attestationRevoked _ _ _ | .attestationRevokedWithReason _ _ _
  | .attestationTransferred _ _ _ | .deletionRequested _ _ _ => true
  | _ => false

omit [Host Address] in
theorem PublicRegister.absorb_idle (event : Event Address) (hidden : event.isPublic = false)
    (register : PublicRegister Address) : register.absorb event = register := by
  cases event <;> first | rfl | cases hidden

omit [DecidableEq Address] [Host Address] in
theorem hidden_elsewhere {event : Event Address} (other : event.topic ≠ .register) :
    event.isPublic = false := by
  cases event <;> first | rfl | exact absurd rfl other

omit [DecidableEq Address] [Host Address] in
theorem public_posting {change : Change Address} {now : Nat} {event : Event Address}
    (posted : change.posting? now = some event) : event.isPublic = true := by
  cases change with
  | issue attestation =>
      obtain rfl := Option.some.inj posted
      cases origin : attestation.origin <;> simp [Attestation.announcement, origin, Event.isPublic]
  | amend attestation expiration => cases posted
  | revoke | revokeInBatch | transfer | erase =>
      obtain rfl := Option.some.inj posted
      rfl

omit [DecidableEq Address] [Host Address] in
theorem filter_postings (changes : List (Change Address)) (now : Nat) :
    (changes.filterMap (Change.posting? now)).filter Event.isPublic =
      changes.filterMap (Change.posting? now) := by
  refine List.filter_eq_self.mpr fun event member => ?_
  obtain ⟨change, -, posted⟩ := List.mem_filterMap.mp member
  exact public_posting posted

/-- Of all that a call posts the observer needs the events of its changes. -/
theorem public_postings (call : Call Address) (storage : Storage Address) :
    (call.postings storage).filter Event.isPublic =
      (call.changes storage).filterMap (Change.posting? call.env.timestamp) := by
  obtain ⟨env, op⟩ := call
  cases op with
  | attestation op =>
      cases op with
      | renewAttestation issuer id newExpiration | updateExpiration issuer id newExpiration =>
          cases found : storage.attestation id <;>
            simp [Call.postings, Call.changes, AttestationOp.postings, AttestationOp.changes,
              found, List.filterMap_cons, Change.posting?, Change.notice?, Event.isPublic]
      | _ => exact filter_postings _ _
  | request op =>
      cases op with
      | fulfillRequest issuer requestId expiration =>
          cases found : storage.request requestId <;>
            simp [Call.postings, Call.changes, RequestOp.postings, RequestOp.changes, found,
              Change.posting?, Change.notice?, Attestation.announcement, Event.isPublic,
              nativeRecord, Attestation.issued, List.filter_cons]
      | _ => rfl
  | multisig op =>
      cases op with
      | proposeAttestation proposer subject claimType signers threshold =>
          by_cases bypasses : Bypasses storage proposer claimType <;>
            simp [Call.postings, Call.changes, MultisigOp.postings, MultisigOp.changes, bypasses,
              Change.posting?, Change.notice?, Attestation.announcement, Event.isPublic,
              nativeRecord, Attestation.issued]
      | cosignAttestation issuer proposalId =>
          cases found : storage.multisigProposal proposalId with
          | none =>
              simp [Call.postings, Call.changes, MultisigOp.postings, MultisigOp.changes, found]
          | some proposal =>
              by_cases reached : proposal.threshold ≤ proposal.signers.length + 1 <;>
                simp [Call.postings, Call.changes, MultisigOp.postings, MultisigOp.changes, found,
                  reached, Change.posting?, Change.notice?, Attestation.announcement,
                  Event.isPublic, proposedRecord, Attestation.issued, List.filter_cons]
  | council op =>
      refine List.filter_eq_nil_iff.mpr fun event member => ?_
      have office := op.topic_postings storage env.timestamp event member
      simp [hidden_elsewhere (by simp [office] : event.topic ≠ .register)]
  | admin op =>
      refine List.filter_eq_nil_iff.mpr fun event member => ?_
      have listed := op.topic_postings storage env.timestamp event member
      have other : event.topic ≠ .register := by
        intro here
        rw [here] at listed
        exact absurd listed (by decide)
      simp [hidden_elsewhere other]

/-- The log tells of the register, call by call. -/
theorem register_told {call : Call Address} (keyed : Keyed before.storage.register)
    (accepted : Accepted before call after) :
    EventLog.Tells World.events (fun world => world.storage.register.posted)
      PublicRegister.absorb before after := by
  refine ⟨call.postings before.storage, events_of_accepted keyed accepted, ?_⟩
  have follows := follows_of_accepted keyed accepted
  rw [← Trace.run_filter PublicRegister.absorb_idle, public_postings,
    ← posted_run _ follows.enabled, ← follows.register]

theorem register_log (early late : List (Activity Address)) :
    EventLog.Tells World.events (fun world => world.storage.register.posted)
      PublicRegister.absorb (live early) (live (early ++ late)) :=
  @log_told Address _ _ _ (fun storage => storage.register.posted) _
    (fun event report => PublicRegister.absorb_idle event (hidden_elsewhere (by simp [report])))
    (fun activities _ _ => register_told (keyed_live activities)) early late

/-- At any time the events so far, or a state and the events since, give the register. -/
theorem register_rebuilt (early late : List (Activity Address)) :
    (live early).storage.register.posted =
        Trace.run PublicRegister.absorb (PublicRegister.empty Address) (live early).events ∧
      (live (early ++ late)).storage.register.posted =
        Trace.run PublicRegister.absorb (live early).storage.register.posted
          ((live (early ++ late)).events.drop (live early).events.length) :=
  ⟨(register_log [] early).rebuild rfl, (register_log early late).catch_up⟩

end Runs

end TrustLink
