import TrustLink.Attestation
import TrustLink.Lib.SecondaryIndex
import TrustLink.Lib.Trace

/-!
The register of attestations as an abstract object: the records, and the three
flat indexes over them. It changes in six ways, each of which writes one record
and the index entries of that record.
-/
namespace TrustLink

structure Register (Address : Type) where
  record : Str → Option (Attestation Address)
  bySubject : Address → List Str
  byIssuer : Address → List Str
  valid : Address → List Str

def Register.empty (Address : Type) : Register Address :=
  ⟨fun _ => none, fun _ => [], fun _ => [], fun _ => []⟩

/-- The part of contract storage that is the register. -/
def Storage.register {Address : Type} (storage : Storage Address) : Register Address where
  record := storage.attestation
  bySubject := storage.subjectAttestations
  byIssuer := storage.issuerAttestations
  valid := storage.validAttestations

inductive Change (Address : Type) where
  | issue (attestation : Attestation Address)
  | amend (attestation : Attestation Address) (expiration : Option Nat)
  | revoke (attestation : Attestation Address) (reason : Option Str)
  | revokeInBatch (attestation : Attestation Address) (reason : Option Str)
  | transfer (attestation : Attestation Address) (newIssuer : Address)
  | erase (attestation : Attestation Address)

namespace Change
variable {Address : Type}

/-- The record a change starts from; an issuance starts from none. -/
def base : Change Address → Option (Attestation Address)
  | .issue _ => none
  | .amend attestation _ | .revoke attestation _ | .revokeInBatch attestation _
  | .transfer attestation _ | .erase attestation => some attestation

/-- The record a change writes. -/
def written : Change Address → Attestation Address
  | .issue attestation => attestation
  | .amend attestation expiration => { attestation with expiration }
  | .revoke attestation reason | .revokeInBatch attestation reason =>
      { attestation with revoked := true, revocationReason := reason }
  | .transfer attestation newIssuer => { attestation with issuer := newIssuer }
  | .erase attestation => { attestation with deleted := true }

def issued? : Change Address → Option (Attestation Address)
  | .issue attestation => some attestation
  | _ => none

theorem written_id {change : Change Address} {attestation : Attestation Address}
    (start : change.base = some attestation) : change.written.id = attestation.id := by
  cases change <;> simp_all [base, written]

theorem written_subject {change : Change Address} {attestation : Attestation Address}
    (start : change.base = some attestation) :
    change.written.subject = attestation.subject := by
  cases change <;> simp_all [base, written]

end Change

section Apply
variable {Address : Type} [DecidableEq Address]
open SecondaryIndex

def Register.apply (register : Register Address) (change : Change Address) : Register Address where
  record := Function.update register.record change.written.id (some change.written)
  bySubject :=
    match change with
    | .issue attestation => add register.bySubject attestation.subject attestation.id
    | .revoke attestation _ | .revokeInBatch attestation _ | .erase attestation =>
        drop register.bySubject attestation.subject attestation.id
    | .amend _ _ | .transfer _ _ => register.bySubject
  byIssuer :=
    match change with
    | .issue attestation => add register.byIssuer attestation.issuer attestation.id
    | .revoke attestation _ | .revokeInBatch attestation _ =>
        drop register.byIssuer attestation.issuer attestation.id
    | .transfer attestation newIssuer =>
        add (drop register.byIssuer attestation.issuer attestation.id) newIssuer attestation.id
    | .amend _ _ | .erase _ => register.byIssuer
  valid :=
    match change with
    | .issue attestation => add register.valid attestation.subject attestation.id
    | .revoke attestation _ | .erase attestation =>
        drop register.valid attestation.subject attestation.id
    -- a batch revocation leaves this index alone
    | .revokeInBatch _ _ | .amend _ _ | .transfer _ _ => register.valid

@[simp] theorem Register.record_apply (register : Register Address) (change : Change Address) :
    (register.apply change).record =
      Function.update register.record change.written.id (some change.written) := rfl

/-- The change finds under its id the record it starts from. -/
def Orderly (register : Register Address) (change : Change Address) : Prop :=
  register.record change.written.id = change.base

end Apply

section Names
variable {Address : Type} [Host Address]

/-- The id was generated for the subject by a direct issuance, an import, a
request or a proposal. -/
def NativeName (id : Str) (subject : Address) : Prop :=
  ∃ issuer claimType timestamp, id = Attestation.generateId issuer subject claimType timestamp

def BridgeName (id : Str) (subject : Address) : Prop :=
  ∃ bridge claimType sourceChain sourceTx timestamp,
    id = Attestation.generateBridgeId bridge subject claimType sourceChain sourceTx timestamp

theorem NativeName.unique (sound : Host.Sound Address) {id : Str} {subject other : Address}
    (native : NativeName id subject) (named : NativeName id other ∨ BridgeName id other) :
    other = subject := by
  obtain ⟨issuer, claimType, timestamp, rfl⟩ := native
  rcases named with ⟨_, _, _, same⟩ | ⟨_, _, _, _, _, same⟩
  · exact (generateId_subject sound same).symm
  · exact absurd same.symm (generateBridgeId_ne_generateId sound)

/-- What the contract makes sure of before any change. Only a native id may
already be taken. -/
def Enabled (register : Register Address) : Change Address → Prop
  | .issue attestation =>
      (attestation.revoked = false ∧ attestation.deleted = false) ∧
        (NativeName attestation.id attestation.subject ∨
          BridgeName attestation.id attestation.subject ∧ register.record attestation.id = none)
  | change => Orderly register change

/-- Every record is stored under its own id, which names its subject. -/
def Keyed (register : Register Address) : Prop :=
  ∀ id attestation, register.record id = some attestation →
    attestation.id = id ∧
      (NativeName id attestation.subject ∨ BridgeName id attestation.subject)

theorem keyed_empty : Keyed (Register.empty Address) := by
  intro id attestation found
  simp [Register.empty] at found

theorem Enabled.cases {register : Register Address} {change : Change Address}
    (enabled : Enabled register change) :
    (∃ attestation, change = .issue attestation ∧
      (attestation.revoked = false ∧ attestation.deleted = false) ∧
      (NativeName attestation.id attestation.subject ∨
        BridgeName attestation.id attestation.subject ∧
          register.record attestation.id = none)) ∨
    ∃ attestation, change.base = some attestation ∧
      register.record attestation.id = some attestation := by
  cases change with
  | issue attestation => exact .inl ⟨attestation, rfl, enabled⟩
  | amend attestation _ => exact .inr ⟨attestation, rfl, enabled⟩
  | revoke attestation _ => exact .inr ⟨attestation, rfl, enabled⟩
  | revokeInBatch attestation _ => exact .inr ⟨attestation, rfl, enabled⟩
  | transfer attestation _ => exact .inr ⟨attestation, rfl, enabled⟩
  | erase attestation => exact .inr ⟨attestation, rfl, enabled⟩

variable [DecidableEq Address]

theorem Keyed.apply {register : Register Address} {change : Change Address}
    (keyed : Keyed register) (enabled : Enabled register change) :
    Keyed (register.apply change) := by
  intro id attestation found
  by_cases here : id = change.written.id
  · subst here
    simp only [Register.record_apply, Function.update_self, Option.some.injEq] at found
    subst found
    refine ⟨rfl, ?_⟩
    rcases enabled.cases with ⟨issued, rfl, _, named⟩ | ⟨start, base, found⟩
    · exact named.imp_right And.left
    · rw [Change.written_id base, Change.written_subject base]
      exact (keyed _ _ found).2
  · simp only [Register.record_apply, Function.update_of_ne here] at found
    exact keyed id attestation found

end Names

end TrustLink
