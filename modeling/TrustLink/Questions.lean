import TrustLink.Query

/-!
The other queries of query.rs, `get_confidence_score` of admin.rs, and all of them as one
type of questions.
-/
namespace TrustLink
open Transaction

namespace Query
variable {Address : Type}

def getAttestation (attestationId : Str) : Program Address (Attestation Address) := do
  let attestation ← Storage.getAttestation attestationId
  failWhen (attestation.deleted = true) .notFound
  pure attestation

def getDelegation (delegator delegate : Address) (claimType : Str) :
    Program Address (Option (Delegation Address)) :=
  Storage.getDelegation delegator delegate claimType

def getAttestationStatus (attestationId : Str) : Program Address AttestationStatus := do
  let attestation ← Storage.getAttestation attestationId
  failWhen (attestation.deleted = true) .notFound
  let currentTime ← ledgerTimestamp
  let status := attestation.getStatus currentTime
  if status = .expired then do
    emit (.attestationExpired attestationId attestation.subject)
    pure status
  else pure status

/-- The loop of the queries that pick ids by their records. -/
def pickLoop (keep : Attestation Address → Bool) : List Str → List Str → Program Address (List Str)
  | [], result => pure result
  | id :: rest, result => do
      let attestation ← load (·.attestation id)
      match attestation with
      | none => pickLoop keep rest result
      | some attestation =>
          if keep attestation = true then pickLoop keep rest (result ++ [id])
          else pickLoop keep rest result

theorem returns_pickLoop {env : Env Address} {before after : World Address}
    (keep : Attestation Address → Bool) (ids result kept : List Str) :
    Returns (pickLoop keep ids result) env before kept after ↔
      kept = result ++ ids.filter (Finds before.storage keep) ∧ after = before := by
  induction ids generalizing result with
  | nil => simp [pickLoop]
  | cons id rest ih =>
      cases found : before.storage.attestation id with
      | none => simp [pickLoop, found, ih, Finds]
      | some attestation =>
          cases test : keep attestation <;> simp [pickLoop, found, ih, Finds, test]

/-- The loop that loads the records of a page. -/
def recordsLoop : List Str → List (Attestation Address) →
    Program Address (List (Attestation Address))
  | [], result => pure result
  | id :: rest, result => do
      let attestation ← load (·.attestation id)
      match attestation with
      | none => recordsLoop rest result
      | some attestation => recordsLoop rest (result ++ [attestation])

def getAttestationsInRange (subject : Address) (fromTs toTs start limit : Nat) :
    Program Address (List (Attestation Address)) := do
  let attestationIds ← load (·.subjectAttestations subject)
  let filteredIds ← pickLoop (fun attestation => WithinRange fromTs toTs attestation)
    attestationIds []
  let paginatedIds ← ChunkedIndex.paginate filteredIds start limit
  recordsLoop paginatedIds []

def getAttestationsByTag (subject : Address) (tag : Str) : Program Address (List Str) := do
  let attestationIds ← load (·.subjectAttestations subject)
  pickLoop (fun attestation => !attestation.deleted && attestation.tags.any (tag ∈ ·))
    attestationIds []

def getAttestationsByJurisdiction (subject : Address) (jurisdiction : Str) (start limit : Nat) :
    Program Address (List Str) := do
  let attestationIds ← load (·.subjectAttestations subject)
  let filtered ← pickLoop (fun attestation =>
    !attestation.deleted && decide (attestation.jurisdiction = some jurisdiction)) attestationIds []
  ChunkedIndex.paginate filtered start limit

/-- The flat index is counted, deleted records or not. -/
def getIssuerAttestationCount (issuer : Address) : Program Address Nat := do
  let attestationIds ← load (·.issuerAttestations issuer)
  pure attestationIds.length

def getSubjectAttestationCount (subject : Address) : Program Address Nat := do
  let ids ← ChunkedIndex.getIds .subject subject
  pure ids.length

def validCountLoop (currentTime : Nat) : List Str → Nat → Program Address Nat
  | [], count => pure count
  | id :: rest, count => do
      let attestation ← load (·.attestation id)
      match attestation with
      | none => validCountLoop currentTime rest count
      | some attestation =>
          if attestation.deleted = false ∧ attestation.getStatus currentTime = .valid then do
            let next ← checkedU32 (count + 1)
            validCountLoop currentTime rest next
          else validCountLoop currentTime rest count

def getValidClaimCount (subject : Address) : Program Address Nat := do
  let currentTime ← ledgerTimestamp
  let attestationIds ← load (·.subjectAttestations subject)
  validCountLoop currentTime attestationIds 0

def getGlobalStats : Program Address GlobalStats := load (·.globalStats)

end Query

def Contract.tierScore : Option IssuerTier → Nat
  | some .premium => 90
  | some .verified => 60
  | some .basic | none => 30

/-- Whether the record is deleted is not looked at. -/
def Contract.getConfidenceScore {Address : Type} (attestationId : Str) :
    Program Address (Option Nat) := do
  let attestation ← load (·.attestation attestationId)
  match attestation with
  | none => pure none
  | some attestation => do
      let tier ← Storage.getIssuerTier attestation.issuer
      let endorsements ← Storage.getEndorsements attestationId
      let doubled ← checkedU32 (endorsements.length * 2)
      pure (some (Contract.tierScore tier + min doubled 10))

section Questions

/-- The queries, but for the audit log, and the confidence score. -/
inductive Question (Address : Type) where
  | hasValidClaim (subject : Address) (claimType : Str)
  | hasValidClaimFromIssuer (subject : Address) (claimType : Str) (issuer : Address)
  | hasAnyClaim (subject : Address) (claimTypes : List Str)
  | hasAllClaims (subject : Address) (claimTypes : List Str)
  | getAttestation (attestationId : Str)
  | getDelegation (delegator delegate : Address) (claimType : Str)
  | getAttestationStatus (attestationId : Str)
  | getSubjectAttestations (subject : Address) (start limit : Nat)
  | getAttestationsInRange (subject : Address) (fromTs toTs start limit : Nat)
  | getAttestationsInRangeAfter (subject : Address) (fromTs toTs : Nat)
      (afterAttestationId : Option Str) (limit : Nat)
  | getAttestationsByTag (subject : Address) (tag : Str)
  | getAttestationsByJurisdiction (subject : Address) (jurisdiction : Str) (start limit : Nat)
  | getIssuerAttestations (issuer : Address) (start limit : Nat)
  | getIssuerAttestationCount (issuer : Address)
  | getValidClaims (subject : Address)
  | getAttestationByType (subject : Address) (claimType : Str)
  | getSubjectAttestationCount (subject : Address)
  | getValidClaimCount (subject : Address)
  | getGlobalStats
  | getConfidenceScore (attestationId : Str)

variable {Address : Type}

/-- What a question is answered with. -/
def Question.Answer : Question Address → Type
  | .hasValidClaim _ _ | .hasValidClaimFromIssuer _ _ _ | .hasAnyClaim _ _ | .hasAllClaims _ _ =>
      Bool
  | .getAttestation _ => Attestation Address
  | .getDelegation _ _ _ => Option (Delegation Address)
  | .getAttestationStatus _ => AttestationStatus
  | .getSubjectAttestations _ _ _ | .getAttestationsByTag _ _
  | .getAttestationsByJurisdiction _ _ _ _ | .getIssuerAttestations _ _ _ | .getValidClaims _ =>
      List Str
  | .getAttestationsInRange _ _ _ _ _ | .getAttestationsInRangeAfter _ _ _ _ _ =>
      List (Attestation Address)
  | .getAttestationByType _ _ => Option (Attestation Address)
  | .getIssuerAttestationCount _ | .getSubjectAttestationCount _ | .getValidClaimCount _ => Nat
  | .getGlobalStats => GlobalStats
  | .getConfidenceScore _ => Option Nat

def Question.exec [DecidableEq Address] : (question : Question Address) →
    Program Address question.Answer
  | .hasValidClaim subject claimType => Query.hasValidClaim subject claimType
  | .hasValidClaimFromIssuer subject claimType issuer =>
      Query.hasValidClaimFromIssuer subject claimType issuer
  | .hasAnyClaim subject claimTypes => Query.hasAnyClaim subject claimTypes
  | .hasAllClaims subject claimTypes => Query.hasAllClaims subject claimTypes
  | .getAttestation attestationId => Query.getAttestation attestationId
  | .getDelegation delegator delegate claimType => Query.getDelegation delegator delegate claimType
  | .getAttestationStatus attestationId => Query.getAttestationStatus attestationId
  | .getSubjectAttestations subject start limit => Query.getSubjectAttestations subject start limit
  | .getAttestationsInRange subject fromTs toTs start limit =>
      Query.getAttestationsInRange subject fromTs toTs start limit
  | .getAttestationsInRangeAfter subject fromTs toTs afterAttestationId limit =>
      Query.getAttestationsInRangeAfter subject fromTs toTs afterAttestationId limit
  | .getAttestationsByTag subject tag => Query.getAttestationsByTag subject tag
  | .getAttestationsByJurisdiction subject jurisdiction start limit =>
      Query.getAttestationsByJurisdiction subject jurisdiction start limit
  | .getIssuerAttestations issuer start limit => Query.getIssuerAttestations issuer start limit
  | .getIssuerAttestationCount issuer => Query.getIssuerAttestationCount issuer
  | .getValidClaims subject => Query.getValidClaims subject
  | .getAttestationByType subject claimType => Query.getAttestationByType subject claimType
  | .getSubjectAttestationCount subject => Query.getSubjectAttestationCount subject
  | .getValidClaimCount subject => Query.getValidClaimCount subject
  | .getGlobalStats => Query.getGlobalStats
  | .getConfidenceScore attestationId => Contract.getConfidenceScore attestationId

/-- The cursor a question goes on from. -/
def Question.cursor? : Question Address → Option Str
  | .getAttestationsInRangeAfter _ _ _ afterAttestationId _ => afterAttestationId
  | _ => none

end Questions

end TrustLink
