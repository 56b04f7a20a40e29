import TrustLink.Attestation

/-!
The attestation requests of request.rs and what its operations do when they
return.
-/
namespace TrustLink.Contract
open Transaction

section Operations
variable {Address : Type} [DecidableEq Address]

def requestAttestation [Host Address] (subject issuer : Address) (claimType : Str) :
    Program Address Str := do
  requireAuth subject
  Validation.requireNotPaused
  Validation.requireIssuer issuer
  validated (Validation.validateClaimType claimType)
  let timestamp ← ledgerTimestamp
  let requestId := AttestationRequest.generateId subject issuer claimType timestamp
  -- a settled request keeps its id taken
  let existing ← load (·.request requestId)
  failWhen (existing.isSome = true) .duplicateRequest
  let expiresAt ← checkedU64 (timestamp + attestationRequestTtlSecs)
  Storage.setRequest
    ⟨requestId, subject, issuer, claimType, timestamp, expiresAt, .pending, none⟩
  Storage.addPendingRequest issuer requestId
  emit (.attestationRequested requestId subject issuer claimType expiresAt)
  pure requestId

def fulfillRequest [Host Address] (issuer : Address) (requestId : Str)
    (expiration : Option Nat) : Program Address Str := do
  requireAuth issuer
  Validation.requireNotPaused
  Validation.requireIssuer issuer
  let request ← Storage.getRequest requestId
  failWhen (request.issuer ≠ issuer) .unauthorized
  failWhen (request.status ≠ .pending) .requestAlreadyProcessed
  let currentTime ← ledgerTimestamp
  failWhen (request.expiresAt ≤ currentTime) .requestExpired
  validateNativeExpiration expiration
  let attestationId :=
    Attestation.generateId issuer request.subject request.claimType currentTime
  let stored ← Storage.hasAttestation attestationId
  failWhen (stored = true) .duplicateAttestation
  let limits ← Storage.getLimits
  let issuerIds ← Storage.getIssuerAttestations issuer
  failWhen (limits.maxAttestationsPerIssuer ≤ issuerIds.length) .limitExceeded
  let subjectIds ← Storage.getSubjectAttestations request.subject
  failWhen (limits.maxAttestationsPerSubject ≤ subjectIds.length) .limitExceeded
  let attestation : Attestation Address :=
    { Attestation.issued attestationId issuer request.subject request.claimType currentTime
        .native with expiration }
  storeAttestation attestation
  -- no entry is appended to the audit log
  emit (.attestationCreated attestation)
  Storage.setRequest { request with status := .fulfilled }
  Storage.removePendingRequest issuer requestId
  emit (.requestFulfilled requestId issuer attestationId)
  pure attestationId

def rejectRequest (issuer : Address) (requestId : Str) (reason : Option Str) :
    Program Address Unit := do
  requireAuth issuer
  Validation.requireNotPaused
  Validation.requireIssuer issuer
  validated (validateReason reason)
  let request ← Storage.getRequest requestId
  failWhen (request.issuer ≠ issuer) .unauthorized
  failWhen (request.status ≠ .pending) .requestAlreadyProcessed
  let currentTime ← ledgerTimestamp
  failWhen (request.expiresAt ≤ currentTime) .requestExpired
  Storage.setRequest { request with status := .rejected, rejectionReason := reason }
  Storage.removePendingRequest issuer requestId
  emit (.requestRejected requestId issuer reason)

def cancelRequest (subject : Address) (requestId : Str) : Program Address Unit := do
  requireAuth subject
  Validation.requireNotPaused
  let request ← Storage.getRequest requestId
  failWhen (request.subject ≠ subject) .unauthorized
  failWhen (request.status ≠ .pending) .requestAlreadyProcessed
  Storage.setRequest { request with status := .cancelled }
  Storage.removePendingRequest request.issuer requestId
  emit (.requestCancelled requestId subject)

end Operations

section Returns
variable {Address : Type} [DecidableEq Address] {env : Env Address} {before after : World Address}

theorem returns_requestAttestation [Host Address] (subject issuer : Address) (claimType : Str)
    (id : Str) (request : AttestationRequest Address)
    (built : request = ⟨AttestationRequest.generateId subject issuer claimType env.timestamp,
      subject, issuer, claimType, env.timestamp, env.timestamp + attestationRequestTtlSecs,
      .pending, none⟩) :
    Returns (requestAttestation subject issuer claimType) env before id after ↔
      (subject ∈ env.auths ∧ before.storage.paused = false ∧
        before.storage.issuer issuer = true ∧
        Validation.validateClaimType claimType = .ok () ∧
        before.storage.request request.id = none ∧ request.expiresAt < u64Range ∧
        TtlFits before.storage.ttlConfig) ∧
      id = request.id ∧
      after = ⟨{ before.storage with
          request := Function.update before.storage.request request.id (some request)
          pendingRequests := Function.update before.storage.pendingRequests issuer
            (before.storage.pendingRequests issuer ++ [request.id]) },
        before.events ++ [.attestationRequested request.id subject issuer claimType
          request.expiresAt], before.payments⟩ := by
  subst built
  simp only [requestAttestation, returns_bind]
  simp
  constructor
  · rintro ⟨auth, running, registered, valid, fresh, fits, ttl, same, left⟩
    refine ⟨⟨auth, running, registered, valid, fresh, fits, ttl⟩, same, left.trans ?_⟩
    simp only [World.write, World.publish]
  · rintro ⟨⟨auth, running, registered, valid, fresh, fits, ttl⟩, same, left⟩
    refine ⟨auth, running, registered, valid, fresh, fits, ttl, same, left.trans ?_⟩
    simp only [World.write, World.publish]

/-- The checks of a fulfilment. -/
structure FulfillChecks (storage : Storage Address) (env : Env Address) (issuer : Address)
    (requestId : Str) (expiration : Option Nat) (request : AttestationRequest Address)
    (attestation : Attestation Address) : Prop where
  auth : issuer ∈ env.auths
  running : storage.paused = false
  registered : storage.issuer issuer = true
  found : storage.request requestId = some request
  own : request.issuer = issuer
  pending : request.status = .pending
  early : env.timestamp < request.expiresAt
  expires : ∀ time ∈ expiration, env.timestamp < time
  fresh : storage.attestation attestation.id = none
  issuerRoom : (storage.issuerAttestations issuer).length < storage.limits.maxAttestationsPerIssuer
  subjectRoom : (storage.subjectAttestations request.subject).length <
    storage.limits.maxAttestationsPerSubject
  fits : StoreFits storage attestation

theorem returns_fulfillRequest [Host Address] (issuer : Address) (requestId : Str)
    (expiration : Option Nat) (id : Str) :
    Returns (fulfillRequest issuer requestId expiration) env before id after ↔
      ∃ request attestation,
        attestation = { Attestation.issued
          (Attestation.generateId issuer request.subject request.claimType env.timestamp) issuer
          request.subject request.claimType env.timestamp .native with expiration } ∧
        FulfillChecks before.storage env issuer requestId expiration request attestation ∧
        id = attestation.id ∧
        after = ⟨{ before.storage.withIssued attestation with
            request := Function.update before.storage.request request.id
              (some { request with status := .fulfilled })
            pendingRequests := Function.update before.storage.pendingRequests issuer
              ((before.storage.pendingRequests issuer).filter (· ≠ requestId)) },
          before.events ++ [.attestationCreated attestation,
            .requestFulfilled requestId issuer attestation.id], before.payments⟩ := by
  constructor
  · intro accepted
    simp [fulfillRequest] at accepted
    obtain ⟨auth, running, registered, request, found, own, pending, open_, future, fresh,
      issuerRoom, subjectRoom, fits, -, same, left⟩ := accepted
    refine ⟨request, _, rfl, ⟨auth, running, registered, found, own, pending, open_, future, fresh,
      issuerRoom, subjectRoom, fits⟩, same, left.trans ?_⟩
    simp [World.write, World.publish, Storage.withIssued]
  · rintro ⟨request, _, rfl, ⟨auth, running, registered, found, own, pending, open_, future, fresh,
      issuerRoom, subjectRoom, fits⟩, same, left⟩
    simp [fulfillRequest]
    refine ⟨auth, running, registered, request, found, own, pending, open_, future, fresh,
      issuerRoom, subjectRoom, fits, fits.ttl, same, left.trans ?_⟩
    simp [World.write, World.publish, Storage.withIssued]

theorem returns_rejectRequest (issuer : Address) (requestId : Str) (reason : Option Str)
    (done : Unit) :
    Returns (rejectRequest issuer requestId reason) env before done after ↔
      ∃ request, (issuer ∈ env.auths ∧ before.storage.paused = false ∧
        before.storage.issuer issuer = true ∧ validateReason reason = .ok () ∧
        before.storage.request requestId = some request ∧ request.issuer = issuer ∧
        request.status = .pending ∧ env.timestamp < request.expiresAt ∧
        TtlFits before.storage.ttlConfig) ∧
        after = ⟨{ before.storage with
            request := Function.update before.storage.request request.id
              (some { request with status := .rejected, rejectionReason := reason })
            pendingRequests := Function.update before.storage.pendingRequests issuer
              ((before.storage.pendingRequests issuer).filter (· ≠ requestId)) },
          before.events ++ [.requestRejected requestId issuer reason], before.payments⟩ := by
  simp [rejectRequest]
  constructor
  · rintro ⟨auth, running, registered, valid, request, found, own, pending, open_, ttl, left⟩
    exact ⟨request, ⟨auth, running, registered, valid, found, own, pending, open_, ttl⟩, left⟩
  · rintro ⟨request, ⟨auth, running, registered, valid, found, own, pending, open_, ttl⟩, left⟩
    exact ⟨auth, running, registered, valid, request, found, own, pending, open_, ttl, left⟩

theorem returns_cancelRequest (subject : Address) (requestId : Str) (done : Unit) :
    Returns (cancelRequest subject requestId) env before done after ↔
      ∃ request, (subject ∈ env.auths ∧ before.storage.paused = false ∧
        before.storage.request requestId = some request ∧ request.subject = subject ∧
        request.status = .pending ∧ TtlFits before.storage.ttlConfig) ∧
        after = ⟨{ before.storage with
            request := Function.update before.storage.request request.id
              (some { request with status := .cancelled })
            pendingRequests := Function.update before.storage.pendingRequests request.issuer
              ((before.storage.pendingRequests request.issuer).filter (· ≠ requestId)) },
          before.events ++ [.requestCancelled requestId subject], before.payments⟩ := by
  simp [cancelRequest]
  constructor
  · rintro ⟨auth, running, request, found, own, pending, ttl, left⟩
    exact ⟨request, ⟨auth, running, found, own, pending, ttl⟩, left⟩
  · rintro ⟨request, ⟨auth, running, found, own, pending, ttl⟩, left⟩
    exact ⟨auth, running, request, found, own, pending, ttl, left⟩

end Returns

end TrustLink.Contract
