import TrustLink.Attestation

/-!
The council entry points of lib.rs: replacing the council, and proposing,
approving and executing its actions.
-/
namespace TrustLink.Contract
open Transaction

section Operations
variable {Address : Type} [DecidableEq Address]

/-- The members are taken as given, repetitions included. -/
def initCouncil (admin : Address) (members : List Address) (quorum : Nat) :
    Program Address Unit := do
  requireAuth admin
  Validation.requireAdmin admin
  failWhen (quorum = 0 ∨ members.length < quorum) .invalidThreshold
  Storage.setCouncil members
  emit (.councilInitialized quorum members.length)

def proposeCouncilAction (proposer : Address) (operation : CouncilOperation Address) :
    Program Address Nat := do
  requireAuth proposer
  let council ← Storage.getCouncil
  let council ← orError .notInitialized council
  failWhen (proposer ∉ council) .unauthorized
  let id ← Storage.nextProposalId
  Storage.setProposal ⟨id, operation, proposer, [proposer], false⟩
  emit (.proposalCreated id proposer)
  pure id

def approveCouncilAction (approver : Address) (proposalId : Nat) : Program Address Unit := do
  requireAuth approver
  let council ← Storage.getCouncil
  let council ← orError .notInitialized council
  let proposal ← Storage.getProposal proposalId
  let proposal ← orError .notFound proposal
  failWhen (proposal.executed = true) .alreadyRevoked
  failWhen (approver ∉ council) .unauthorized
  failWhen (approver ∈ proposal.approvals) .alreadySigned
  Storage.setProposal { proposal with approvals := proposal.approvals ++ [approver] }
  emit (.proposalApproved proposalId approver)

theorem returns_initCouncil (admin : Address) (members : List Address) (quorum : Nat)
    {env : Env Address} {before after : World Address} (done : Unit) :
    Returns (initCouncil admin members quorum) env before done after ↔
      (admin ∈ env.auths ∧ admin ∈ before.storage.council ∧ 0 < quorum ∧
        quorum ≤ members.length ∧ TtlFits before.storage.ttlConfig) ∧
      after = ⟨{ before.storage with adminCouncil := some members },
        before.events ++ [.councilInitialized quorum members.length], before.payments⟩ := by
  simp [initCouncil, World.write, World.publish, and_assoc, Nat.pos_iff_ne_zero]

/-- The effect of a council operation. -/
def performOperation (council : List Address) (operation : CouncilOperation Address) :
    Program Address Unit :=
  match operation with
  | .removeIssuer issuer => do
      Storage.removeIssuer issuer
      let timestamp ← ledgerTimestamp
      match council.head? with
      | some first => emit (.issuerRemoved issuer first timestamp)
      | none => pure ()
  | .pauseContract => Storage.setPaused true

def executeCouncilAction (executor : Address) (proposalId : Nat) : Program Address Unit := do
  requireAuth executor
  let council ← Storage.getCouncil
  let council ← orError .notInitialized council
  let proposal ← Storage.getProposal proposalId
  let proposal ← orError .notFound proposal
  failWhen (proposal.executed = true) .alreadyRevoked
  failWhen (executor ∉ council) .unauthorized
  failWhen (proposal.approvals.length < 1) .unauthorized
  performOperation council proposal.operation
  Storage.setProposal { proposal with executed := true }
  emit (.proposalExecuted proposalId)

end Operations

end TrustLink.Contract

namespace TrustLink

section Storage
variable {Address : Type}

def Storage.withProposal (storage : Storage Address) (proposal : CouncilProposal Address) :
    Storage Address :=
  { storage with
    councilProposal := Function.update storage.councilProposal proposal.id (some proposal) }

def Storage.withPerformed [DecidableEq Address] (storage : Storage Address)
    (operation : CouncilOperation Address) : Storage Address :=
  match operation with
  | .removeIssuer issuer =>
      { storage with issuer := Function.update storage.issuer issuer false }
  | .pauseContract => { storage with paused := true }

/-- A removal is announced in the name of the first member of the council. -/
def performedEvents (storage : Storage Address) (operation : CouncilOperation Address)
    (timestamp : Nat) : List (Event Address) :=
  match operation with
  | .removeIssuer issuer =>
      (storage.council.head?.map fun first => .issuerRemoved issuer first timestamp).toList
  | .pauseContract => []

theorem Storage.council_of_stored {storage : Storage Address} {council : List Address}
    (stored : storage.adminCouncil = some council) : storage.council = council := by
  rw [Storage.council, stored, Option.getD_some]

theorem Storage.stored_of_member {storage : Storage Address} {member : Address}
    (seated : member ∈ storage.council) : storage.adminCouncil = some storage.council := by
  cases stored : storage.adminCouncil with
  | none => simp [Storage.council, stored] at seated
  | some council => rw [Storage.council_of_stored stored]

end Storage

end TrustLink

namespace TrustLink.Contract
open Transaction

section Returns
variable {Address : Type} [DecidableEq Address] {env : Env Address} {before after : World Address}

/-- The checks of a proposal. -/
structure ActionProposable (storage : Storage Address) (env : Env Address) (proposer : Address) :
    Prop where
  auth : proposer ∈ env.auths
  member : proposer ∈ storage.council
  room : storage.proposalCounter + 1 < u32Range
  ttl : TtlFits storage.ttlConfig

/-- The checks of an approval. -/
structure ActionApprovable (storage : Storage Address) (env : Env Address) (approver : Address)
    (proposalId : Nat) (proposal : CouncilProposal Address) : Prop where
  auth : approver ∈ env.auths
  member : approver ∈ storage.council
  found : storage.councilProposal proposalId = some proposal
  pending : proposal.executed = false
  fresh : approver ∉ proposal.approvals
  ttl : TtlFits storage.ttlConfig

/-- The checks of an execution. The quorum is not among them. -/
structure ActionExecutable (storage : Storage Address) (env : Env Address) (executor : Address)
    (proposalId : Nat) (proposal : CouncilProposal Address) : Prop where
  auth : executor ∈ env.auths
  member : executor ∈ storage.council
  found : storage.councilProposal proposalId = some proposal
  pending : proposal.executed = false
  approved : proposal.approvals ≠ []
  ttl : TtlFits storage.ttlConfig

theorem returns_proposeCouncilAction (proposer : Address) (operation : CouncilOperation Address)
    (id : Nat) :
    Returns (proposeCouncilAction proposer operation) env before id after ↔
      ActionProposable before.storage env proposer ∧ id = before.storage.proposalCounter + 1 ∧
        after = ⟨Storage.withProposal { before.storage with
            proposalCounter := before.storage.proposalCounter + 1 }
            ⟨before.storage.proposalCounter + 1, operation, proposer, [proposer], false⟩,
          before.events ++ [.proposalCreated (before.storage.proposalCounter + 1) proposer],
          before.payments⟩ := by
  simp [proposeCouncilAction, World.write, World.publish, Storage.withProposal]
  constructor
  · rintro ⟨auth, council, stored, member, room, ttl, rfl, left⟩
    rw [← Storage.council_of_stored stored] at member
    exact ⟨⟨auth, member, room, ttl⟩, rfl, left⟩
  · rintro ⟨⟨auth, member, room, ttl⟩, rfl, left⟩
    exact ⟨auth, _, Storage.stored_of_member member, member, room, ttl, rfl, left⟩

theorem returns_approveCouncilAction (approver : Address) (proposalId : Nat) (done : Unit) :
    Returns (approveCouncilAction approver proposalId) env before done after ↔
      ∃ proposal, ActionApprovable before.storage env approver proposalId proposal ∧
        after = ⟨before.storage.withProposal
            { proposal with approvals := proposal.approvals ++ [approver] },
          before.events ++ [.proposalApproved proposalId approver], before.payments⟩ := by
  simp [approveCouncilAction, World.write, World.publish, Storage.withProposal]
  constructor
  · rintro ⟨auth, council, stored, proposal, found, pending, member, fresh, ttl, left⟩
    rw [← Storage.council_of_stored stored] at member
    exact ⟨proposal, ⟨auth, member, found, pending, fresh, ttl⟩, left⟩
  · rintro ⟨proposal, ⟨auth, member, found, pending, fresh, ttl⟩, left⟩
    exact ⟨auth, _, Storage.stored_of_member member, proposal, found, pending, member, fresh, ttl,
      left⟩

theorem returns_performOperation (operation : CouncilOperation Address)
    (ttl : TtlFits before.storage.ttlConfig) (done : Unit) :
    Returns (performOperation before.storage.council operation) env before done after ↔
      after = ⟨before.storage.withPerformed operation,
        before.events ++ performedEvents before.storage operation env.timestamp,
        before.payments⟩ := by
  cases operation with
  | removeIssuer issuer =>
      cases first : before.storage.council.head? <;>
        simp [performOperation, performedEvents, first, Storage.withPerformed, World.write,
          World.publish]
  | pauseContract =>
      simp [performOperation, performedEvents, Storage.withPerformed, World.write, ttl]

theorem returns_executeCouncilAction (executor : Address) (proposalId : Nat) (done : Unit) :
    Returns (executeCouncilAction executor proposalId) env before done after ↔
      ∃ proposal, ActionExecutable before.storage env executor proposalId proposal ∧
        after = ⟨(before.storage.withPerformed proposal.operation).withProposal
            { proposal with executed := true },
          before.events ++ performedEvents before.storage proposal.operation env.timestamp ++
            [.proposalExecuted proposalId], before.payments⟩ := by
  constructor
  · intro returned
    simp [executeCouncilAction] at returned
    obtain ⟨auth, council, stored, proposal, found, pending, member, approved, _, middle,
      performed, ttl, left⟩ := returned
    rw [← Storage.council_of_stored stored] at member performed
    have kept : middle.storage.ttlConfig = before.storage.ttlConfig := by
      cases operation : proposal.operation <;> rw [operation] at performed <;>
        cases first : before.storage.council.head? <;>
        simp [performOperation, first] at performed <;> simp [performed]
    rw [kept] at ttl
    rw [returns_performOperation proposal.operation ttl] at performed
    refine ⟨proposal, ⟨auth, member, found, pending, approved, ttl⟩, ?_⟩
    rw [left, performed]
    rfl
  · rintro ⟨proposal, ⟨auth, member, found, pending, approved, ttl⟩, rfl⟩
    have performed : Returns (performOperation before.storage.council proposal.operation) env before
        () _ := (returns_performOperation proposal.operation ttl ()).mpr rfl
    have kept : (before.storage.withPerformed proposal.operation).ttlConfig =
        before.storage.ttlConfig := by
      cases proposal.operation <;> rfl
    simp [executeCouncilAction]
    exact ⟨auth, _, Storage.stored_of_member member, proposal, found, pending, member, approved,
      (), _, performed, by rw [kept]; exact ttl, by rw [← List.append_assoc]; rfl⟩

end Returns

end TrustLink.Contract
