import TrustLink.Activities
import TrustLink.CouncilActions
import TrustLink.MultisigProtocol
import TrustLink.RequestLifecycle
import TrustLink.Writes

/-!
What the events tell besides the register. The directory of issuers, tiers, claim types and
delegations and the book of the requests are told in full. Of a proposal the events tell who has
proposed and signed it and whether it is done, but neither what a council action does nor for
which claim and by whom a multi-sig proposal has to be signed.
-/
namespace TrustLink
open Transaction Contract

section Directory
variable {Address : Type}

structure Directory (Address : Type) where
  issuer : Address → Bool
  issuerList : List Address
  issuerTier : Address → Option IssuerTier
  claimType : Str → Option ClaimTypeInfo
  claimTypeList : List Str
  delegation : Address → Address → Str → Option (Delegation Address)
  delegatorIndex : Address → List (Address × Str)

def Storage.directory (storage : Storage Address) : Directory Address where
  issuer := storage.issuer
  issuerList := storage.issuerList
  issuerTier := storage.issuerTier
  claimType := storage.claimType
  claimTypeList := storage.claimTypeList
  delegation := storage.delegation
  delegatorIndex := storage.delegatorIndex

variable [DecidableEq Address]

def Directory.absorb (directory : Directory Address) : Event Address → Directory Address
  | .issuerRegistered issuer _ _ =>
      { directory with
        issuer := Function.update directory.issuer issuer true
        issuerList := if issuer ∈ directory.issuerList then directory.issuerList
          else directory.issuerList ++ [issuer] }
  | .issuerRemoved issuer _ _ =>
      { directory with issuer := Function.update directory.issuer issuer false }
  | .issuerTierUpdated issuer tier =>
      { directory with issuerTier := Function.update directory.issuerTier issuer (some tier) }
  | .claimTypeRegistered claimType description =>
      { directory with
        claimType := Function.update directory.claimType claimType (some ⟨claimType, description⟩)
        claimTypeList := if (directory.claimType claimType).isSome then directory.claimTypeList
          else directory.claimTypeList ++ [claimType] }
  | .delegationCreated delegator delegate claimType expiration =>
      { directory with
        delegation := Function.update directory.delegation delegator
          (Function.update (directory.delegation delegator) delegate
            (Function.update (directory.delegation delegator delegate) claimType
              (some ⟨delegator, delegate, claimType, expiration⟩)))
        delegatorIndex :=
          if (delegate, claimType) ∈ directory.delegatorIndex delegator then
            directory.delegatorIndex
          else Function.update directory.delegatorIndex delegator
            (directory.delegatorIndex delegator ++ [(delegate, claimType)]) }
  | .delegationRevoked delegator delegate claimType =>
      { directory with
        delegation := Function.update directory.delegation delegator
          (Function.update (directory.delegation delegator) delegate
            (Function.update (directory.delegation delegator delegate) claimType none))
        delegatorIndex := Function.update directory.delegatorIndex delegator
          ((directory.delegatorIndex delegator).filter fun entry =>
            entry.1 ≠ delegate ∨ entry.2 ≠ claimType) }
  | _ => directory

theorem Directory.absorb_elsewhere (event : Event Address) (other : event.topic ≠ .directory)
    (directory : Directory Address) : directory.absorb event = directory := by
  cases event <;> first | rfl | exact absurd rfl other

variable {env : Env Address} {before after : World Address}

/-- A removal that the council has decided on is announced like any other. -/
theorem AdminOp.directory_told (op : AdminOp Address)
    (accepted : Returns op.exec env before () after) :
    EventLog.Tells World.events (fun world => world.storage.directory) Directory.absorb before
      after := by
  have grown := op.events_of_returns accepted
  cases op with
  | executeCouncilAction executor proposalId =>
      obtain ⟨⟨id, operation, proposer, approvals, executed⟩, executable, rfl⟩ :=
        (returns_executeCouncilAction ..).mp accepted
      refine ⟨_, List.append_assoc .., ?_⟩
      cases operation with
      | removeIssuer issuer =>
          have manned : before.storage.council.head? =
              some (before.storage.council.head (List.ne_nil_of_mem executable.member)) :=
            List.head?_eq_some_head _
          simp only [performedEvents, manned]
          rfl
      | pauseContract => rfl
  | _ =>
      obtain ⟨storage, written, left⟩ := AdminOp.leaves _ accepted
      refine ⟨_, grown, (congrArg Storage.directory left.storage).trans ?_⟩
      cases written
      rfl

variable [Host Address]

theorem directory_told {call : Call Address} (keyed : Keyed before.storage.register)
    (accepted : Accepted before call after) :
    EventLog.Tells World.events (fun world => world.storage.directory) Directory.absorb before
      after := by
  obtain ⟨env, op⟩ := call
  cases op with
  | attestation op =>
      exact op.tells_elsewhere keyed accepted (by decide) Directory.absorb_elsewhere
        (op.kept accepted Storage.directory (fun _ _ => rfl) fun _ _ _ => rfl)
  | request op => cases op.outcome accepted <;> exact ⟨_, rfl, rfl⟩
  | multisig op => cases op.outcome accepted <;> exact ⟨_, rfl, rfl⟩
  | council op =>
      obtain ⟨storage, written, left⟩ := op.leaves accepted
      refine op.tells_elsewhere accepted (by decide) Directory.absorb_elsewhere
        ((congrArg Storage.directory left.storage).trans ?_)
      cases written <;> rfl
  | admin op => exact op.directory_told accepted

/-- At any time the events so far, or the directory and the events since, give the directory. -/
theorem directory_rebuilt (early late : List (Activity Address)) :
    (live early).storage.directory =
        Trace.run Directory.absorb (Storage.empty Address).directory (live early).events ∧
      (live (early ++ late)).storage.directory =
        Trace.run Directory.absorb (live early).storage.directory
          ((live (early ++ late)).events.drop (live early).events.length) := by
  have told := @log_told Address _ _ _ Storage.directory _
    (fun event report => Directory.absorb_elsewhere event (by simp [report]))
    fun activities _ _ => directory_told (keyed_live activities)
  exact ⟨(told [] early).rebuild rfl, (told early late).catch_up⟩

end Directory

section Requests
variable {Address : Type} [DecidableEq Address]

/-- Moves on with the request under the id, if there is one. -/
def Book.proceed (book : Book Address) (id : Str) (move : AttestationRequest Address → Move Address) :
    Book Address :=
  (book.request id).elim book fun request => book.apply (move request)

/-- A request is valid for a fixed time, so its event tells when it was made. -/
def Book.absorb (book : Book Address) : Event Address → Book Address
  | .attestationRequested id subject issuer claimType expiresAt =>
      book.apply (.submit ⟨id, subject, issuer, claimType, expiresAt - attestationRequestTtlSecs,
        expiresAt, .pending, none⟩)
  | .requestFulfilled id _ _ =>
      book.proceed id fun request => .settle request .fulfilled request.rejectionReason
  | .requestRejected id _ reason => book.proceed id (.settle · .rejected reason)
  | .requestCancelled id _ =>
      book.proceed id fun request => .settle request .cancelled request.rejectionReason
  | _ => book

theorem Book.absorb_elsewhere (event : Event Address) (other : event.topic ≠ .requests)
    (book : Book Address) : book.absorb event = book := by
  cases event <;> first | rfl | exact absurd rfl other

variable [Host Address] {env : Env Address} {before after : World Address}

theorem RequestOp.book_told (op : RequestOp Address) (sound : before.storage.book.Sound)
    (accepted : Returns op.exec env before () after) :
    EventLog.Tells World.events (fun world => world.storage.book) Book.absorb before after := by
  cases op.outcome accepted with
  | requestAttestation built =>
      subst built
      refine ⟨_, rfl, ?_⟩
      simp [Storage.book, Book.absorb, Book.apply, Move.written, SecondaryIndex.add]
  | fulfillRequest built checks =>
      obtain rfl := sound.keyed _ _ checks.found
      obtain rfl := checks.own
      refine ⟨_, rfl, ?_⟩
      simp [Storage.book, Book.absorb, Book.proceed, Book.apply, Move.written, checks.found,
        SecondaryIndex.drop]
  | rejectRequest _ _ _ _ found own =>
      obtain rfl := sound.keyed _ _ found
      obtain rfl := own
      refine ⟨_, rfl, ?_⟩
      simp [Storage.book, Book.absorb, Book.proceed, Book.apply, Move.written, found,
        SecondaryIndex.drop]
  | cancelRequest _ _ found =>
      obtain rfl := sound.keyed _ _ found
      refine ⟨_, rfl, ?_⟩
      simp [Storage.book, Book.absorb, Book.proceed, Book.apply, Move.written, found,
        SecondaryIndex.drop]

theorem book_told {call : Call Address} (keyed : Keyed before.storage.register)
    (sound : before.storage.book.Sound) (accepted : Accepted before call after) :
    EventLog.Tells World.events (fun world => world.storage.book) Book.absorb before after := by
  obtain ⟨env, op⟩ := call
  cases op with
  | attestation op =>
      exact op.tells_elsewhere keyed accepted (by decide) Book.absorb_elsewhere
        (op.kept accepted Storage.book (fun _ _ => rfl) fun _ _ _ => rfl)
  | request op => exact op.book_told sound accepted
  | multisig op => cases op.outcome accepted <;> exact ⟨_, rfl, rfl⟩
  | council op =>
      exact op.tells_elsewhere accepted (by decide) Book.absorb_elsewhere
        ((op.governs accepted).kept Storage.book fun _ _ => rfl)
  | admin op =>
      exact op.tells_elsewhere accepted (by decide) Book.absorb_elsewhere
        ((op.governs accepted).kept Storage.book fun _ _ => rfl)

/-- The book of the requests, with who waits on whom, can be rebuilt as a whole. -/
theorem book_rebuilt (early late : List (Activity Address)) :
    (live early).storage.book =
        Trace.run Book.absorb (Storage.empty Address).book (live early).events ∧
      (live (early ++ late)).storage.book =
        Trace.run Book.absorb (live early).storage.book
          ((live (early ++ late)).events.drop (live early).events.length) := by
  have sound := @invariant_of_live Address _ _ (fun storage => storage.book.Sound) sound_empty
    fun _ _ _ sound accepted => ((turns_of_accepted sound accepted).keeps sound).1
  have told := @log_told Address _ _ _ Storage.book _
    (fun event report => Book.absorb_elsewhere event (by simp [report]))
    fun activities _ _ => book_told (keyed_live activities) (sound activities)
  exact ⟨(told [] early).rebuild rfl, (told early late).catch_up⟩

end Requests

section Proposals
variable {Address : Type}

/-- What the events tell of a multi-sig proposal. -/
structure Signing (Address : Type) where
  proposer : Address
  subject : Address
  threshold : Nat
  signers : List Address
  finalized : Bool

def MultiSigProposal.posted (proposal : MultiSigProposal Address) : Signing Address :=
  ⟨proposal.proposer, proposal.subject, proposal.threshold, proposal.signers, proposal.finalized⟩

/-- What the events tell of a council action. -/
structure Motion (Address : Type) where
  proposer : Address
  approvals : List Address
  executed : Bool

def CouncilProposal.posted (proposal : CouncilProposal Address) : Motion Address :=
  ⟨proposal.proposer, proposal.approvals, proposal.executed⟩

structure Agenda (Address : Type) where
  signing : Str → Option (Signing Address)
  motion : Nat → Option (Motion Address)
  counter : Nat

def Storage.agenda (storage : Storage Address) : Agenda Address where
  signing := Option.map MultiSigProposal.posted ∘ storage.multisigProposal
  motion := Option.map CouncilProposal.posted ∘ storage.councilProposal
  counter := storage.proposalCounter

def Agenda.sign (agenda : Agenda Address) (id : Str) (change : Signing Address → Signing Address) :
    Agenda Address :=
  { agenda with signing := Function.update agenda.signing id ((agenda.signing id).map change) }

def Agenda.move (agenda : Agenda Address) (id : Nat) (change : Motion Address → Motion Address) :
    Agenda Address :=
  { agenda with motion := Function.update agenda.motion id ((agenda.motion id).map change) }

def Agenda.absorb (agenda : Agenda Address) : Event Address → Agenda Address
  | .multisigProposed id proposer subject threshold =>
      { agenda with
        signing := Function.update agenda.signing id
          (some ⟨proposer, subject, threshold, [proposer], false⟩) }
  | .multisigCosigned id signer _ _ =>
      agenda.sign id fun signing => { signing with signers := signing.signers ++ [signer] }
  | .multisigActivated id _ => agenda.sign id fun signing => { signing with finalized := true }
  | .proposalCreated id proposer =>
      { agenda with
        motion := Function.update agenda.motion id (some ⟨proposer, [proposer], false⟩)
        counter := id }
  | .proposalApproved id approver =>
      agenda.move id fun motion => { motion with approvals := motion.approvals ++ [approver] }
  | .proposalExecuted id => agenda.move id fun motion => { motion with executed := true }
  | _ => agenda

theorem Agenda.absorb_elsewhere (event : Event Address) (proposals : event.topic ≠ .proposals)
    (actions : event.topic ≠ .actions) (agenda : Agenda Address) : agenda.absorb event = agenda := by
  cases event <;> first | rfl | exact absurd rfl proposals | exact absurd rfl actions

variable [DecidableEq Address] [Host Address] {env : Env Address} {before after : World Address}

theorem MultisigOp.agenda_told (op : MultisigOp Address) (signed : ProposalsSigned before.storage)
    (accepted : Returns op.exec env before () after) :
    EventLog.Tells World.events (fun world => world.storage.agenda) Agenda.absorb before after := by
  cases op.outcome accepted with
  | bypass => exact ⟨_, rfl, rfl⟩
  | proposal built =>
      subst built
      refine ⟨_, rfl, ?_⟩
      simp [Storage.agenda, Agenda.absorb, Function.comp_update, MultiSigProposal.posted]
  | completion cosignable reached =>
      obtain rfl := (signed _ _ cosignable.found).own
      refine ⟨_, rfl, ?_⟩
      simp [Storage.agenda, Agenda.absorb, Agenda.sign, Function.comp_update, cosignable.found,
        MultiSigProposal.posted, Storage.withIssued]
  | cosignature cosignable short =>
      obtain rfl := (signed _ _ cosignable.found).own
      refine ⟨_, rfl, ?_⟩
      simp [Storage.agenda, Agenda.absorb, Agenda.sign, Function.comp_update, cosignable.found,
        MultiSigProposal.posted]

omit [Host Address] in
theorem AdminOp.agenda_told (op : AdminOp Address) (filed : ActionsFiled before.storage)
    (accepted : Returns op.exec env before () after) :
    EventLog.Tells World.events (fun world => world.storage.agenda) Agenda.absorb before after := by
  have grown := op.events_of_returns accepted
  cases op with
  | proposeCouncilAction proposer operation =>
      obtain ⟨id, accepted⟩ := (returns_void ..).mp accepted
      obtain ⟨-, -, rfl⟩ := (returns_proposeCouncilAction ..).mp accepted
      refine ⟨_, rfl, ?_⟩
      simp [Storage.agenda, Agenda.absorb, Storage.withProposal, Function.comp_update,
        CouncilProposal.posted]
  | approveCouncilAction approver proposalId =>
      obtain ⟨proposal, approvable, rfl⟩ := (returns_approveCouncilAction ..).mp accepted
      obtain rfl := filed.own _ _ approvable.found
      refine ⟨_, rfl, ?_⟩
      simp [Storage.agenda, Agenda.absorb, Agenda.move, Storage.withProposal,
        Function.comp_update, approvable.found, CouncilProposal.posted]
  | executeCouncilAction executor proposalId =>
      obtain ⟨proposal, executable, rfl⟩ := (returns_executeCouncilAction ..).mp accepted
      obtain rfl := filed.own _ _ executable.found
      refine ⟨_, List.append_assoc .., ?_⟩
      cases operation : proposal.operation <;> cases first : before.storage.council.head? <;>
        simp [Storage.agenda, Agenda.absorb, Agenda.move, Storage.withProposal,
          Storage.withPerformed, performedEvents, first, Function.comp_update, executable.found,
          CouncilProposal.posted]
  | _ =>
      obtain ⟨storage, written, left⟩ := AdminOp.leaves _ accepted
      refine ⟨_, grown, (congrArg Storage.agenda left.storage).trans ?_⟩
      cases written
      rfl

theorem agenda_told {call : Call Address} (keyed : Keyed before.storage.register)
    (signed : ProposalsSigned before.storage) (filed : ActionsFiled before.storage)
    (accepted : Accepted before call after) :
    EventLog.Tells World.events (fun world => world.storage.agenda) Agenda.absorb before after := by
  obtain ⟨env, op⟩ := call
  cases op with
  | attestation op =>
      refine EventLog.tells_ignored (op.events_of_returns keyed accepted) (fun event member => ?_)
        (op.kept accepted Storage.agenda (fun _ _ => rfl) fun _ _ _ => rfl)
      have topic := op.topic_postings _ _ event member
      exact Agenda.absorb_elsewhere event (by simp [topic]) (by simp [topic])
  | request op => cases op.outcome accepted <;> exact ⟨_, rfl, rfl⟩
  | multisig op => exact op.agenda_told signed accepted
  | council op =>
      obtain ⟨storage, written, left⟩ := op.leaves accepted
      refine EventLog.tells_ignored (op.events_of_returns accepted) (fun event member => ?_)
        ((congrArg Storage.agenda left.storage).trans ?_)
      · have topic := op.topic_postings _ _ event member
        exact Agenda.absorb_elsewhere event (by simp [topic]) (by simp [topic])
      · cases written <;> rfl
  | admin op => exact op.agenda_told filed accepted

theorem signed_live (activities : List (Activity Address)) :
    ProposalsSigned (live activities).storage :=
  invariant_of_live (fun _ _ => nofun) (fun _ _ _ => proposals_signed) activities

theorem agenda_log (early late : List (Activity Address)) :
    EventLog.Tells World.events (fun world => world.storage.agenda) Agenda.absorb (live early)
      (live (early ++ late)) := by
  have filed := @invariant_of_live Address _ _ ActionsFiled actionsFiled_empty
    fun _ _ _ filed accepted => (actionStep_of_accepted accepted).filed filed
  exact log_told
    (fun event report => Agenda.absorb_elsewhere event (by simp [report]) (by simp [report]))
    (fun activities _ _ =>
      agenda_told (keyed_live activities) (signed_live activities) (filed activities))
    early late

/-- Who has proposed, signed and approved what, and what is done, can be rebuilt. -/
theorem agenda_rebuilt (early late : List (Activity Address)) :
    (live early).storage.agenda =
        Trace.run Agenda.absorb (Storage.empty Address).agenda (live early).events ∧
      (live (early ++ late)).storage.agenda =
        Trace.run Agenda.absorb (live early).storage.agenda
          ((live (early ++ late)).events.drop (live early).events.length) :=
  ⟨(agenda_log [] early).rebuild rfl, (agenda_log early late).catch_up⟩

end Proposals

end TrustLink
