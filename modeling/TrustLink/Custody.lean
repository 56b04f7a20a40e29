import TrustLink.Activities
import TrustLink.Lib.Custody
import TrustLink.MultisigProtocol
import TrustLink.RequestLifecycle
import TrustLink.Writes

/-!
Who keeps which part of the storage. The constitution is in the custody of the council and of the
admin it has offered a seat, the estate of an address in its own, a request in that of its two
parties and a proposal in that of those who have yet to sign it. Whatever changes one of these has
been signed by one of its keepers, as they were before.
-/
namespace TrustLink
open Transaction Contract

section Custody
variable {Address : Type} [DecidableEq Address] [Host Address]

def Activity.Signs : Activity Address → Address → Prop
  | .call made, signer => signer ∈ made.env.auths
  | .ask .., _ => False

/-- Over any stretch of calls and questions the holding keeps its value, unless the first call
that changes it has been signed by one who kept it from the start of the stretch. -/
def InCustody {Holding : Type} (holding : Storage Address → Holding)
    (keeper : Holding → Address → Prop) : Prop :=
  ∀ early late : List (Activity Address),
    holding (live (early ++ late)).storage = holding (live early).storage ∨
      Custody.Released act (fun world => holding world.storage) keeper Activity.Signs (live early)
        late

theorem inCustody_of_accepted {Holding : Type} {sound : Storage Address → Prop}
    {holding : Storage Address → Holding} {keeper : Holding → Address → Prop}
    (initial : sound (Storage.empty Address))
    (keeps : ∀ before call after, sound before.storage → Accepted before call after →
      sound after.storage)
    (guards : ∀ before call after, sound before.storage → Accepted before call after →
      holding after.storage ≠ holding before.storage →
      ∃ signer ∈ call.env.auths, keeper (holding before.storage) signer) :
    InCustody holding keeper := by
  intro early late
  have guarded : Custody.Guarded act (fun world => sound world.storage)
      (fun world => holding world.storage) keeper Activity.Signs := by
    intro world activity holds changed
    cases activity with
    | call call =>
        rcases step_cases world call with accepted | same
        · obtain ⟨signer, auth, kept⟩ := guards world call _ holds accepted changed
          exact ⟨signer, kept, auth⟩
        · exact absurd (congrArg (holding ·.storage) same) changed
    | ask env question =>
        exact absurd (congrArg holding (reports_ask world env question).storage) changed
  have steady : ∀ world activity, sound world.storage → sound (act world activity).storage := by
    intro world activity holds
    cases activity with
    | call call =>
        rcases step_cases world call with accepted | same
        · exact keeps world call _ holds accepted
        · exact congrArg World.storage same ▸ holds
    | ask env question => exact (reports_ask world env question).storage ▸ holds
  rw [live, Trace.run_append]
  exact Custody.kept_or_released guarded steady (invariant_of_live initial keeps early) late

end Custody

section Signatures
variable {Address : Type}

/-- The owner of what an operation of admin.rs changes, where it is not the council's. -/
def AdminOp.owner? : AdminOp Address → Option Address
  | .addToWhitelist issuer _ | .bulkAddToWhitelist issuer _ | .removeFromWhitelist issuer _
  | .setWhitelistEnabled issuer _ | .enableWhitelistMode issuer
  | .delegateClaimType issuer _ _ _ | .revokeDelegation issuer _ _ => some issuer
  | .registerExpirationHook subject _ _ | .removeExpirationHook subject => some subject
  | _ => none

variable [DecidableEq Address] {env : Env Address} {before after : World Address}

theorem AdminOp.owner_signed {op : AdminOp Address} {owner : Address}
    (owned : op.owner? = some owner) (accepted : Returns op.exec env before () after) :
    owner ∈ env.auths := by
  cases op <;> simp only [AdminOp.owner?, Option.some.injEq, reduceCtorEq] at owned <;> subst owned
  case bulkAddToWhitelist issuer subjects =>
    simp [Contract.bulkAddToWhitelist] at accepted
    exact accepted.1
  case registerExpirationHook subject callbackContract notifyDaysBefore =>
    simp at accepted
    exact accepted.2.1
  all_goals
    simp at accepted
    exact accepted.1

/-- What has no owner is done by a member of the council. -/
theorem AdminOp.member_signed {op : AdminOp Address} (unowned : op.owner? = none)
    (accepted : Returns op.exec env before () after) :
    ∃ member ∈ env.auths, member ∈ before.storage.council := by
  cases op <;> simp only [AdminOp.owner?, reduceCtorEq] at unowned
  case proposeCouncilAction proposer operation =>
    obtain ⟨id, accepted⟩ := (returns_void ..).mp accepted
    obtain ⟨proposable, -⟩ := (returns_proposeCouncilAction ..).mp accepted
    exact ⟨proposer, proposable.auth, proposable.member⟩
  case approveCouncilAction approver proposalId =>
    obtain ⟨proposal, approvable, -⟩ := (returns_approveCouncilAction ..).mp accepted
    exact ⟨approver, approvable.auth, approvable.member⟩
  case executeCouncilAction executor proposalId =>
    obtain ⟨proposal, executable, -⟩ := (returns_executeCouncilAction ..).mp accepted
    exact ⟨executor, executable.auth, executable.member⟩
  all_goals
    simp at accepted
    exact ⟨_, accepted.1, accepted.2.1⟩

end Signatures

section Constitution
variable {Address : Type}

/-- What the council decides on: itself, its proposals and its hand-over, the registries and the
configuration. -/
structure Constitution (Address : Type) where
  adminCouncil : Option (List Address)
  version : Option Str
  feeConfig : Option (FeeConfig Address)
  ttlConfig : Option TtlConfig
  contractConfig : Option (ContractConfig Address)
  issuer : Address → Bool
  issuerList : List Address
  totalIssuers : Nat
  bridge : Address → Bool
  bridgeList : List Address
  claimType : Str → Option ClaimTypeInfo
  claimTypeList : List Str
  issuerTier : Address → Option IssuerTier
  limits : StorageLimits
  rateLimitConfig : Option RateLimitConfig
  claimTypeRateLimit : Str → Option Nat
  paused : Bool
  councilProposal : Nat → Option (CouncilProposal Address)
  proposalCounter : Nat
  pendingAdminTransfer : Option (PendingAdminTransfer Address)

def Storage.constitution (storage : Storage Address) : Constitution Address where
  adminCouncil := storage.adminCouncil
  version := storage.version
  feeConfig := storage.feeConfig
  ttlConfig := storage.ttlConfig
  contractConfig := storage.contractConfig
  issuer := storage.issuer
  issuerList := storage.issuerList
  totalIssuers := storage.globalStats.totalIssuers
  bridge := storage.bridge
  bridgeList := storage.bridgeList
  claimType := storage.claimType
  claimTypeList := storage.claimTypeList
  issuerTier := storage.issuerTier
  limits := storage.limits
  rateLimitConfig := storage.rateLimitConfig
  claimTypeRateLimit := storage.claimTypeRateLimit
  paused := storage.paused
  councilProposal := storage.councilProposal
  proposalCounter := storage.proposalCounter
  pendingAdminTransfer := storage.pendingAdminTransfer

/-- The members of the council and the admin it has offered a seat. An empty council leaves the
contract to whoever initializes it. -/
def Constitution.Keeper (constitution : Constitution Address) (address : Address) : Prop :=
  constitution.adminCouncil.getD [] = [] ∨ address ∈ constitution.adminCouncil.getD [] ∨
    ∃ pending, constitution.pendingAdminTransfer = some pending ∧ pending.newAdmin = address

variable [DecidableEq Address] {env : Env Address} {before after : World Address}

theorem CouncilOp.keeper_signed (op : CouncilOp Address)
    (accepted : Returns op.exec env before () after) :
    ∃ signer ∈ env.auths, before.storage.constitution.Keeper signer := by
  cases op with
  | initializeContract admin ttlDays =>
      obtain ⟨⟨auth, empty, -⟩, -⟩ := (returns_initializeContract ..).mp accepted
      exact ⟨admin, auth, .inl empty⟩
  | transferAdmin currentAdmin newAdmin =>
      obtain ⟨⟨auth, member, -⟩, -⟩ := (returns_transferAdmin ..).mp accepted
      exact ⟨currentAdmin, auth, .inr (.inl member)⟩
  | proposeAdminTransfer currentAdmin newAdmin =>
      obtain ⟨⟨auth, member, -⟩, -⟩ := (returns_proposeAdminTransfer ..).mp accepted
      exact ⟨currentAdmin, auth, .inr (.inl member)⟩
  | cancelAdminTransfer currentAdmin =>
      obtain ⟨pending, ⟨auth, member, -⟩, -⟩ := (returns_cancelAdminTransfer ..).mp accepted
      exact ⟨currentAdmin, auth, .inr (.inl member)⟩
  | acceptAdminTransfer newAdmin =>
      obtain ⟨pending, ⟨auth, offered, own, -⟩, -⟩ := (returns_acceptAdminTransfer ..).mp accepted
      exact ⟨newAdmin, auth, .inr (.inr ⟨pending, offered, own⟩)⟩
  | addAdmin existingAdmin newAdmin =>
      obtain ⟨⟨auth, member⟩, -⟩ := (returns_addAdmin ..).mp accepted
      exact ⟨existingAdmin, auth, .inr (.inl member)⟩
  | removeAdmin existingAdmin adminToRemove =>
      obtain ⟨⟨auth, member, -⟩, -⟩ := (returns_removeAdmin ..).mp accepted
      exact ⟨existingAdmin, auth, .inr (.inl member)⟩
  | initCouncil admin members quorum =>
      obtain ⟨⟨auth, member, -⟩, -⟩ := (returns_initCouncil ..).mp accepted
      exact ⟨admin, auth, .inr (.inl member)⟩

/-- What has an owner does not touch the constitution. -/
theorem AdminOp.constitution_kept {op : AdminOp Address} {owner : Address}
    (owned : op.owner? = some owner) (accepted : Returns op.exec env before () after) :
    after.storage.constitution = before.storage.constitution := by
  obtain ⟨storage, written, left⟩ := op.leaves accepted
  rw [left.storage]
  cases written <;> first | rfl | cases owned

variable [Host Address]

theorem constitution_guarded {call : Call Address} (accepted : Accepted before call after)
    (changed : after.storage.constitution ≠ before.storage.constitution) :
    ∃ signer ∈ call.env.auths, before.storage.constitution.Keeper signer := by
  obtain ⟨env, op⟩ := call
  cases op with
  | attestation op =>
      exact absurd (op.kept accepted Storage.constitution (fun _ _ => rfl) fun _ _ _ => rfl) changed
  | request op => exact absurd (by cases op.outcome accepted <;> rfl) changed
  | multisig op => exact absurd (by cases op.outcome accepted <;> rfl) changed
  | council op => exact op.keeper_signed accepted
  | admin op =>
      cases owned : op.owner? with
      | some owner => exact absurd (AdminOp.constitution_kept owned accepted) changed
      | none =>
          obtain ⟨member, auth, seated⟩ := AdminOp.member_signed owned accepted
          exact ⟨member, auth, .inr (.inl seated)⟩

end Constitution

section Estate
variable {Address : Type}

/-- What belongs to an address: its whitelist, its delegations, its expiration hook and the
endorsements it has made. -/
structure Estate (Address : Type) where
  whitelistEnabled : Bool
  whitelist : Address → Bool
  delegation : Address → Str → Option (Delegation Address)
  delegatorIndex : List (Address × Str)
  expirationHook : Option (ExpirationHook Address)
  endorserIndex : List (Endorsement Address)

def Storage.estate (owner : Address) (storage : Storage Address) : Estate Address where
  whitelistEnabled := storage.whitelistEnabled owner
  whitelist := storage.whitelist owner
  delegation := storage.delegation owner
  delegatorIndex := storage.delegatorIndex owner
  expirationHook := storage.expirationHook owner
  endorserIndex := storage.endorserIndex owner

variable [DecidableEq Address] {env : Env Address} {before after : World Address}
  {owner : Address}

theorem whitelist_of_bulk {issuer : Address} {subjects : List Address} (other : issuer ≠ owner)
    (accepted : Returns (Contract.bulkAddToWhitelist issuer subjects) env before () after) :
    after.storage.whitelist owner = before.storage.whitelist owner := by
  simp [Contract.bulkAddToWhitelist] at accepted
  obtain ⟨-, -, -, listed⟩ := accepted
  induction subjects generalizing before with
  | nil =>
      simp [each] at listed
      rw [listed]
  | cons subject rest ih =>
      simp [each] at listed
      rw [ih listed.2]
      simp [World.write, other.symm]

/-- An operation of admin.rs changes the estate of nobody but its owner. -/
theorem AdminOp.estate_kept {op : AdminOp Address} (other : op.owner? ≠ some owner)
    (accepted : Returns op.exec env before () after) :
    after.storage.estate owner = before.storage.estate owner := by
  obtain ⟨storage, written, left⟩ := op.leaves accepted
  cases written with
  | bulkAddToWhitelist issuer subjects whitelist =>
      have row := whitelist_of_bulk (fun own => other (congrArg some own)) accepted
      rw [left.storage] at row
      rw [left.storage, Storage.estate, row]
      rfl
  | addToWhitelist issuer | removeFromWhitelist issuer | setWhitelistEnabled issuer
  | enableWhitelistMode issuer | revokeDelegation issuer | registerExpirationHook issuer
  | removeExpirationHook issuer =>
      have apart : owner ≠ issuer := fun own => other (congrArg some own.symm)
      simp [left.storage, Storage.estate, apart]
  | delegateClaimType issuer delegate claimType expiration =>
      have apart : owner ≠ issuer := fun own => other (congrArg some own.symm)
      rw [left.storage]
      by_cases listed : (delegate, claimType) ∈ before.storage.delegatorIndex issuer <;>
        simp [Storage.estate, apart, listed]
  | _ =>
      rw [left.storage]
      rfl

variable [Host Address]

theorem estate_guarded {call : Call Address} (accepted : Accepted before call after)
    (changed : after.storage.estate owner ≠ before.storage.estate owner) :
    owner ∈ call.env.auths := by
  obtain ⟨env, op⟩ := call
  cases op with
  | attestation op =>
      rcases op.booked accepted with ⟨endorser, id, rfl, -⟩ | booked
      · obtain ⟨⟨auth, -⟩, rfl⟩ := (returns_endorseAttestation ..).mp accepted
        by_cases own : owner = endorser
        · exact own ▸ auth
        · exact absurd (by simp [Storage.estate, own]) changed
      · exact absurd (booked.kept (Storage.estate owner) fun _ _ => rfl) changed
  | request op => exact absurd (by cases op.outcome accepted <;> rfl) changed
  | multisig op => exact absurd (by cases op.outcome accepted <;> rfl) changed
  | council op =>
      obtain ⟨storage, written, left⟩ := op.leaves accepted
      exact absurd (by rw [left.storage]; cases written <;> rfl) changed
  | admin op =>
      by_cases owned : op.owner? = some owner
      · exact AdminOp.owner_signed owned accepted
      · exact absurd (AdminOp.estate_kept owned accepted) changed

theorem estate_in_custody (owner : Address) :
    InCustody (Storage.estate owner) fun _ signer => signer = owner :=
  @inCustody_of_accepted _ _ _ _ (fun _ => True) _ _ trivial (fun _ _ _ _ _ => trivial)
    fun _ _ _ _ accepted changed => ⟨owner, estate_guarded accepted changed, rfl⟩

end Estate

section Workflows
variable {Address : Type} [DecidableEq Address] [Host Address] {before after : World Address}
  {id : Str} {call : Call Address}

/-- The two parties of a request, as long as it is pending. Before it is made it is open. -/
def AttestationRequest.Keeper (stored : Option (AttestationRequest Address)) (address : Address) :
    Prop :=
  ∀ request, stored = some request →
    request.status = .pending ∧ (address = request.subject ∨ address = request.issuer)

/-- A move of the book is signed by a keeper of the request it writes. -/
theorem move_signed {move : Move Address} (sound : before.storage.book.Sound)
    (accepted : Accepted before call after) (moved : call.move? before.storage = some move) :
    ∃ signer ∈ call.env.auths,
      AttestationRequest.Keeper (before.storage.request move.written.id) signer := by
  obtain ⟨env, op⟩ := call
  cases op with
  | request op =>
      cases op.outcome accepted with
      | requestAttestation built auth _ _ _ fresh =>
          subst built
          obtain rfl := Option.some.inj moved
          refine ⟨_, auth, fun request found => ?_⟩
          exact absurd (fresh.symm.trans found) nofun
      | fulfillRequest _ checks =>
          simp only [Call.move?, checks.found, Option.map_some, Option.some.injEq] at moved
          subst moved
          refine ⟨_, checks.auth, fun request found => ?_⟩
          obtain rfl := sound.keyed _ _ checks.found
          obtain rfl := Option.some.inj (checks.found.symm.trans found)
          exact ⟨checks.pending, .inr checks.own.symm⟩
      | rejectRequest auth _ _ _ found own pending =>
          simp only [Call.move?, found, Option.map_some, Option.some.injEq] at moved
          subst moved
          refine ⟨_, auth, fun request stored => ?_⟩
          obtain rfl := sound.keyed _ _ found
          obtain rfl := Option.some.inj (found.symm.trans stored)
          exact ⟨pending, .inr own.symm⟩
      | cancelRequest auth _ found own pending =>
          simp only [Call.move?, found, Option.map_some, Option.some.injEq] at moved
          subst moved
          refine ⟨_, auth, fun request stored => ?_⟩
          obtain rfl := sound.keyed _ _ found
          obtain rfl := Option.some.inj (found.symm.trans stored)
          exact ⟨pending, .inl own.symm⟩
  | _ => cases moved

theorem request_guarded (sound : before.storage.book.Sound)
    (accepted : Accepted before call after)
    (changed : after.storage.request id ≠ before.storage.request id) :
    ∃ signer ∈ call.env.auths,
      AttestationRequest.Keeper (before.storage.request id) signer := by
  have turns := turns_of_accepted sound accepted
  cases moved : call.move? before.storage with
  | none =>
      rw [moved] at turns
      exact absurd (congrArg (Book.request · id) turns) changed
  | some move =>
      rw [moved] at turns
      have written := congrArg (Book.request · id) turns.2
      by_cases here : id = move.written.id
      · exact here ▸ move_signed sound accepted moved
      · simp only [Book.request_apply, Function.update_of_ne here] at written
        exact absurd written changed

theorem request_in_custody (id : Str) :
    InCustody (fun storage : Storage Address => storage.request id) AttestationRequest.Keeper :=
  @inCustody_of_accepted _ _ _ _ (fun storage => storage.book.Sound) _ _ sound_empty
    (fun _ _ _ sound accepted => ((turns_of_accepted sound accepted).keeps sound).1)
    fun _ _ _ sound accepted changed => request_guarded sound accepted changed

/-- The required signers who have not signed the proposal, as long as it is not complete, and
whoever can propose anything under its id. -/
def MultiSigProposal.Keeper (id : Str) (stored : Option (MultiSigProposal Address))
    (address : Address) : Prop :=
  (∃ proposal, stored = some proposal ∧ proposal.finalized = false ∧
    address ∈ proposal.requiredSigners ∧ address ∉ proposal.signers) ∨
  ∃ subject claimType timestamp,
    MultiSigProposal.generateId address subject claimType timestamp = id

theorem proposal_guarded (signed : ProposalsSigned before.storage)
    (accepted : Accepted before call after)
    (changed : after.storage.multisigProposal id ≠ before.storage.multisigProposal id) :
    ∃ signer ∈ call.env.auths,
      MultiSigProposal.Keeper id (before.storage.multisigProposal id) signer := by
  cases proposalStep_of_accepted accepted with
  | kept call same => exact absurd (congrFun same id) changed
  | propose env proposer subject claimType requiredSigners threshold proposable stored =>
      refine ⟨proposer, proposable.active.auth, .inr ⟨subject, claimType, env.timestamp, ?_⟩⟩
      by_contra other
      exact changed (by rw [stored, Function.update_of_ne (Ne.symm other)])
  | cosign env issuer proposalId proposal cosignable stored =>
      have own := (signed proposalId proposal cosignable.found).own
      by_cases here : id = proposalId
      · subst here
        exact ⟨issuer, cosignable.active.auth, .inl ⟨proposal, cosignable.found,
          cosignable.unfinished, cosignable.required, cosignable.unsigned⟩⟩
      · exact absurd (by rw [stored, own, Function.update_of_ne here]) changed

theorem proposal_in_custody (id : Str) :
    InCustody (fun storage : Storage Address => storage.multisigProposal id)
      (MultiSigProposal.Keeper id) :=
  @inCustody_of_accepted _ _ _ _ ProposalsSigned _ _ (fun _ _ found => nomatch found)
    (fun _ _ _ signed accepted => proposals_signed signed accepted)
    fun _ _ _ signed accepted changed => proposal_guarded signed accepted changed

end Workflows

end TrustLink
