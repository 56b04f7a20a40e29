import TrustLink.Activities
import TrustLink.Lib.Trace
import TrustLink.Readers
import TrustLink.Xdr

/-!
The two contracts of the examples that let an address act only with a valid claim, governance and
insurance, on one ledger with a TrustLink deployment. Each of them stores the address of the
contract it asks, and nothing checks that this is the deployment.
-/
namespace TrustLink
open Transaction

section Contracts
variable (Address : Type)

structure GovernanceState where
  trustlink : Option Address
  /-- The deadlines; a proposal has nothing else. -/
  proposal : Nat → Option Nat
  vote : Nat → Address → Option Bool

structure InsuranceState where
  admin : Option Address
  trustlink : Option Address
  policyCount : Option Nat
  policy : Nat → Option Address

/-- A TrustLink deployment and its two consumers. -/
structure Network where
  world : World Address
  governance : GovernanceState Address
  insurance : InsuranceState Address

def Network.empty : Network Address where
  world := World.empty Address
  governance := ⟨none, fun _ => none, fun _ _ => none⟩
  insurance := ⟨none, none, none, fun _ => none⟩

/-- The environment of a call of a consumer: that of any call, and what a contract other than
TrustLink answers about a subject and a list of claims. It may fail. -/
structure Surroundings where
  env : Env Address
  abroad : Address → Address → List Str → Option Bool

abbrev ConsumerProgram := Tx Fault (Surroundings Address) (Network Address)

inductive ConsumerOp where
  | initializeGovernance (trustlink : Address)
  | createProposal (proposalId deadline : Nat)
  | vote (voter : Address) (proposalId : Nat) (choice : Bool)
  | initializeInsurance (admin trustlinkContract : Address)
  | issuePolicy (insurer policyholder : Address)

/-- What happens on the ledger: somebody calls or asks TrustLink, or calls a consumer. -/
inductive Visit where
  | trustlink (activity : Activity Address)
  | consumer (surroundings : Surroundings Address) (op : ConsumerOp Address)

end Contracts

section Programs
variable {Address : Type} [DecidableEq Address]

/-- A question to the contract at an address, which is TrustLink at its home and any other contract
elsewhere. -/
def TrustLinkClient.invoke (home trustlink subject : Address) (claimTypes : List Str)
    (question : Program Address Bool) : ConsumerProgram Address Bool :=
  if trustlink = home then
    zoom (·.world) (fun network world => { network with world }) (under (·.env) question)
  else do
    let surroundings ← ask
    orFail .trap (surroundings.abroad trustlink subject claimTypes)

def TrustLinkClient.hasValidClaim (home trustlink subject : Address) (claimType : Str) :
    ConsumerProgram Address Bool :=
  TrustLinkClient.invoke home trustlink subject [claimType] (Query.hasValidClaim subject claimType)

def TrustLinkClient.hasAllClaims (home trustlink subject : Address) (claimTypes : List Str) :
    ConsumerProgram Address Bool :=
  TrustLinkClient.invoke home trustlink subject claimTypes (Query.hasAllClaims subject claimTypes)

def consumerAuth (address : Address) : ConsumerProgram Address Unit := do
  let surroundings ← ask
  failIf (address ∉ surroundings.env.auths) .trap

namespace GovernanceContract

/-- `initialize`, whose name is a keyword here. It can be called again, by anybody. -/
def initializeContract (trustlink : Address) : ConsumerProgram Address Unit :=
  modify fun network => { network with
    governance := { network.governance with trustlink := some trustlink } }

def createProposal (proposalId deadline : Nat) : ConsumerProgram Address Unit :=
  modify fun network => { network with
    governance := { network.governance with
      proposal := Function.update network.governance.proposal proposalId (some deadline) } }

def kycClaim : Str := ascii "KYC_PASSED"

def vote (home voter : Address) (proposalId : Nat) (choice : Bool) :
    ConsumerProgram Address Unit := do
  consumerAuth voter
  let proposal ← reads fun network => network.governance.proposal proposalId
  let deadline ← orFail .trap proposal
  let surroundings ← ask
  failIf (deadline < surroundings.env.timestamp) .trap
  let trustlink ← reads fun network => network.governance.trustlink
  let trustlink ← orFail .trap trustlink
  let valid ← TrustLinkClient.hasValidClaim home trustlink voter kycClaim
  failIf (valid = false) .trap
  modify fun network => { network with
    governance := { network.governance with
      vote := Function.update network.governance.vote proposalId
        (Function.update (network.governance.vote proposalId) voter (some choice)) } }

end GovernanceContract

namespace InsuranceContract

def initializeContract (admin trustlinkContract : Address) : ConsumerProgram Address Unit := do
  let stored ← reads fun network => network.insurance.admin
  failIf (stored.isSome = true) .trap
  consumerAuth admin
  modify fun network => { network with
    insurance := { network.insurance with
      admin := some admin, trustlink := some trustlinkContract, policyCount := some 0 } }

def requiredClaims : List Str := [ascii "KYC_PASSED", ascii "AML_CLEARED"]

/-- The crate has no release profile of its own, so that a deployed counter wraps. -/
def issuePolicy (home insurer policyholder : Address) : ConsumerProgram Address Nat := do
  consumerAuth insurer
  let trustlink ← reads fun network => network.insurance.trustlink
  let trustlink ← orFail .trap trustlink
  let covered ← TrustLinkClient.hasAllClaims home trustlink policyholder requiredClaims
  failIf (covered = false) .trap
  let policyCount ← reads fun network => network.insurance.policyCount
  let nextPolicyNumber := (policyCount.getD 0 + 1) % u32Range
  modify fun network => { network with
    insurance := { network.insurance with
      policyCount := some nextPolicyNumber
      policy := Function.update network.insurance.policy nextPolicyNumber (some policyholder) } }
  pure nextPolicyNumber

end InsuranceContract

def ConsumerOp.exec (home : Address) : ConsumerOp Address → ConsumerProgram Address Unit
  | .initializeGovernance trustlink => GovernanceContract.initializeContract trustlink
  | .createProposal proposalId deadline => GovernanceContract.createProposal proposalId deadline
  | .vote voter proposalId choice => GovernanceContract.vote home voter proposalId choice
  | .initializeInsurance admin trustlinkContract =>
      InsuranceContract.initializeContract admin trustlinkContract
  | .issuePolicy insurer policyholder => void (InsuranceContract.issuePolicy home insurer policyholder)

variable [Host Address]

def visit (home : Address) (network : Network Address) : Visit Address → Network Address
  | .trustlink activity => { network with world := act network.world activity }
  | .consumer surroundings op =>
      match op.exec home surroundings network with
      | .ok (_, after) => after
      | .error _ => network

/-- The ledger after the visits, starting from the three freshly deployed contracts. -/
abbrev visited (home : Address) (visits : List (Visit Address)) : Network Address :=
  Trace.run (visit home) (Network.empty Address) visits

end Programs

section Answers
variable {Address : Type} [DecidableEq Address] {home trustlink subject : Address}
  {surroundings : Surroundings Address} {before after : Network Address} {answer : Bool}

@[simp] theorem returns_invoke (claimTypes : List Str) (question : Program Address Bool) :
    Returns (TrustLinkClient.invoke home trustlink subject claimTypes question) surroundings before
        answer after ↔
      (trustlink = home ∧ ∃ world, Returns question surroundings.env before.world answer world ∧
        after = { before with world }) ∨
      (trustlink ≠ home ∧ surroundings.abroad trustlink subject claimTypes = some answer ∧
        after = before) := by
  unfold TrustLinkClient.invoke
  split <;> simp_all [and_comm]

/-- The contract asked says that the subject holds the claims: TrustLink because it does, any other
for reasons of its own. -/
def Certified (home trustlink : Address) (surroundings : Surroundings Address)
    (network : Network Address) (subject : Address) (claimTypes : List Str) : Prop :=
  (trustlink = home ∧ ∀ claimType ∈ claimTypes,
    Claimed network.world.storage surroundings.env.timestamp subject claimType) ∨
  (trustlink ≠ home ∧ surroundings.abroad trustlink subject claimTypes = some true)

theorem certified_hasValidClaim {claimType : Str} (covers : Covers before.world.storage.register)
    (answered : Returns (TrustLinkClient.hasValidClaim home trustlink subject claimType)
      surroundings before true after) :
    Certified home trustlink surroundings before subject [claimType] := by
  rcases (returns_invoke ..).mp answered with ⟨here, world, asked, -⟩ | ⟨other, said, -⟩
  · refine .inl ⟨here, fun claim member => ?_⟩
    rw [List.mem_singleton.mp member]
    exact (reads_hasValidClaim covers subject claimType).mp ⟨world, asked⟩
  · exact .inr ⟨other, said⟩

theorem certified_hasAllClaims {claimTypes : List Str} (covers : Covers before.world.storage.register)
    (answered : Returns (TrustLinkClient.hasAllClaims home trustlink subject claimTypes)
      surroundings before true after) :
    Certified home trustlink surroundings before subject claimTypes := by
  rcases (returns_invoke ..).mp answered with ⟨here, world, asked, -⟩ | ⟨other, said, -⟩
  · exact .inl ⟨here, (reads_hasAllClaims covers subject claimTypes).mp ⟨world, asked⟩⟩
  · exact .inr ⟨other, said⟩

variable [Host Address]

/-- Asking leaves TrustLink as a question leaves it, and the consumers alone. -/
structure Consults (before after : Network Address) : Prop where
  governance : after.governance = before.governance
  insurance : after.insurance = before.insurance
  world : ∃ activities, after.world = Trace.run act before.world activities

theorem consults_of_invoke {claimTypes : List Str} {program : Program Address Bool}
    (question : Question Address)
    (asked : ∀ env world answer left, Returns program env world answer left →
      act world (.ask env question) = left)
    (answered : Returns (TrustLinkClient.invoke home trustlink subject claimTypes program)
      surroundings before answer after) : Consults before after := by
  rcases (returns_invoke ..).mp answered with ⟨-, world, ran, rfl⟩ | ⟨-, -, rfl⟩
  · exact ⟨rfl, rfl, [.ask surroundings.env question], (asked _ _ _ _ ran).symm⟩
  · exact ⟨rfl, rfl, [], rfl⟩

theorem consults_hasValidClaim {claimType : Str}
    (answered : Returns (TrustLinkClient.hasValidClaim home trustlink subject claimType)
      surroundings before answer after) : Consults before after := by
  refine consults_of_invoke (.hasValidClaim subject claimType) ?_ answered
  intro env world answer left ran
  rw [Returns] at ran
  simp only [act, Question.exec, ran]

theorem consults_hasAllClaims {claimTypes : List Str}
    (answered : Returns (TrustLinkClient.hasAllClaims home trustlink subject claimTypes)
      surroundings before answer after) : Consults before after := by
  refine consults_of_invoke (.hasAllClaims subject claimTypes) ?_ answered
  intro env world answer left ran
  rw [Returns] at ran
  simp only [act, Question.exec, ran]

end Answers

section Operations
variable {Address : Type} [DecidableEq Address] {home : Address}
  {surroundings : Surroundings Address} {before after : Network Address}

theorem returns_vote (voter : Address) (proposalId : Nat) (choice : Bool) :
    Returns (GovernanceContract.vote home voter proposalId choice) surroundings before () after ↔
      ∃ deadline trustlink middle, voter ∈ surroundings.env.auths ∧
        before.governance.proposal proposalId = some deadline ∧
        surroundings.env.timestamp ≤ deadline ∧
        before.governance.trustlink = some trustlink ∧
        Returns (TrustLinkClient.hasValidClaim home trustlink voter GovernanceContract.kycClaim)
          surroundings before true middle ∧
        after = { middle with
          governance := { middle.governance with
            vote := Function.update middle.governance.vote proposalId
              (Function.update (middle.governance.vote proposalId) voter (some choice)) } } := by
  simp [GovernanceContract.vote, consumerAuth]

theorem returns_issuePolicy (insurer policyholder : Address) (number : Nat) :
    Returns (InsuranceContract.issuePolicy home insurer policyholder) surroundings before number
        after ↔
      ∃ trustlink middle, insurer ∈ surroundings.env.auths ∧
        before.insurance.trustlink = some trustlink ∧
        Returns (TrustLinkClient.hasAllClaims home trustlink policyholder
          InsuranceContract.requiredClaims) surroundings before true middle ∧
        number = (middle.insurance.policyCount.getD 0 + 1) % u32Range ∧
        after = { middle with
          insurance := { middle.insurance with
            policyCount := some number
            policy := Function.update middle.insurance.policy number (some policyholder) } } := by
  simp [InsuranceContract.issuePolicy, consumerAuth]
  grind

end Operations

section Runs
variable {Address : Type} [DecidableEq Address] [Host Address] {home : Address}
  {surroundings : Surroundings Address} {before after : Network Address}

theorem visit_cases (home : Address) (network : Network Address)
    (surroundings : Surroundings Address) (op : ConsumerOp Address) :
    Returns (op.exec home) surroundings network () (visit home network (.consumer surroundings op)) ∨
      visit home network (.consumer surroundings op) = network := by
  simp only [visit, Returns]
  cases op.exec home surroundings network with
  | error fault => exact .inr rfl
  | ok pair => exact .inl rfl

/-- To TrustLink, a call of a consumer is a question or nothing at all. -/
theorem ConsumerOp.asks (op : ConsumerOp Address)
    (accepted : Returns (op.exec home) surroundings before () after) :
    ∃ activities, after.world = Trace.run act before.world activities := by
  cases op with
  | initializeGovernance trustlink =>
      simp [ConsumerOp.exec, GovernanceContract.initializeContract] at accepted
      exact ⟨[], by rw [accepted]; rfl⟩
  | createProposal proposalId deadline =>
      simp [ConsumerOp.exec, GovernanceContract.createProposal] at accepted
      exact ⟨[], by rw [accepted]; rfl⟩
  | vote voter proposalId choice =>
      obtain ⟨deadline, trustlink, middle, -, -, -, -, answered, rfl⟩ :=
        (returns_vote ..).mp accepted
      exact (consults_hasValidClaim answered).world
  | initializeInsurance admin trustlinkContract =>
      simp [ConsumerOp.exec, InsuranceContract.initializeContract, consumerAuth] at accepted
      exact ⟨[], by rw [accepted.2.2]; rfl⟩
  | issuePolicy insurer policyholder =>
      obtain ⟨number, accepted⟩ := (returns_void ..).mp accepted
      obtain ⟨trustlink, middle, -, -, answered, -, rfl⟩ := (returns_issuePolicy ..).mp accepted
      exact (consults_hasAllClaims answered).world

theorem visit_asks (network : Network Address) (item : Visit Address) :
    ∃ activities, (visit home network item).world = Trace.run act network.world activities := by
  cases item with
  | trustlink activity => exact ⟨[activity], rfl⟩
  | consumer surroundings op =>
      rcases visit_cases home network surroundings op with accepted | same
      · exact op.asks accepted
      · exact ⟨[], congrArg Network.world same⟩

/-- Consumers or not, TrustLink leads a life of calls and questions. -/
theorem world_visited (visits : List (Visit Address)) :
    ∃ activities, (visited home visits).world = live activities := by
  induction visits using List.reverseRecOn with
  | nil => exact ⟨[], rfl⟩
  | append_singleton visits item ih =>
      obtain ⟨past, lived⟩ := ih
      obtain ⟨activities, asks⟩ := visit_asks (visited home visits) item
      refine ⟨past ++ activities, ?_⟩
      rw [visited, Trace.run_concat, asks, lived, live, live, Trace.run_append]

theorem covers_of_accepted (sound : Host.Sound Address) {early late : World Address}
    {call : Call Address} (holds : Keyed early.storage.register ∧ Covers early.storage.register)
    (accepted : Accepted early call late) :
    Keyed late.storage.register ∧ Covers late.storage.register := by
  have follows := follows_of_accepted holds.1 accepted
  rw [follows.register]
  refine @Trace.invariant_of_each _ _ Register.apply Enabled
    (fun register => Keyed register ∧ Covers register) (fun register change held enabled => ?_) _ _
    holds follows.enabled
  exact ⟨held.1.apply enabled, held.2.apply sound held.1 enabled⟩

theorem covers_visited (sound : Host.Sound Address) (visits : List (Visit Address)) :
    Covers (visited home visits).world.storage.register := by
  obtain ⟨activities, lived⟩ := @world_visited _ _ _ home visits
  rw [lived]
  exact (@invariant_of_live _ _ _
    (fun storage => Keyed storage.register ∧ Covers storage.register) ⟨keyed_empty, covers_empty⟩
    (fun _ _ _ holds accepted => covers_of_accepted sound holds accepted) activities).2

end Runs

section Votes
variable {Address : Type} [DecidableEq Address] [Host Address] {home : Address}
  {network : Network Address}

section Sample
open Xdr

/-- The SHA-256 digests behind the ids of two attestations about contract 2 by contract 1: of type
KYC_PASSED at time 1000, and of type AML_CLEARED at time 1001. -/
def clearanceDigests : List (Str × Str) :=
  [(addressXdr (contractId 1) ++ addressXdr (contractId 2) ++ stringXdr (ascii "KYC_PASSED") ++
        u64Xdr 1000,
      [46, 244, 223, 147, 20, 213, 66, 68, 91, 118, 157, 229, 163, 243, 77, 34, 81, 246, 245, 3,
        183, 178, 172, 10, 208, 22, 214, 127, 251, 160, 12, 74]),
    (addressXdr (contractId 1) ++ addressXdr (contractId 2) ++ stringXdr (ascii "AML_CLEARED") ++
        u64Xdr 1001,
      [214, 64, 150, 25, 45, 134, 201, 5, 49, 33, 177, 217, 98, 126, 71, 176, 121, 101, 231, 254,
        166, 87, 246, 180, 128, 188, 8, 83, 15, 166, 80, 117])]

@[reducible] def clearanceHost : Host ContractId := host clearanceDigests

def clearance (timestamp : Nat) (claimType : Str) : Visit ContractId :=
  .trustlink (.call (signed timestamp (contractId 1) (.attestation
    (.createAttestation (contractId 1) (contractId 2) claimType none none none))))

def consumerCall (signer : ContractId) (op : ConsumerOp ContractId) : Visit ContractId :=
  .consumer ⟨⟨1002, [signer], fun _ => true, fun _ => true⟩, fun _ _ _ => none⟩ op

/-- With TrustLink at contract 7, issuer 1 clears contract 2, which then votes and is insured. -/
def sampleVisits : List (Visit ContractId) :=
  sampleDeployment.map (fun call => .trustlink (.call call)) ++
    [clearance 1000 (ascii "KYC_PASSED"), clearance 1001 (ascii "AML_CLEARED"),
      consumerCall (contractId 9) (.initializeGovernance (contractId 7)),
      consumerCall (contractId 9) (.createProposal 1 2000),
      consumerCall (contractId 2) (.vote (contractId 2) 1 true),
      consumerCall (contractId 9) (.initializeInsurance (contractId 9) (contractId 7)),
      consumerCall (contractId 3) (.issuePolicy (contractId 3) (contractId 2))]

end Sample

/-- The visit is a vote of the voter on the proposal, and it is accepted. -/
def Casts (home : Address) (proposalId : Nat) (voter : Address) (network : Network Address)
    (item : Visit Address) : Prop :=
  ∃ surroundings choice, item = .consumer surroundings (.vote voter proposalId choice) ∧
    Returns (GovernanceContract.vote home voter proposalId choice) surroundings network ()
      (visit home network item)

theorem vote_kept {proposalId : Nat} {voter : Address} {item : Visit Address}
    (uncast : ¬ Casts home proposalId voter network item) :
    (visit home network item).governance.vote proposalId voter =
      network.governance.vote proposalId voter := by
  cases item with
  | trustlink activity => rfl
  | consumer surroundings op =>
      rcases visit_cases home network surroundings op with accepted | same
      case inr => rw [same]
      cases op with
      | initializeGovernance trustlink =>
          simp [ConsumerOp.exec, GovernanceContract.initializeContract] at accepted
          rw [accepted]
      | createProposal proposalId deadline =>
          simp [ConsumerOp.exec, GovernanceContract.createProposal] at accepted
          rw [accepted]
      | vote other id choice =>
          by_cases own : proposalId = id ∧ voter = other
          · obtain ⟨rfl, rfl⟩ := own
            exact absurd ⟨surroundings, choice, rfl, accepted⟩ uncast
          · obtain ⟨deadline, trustlink, middle, -, -, -, -, answered, left⟩ :=
              (returns_vote ..).mp accepted
            rw [left, (consults_hasValidClaim answered).governance]
            by_cases here : proposalId = id
            · subst here
              have apart : voter ≠ other := fun same => own ⟨rfl, same⟩
              simp only [Function.update_self, Function.update_of_ne apart]
            · simp only [Function.update_of_ne here]
      | initializeInsurance admin trustlinkContract =>
          simp [ConsumerOp.exec, InsuranceContract.initializeContract, consumerAuth] at accepted
          rw [accepted.2.2]
      | issuePolicy insurer policyholder =>
          obtain ⟨number, accepted⟩ := (returns_void ..).mp accepted
          obtain ⟨trustlink, middle, -, -, answered, -, left⟩ :=
            (returns_issuePolicy ..).mp accepted
          rw [left, (consults_hasAllClaims answered).governance]

theorem votes_backed (sound : Host.Sound Address) (visits : List (Visit Address))
    (proposalId : Nat) (voter : Address) (choice : Bool)
    (recorded : (visited home visits).governance.vote proposalId voter = some choice) :
    ∃ early surroundings late deadline trustlink,
      visits = early ++ .consumer surroundings (.vote voter proposalId choice) :: late ∧
        voter ∈ surroundings.env.auths ∧
        (visited home early).governance.proposal proposalId = some deadline ∧
        surroundings.env.timestamp ≤ deadline ∧
        (visited home early).governance.trustlink = some trustlink ∧
        Certified home trustlink surroundings (visited home early) voter
          [GovernanceContract.kycClaim] := by
  obtain ⟨early, item, late, split, ⟨surroundings, cast, rfl, accepted⟩, held, -⟩ :=
    Trace.latest_write (fun network : Network Address => network.governance.vote proposalId voter)
      (fun _ _ uncast => vote_kept uncast) rfl recorded
  obtain ⟨deadline, trustlink, middle, auth, found, open_, asked, answered, left⟩ :=
    (returns_vote ..).mp accepted
  rw [Trace.run_concat, left] at held
  simp only [Function.update_self, Option.some.injEq] at held
  subst held
  exact ⟨early, surroundings, late, deadline, trustlink, split, auth, found, open_, asked,
    certified_hasValidClaim (covers_visited sound early) answered⟩

open Xdr in
theorem votes_backed_sample :
    ∃ early surroundings trustlink, Certified (contractId 7) trustlink surroundings
      (@visited _ _ clearanceHost (contractId 7) early) (contractId 2)
      [GovernanceContract.kycClaim] := by
  have recorded : (@visited _ _ clearanceHost (contractId 7) sampleVisits).governance.vote 1
      (contractId 2) = some true := by
    decide +kernel
  obtain ⟨early, surroundings, -, -, trustlink, -, -, -, -, -, certified⟩ :=
    @votes_backed _ _ clearanceHost _ (host_sound (by decide) (by decide)) sampleVisits 1
      (contractId 2) true recorded
  exact ⟨early, surroundings, trustlink, certified⟩

end Votes

section Policies
variable {Address : Type} [DecidableEq Address] [Host Address] {home : Address}
  {network : Network Address} {item : Visit Address}

/-- The visit is an accepted issue of a policy. -/
def Issues (home : Address) (number : Nat) (policyholder : Address) (network : Network Address)
    (item : Visit Address) : Prop :=
  ∃ surroundings insurer, item = .consumer surroundings (.issuePolicy insurer policyholder) ∧
    Returns (InsuranceContract.issuePolicy home insurer policyholder) surroundings network number
      (visit home network item)

/-- Unless a visit issues a policy it keeps the policies. It keeps their count too, but for the
initialization, which sets it to zero. -/
theorem insurance_visit (home : Address) (network : Network Address) (item : Visit Address) :
    (∃ number policyholder, Issues home number policyholder network item) ∨
      ((visit home network item).insurance.policy = network.insurance.policy ∧
        ((visit home network item).insurance = network.insurance ∨
          network.insurance.admin = none ∧
            (visit home network item).insurance.admin.isSome = true ∧
            (visit home network item).insurance.policyCount = some 0)) := by
  cases item with
  | trustlink activity => exact .inr ⟨rfl, .inl rfl⟩
  | consumer surroundings op =>
      rcases visit_cases home network surroundings op with accepted | same
      case inr =>
        rw [same]
        exact .inr ⟨rfl, .inl rfl⟩
      cases op with
      | initializeGovernance trustlink =>
          simp [ConsumerOp.exec, GovernanceContract.initializeContract] at accepted
          rw [accepted]
          exact .inr ⟨rfl, .inl rfl⟩
      | createProposal proposalId deadline =>
          simp [ConsumerOp.exec, GovernanceContract.createProposal] at accepted
          rw [accepted]
          exact .inr ⟨rfl, .inl rfl⟩
      | vote voter proposalId choice =>
          obtain ⟨deadline, trustlink, middle, -, -, -, -, answered, left⟩ :=
            (returns_vote ..).mp accepted
          rw [left]
          have kept := (consults_hasValidClaim answered).insurance
          exact .inr ⟨congrArg _ kept, .inl kept⟩
      | initializeInsurance admin trustlinkContract =>
          simp [ConsumerOp.exec, InsuranceContract.initializeContract, consumerAuth] at accepted
          obtain ⟨fresh, -, left⟩ := accepted
          rw [left]
          exact .inr ⟨rfl, .inr ⟨fresh, rfl, rfl⟩⟩
      | issuePolicy insurer policyholder =>
          obtain ⟨number, accepted⟩ := (returns_void ..).mp accepted
          exact .inl ⟨number, policyholder, surroundings, insurer, rfl, accepted⟩

theorem insurance_issued {number : Nat} {policyholder : Address}
    (issues : Issues home number policyholder network item) :
    network.insurance.trustlink.isSome = true ∧
      number = (network.insurance.policyCount.getD 0 + 1) % u32Range ∧
      (visit home network item).insurance = { network.insurance with
        policyCount := some number
        policy := Function.update network.insurance.policy number (some policyholder) } := by
  obtain ⟨surroundings, insurer, -, accepted⟩ := issues
  obtain ⟨trustlink, middle, -, asked, answered, counted, left⟩ :=
    (returns_issuePolicy ..).mp accepted
  have kept := (consults_hasAllClaims answered).insurance
  rw [kept] at counted
  refine ⟨by rw [asked]; rfl, counted, ?_⟩
  rw [left, kept]

theorem policy_kept {number : Nat}
    (unissued : ¬ ∃ policyholder, Issues home number policyholder network item) :
    (visit home network item).insurance.policy number = network.insurance.policy number := by
  rcases insurance_visit home network item with ⟨other, policyholder, issues⟩ | ⟨kept, -⟩
  · have apart : number ≠ other := fun same => unissued ⟨policyholder, same ▸ issues⟩
    rw [(insurance_issued issues).2.2]
    simp only [Function.update_of_ne apart]
  · exact congrFun kept number

theorem policies_backed (sound : Host.Sound Address) (visits : List (Visit Address)) (number : Nat)
    (policyholder : Address)
    (recorded : (visited home visits).insurance.policy number = some policyholder) :
    ∃ early surroundings insurer late trustlink,
      visits = early ++ .consumer surroundings (.issuePolicy insurer policyholder) :: late ∧
        insurer ∈ surroundings.env.auths ∧
        (visited home early).insurance.trustlink = some trustlink ∧
        Certified home trustlink surroundings (visited home early) policyholder
          InsuranceContract.requiredClaims ∧
        number = ((visited home early).insurance.policyCount.getD 0 + 1) % u32Range := by
  obtain ⟨early, item, late, split, ⟨other, issues⟩, held, -⟩ :=
    Trace.latest_write (fun network : Network Address => network.insurance.policy number)
      (fun _ _ unissued => policy_kept unissued) rfl recorded
  have issued := insurance_issued issues
  obtain ⟨surroundings, insurer, rfl, accepted⟩ := issues
  obtain ⟨trustlink, middle, auth, asked, answered, -, -⟩ := (returns_issuePolicy ..).mp accepted
  rw [Trace.run_concat, issued.2.2] at held
  simp only [Function.update_self, Option.some.injEq] at held
  subst held
  exact ⟨early, surroundings, insurer, late, trustlink, split, auth, asked,
    certified_hasAllClaims (covers_visited sound early) answered, issued.2.1⟩

open Xdr in
theorem policies_backed_sample :
    ∃ early surroundings trustlink, Certified (contractId 7) trustlink surroundings
      (@visited _ _ clearanceHost (contractId 7) early) (contractId 2)
      InsuranceContract.requiredClaims := by
  have recorded : (@visited _ _ clearanceHost (contractId 7) sampleVisits).insurance.policy 1 =
      some (contractId 2) := by
    decide +kernel
  obtain ⟨early, surroundings, -, -, trustlink, -, -, -, certified, -⟩ :=
    @policies_backed _ _ clearanceHost _ (host_sound (by decide) (by decide)) sampleVisits 1
      (contractId 2) recorded
  exact ⟨early, surroundings, trustlink, certified⟩

/-- The policies have the numbers up to the count, and none is there before the initialization. -/
structure Numbered (insurance : InsuranceState Address) : Prop where
  upTo : ∀ number, (insurance.policy number).isSome = true ↔
    0 < number ∧ number ≤ insurance.policyCount.getD 0
  unopened : insurance.admin = none → insurance.trustlink = none ∧ insurance.policyCount = none

/-- As long as the counter does not wrap, a visit keeps the numbering and every policy. -/
theorem numbered_visit (numbered : Numbered network.insurance)
    (room : network.insurance.policyCount.getD 0 + 1 < u32Range) :
    Numbered (visit home network item).insurance ∧
      (visit home network item).insurance.policyCount.getD 0 ≤
        network.insurance.policyCount.getD 0 + 1 ∧
      ∀ number policyholder, network.insurance.policy number = some policyholder →
        (visit home network item).insurance.policy number = some policyholder := by
  rcases insurance_visit home network item with ⟨number, policyholder, issues⟩ | ⟨kept, same | opened⟩
  · obtain ⟨asked, counted, left⟩ := insurance_issued issues
    rw [Nat.mod_eq_of_lt room] at counted
    have fresh : network.insurance.policy number = none := by
      refine Option.not_isSome_iff_eq_none.mp fun taken => ?_
      have bound := ((numbered.upTo number).mp taken).2
      omega
    rw [left]
    refine ⟨⟨fun other => ?_, fun closed => ?_⟩, ?_, fun other holder found => ?_⟩
    · by_cases own : other = number
      · subst own
        simp [counted]
      · simp only [Function.update_of_ne own, numbered.upTo other, Option.getD_some]
        omega
    · have unopened := (numbered.unopened closed).1
      rw [unopened] at asked
      cases asked
    · exact Nat.le_of_eq counted
    · have apart : other ≠ number := by
        rintro rfl
        exact absurd (fresh.symm.trans found) nofun
      simp only [Function.update_of_ne apart, found]
  · rw [same]
    exact ⟨numbered, Nat.le_succ _, fun _ _ found => found⟩
  · obtain ⟨closed, opened, zero⟩ := opened
    have uncounted := (numbered.unopened closed).2
    rw [kept, zero]
    refine ⟨⟨fun number => ?_, fun still => ?_⟩, Nat.zero_le _, fun _ _ found => found⟩
    · rw [kept, zero, numbered.upTo number, uncounted]
      rfl
    · rw [still] at opened
      cases opened

theorem visited_concat (home : Address) (visits : List (Visit Address)) (item : Visit Address) :
    visited home (visits ++ [item]) = visit home (visited home visits) item :=
  Trace.run_concat ..

theorem numbered_visited {visits : List (Visit Address)} (few : visits.length < u32Range) :
    Numbered (visited home visits).insurance ∧
      (visited home visits).insurance.policyCount.getD 0 ≤ visits.length := by
  induction visits using List.reverseRecOn with
  | nil => exact ⟨⟨fun number => by simp [Network.empty]; omega, fun _ => ⟨rfl, rfl⟩⟩, Nat.le_refl _⟩
  | append_singleton visits item ih =>
      rw [List.length_append, List.length_singleton] at few
      obtain ⟨numbered, bound⟩ := ih (by omega)
      obtain ⟨next, grown, -⟩ := @numbered_visit _ _ _ home _ item numbered (by omega)
      rw [visited_concat, List.length_append, List.length_singleton]
      exact ⟨next, by omega⟩

/-- Over fewer than 2^32 visits the policies are numbered without a gap from one on, and keep their
holders for good. -/
theorem policies_lasting (early late : List (Visit Address))
    (few : (early ++ late).length < u32Range) (number : Nat) :
    (((visited home early).insurance.policy number).isSome = true ↔
      0 < number ∧ number ≤ (visited home early).insurance.policyCount.getD 0) ∧
    ∀ policyholder, (visited home early).insurance.policy number = some policyholder →
      (visited home (early ++ late)).insurance.policy number = some policyholder := by
  refine ⟨(numbered_visited (by simp at few; omega)).1.upTo number, fun policyholder found => ?_⟩
  induction late using List.reverseRecOn with
  | nil => rw [List.append_nil, found]
  | append_singleton late item ih =>
      rw [← List.append_assoc, List.length_append, List.length_singleton] at few
      obtain ⟨numbered, bound⟩ := @numbered_visited _ _ _ home (early ++ late) (by omega)
      obtain ⟨-, -, keeps⟩ := @numbered_visit _ _ _ home _ item numbered (by omega)
      rw [← List.append_assoc, visited_concat]
      exact keeps number policyholder (ih (by omega))

open Xdr in
theorem policies_lasting_sample :
    (@visited _ _ clearanceHost (contractId 7) (sampleVisits ++ sampleVisits)).insurance.policy 1 =
      some (contractId 2) := by
  have recorded : (@visited _ _ clearanceHost (contractId 7) sampleVisits).insurance.policy 1 =
      some (contractId 2) := by
    decide +kernel
  exact (@policies_lasting _ _ clearanceHost (contractId 7) sampleVisits sampleVisits (by decide)
    1).2 _ recorded

end Policies

end TrustLink
