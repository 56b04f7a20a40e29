import Mathlib.Data.List.Induction
import TrustLink.Council
import TrustLink.Frame

/-!
The life of a council proposal. Ids count up, the approvals of a proposal grow until it
is executed, and nothing happens to it afterwards. How many approvals an execution
finds is another matter: the quorum that `init_council` checks is not stored.
-/
namespace TrustLink
open Transaction Contract

section Growth
variable {Address : Type}

/-- What becomes of a stored proposal. -/
structure CouncilProposal.Continues (old new : CouncilProposal Address) : Prop where
  operation : new.operation = old.operation
  proposer : new.proposer = old.proposer
  approvals : old.approvals <+: new.approvals
  executed : old.executed = true → new = old

theorem CouncilProposal.Continues.refl (proposal : CouncilProposal Address) :
    proposal.Continues proposal :=
  ⟨rfl, rfl, List.prefix_refl _, fun _ => rfl⟩

theorem CouncilProposal.Continues.trans {old middle new : CouncilProposal Address}
    (first : old.Continues middle) (second : middle.Continues new) : old.Continues new := by
  refine ⟨second.operation.trans first.operation, second.proposer.trans first.proposer,
    first.approvals.trans second.approvals, fun done => ?_⟩
  have same := first.executed done
  rw [same] at second
  exact second.executed done

/-- Every stored proposal is still stored and has gone on. -/
def ActionsContinue (before after : Storage Address) : Prop :=
  ∀ id old, before.councilProposal id = some old →
    ∃ new, after.councilProposal id = some new ∧ old.Continues new

theorem ActionsContinue.refl (storage : Storage Address) : ActionsContinue storage storage :=
  fun _ old found => ⟨old, found, .refl old⟩

theorem ActionsContinue.trans {before middle after : Storage Address}
    (first : ActionsContinue before middle) (second : ActionsContinue middle after) :
    ActionsContinue before after := by
  intro id old found
  obtain ⟨between, kept, continued⟩ := first id old found
  obtain ⟨new, stored, continues⟩ := second id between kept
  exact ⟨new, stored, continued.trans continues⟩

theorem actionsContinue_update {before after : Storage Address} {id : Nat}
    {proposal : CouncilProposal Address}
    (stored : after.councilProposal = Function.update before.councilProposal id (some proposal))
    (continues : ∀ old, before.councilProposal id = some old → old.Continues proposal) :
    ActionsContinue before after := by
  intro other old found
  by_cases here : other = id
  · subst here
    exact ⟨proposal, by rw [stored, Function.update_self], continues old found⟩
  · exact ⟨old, by rw [stored, Function.update_of_ne here, found], .refl old⟩

/-- Proposals are filed under their own ids, none of which the counter has yet to
give, and nobody has approved one twice. -/
structure ActionsFiled (storage : Storage Address) : Prop where
  own : ∀ id proposal, storage.councilProposal id = some proposal → proposal.id = id
  counted : ∀ id proposal, storage.councilProposal id = some proposal →
    id ≤ storage.proposalCounter
  nodup : ∀ id proposal, storage.councilProposal id = some proposal → proposal.approvals.Nodup

theorem actionsFiled_empty : ActionsFiled (Storage.empty Address) :=
  ⟨fun _ _ => nofun, fun _ _ => nofun, fun _ _ => nofun⟩

theorem actionsFiled_update {before after : Storage Address} {id : Nat}
    {proposal : CouncilProposal Address} (filed : ActionsFiled before)
    (stored : after.councilProposal = Function.update before.councilProposal id (some proposal))
    (own : proposal.id = id) (counter : before.proposalCounter ≤ after.proposalCounter)
    (counted : id ≤ after.proposalCounter) (nodup : proposal.approvals.Nodup) :
    ActionsFiled after := by
  have split : ∀ other found, after.councilProposal other = some found →
      (other = id ∧ found = proposal) ∨ before.councilProposal other = some found := by
    intro other found present
    rw [stored] at present
    by_cases here : other = id
    · rw [here, Function.update_self] at present
      exact .inl ⟨here, (Option.some.inj present).symm⟩
    · rw [Function.update_of_ne here] at present
      exact .inr present
  refine ⟨fun other found present => ?_, fun other found present => ?_,
    fun other found present => ?_⟩
  · rcases split other found present with ⟨rfl, rfl⟩ | old
    · exact own
    · exact filed.own other found old
  · rcases split other found present with ⟨rfl, rfl⟩ | old
    · exact counted
    · exact Nat.le_trans (filed.counted other found old) counter
  · rcases split other found present with ⟨rfl, rfl⟩ | old
    · exact nodup
    · exact filed.nodup other found old

end Growth

section Steps
variable {Address : Type} [DecidableEq Address]

/-- What an accepted call does to the proposals. -/
inductive ActionStep (before after : World Address) : Call Address → Prop
  | kept (call : Call Address) (same : ProposalsKept before after) : ActionStep before after call
  | propose (env : Env Address) (proposer : Address) (operation : CouncilOperation Address)
      (proposable : ActionProposable before.storage env proposer)
      (counter : after.storage.proposalCounter = before.storage.proposalCounter + 1)
      (stored : after.storage.councilProposal = Function.update before.storage.councilProposal
        (before.storage.proposalCounter + 1)
        (some ⟨before.storage.proposalCounter + 1, operation, proposer, [proposer], false⟩)) :
      ActionStep before after ⟨env, .admin (.proposeCouncilAction proposer operation)⟩
  | approve (env : Env Address) (approver : Address) (id : Nat)
      (proposal : CouncilProposal Address)
      (approvable : ActionApprovable before.storage env approver id proposal)
      (counter : after.storage.proposalCounter = before.storage.proposalCounter)
      (stored : after.storage.councilProposal = Function.update before.storage.councilProposal
        proposal.id (some { proposal with approvals := proposal.approvals ++ [approver] })) :
      ActionStep before after ⟨env, .admin (.approveCouncilAction approver id)⟩
  | execute (env : Env Address) (executor : Address) (id : Nat)
      (proposal : CouncilProposal Address)
      (executable : ActionExecutable before.storage env executor id proposal)
      (counter : after.storage.proposalCounter = before.storage.proposalCounter)
      (stored : after.storage.councilProposal = Function.update before.storage.councilProposal
        proposal.id (some { proposal with executed := true })) :
      ActionStep before after ⟨env, .admin (.executeCouncilAction executor id)⟩

variable {before after : World Address} {call : Call Address}

theorem actionStep_of_accepted [Host Address] (accepted : Accepted before call after) :
    ActionStep before after call := by
  by_cases other : ∀ op, call.op = .admin op → ¬ op.Staffs
  · exact .kept call (registriesKept_of_accepted accepted other).2
  · obtain ⟨env, op⟩ := call
    push Not at other
    obtain ⟨op, rfl, staffs⟩ := other
    cases staffs with
    | registerIssuer admin issuer =>
        refine .kept _ (proposalsKept_iff.mpr ?_)
        have left : Returns (Contract.registerIssuer admin issuer) env before () after := accepted
        simp [Contract.registerIssuer] at left
        simp [left]
    | removeIssuer admin issuer =>
        refine .kept _ (proposalsKept_iff.mpr ?_)
        have left : Returns (Contract.removeIssuer admin issuer) env before () after := accepted
        simp [Contract.removeIssuer] at left
        simp [left]
    | proposeCouncilAction proposer operation =>
        obtain ⟨id, proposed⟩ := (returns_void ..).mp accepted
        obtain ⟨checks, -, rfl⟩ := (returns_proposeCouncilAction proposer operation id).mp proposed
        exact .propose env proposer operation checks rfl rfl
    | approveCouncilAction approver proposalId =>
        obtain ⟨proposal, checks, rfl⟩ :=
          (returns_approveCouncilAction approver proposalId ()).mp accepted
        exact .approve env approver proposalId proposal checks rfl rfl
    | executeCouncilAction executor proposalId =>
        obtain ⟨proposal, checks, rfl⟩ :=
          (returns_executeCouncilAction executor proposalId ()).mp accepted
        refine .execute env executor proposalId proposal checks ?_ ?_
        all_goals cases proposal.operation <;> rfl

omit [DecidableEq Address] in
theorem ActionStep.counter_le (taken : ActionStep before after call) :
    before.storage.proposalCounter ≤ after.storage.proposalCounter := by
  cases taken with
  | kept call same => exact Nat.le_of_eq same.proposalCounter.symm
  | propose env proposer operation proposable counter stored => omega
  | approve env approver id proposal approvable counter stored => exact Nat.le_of_eq counter.symm
  | execute env executor id proposal executable counter stored => exact Nat.le_of_eq counter.symm

omit [DecidableEq Address] in
theorem ActionStep.filed (taken : ActionStep before after call)
    (filed : ActionsFiled before.storage) : ActionsFiled after.storage := by
  have grown := taken.counter_le
  cases taken with
  | kept call same =>
      refine ⟨?_, ?_, ?_⟩
      · rw [same.councilProposal]
        exact filed.own
      · rw [same.councilProposal, same.proposalCounter]
        exact filed.counted
      · rw [same.councilProposal]
        exact filed.nodup
  | propose env proposer operation proposable counter stored =>
      exact actionsFiled_update filed stored rfl grown (by omega) (List.nodup_singleton proposer)
  | approve env approver id proposal approvable counter stored =>
      have own := filed.own id proposal approvable.found
      rw [own] at stored
      refine actionsFiled_update filed stored rfl grown
        (Nat.le_trans (filed.counted id proposal approvable.found) grown) ?_
      have fresh := approvable.fresh
      exact List.nodup_append.mpr ⟨filed.nodup id proposal approvable.found,
        List.nodup_singleton approver, by grind⟩
  | execute env executor id proposal executable counter stored =>
      have own := filed.own id proposal executable.found
      rw [own] at stored
      exact actionsFiled_update filed stored rfl grown
        (Nat.le_trans (filed.counted id proposal executable.found) grown)
        (filed.nodup id proposal executable.found)

omit [DecidableEq Address] in
theorem ActionStep.continues (taken : ActionStep before after call)
    (filed : ActionsFiled before.storage) : ActionsContinue before.storage after.storage := by
  cases taken with
  | kept call same =>
      intro id old found
      exact ⟨old, by rw [same.councilProposal, found], .refl old⟩
  | propose env proposer operation proposable counter stored =>
      refine actionsContinue_update stored fun old found => ?_
      -- the counter has not given this id before
      have counted := filed.counted _ old found
      omega
  | approve env approver id proposal approvable counter stored =>
      refine actionsContinue_update stored fun old found => ?_
      rw [filed.own id proposal approvable.found] at found
      obtain rfl := Option.some.inj (approvable.found.symm.trans found)
      exact ⟨rfl, rfl, List.prefix_append _ _,
        fun done => Bool.noConfusion (done.symm.trans approvable.pending)⟩
  | execute env executor id proposal executable counter stored =>
      refine actionsContinue_update stored fun old found => ?_
      rw [filed.own id proposal executable.found] at found
      obtain rfl := Option.some.inj (executable.found.symm.trans found)
      exact ⟨rfl, rfl, List.prefix_refl _,
        fun done => Bool.noConfusion (done.symm.trans executable.pending)⟩

end Steps

section Runs
variable {Address : Type} [DecidableEq Address] [Host Address]

theorem actions_filed_run (calls : List (Call Address)) : ActionsFiled (run calls).storage :=
  @invariant_of_run _ _ _ (fun world => ActionsFiled world.storage) actionsFiled_empty
    (fun _ _ _ filed accepted => (actionStep_of_accepted accepted).filed filed) calls

theorem actions_continue_run (early late : List (Call Address)) :
    ActionsContinue (run early).storage (run (early ++ late)).storage ∧
      (run early).storage.proposalCounter ≤ (run (early ++ late)).storage.proposalCounter := by
  induction late using List.reverseRecOn with
  | nil =>
      rw [List.append_nil]
      exact ⟨.refl _, Nat.le_refl _⟩
  | append_singleton late call ih =>
      rw [← List.append_assoc, run_concat]
      rcases step_cases (run (early ++ late)) call with accepted | same
      · have taken := actionStep_of_accepted accepted
        exact ⟨ih.1.trans (taken.continues (actions_filed_run _)),
          Nat.le_trans ih.2 taken.counter_le⟩
      · rw [same]
        exact ih

/-- The call proposes and is given the id. -/
def Proposes (world : World Address) (call : Call Address) (proposer : Address) (id : Nat) : Prop :=
  ∃ env operation after, Returns (Contract.proposeCouncilAction proposer operation) env world id
      after ∧ call = ⟨env, .admin (.proposeCouncilAction proposer operation)⟩

/-- The call approves the proposal in the name of the address. A proposal is
approved by its proposer. -/
def Approves (world : World Address) (call : Call Address) (approver : Address) (id : Nat) : Prop :=
  Proposes world call approver id ∨
    ∃ env after, Returns (Contract.approveCouncilAction approver id) env world () after ∧
      call = ⟨env, .admin (.approveCouncilAction approver id)⟩

/-- The call applies the operation of the proposal. -/
def Applies (world : World Address) (call : Call Address) (id : Nat) : Prop :=
  ∃ env executor after, Returns (Contract.executeCouncilAction executor id) env world () after ∧
    call = ⟨env, .admin (.executeCouncilAction executor id)⟩

theorem Proposes.returned {calls : List (Call Address)} {call : Call Address} {proposer : Address}
    {id : Nat} (proposes : Proposes (run calls) call proposer id) :
    id = (run calls).storage.proposalCounter + 1 ∧ proposer ∈ (run calls).storage.council ∧
      (run (calls ++ [call])).storage.proposalCounter = id ∧
      ∃ proposal, (run (calls ++ [call])).storage.councilProposal id = some proposal ∧
        proposal.approvals = [proposer] := by
  obtain ⟨env, operation, after, returned, rfl⟩ := proposes
  have accepted : Accepted (run calls) ⟨env, .admin (.proposeCouncilAction proposer operation)⟩
      after := (returns_void ..).mpr ⟨id, returned⟩
  obtain ⟨checks, rfl, rfl⟩ := (returns_proposeCouncilAction proposer operation id).mp returned
  rw [run_concat, step_of_accepted accepted]
  exact ⟨rfl, checks.member, rfl, _, Function.update_self .., rfl⟩

theorem Approves.recorded {calls : List (Call Address)} {call : Call Address} {approver : Address}
    {id : Nat} (approves : Approves (run calls) call approver id) :
    approver ∈ (run calls).storage.council ∧
      ∃ proposal, (run (calls ++ [call])).storage.councilProposal id = some proposal ∧
        approver ∈ proposal.approvals := by
  rcases approves with proposes | ⟨env, after, returned, rfl⟩
  · obtain ⟨-, member, -, proposal, stored, approvals⟩ := proposes.returned
    exact ⟨member, proposal, stored, by simp [approvals]⟩
  · have accepted : Accepted (run calls) ⟨env, .admin (.approveCouncilAction approver id)⟩ after :=
      returned
    obtain ⟨proposal, checks, rfl⟩ := (returns_approveCouncilAction approver id ()).mp returned
    have own := (actions_filed_run calls).own id proposal checks.found
    rw [run_concat, step_of_accepted accepted]
    refine ⟨checks.member, { proposal with approvals := proposal.approvals ++ [approver] }, ?_,
      by simp⟩
    simp [Storage.withProposal, own]

/-- Who is on the approvals of a stored proposal has approved it, as a member of the
council at that time. -/
theorem approved_run (calls : List (Call Address)) {id : Nat} {proposal : CouncilProposal Address}
    (found : (run calls).storage.councilProposal id = some proposal) {approver : Address}
    (listed : approver ∈ proposal.approvals) :
    ∃ early call late, calls = early ++ call :: late ∧ Approves (run early) call approver id ∧
      approver ∈ (run early).storage.council := by
  induction calls using List.reverseRecOn generalizing proposal with
  | nil => cases found
  | append_singleton calls call ih =>
      have earlier : ∀ {old : CouncilProposal Address},
          (run calls).storage.councilProposal id = some old → approver ∈ old.approvals →
          ∃ early first late, calls ++ [call] = early ++ first :: late ∧
            Approves (run early) first approver id ∧ approver ∈ (run early).storage.council := by
        intro old stored present
        obtain ⟨early, first, late, rfl, approves⟩ := ih stored present
        exact ⟨early, first, late ++ [call], by simp, approves⟩
      rw [run_concat] at found
      rcases step_cases (run calls) call with accepted | same
      · have filed := actions_filed_run calls
        cases actionStep_of_accepted accepted with
        | kept call kept =>
            rw [kept.councilProposal] at found
            exact earlier found listed
        | propose env proposer operation proposable counter stored =>
            rw [stored] at found
            by_cases here : id = (run calls).storage.proposalCounter + 1
            · rw [here, Function.update_self] at found
              obtain rfl := Option.some.inj found
              obtain rfl := List.mem_singleton.mp listed
              have returned := (returns_proposeCouncilAction approver operation id).mpr
                ⟨proposable, here, rfl⟩
              exact ⟨calls, _, [], rfl, .inl ⟨env, operation, _, returned, rfl⟩, proposable.member⟩
            · rw [Function.update_of_ne here] at found
              exact earlier found listed
        | approve env other target old approvable counter stored =>
            rw [stored, filed.own target old approvable.found] at found
            by_cases here : id = target
            · subst here
              rw [Function.update_self] at found
              obtain rfl := Option.some.inj found
              rcases List.mem_append.mp listed with before | now
              · exact earlier approvable.found before
              · obtain rfl := List.mem_singleton.mp now
                have returned := (returns_approveCouncilAction approver id ()).mpr
                  ⟨old, approvable, rfl⟩
                exact ⟨calls, _, [], rfl, .inr ⟨env, _, returned, rfl⟩, approvable.member⟩
            · rw [Function.update_of_ne here] at found
              exact earlier found listed
        | execute env executor target old executable counter stored =>
            rw [stored, filed.own target old executable.found] at found
            by_cases here : id = target
            · subst here
              rw [Function.update_self] at found
              obtain rfl := Option.some.inj found
              exact earlier executable.found listed
            · rw [Function.update_of_ne here] at found
              exact earlier found listed
      · rw [same] at found
        exact earlier found listed

theorem approved_of_approves {early late : List (Call Address)} {call : Call Address}
    {approver : Address} {id : Nat} (approves : Approves (run early) call approver id)
    {proposal : CouncilProposal Address}
    (found : (run (early ++ call :: late)).storage.councilProposal id = some proposal) :
    approver ∈ proposal.approvals := by
  obtain ⟨-, old, stored, listed⟩ := approves.recorded
  have continues := (actions_continue_run (early ++ [call]) late).1 id old stored
  rw [List.append_assoc, List.singleton_append] at continues
  obtain ⟨new, present, continued⟩ := continues
  obtain rfl := Option.some.inj (found.symm.trans present)
  exact continued.approvals.subset listed

/-- The proposals of a run get ids of their own, are never rewritten and are
executed at most once. -/
structure ActionsFinal (calls : List (Call Address)) : Prop where
  distinct : ∀ early first middle second late proposer other id,
    calls = early ++ first :: middle ++ second :: late →
    Proposes (run early) first proposer id →
    ¬ Proposes (run (early ++ first :: middle)) second other id
  kept : ∀ early late rest, calls = early ++ late ++ rest →
    ActionsContinue (run early).storage (run (early ++ late)).storage
  approved : ∀ early late id proposal, calls = early ++ late →
    (run early).storage.councilProposal id = some proposal →
    proposal.approvals.Nodup ∧ ∀ approver ∈ proposal.approvals,
      ∃ before call after, early = before ++ call :: after ∧
        Approves (run before) call approver id ∧ approver ∈ (run before).storage.council
  once : ∀ early first middle second late id,
    calls = early ++ first :: middle ++ second :: late →
    Applies (run early) first id → ¬ Applies (run (early ++ first :: middle)) second id

theorem Applies.executed {calls : List (Call Address)} {call : Call Address} {id : Nat}
    (applies : Applies (run calls) call id) :
    ∃ proposal, (run calls).storage.councilProposal id = some proposal ∧
      proposal.executed = false ∧
      (run (calls ++ [call])).storage.councilProposal id =
        some { proposal with executed := true } := by
  obtain ⟨env, executor, after, returned, rfl⟩ := applies
  have accepted : Accepted (run calls) ⟨env, .admin (.executeCouncilAction executor id)⟩ after :=
    returned
  obtain ⟨proposal, checks, rfl⟩ := (returns_executeCouncilAction executor id ()).mp returned
  have own := (actions_filed_run calls).own id proposal checks.found
  rw [run_concat, step_of_accepted accepted]
  refine ⟨proposal, checks.found, checks.pending, ?_⟩
  simp [Storage.withProposal, own]

theorem council_actions_final (calls : List (Call Address)) : ActionsFinal calls := by
  refine ⟨?_, ?_, ?_, ?_⟩
  · rintro early first middle second late proposer other id - proposes again
    obtain ⟨-, -, counter, -⟩ := proposes.returned
    obtain ⟨later, -⟩ := again.returned
    have grown := (actions_continue_run (early ++ [first]) middle).2
    rw [List.append_assoc, List.singleton_append] at grown
    omega
  · intro early late rest _
    exact (actions_continue_run early late).1
  · rintro early late id proposal - found
    exact ⟨(actions_filed_run early).nodup id proposal found,
      fun approver listed => approved_run early found listed⟩
  · rintro early first middle second late id - applies again
    obtain ⟨proposal, -, -, executed⟩ := applies.executed
    obtain ⟨later, found, pending, -⟩ := again.executed
    have continues := (actions_continue_run (early ++ [first]) middle).1 id _ executed
    rw [List.append_assoc, List.singleton_append] at continues
    obtain ⟨new, stored, continued⟩ := continues
    obtain rfl := Option.some.inj (found.symm.trans stored)
    rw [continued.executed rfl] at pending
    cases pending

end Runs

section Quorum
variable {Address : Type} [DecidableEq Address] [Host Address]

/-- The call replaces the council and accepts the quorum. -/
def AcceptsQuorum (world : World Address) (call : Call Address) (quorum : Nat) : Prop :=
  ∃ env admin members after,
    Returns (Contract.initCouncil admin members quorum) env world () after ∧
      call = ⟨env, .council (.initCouncil admin members quorum)⟩

/-- The quorum that the latest `init_council` of the run has accepted. -/
def LatestQuorum (calls : List (Call Address)) (quorum : Nat) : Prop :=
  ∃ early call late, calls = early ++ call :: late ∧ AcceptsQuorum (run early) call quorum ∧
    ∀ before other after newer, late = before ++ other :: after →
      ¬ AcceptsQuorum (run (early ++ call :: before)) other newer

/-- Whenever an operation is applied, as many members of the council as the latest
quorum asks for have approved it. -/
def QuorumKept (calls : List (Call Address)) : Prop :=
  ∀ early call late id quorum, calls = early ++ call :: late → Applies (run early) call id →
    LatestQuorum early quorum →
    ∃ approvers : List Address, approvers.Nodup ∧ quorum ≤ approvers.length ∧
      ∀ approver ∈ approvers, approver ∈ (run early).storage.council ∧
        ∃ before approval after, early = before ++ approval :: after ∧
          Approves (run before) approval approver id

/-- The call passes the checks of an execution and finds fewer approvals by seated members
than the quorum. -/
def FallsShort (storage : Storage Address) (call : Call Address) (quorum : Nat) : Prop :=
  match call.op with
  | .admin (.executeCouncilAction executor id) =>
      ∃ proposal, ActionExecutable storage call.env executor id proposal ∧
        (proposal.approvals.filter (· ∈ storage.council)).length < quorum
  | _ => False

end Quorum

section Sample
open Xdr

/-- A council of three with a quorum of two; one member proposes to pause and
executes at once. -/
def loneExecutionRun : List (Call ContractId) :=
  sampleDeployment ++ [
    signed 1000 (contractId 9) (.council (.initCouncil (contractId 9)
      [contractId 9, contractId 1, contractId 3] 2)),
    signed 1001 (contractId 9) (.admin (.proposeCouncilAction (contractId 9) .pauseContract)),
    signed 1002 (contractId 9) (.admin (.executeCouncilAction (contractId 9) 1))]

end Sample

end TrustLink
