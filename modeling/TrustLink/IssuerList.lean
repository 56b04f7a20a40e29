import TrustLink.Council
import TrustLink.Frame

/-!
The issuer registry in its three forms: a key for each registered address, the
ordered list and the counter. A registration counts an address that is registered
already once more; a removal takes the key and counts down, and leaves the list
as it was.
-/
namespace TrustLink
open Transaction Contract

section Operations
variable {Address : Type} [DecidableEq Address] {env : Env Address} {before after : World Address}

/-- The checks of a registration. -/
structure Registrable (storage : Storage Address) (env : Env Address) (admin issuer : Address) :
    Prop where
  auth : admin ∈ env.auths
  admin : admin ∈ storage.council
  running : storage.paused = false
  native : storage.bridge issuer = false
  ttl : TtlFits storage.ttlConfig

/-- The checks of a removal; the address that is removed is not looked up. -/
structure Removable (storage : Storage Address) (env : Env Address) (admin : Address) : Prop where
  auth : admin ∈ env.auths
  admin : admin ∈ storage.council
  ttl : TtlFits storage.ttlConfig

theorem returns_registerIssuer (admin issuer : Address) (done : Unit) :
    Returns (Contract.registerIssuer admin issuer) env before done after ↔
      Registrable before.storage env admin issuer ∧
        after = ⟨{ before.storage with
            issuer := Function.update before.storage.issuer issuer true
            issuerList := if issuer ∈ before.storage.issuerList then before.storage.issuerList
              else before.storage.issuerList ++ [issuer]
            globalStats := { before.storage.globalStats with
              totalIssuers := saturatingAddU64 before.storage.globalStats.totalIssuers 1 } },
          before.events ++ [.issuerRegistered issuer admin env.timestamp], before.payments⟩ := by
  simp [Contract.registerIssuer, World.write, World.publish]
  constructor
  · rintro ⟨auth, admin, running, native, ttl, left⟩
    exact ⟨⟨auth, admin, running, native, ttl⟩, left⟩
  · rintro ⟨⟨auth, admin, running, native, ttl⟩, left⟩
    exact ⟨auth, admin, running, native, ttl, left⟩

theorem returns_removeIssuer (admin issuer : Address) (done : Unit) :
    Returns (Contract.removeIssuer admin issuer) env before done after ↔
      Removable before.storage env admin ∧
        after = ⟨{ before.storage with
            issuer := Function.update before.storage.issuer issuer false
            globalStats := { before.storage.globalStats with
              totalIssuers := before.storage.globalStats.totalIssuers - 1 } },
          before.events ++ [.issuerRemoved issuer admin env.timestamp], before.payments⟩ := by
  simp [Contract.removeIssuer, World.write, World.publish]
  constructor
  · rintro ⟨auth, admin, ttl, left⟩
    exact ⟨⟨auth, admin, ttl⟩, left⟩
  · rintro ⟨⟨auth, admin, ttl⟩, left⟩
    exact ⟨auth, admin, ttl, left⟩

end Operations

section Consistency
variable {Address : Type}

/-- The list holds every registered address once and no other, and the counter
counts them. -/
structure RegistryConsistent (storage : Storage Address) : Prop where
  listed : ∀ address, address ∈ storage.issuerList ↔ storage.issuer address = true
  once : storage.issuerList.Nodup
  total : storage.globalStats.totalIssuers = storage.issuerList.length

theorem registryConsistent_empty : RegistryConsistent (Storage.empty Address) :=
  ⟨fun address => by simp [Storage.empty], List.nodup_nil, rfl⟩

variable {before after : World Address} {storage : Storage Address}

theorem RegistryKept.consistent_iff (kept : RegistryKept before after) :
    RegistryConsistent after.storage ↔ RegistryConsistent before.storage := by
  obtain ⟨issuer, list, total⟩ := kept
  constructor
  · rintro ⟨listed, once, counted⟩
    rw [issuer, list] at listed
    rw [list] at once
    rw [total, list] at counted
    exact ⟨listed, once, counted⟩
  · rintro ⟨listed, once, counted⟩
    refine ⟨?_, ?_, ?_⟩
    · rw [issuer, list]
      exact listed
    · rw [list]
      exact once
    · rw [total, list]
      exact counted

variable [DecidableEq Address]

/-- What a registration has to add to the counter. -/
def newlyRegistered (storage : Storage Address) (issuer : Address) : Nat :=
  if storage.issuer issuer = true then 0 else 1

/-- The list after a registration is in step with the keys. -/
theorem listed_registered (consistent : RegistryConsistent storage) (issuer : Address) :
    ∃ issuerList,
      (if issuer ∈ storage.issuerList then storage.issuerList
        else storage.issuerList ++ [issuer]) = issuerList ∧
      (∀ address, address ∈ issuerList ↔
        Function.update storage.issuer issuer true address = true) ∧
      issuerList.Nodup ∧
      issuerList.length = storage.issuerList.length + newlyRegistered storage issuer := by
  by_cases member : issuer ∈ storage.issuerList
  · have present := (consistent.listed issuer).mp member
    refine ⟨storage.issuerList, by rw [if_pos member], fun address => ?_, consistent.once, ?_⟩
    · rw [Function.update_eq_self_iff.mpr present.symm]
      exact consistent.listed address
    · simp [newlyRegistered, present]
  · have absent : ¬ storage.issuer issuer = true := mt (consistent.listed issuer).mpr member
    refine ⟨storage.issuerList ++ [issuer], by rw [if_neg member], fun address => ?_, ?_, ?_⟩
    · rw [List.mem_append, List.mem_singleton]
      by_cases here : address = issuer
      · simp [here]
      · simpa [here] using consistent.listed address
    · rw [List.nodup_append]
      exact ⟨consistent.once, List.nodup_singleton issuer, by grind⟩
    · simp [newlyRegistered, absent]

theorem consistent_registered (consistent : RegistryConsistent storage) (issuer : Address) :
    RegistryConsistent { storage with
        issuer := Function.update storage.issuer issuer true
        issuerList := if issuer ∈ storage.issuerList then storage.issuerList
          else storage.issuerList ++ [issuer]
        globalStats := { storage.globalStats with
          totalIssuers := saturatingAddU64 storage.globalStats.totalIssuers 1 } } ↔
      saturatingAddU64 storage.globalStats.totalIssuers 1 =
        storage.globalStats.totalIssuers + newlyRegistered storage issuer := by
  obtain ⟨issuerList, same, listed, once, longer⟩ := listed_registered consistent issuer
  rw [same, consistent.total, ← longer]
  exact ⟨fun kept => kept.total, fun counted => ⟨listed, once, counted⟩⟩

/-- A removal takes nothing off the list, so it may only find it empty. -/
theorem consistent_removed (consistent : RegistryConsistent storage) (issuer : Address) :
    RegistryConsistent { storage with
        issuer := Function.update storage.issuer issuer false
        globalStats := { storage.globalStats with
          totalIssuers := storage.globalStats.totalIssuers - 1 } } ↔
      storage.globalStats.totalIssuers = 0 := by
  constructor
  · intro kept
    have total := kept.total
    have counted := consistent.total
    dsimp only at total
    omega
  · intro nobody
    have empty : storage.issuerList = [] := by
      rw [← List.length_eq_zero_iff, ← consistent.total, nobody]
    refine ⟨fun address => ?_, consistent.once, ?_⟩
    · have unlisted := consistent.listed address
      simp only [empty, List.not_mem_nil, false_iff] at unlisted ⊢
      by_cases here : address = issuer
      · simp [here]
      · simpa [here] using unlisted
    · simp [nobody, empty]

/-- The same for a removal by the council, which does not count. -/
theorem consistent_performed (consistent : RegistryConsistent storage)
    (operation : CouncilOperation Address) :
    RegistryConsistent (storage.withPerformed operation) ↔
      ∀ issuer, operation = .removeIssuer issuer → storage.issuer issuer = false := by
  cases operation with
  | pauseContract =>
      exact ⟨fun _ _ => nofun, fun _ => ⟨consistent.listed, consistent.once, consistent.total⟩⟩
  | removeIssuer issuer =>
      simp only [CouncilOperation.removeIssuer.injEq, forall_eq']
      constructor
      · intro kept
        have unlisted := (kept.listed issuer).not.mpr (by simp [Storage.withPerformed])
        simpa using (consistent.listed issuer).not.mp unlisted
      · intro absent
        have same : storage.withPerformed (.removeIssuer issuer) = storage := by
          rw [Storage.withPerformed, ← absent, Function.update_eq_self]
        rw [same]
        exact consistent

end Consistency

section Condition
variable {Address : Type} [DecidableEq Address] [Host Address] {before after : World Address}
  {call : Call Address}

/-- The call passes every check and sets the three forms apart: a registration of
an address that is registered, or that can no longer be counted, a removal while any
issuer is counted, and a removal of a registered issuer by the council. -/
def Unbalances (storage : Storage Address) (call : Call Address) : Prop :=
  match call.op with
  | .admin (.registerIssuer admin issuer) =>
      Registrable storage call.env admin issuer ∧
        saturatingAddU64 storage.globalStats.totalIssuers 1 ≠
          storage.globalStats.totalIssuers + newlyRegistered storage issuer
  | .admin (.removeIssuer admin _) =>
      Removable storage call.env admin ∧ storage.globalStats.totalIssuers ≠ 0
  | .admin (.executeCouncilAction executor proposalId) =>
      ∃ proposal issuer, ActionExecutable storage call.env executor proposalId proposal ∧
        proposal.operation = .removeIssuer issuer ∧ storage.issuer issuer = true
  | _ => False

/-- Every other step keeps the registry as it was. -/
theorem consistent_of_other (other : ∀ op, call.op = .admin op → ¬ op.Staffs) :
    RegistryConsistent (step before call).storage ↔ RegistryConsistent before.storage := by
  rcases step_cases before call with accepted | same
  · exact (registriesKept_of_accepted accepted other).1.consistent_iff
  · rw [same]

theorem consistent_registerIssuer (consistent : RegistryConsistent before.storage)
    (env : Env Address) (admin issuer : Address) :
    RegistryConsistent (step before ⟨env, .admin (.registerIssuer admin issuer)⟩).storage ↔
      ¬ Unbalances before.storage ⟨env, .admin (.registerIssuer admin issuer)⟩ := by
  rcases step_outcome before ⟨env, .admin (.registerIssuer admin issuer)⟩ with
    accepted | ⟨same, rejected⟩
  · obtain ⟨checks, left⟩ := (returns_registerIssuer admin issuer ()).mp accepted
    rw [left, consistent_registered consistent]
    simp [Unbalances, checks]
  · rw [same]
    refine iff_of_true consistent fun ⟨checks, _⟩ => ?_
    exact rejected _ ((returns_registerIssuer admin issuer ()).mpr ⟨checks, rfl⟩)

theorem consistent_removeIssuer (consistent : RegistryConsistent before.storage)
    (env : Env Address) (admin issuer : Address) :
    RegistryConsistent (step before ⟨env, .admin (.removeIssuer admin issuer)⟩).storage ↔
      ¬ Unbalances before.storage ⟨env, .admin (.removeIssuer admin issuer)⟩ := by
  rcases step_outcome before ⟨env, .admin (.removeIssuer admin issuer)⟩ with
    accepted | ⟨same, rejected⟩
  · obtain ⟨checks, left⟩ := (returns_removeIssuer admin issuer ()).mp accepted
    rw [left, consistent_removed consistent]
    simp [Unbalances, checks]
  · rw [same]
    refine iff_of_true consistent fun ⟨checks, _⟩ => ?_
    exact rejected _ ((returns_removeIssuer admin issuer ()).mpr ⟨checks, rfl⟩)

theorem consistent_executeCouncilAction (consistent : RegistryConsistent before.storage)
    (env : Env Address) (executor : Address) (proposalId : Nat) :
    RegistryConsistent
        (step before ⟨env, .admin (.executeCouncilAction executor proposalId)⟩).storage ↔
      ¬ Unbalances before.storage ⟨env, .admin (.executeCouncilAction executor proposalId)⟩ := by
  rcases step_outcome before ⟨env, .admin (.executeCouncilAction executor proposalId)⟩ with
    accepted | ⟨same, rejected⟩
  · obtain ⟨proposal, checks, left⟩ :=
      (returns_executeCouncilAction executor proposalId ()).mp accepted
    have performed := consistent_performed consistent proposal.operation
    have kept : RegistryKept ⟨before.storage.withPerformed proposal.operation, [], []⟩
        (step before ⟨env, .admin (.executeCouncilAction executor proposalId)⟩) := by
      rw [left]
      exact ⟨rfl, rfl, rfl⟩
    rw [kept.consistent_iff, performed]
    constructor
    · rintro removes ⟨other, issuer, again, operation, present⟩
      obtain rfl := Option.some.inj (checks.found.symm.trans again.found)
      rw [removes issuer operation] at present
      cases present
    · intro balanced issuer operation
      by_contra present
      exact balanced ⟨proposal, issuer, checks, operation, by simpa using present⟩
  · rw [same]
    refine iff_of_true consistent fun ⟨proposal, _, checks, _⟩ => ?_
    exact rejected _ ((returns_executeCouncilAction executor proposalId ()).mpr
      ⟨proposal, checks, rfl⟩)

theorem consistent_step (consistent : RegistryConsistent before.storage) (call : Call Address) :
    RegistryConsistent (step before call).storage ↔ ¬ Unbalances before.storage call := by
  by_cases other : ∀ op, call.op = .admin op → ¬ op.Staffs
  · obtain ⟨env, op⟩ := call
    refine iff_of_true ((consistent_of_other other).mpr consistent) fun unbalances => ?_
    cases op with
    | admin op =>
        cases op with
        | registerIssuer admin issuer => exact other _ rfl (.registerIssuer admin issuer)
        | removeIssuer admin issuer => exact other _ rfl (.removeIssuer admin issuer)
        | executeCouncilAction executor proposalId =>
            exact other _ rfl (.executeCouncilAction executor proposalId)
        | _ => exact unbalances
    | _ => exact unbalances
  · obtain ⟨env, op⟩ := call
    push Not at other
    obtain ⟨op, rfl, staffs⟩ := other
    cases staffs with
    | registerIssuer admin issuer => exact consistent_registerIssuer consistent env admin issuer
    | removeIssuer admin issuer => exact consistent_removeIssuer consistent env admin issuer
    | executeCouncilAction executor proposalId =>
        exact consistent_executeCouncilAction consistent env executor proposalId
    | proposeCouncilAction proposer operation =>
        refine iff_of_true ?_ id
        rcases step_cases before ⟨env, .admin (.proposeCouncilAction proposer operation)⟩ with
          accepted | same
        · obtain ⟨id, proposed⟩ := (returns_void ..).mp accepted
          obtain ⟨-, -, left⟩ := (returns_proposeCouncilAction proposer operation id).mp proposed
          rw [left]
          exact ⟨consistent.listed, consistent.once, consistent.total⟩
        · rw [same]
          exact consistent
    | approveCouncilAction approver proposalId =>
        refine iff_of_true ?_ id
        rcases step_cases before ⟨env, .admin (.approveCouncilAction approver proposalId)⟩ with
          accepted | same
        · obtain ⟨proposal, -, left⟩ :=
            (returns_approveCouncilAction approver proposalId ()).mp accepted
          rw [left]
          exact ⟨consistent.listed, consistent.once, consistent.total⟩
        · rw [same]
          exact consistent

end Condition

section Runs
variable {Address : Type} [DecidableEq Address] [Host Address]

/-- The registry is consistent in every state of exactly the runs no step of which
sets its forms apart. -/
theorem registry_consistent_iff (calls : List (Call Address)) :
    (∀ early late, calls = early ++ late → RegistryConsistent (run early).storage) ↔
      Trace.Each step (fun world call => ¬ Unbalances world.storage call)
        (World.empty Address) calls := by
  have exact_step : ∀ (world : World Address) (call : Call Address),
      RegistryConsistent world.storage →
        (RegistryConsistent (step world call).storage ↔ ¬ Unbalances world.storage call) :=
    fun _ call consistent => consistent_step consistent call
  exact Trace.always_iff_each exact_step registryConsistent_empty calls

end Runs

section Sample
open Xdr

/-- Issuer 1 is removed from a deployment with two issuers. -/
def issuerRemovalRun : List (Call ContractId) :=
  sampleDeployment ++
    [signed 1000 (contractId 9) (.admin (.removeIssuer (contractId 9) (contractId 1)))]

/-- The address is no longer an issuer and stays on the list, which the counter no longer
counts. -/
theorem removed_issuer_stays_listed :
    (run issuerRemovalRun).storage.issuer (contractId 1) = false ∧
      contractId 1 ∈ (run issuerRemovalRun).storage.issuerList ∧
      (run issuerRemovalRun).storage.globalStats.totalIssuers = 1 ∧
      ¬ ∀ early late, issuerRemovalRun = early ++ late →
        RegistryConsistent (run early).storage := by
  have removed : (run issuerRemovalRun).storage.issuer (contractId 1) = false := by
    decide +kernel
  have listed : contractId 1 ∈ (run issuerRemovalRun).storage.issuerList := by decide +kernel
  refine ⟨removed, listed, by decide +kernel, fun always => ?_⟩
  have present := ((always issuerRemovalRun [] (List.append_nil _).symm).listed _).mp listed
  rw [removed] at present
  cases present

end Sample

end TrustLink
