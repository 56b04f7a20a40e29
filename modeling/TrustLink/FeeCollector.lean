import TrustLink.AdminCouncil
import TrustLink.Effects
import TrustLink.Settings

/-!
The fee collector and the council. `set_fee` keeps its caller from becoming the collector;
the other members, and those who are seated later, are not looked at.
-/
namespace TrustLink
open Transaction Contract

section Roles
variable {Address : Type} {storage : Storage Address}

/-- The address receives the fees. -/
def Collects (storage : Storage Address) (address : Address) : Prop :=
  ∃ config, storage.feeConfig = some config ∧ 0 < config.attestationFee ∧
    config.feeCollector = address

/-- A fee is taken in a token, and for nobody in the council. -/
structure FeesApart (storage : Storage Address) : Prop where
  token : ∀ config, storage.feeConfig = some config → 0 < config.attestationFee →
    config.feeToken.isSome = true
  outside : ∀ address, Collects storage address → address ∉ storage.council

/-- With the fee as it was, only the seats of the council matter. -/
theorem feesApart_of_config {other : Storage Address} (apart : FeesApart storage)
    (same : other.feeConfig = storage.feeConfig)
    (outside : ∀ address, Collects storage address → address ∉ other.council) :
    FeesApart other := by
  constructor
  · rw [same]
    exact apart.token
  · intro address collects
    rw [Collects, same] at collects
    exact outside address collects

theorem feesApart_of_set {config : FeeConfig Address} (set : storage.feeConfig = some config)
    (token : 0 < config.attestationFee → config.feeToken.isSome = true)
    (outside : 0 < config.attestationFee → config.feeCollector ∉ storage.council) :
    FeesApart storage := by
  constructor
  · intro other found positive
    obtain rfl := Option.some.inj (set.symm.trans found)
    exact token positive
  · rintro address ⟨other, found, positive, rfl⟩
    obtain rfl := Option.some.inj (set.symm.trans found)
    exact outside positive

end Roles

section Steps
variable {Address : Type} [DecidableEq Address]

/-- The call passes every check and names a member of the council as the collector, or
seats the collector in the council. -/
def SeatsCollector (storage : Storage Address) (call : Call Address) : Prop :=
  match call.op with
  | .admin (.setFee admin fee collector feeToken) =>
      admin ∈ call.env.auths ∧ admin ∈ storage.council ∧ 0 < fee ∧ feeToken.isSome = true ∧
        (∀ token ∈ feeToken, call.env.tokenResponds token = true) ∧ admin ≠ collector ∧
        TtlFits storage.ttlConfig ∧ collector ∈ storage.council
  | .council (.addAdmin existingAdmin newAdmin) =>
      existingAdmin ∈ call.env.auths ∧ existingAdmin ∈ storage.council ∧
        TtlFits storage.ttlConfig ∧ Collects storage newAdmin
  | .council (.transferAdmin currentAdmin newAdmin) =>
      currentAdmin ∈ call.env.auths ∧ currentAdmin ∈ storage.council ∧
        TtlFits storage.ttlConfig ∧ Collects storage newAdmin
  | .council (.acceptAdminTransfer newAdmin) =>
      newAdmin ∈ call.env.auths ∧ TtlFits storage.ttlConfig ∧ Collects storage newAdmin ∧
        ∃ pending, storage.pendingAdminTransfer = some pending ∧ pending.newAdmin = newAdmin ∧
          pending.proposedBy ≠ newAdmin
  | .council (.initCouncil admin members quorum) =>
      admin ∈ call.env.auths ∧ admin ∈ storage.council ∧ 0 < quorum ∧ quorum ≤ members.length ∧
        TtlFits storage.ttlConfig ∧ ∃ member ∈ members, Collects storage member
  | _ => False

variable {before after : World Address}

theorem returns_setFee (admin : Address) (fee : Int) (collector : Address)
    (feeToken : Option Address) {env : Env Address} (done : Unit) :
    Returns (setFee admin fee collector feeToken) env before done after ↔
      (admin ∈ env.auths ∧ admin ∈ before.storage.council ∧ 0 ≤ fee ∧
        (0 < fee → feeToken.isSome = true) ∧
        (∀ token ∈ feeToken, env.tokenResponds token = true) ∧ admin ≠ collector ∧
        TtlFits before.storage.ttlConfig) ∧
      after = ⟨{ before.storage with feeConfig := some ⟨fee, collector, feeToken⟩ },
        before.events, before.payments⟩ := by
  cases feeToken <;>
    simp [setFee, validateFeeConfig, World.write, and_assoc]

/-- What a council operation does to the council leaves the collector outside. -/
theorem CouncilOp.feesApart (op : CouncilOp Address) {env : Env Address}
    (apart : FeesApart before.storage)
    (passed : ¬ SeatsCollector before.storage ⟨env, .council op⟩)
    (accepted : Returns op.exec env before () after) : FeesApart after.storage := by
  cases op with
  | initializeContract admin ttlDays =>
      obtain ⟨-, rfl⟩ := (returns_initializeContract ..).mp accepted
      -- the fee starts at zero, which makes nobody a collector
      exact feesApart_of_set rfl (fun positive => absurd positive (Int.lt_irrefl 0))
        fun positive => absurd positive (Int.lt_irrefl 0)
  | transferAdmin currentAdmin newAdmin =>
      obtain ⟨⟨auth, member, ttl⟩, rfl⟩ := (returns_transferAdmin ..).mp accepted
      refine feesApart_of_config apart rfl fun address collects seated => ?_
      rcases ((mem_handedOver ..).mp seated).1 with sitting | rfl
      · exact apart.outside address collects sitting
      · exact passed ⟨auth, member, ttl, collects⟩
  | acceptAdminTransfer newAdmin =>
      obtain ⟨pending, ⟨auth, found, rfl, ttl⟩, rfl⟩ :=
        (returns_acceptAdminTransfer ..).mp accepted
      refine feesApart_of_config apart rfl fun address collects seated => ?_
      obtain ⟨sitting | rfl, stays⟩ := (mem_handedOver ..).mp seated
      · exact apart.outside address collects sitting
      · exact passed ⟨auth, ttl, collects, pending, found, rfl, stays.symm⟩
  | addAdmin existingAdmin newAdmin =>
      obtain ⟨⟨auth, member⟩, ⟨-, rfl⟩ | ⟨-, ttl, rfl⟩⟩ := (returns_addAdmin ..).mp accepted
      · exact apart
      refine feesApart_of_config apart rfl fun address collects seated => ?_
      rcases List.mem_append.mp seated with sitting | last
      · exact apart.outside address collects sitting
      · obtain rfl := List.mem_singleton.mp last
        exact passed ⟨auth, member, ttl, collects⟩
  | removeAdmin existingAdmin adminToRemove =>
      obtain ⟨-, ⟨-, rfl⟩ | ⟨-, -, rfl⟩⟩ := (returns_removeAdmin ..).mp accepted
      · exact apart
      refine feesApart_of_config apart rfl fun address collects seated => ?_
      exact apart.outside address collects (List.mem_filter.mp seated).1
  | initCouncil admin members quorum =>
      obtain ⟨⟨auth, member, positive, enough, ttl⟩, rfl⟩ :=
        (returns_initCouncil ..).mp accepted
      refine feesApart_of_config apart rfl fun address collects seated => ?_
      exact passed ⟨auth, member, positive, enough, ttl, address, seated, collects⟩
  | proposeAdminTransfer currentAdmin newAdmin =>
      obtain ⟨-, rfl⟩ := (returns_proposeAdminTransfer ..).mp accepted
      exact feesApart_of_config apart rfl apart.outside
  | cancelAdminTransfer currentAdmin =>
      obtain ⟨pending, -, rfl⟩ := (returns_cancelAdminTransfer ..).mp accepted
      exact feesApart_of_config apart rfl apart.outside

variable [Host Address] {call : Call Address}

/-- Of the operations of admin.rs only `set_fee` writes the fee, and none the council. -/
theorem AdminOp.feesApart (op : AdminOp Address) {env : Env Address}
    (apart : FeesApart before.storage) (passed : ¬ SeatsCollector before.storage ⟨env, .admin op⟩)
    (accepted : Accepted before ⟨env, .admin op⟩ after) : FeesApart after.storage := by
  have settings := settings_of_accepted accepted
  have kept := (op.administers accepted).adminCouncil
  by_cases sets : ∃ admin fee collector feeToken, op = .setFee admin fee collector feeToken
  · obtain ⟨admin, fee, collector, feeToken, rfl⟩ := sets
    obtain ⟨⟨auth, member, -, needed, responds, other, ttl⟩, rfl⟩ :=
      (returns_setFee ..).mp accepted
    exact feesApart_of_set rfl needed fun positive seated =>
      passed ⟨auth, member, positive, needed positive, responds, other, ttl, seated⟩
  · have same : after.storage.settings.feeConfig = before.storage.settings.feeConfig := by
      rw [settings]
      cases op with
      | setFee admin fee collector feeToken => exact absurd ⟨_, _, _, _, rfl⟩ sets
      | _ => rfl
    refine feesApart_of_config apart same fun address collects => ?_
    rw [Storage.council, kept]
    exact apart.outside address collects

theorem feesApart_of_accepted (apart : FeesApart before.storage)
    (passed : ¬ SeatsCollector before.storage call) (accepted : Accepted before call after) :
    FeesApart after.storage := by
  have settings := settings_of_accepted accepted
  obtain ⟨env, op⟩ := call
  cases op with
  | council op => exact op.feesApart apart passed accepted
  | admin op => exact op.feesApart apart passed accepted
  | _ =>
      have kept := (council_of_other (by simp) accepted).1
      have fee := congrArg Settings.feeConfig settings
      refine feesApart_of_config apart fee fun address collects => ?_
      rw [Storage.council, kept]
      exact apart.outside address collects

/-- The call that brings the roles together is accepted. -/
theorem collector_seated (apart : FeesApart before.storage)
    (seats : SeatsCollector before.storage call) :
    ∃ address ∈ (step before call).storage.council,
      Collects (step before call).storage address := by
  obtain ⟨env, op⟩ := call
  cases op with
  | council op =>
      cases op with
      | transferAdmin currentAdmin newAdmin =>
          obtain ⟨auth, member, ttl, collects⟩ := seats
          have accepted : Accepted before ⟨env, .council (.transferAdmin currentAdmin newAdmin)⟩ _ :=
            (returns_transferAdmin ..).mpr ⟨⟨auth, member, ttl⟩, rfl⟩
          have other : newAdmin ≠ currentAdmin := fun same =>
            apart.outside newAdmin collects (same ▸ member)
          rw [step_of_accepted accepted]
          exact ⟨newAdmin, (mem_handedOver ..).mpr ⟨.inr rfl, other⟩, collects⟩
      | acceptAdminTransfer newAdmin =>
          obtain ⟨auth, ttl, collects, pending, found, named, other⟩ := seats
          have accepted : Accepted before ⟨env, .council (.acceptAdminTransfer newAdmin)⟩ _ :=
            (returns_acceptAdminTransfer ..).mpr ⟨pending, ⟨auth, found, named, ttl⟩, rfl⟩
          rw [step_of_accepted accepted]
          exact ⟨newAdmin, (mem_handedOver ..).mpr ⟨.inr rfl, other.symm⟩, collects⟩
      | addAdmin existingAdmin newAdmin =>
          obtain ⟨auth, member, ttl, collects⟩ := seats
          have accepted : Accepted before ⟨env, .council (.addAdmin existingAdmin newAdmin)⟩ _ :=
            (returns_addAdmin ..).mpr
              ⟨⟨auth, member⟩, .inr ⟨apart.outside newAdmin collects, ttl, rfl⟩⟩
          rw [step_of_accepted accepted]
          exact ⟨newAdmin, List.mem_append_right _ (List.mem_singleton_self _), collects⟩
      | initCouncil admin members quorum =>
          obtain ⟨auth, member, positive, enough, ttl, address, listed, collects⟩ := seats
          have accepted : Accepted before ⟨env, .council (.initCouncil admin members quorum)⟩ _ :=
            (returns_initCouncil ..).mpr ⟨⟨auth, member, positive, enough, ttl⟩, rfl⟩
          rw [step_of_accepted accepted]
          exact ⟨address, listed, collects⟩
      | _ => cases seats
  | admin op =>
      cases op with
      | setFee admin fee collector feeToken =>
          obtain ⟨auth, member, positive, present, responds, other, ttl, seated⟩ := seats
          have accepted : Accepted before ⟨env, .admin (.setFee admin fee collector feeToken)⟩ _ :=
            (returns_setFee ..).mpr
              ⟨⟨auth, member, Int.le_of_lt positive, fun _ => present, responds, other, ttl⟩, rfl⟩
          rw [step_of_accepted accepted]
          exact ⟨collector, seated, _, rfl, positive, rfl⟩
      | _ => cases seats
  | _ => cases seats

/-- A step keeps the roles apart exactly when it does not bring them together. -/
theorem feesApart_step_iff (apart : FeesApart before.storage) :
    FeesApart (step before call).storage ↔ ¬ SeatsCollector before.storage call := by
  constructor
  · intro kept seats
    obtain ⟨address, seated, collects⟩ := collector_seated apart seats
    exact kept.outside address collects seated
  · intro passed
    rcases step_cases before call with accepted | same
    · exact feesApart_of_accepted apart passed accepted
    · rw [same]
      exact apart

end Steps

section Runs
variable {Address : Type} [DecidableEq Address] [Host Address]

/-- In every state of the run a fee has a token and a collector outside the council. -/
def NoAdminCollects (calls : List (Call Address)) : Prop :=
  ∀ early late, calls = early ++ late → FeesApart (run early).storage

/-- No admin collects fees in exactly the runs in which no call names a member of the
council as the collector or seats the collector in it. -/
theorem no_admin_collects_iff (calls : List (Call Address)) :
    NoAdminCollects calls ↔
      Trace.Each step (fun world call => ¬ SeatsCollector world.storage call)
        (World.empty Address) calls := by
  have initial : FeesApart (World.empty Address).storage := by
    constructor
    · intro config found
      cases found
    · rintro address ⟨config, found, -⟩
      cases found
  exact @Trace.always_iff_each _ _ step _ (fun world => FeesApart world.storage)
    (fun _ _ apart => feesApart_step_iff apart) _ initial calls

end Runs

section Collecting
open Xdr

/-- Admin 9 sets a fee for contract 5, and then takes contract 5 into the council. -/
def collectingRun : List (Call ContractId) := [
  signed 900 (contractId 9) (.council (.initializeContract (contractId 9) none)),
  signed 901 (contractId 9) (.admin (.setFee (contractId 9) 10 (contractId 5)
    (some (contractId 7)))),
  signed 902 (contractId 9) (.council (.addAdmin (contractId 9) (contractId 5)))]

theorem collector_joins_council :
    (run collectingRun).storage.feeConfig = some ⟨10, contractId 5, some (contractId 7)⟩ ∧
      (run collectingRun).storage.council = [contractId 9, contractId 5] ∧
      ¬ NoAdminCollects collectingRun := by
  have fee : (run collectingRun).storage.feeConfig =
      some ⟨10, contractId 5, some (contractId 7)⟩ := by
    decide +kernel
  have council : (run collectingRun).storage.council = [contractId 9, contractId 5] := by
    decide +kernel
  refine ⟨fee, council, fun apart => ?_⟩
  have outside := (apart collectingRun [] (List.append_nil _).symm).outside (contractId 5)
    ⟨_, fee, by decide, rfl⟩
  rw [council] at outside
  exact outside (by decide)

end Collecting

end TrustLink
