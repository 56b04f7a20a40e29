import TrustLink.Readers
import TrustLink.Writes

/-!
The lifetime that every write gives its entry. It is computed from the number of days of the
initialization, which is stored as it comes; the product with the ledgers of a day need not
fit a u32.
-/
namespace TrustLink
open Transaction Contract

section Configuration
variable {Address : Type} [DecidableEq Address] {env : Env Address} {before after : World Address}

/-- The TTL configuration that an accepted call leaves. -/
def Call.ttlConfig (storage : Storage Address) (call : Call Address) : Option TtlConfig :=
  match call.op with
  | .council (.initializeContract _ ttlDays) => some ⟨ttlDays.getD 30⟩
  | _ => storage.ttlConfig

theorem CouncilOp.ttlConfig_of_returns (op : CouncilOp Address)
    (accepted : Returns op.exec env before () after) :
    after.storage.ttlConfig = Call.ttlConfig before.storage ⟨env, .council op⟩ := by
  obtain ⟨storage, written, left⟩ := op.leaves accepted
  rw [left.storage]
  cases written <;> rfl

theorem AdminOp.ttlConfig_kept (op : AdminOp Address)
    (accepted : Returns op.exec env before () after) :
    after.storage.ttlConfig = before.storage.ttlConfig := by
  obtain ⟨storage, written, left⟩ := op.leaves accepted
  rw [left.storage]
  cases written <;> rfl

variable [Host Address] {call : Call Address}

theorem ttlConfig_of_accepted (accepted : Accepted before call after) :
    after.storage.ttlConfig = call.ttlConfig before.storage := by
  obtain ⟨env, op⟩ := call
  cases op with
  | attestation op => exact op.kept accepted (·.ttlConfig) (fun _ _ => rfl) fun _ _ _ => rfl
  | request op => exact (op.works accepted).kept (·.ttlConfig) fun _ _ => rfl
  | multisig op => exact (op.works accepted).kept (·.ttlConfig) fun _ _ => rfl
  | council op => exact op.ttlConfig_of_returns accepted
  | admin op => exact op.ttlConfig_kept accepted

end Configuration

section Writable
variable {Address : Type} {world : World Address}

/-- The lifetime can be computed, and no write fails because of it. -/
structure Writable (world : World Address) : Prop where
  lifetime : ∀ env, ∃ ttl, Reads getTtlLifetime env world ttl
  writes : ∀ env change, ∃ after, Returns (persist change) env world () after

theorem writable_of_fits (fits : TtlFits world.storage.ttlConfig) : Writable world where
  lifetime _ := ⟨_, world, (returns_getTtlLifetime _).mpr ⟨⟨fits, rfl⟩, rfl⟩⟩
  writes _ change := ⟨_, (returns_persist change ()).mpr ⟨fits, rfl⟩⟩

theorem Writable.fits (writable : Writable world) : TtlFits world.storage.ttlConfig := by
  obtain ⟨ttl, after, returned⟩ := writable.lifetime ⟨0, [], fun _ => true, fun _ => true⟩
  exact ((returns_getTtlLifetime ttl).mp returned).1.1

end Writable

section Initialization
variable {Address : Type} [DecidableEq Address] [Host Address] {storage : Storage Address}
  {world before after : World Address} {call : Call Address}

/-- The call is an initialization that passes its checks, with more days than a lifetime can
have. -/
def Overflows (storage : Storage Address) (call : Call Address) : Prop :=
  ∃ admin ttlDays, call.op = .council (.initializeContract admin (some ttlDays)) ∧
    admin ∈ call.env.auths ∧ storage.council = [] ∧ u32Range ≤ dayInLedgers * ttlDays

/-- After every accepted initialization, each later state is writable. -/
def NeverWedged (calls : List (Call Address)) : Prop :=
  ∀ early call middle late admin ttlDays after,
    calls = (early ++ [call]) ++ middle ++ late →
      call.op = .council (.initializeContract admin (some ttlDays)) →
        Accepted (run early) call after → Writable (run (early ++ [call] ++ middle))

/-- The own writes of the initialization still use the configuration that it finds. -/
theorem accepted_of_overflows (fits : TtlFits world.storage.ttlConfig)
    (overflows : Overflows world.storage call) :
    Accepted world call (step world call) ∧ ¬ TtlFits (step world call).storage.ttlConfig := by
  obtain ⟨env, op⟩ := call
  obtain ⟨admin, ttlDays, rfl, auth, empty, exceeds⟩ := overflows
  have accepted : Accepted world ⟨env, .council (.initializeContract admin (some ttlDays))⟩ _ :=
    (returns_initializeContract admin (some ttlDays) ()).mpr ⟨⟨auth, empty, fits⟩, rfl⟩
  rw [step_of_accepted accepted]
  exact ⟨accepted, Nat.not_lt.mpr exceeds⟩

/-- A step loses the fit of the lifetime by an initialization with too many days, and in no
other way. -/
theorem fits_step_iff (fits : TtlFits world.storage.ttlConfig) :
    TtlFits (step world call).storage.ttlConfig ↔ ¬ Overflows world.storage call := by
  refine ⟨fun kept overflows => (accepted_of_overflows fits overflows).2 kept, fun passed => ?_⟩
  rcases step_cases world call with accepted | same
  · rw [ttlConfig_of_accepted accepted]
    by_cases initializes : ∃ admin ttlDays, call.op = .council (.initializeContract admin ttlDays)
    · obtain ⟨env, op⟩ := call
      obtain ⟨admin, ttlDays, rfl⟩ := initializes
      obtain ⟨⟨auth, empty, -⟩, -⟩ := (returns_initializeContract admin ttlDays ()).mp accepted
      cases ttlDays with
      | none => exact (by decide : dayInLedgers * 30 < u32Range)
      | some days =>
          refine Nat.not_le.mp fun exceeds => ?_
          exact passed ⟨admin, days, rfl, auth, empty, exceeds⟩
    · have kept : call.ttlConfig world.storage = world.storage.ttlConfig := by
        unfold Call.ttlConfig
        split
        case h_1 admin ttlDays op => exact absurd ⟨admin, ttlDays, op⟩ initializes
        case h_2 => rfl
      rwa [kept]
  · rwa [same]

theorem fits_of_never_wedged {calls : List (Call Address)} (unwedged : NeverWedged calls)
    (early late : List (Call Address)) (split : calls = early ++ late) :
    TtlFits (run early).storage.ttlConfig := by
  induction early using List.reverseRecOn generalizing late with
  | nil => trivial
  | append_singleton early call ih =>
      have fits := ih (call :: late) (split.trans (List.append_cons ..).symm)
      rw [run_concat]
      refine (fits_step_iff fits).mpr fun overflows => ?_
      obtain ⟨accepted, lost⟩ := accepted_of_overflows fits overflows
      obtain ⟨admin, ttlDays, initializes, -⟩ := overflows
      have writable := unwedged early call [] late admin ttlDays _
        (by rw [split, List.append_nil]) initializes accepted
      rw [List.append_nil, run_concat] at writable
      exact lost writable.fits

/-- The contract stays writable after its initializations exactly when none of them stores
more days than a lifetime can have. -/
theorem never_wedged_iff (calls : List (Call Address)) :
    NeverWedged calls ↔
      Trace.Each step (fun world call => ¬ Overflows world.storage call) (World.empty Address)
        calls := by
  rw [← @Trace.always_iff_each _ _ step _
    (fun world : World Address => TtlFits world.storage.ttlConfig)
    (fun _ _ fits => fits_step_iff fits) (World.empty Address) trivial calls]
  refine ⟨fits_of_never_wedged, fun fits early call middle late admin ttlDays after split _ _ => ?_⟩
  exact writable_of_fits (fits _ late split)

end Initialization

section Wedged
open Xdr

/-- 248552 days of 17280 ledgers are more than a u32 holds. -/
def wedgedRun : List (Call ContractId) :=
  [signed 100 (contractId 9) (.council (.initializeContract (contractId 9) (some 248552)))]

theorem initialized_contract_wedged : ¬ NeverWedged wedgedRun := by
  intro unwedged
  have fits := fits_of_never_wedged unwedged wedgedRun [] (List.append_nil _).symm
  exact absurd fits (by decide +kernel)

end Wedged

end TrustLink
