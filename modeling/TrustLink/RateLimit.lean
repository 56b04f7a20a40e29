import Mathlib.Data.List.Induction
import TrustLink.Frame

/-!
The rate limit of direct issuance. `LastIssuanceTime` of an issuer is the time
of its latest direct issuance: the four direct operations set it, and no other
operation touches it.
-/
namespace TrustLink
open Transaction Contract

section Definitions
variable {Address : Type}

/-- Issuer and claim type of a direct issuance. -/
def Op.direct? : Op Address → Option (Address × Str)
  | .attestation (.createAttestation issuer _ claimType _ _ _) => some (issuer, claimType)
  | .attestation (.createAttestationValidFrom issuer _ claimType _ _ _ _) =>
      some (issuer, claimType)
  | .attestation (.createAttestationJurisdiction issuer _ claimType _ _ _ _) =>
      some (issuer, claimType)
  | .attestation (.createAttestationsBatch issuer _ claimType _) => some (issuer, claimType)
  | _ => none

/-- The interval in force for a claim type: its own, else the global one, else none. -/
def effectiveInterval (storage : Storage Address) (claimType : Str) : Nat :=
  ((storage.claimTypeRateLimit claimType).or
    (storage.rateLimitConfig.map (·.minIssuanceInterval))).getD 0

/-- Ledger time does not run backwards. -/
def Chronological (calls : List (Call Address)) : Prop :=
  (calls.map (·.env.timestamp)).Pairwise (· ≤ ·)

theorem RateAllows.interval_le {storage : Storage Address} {now time : Nat} {issuer : Address}
    {claimType : Str} (allows : RateAllows storage now issuer claimType)
    (last : storage.lastIssuanceTime issuer = some time)
    (limited : 0 < effectiveInterval storage claimType) :
    effectiveInterval storage claimType ≤ now - time := by
  unfold effectiveInterval at *
  cases interval : (storage.claimTypeRateLimit claimType).or
      (storage.rateLimitConfig.map (·.minIssuanceInterval)) with
  | none => simp [interval] at limited
  | some limit =>
      simp only [interval, Option.getD_some] at limited ⊢
      exact allows limit interval (Nat.ne_of_gt limited) time last

end Definitions

section Steps
variable {Address : Type} [DecidableEq Address] [Host Address] {env : Env Address}
  {before after : World Address}

/-- The last issuance times after an accepted call. -/
def timesAfter (storage : Storage Address) (call : Call Address) : Address → Option Nat :=
  match call.op.direct? with
  | some (issuer, _) =>
      Function.update storage.lastIssuanceTime issuer (some call.env.timestamp)
  | none => storage.lastIssuanceTime

theorem AttestationOp.lastIssuanceTime (op : AttestationOp Address)
    (accepted : Returns op.exec env before () after) :
    after.storage.lastIssuanceTime = timesAfter before.storage ⟨env, .attestation op⟩ := by
  cases op with
  | createAttestation | createAttestationValidFrom | createAttestationJurisdiction =>
      obtain ⟨id, accepted⟩ := (returns_void ..).mp accepted
      obtain ⟨-, -, paid, -, rfl⟩ :=
        (returns_createAttestationInternal _ _ _ _ _ _ _ _ _ _ rfl).mp accepted
      rfl
  | importAttestation admin issuer subject claimType timestamp expiration =>
      obtain ⟨id, accepted⟩ := (returns_void ..).mp accepted
      obtain ⟨-, -, rfl⟩ := (returns_importAttestation _ _ _ _ _ _ _ _ rfl).mp accepted
      rfl
  | bridgeAttestation bridge subject claimType sourceChain sourceTx =>
      obtain ⟨id, accepted⟩ := (returns_void ..).mp accepted
      obtain ⟨-, -, rfl⟩ := (returns_bridgeAttestation _ _ _ _ _ _ _ rfl).mp accepted
      rfl
  | createAttestationsBatch issuer subjects claimType expiration =>
      obtain ⟨ids, accepted⟩ := (returns_void ..).mp accepted
      obtain ⟨-, -, rfl⟩ := (returns_createAttestationsBatch _ _ _ _ _ _ rfl).mp accepted
      rfl
  | createAttestationAsDelegate delegate delegator subject claimType expiration metadata =>
      obtain ⟨id, accepted⟩ := (returns_void ..).mp accepted
      obtain ⟨-, -, rfl⟩ := (returns_createAttestationAsDelegate _ _ _ _ _ _ _ _ rfl).mp accepted
      rfl
  | _ => exact (AttestationOp.unissued accepted trivial).2

theorem lastIssuanceTime_of_accepted {call : Call Address} (accepted : Accepted before call after) :
    after.storage.lastIssuanceTime = timesAfter before.storage call := by
  obtain ⟨env, op⟩ := call
  cases op with
  | attestation op => exact op.lastIssuanceTime accepted
  | request op => exact (op.keeps accepted).2.1
  | multisig op => exact (op.keeps accepted).2.2.1
  | council op => exact (op.keeps accepted).2.1.lastIssuanceTime
  | admin op => exact (op.keeps accepted).1.lastIssuanceTime

/-- A direct issuance has passed the rate limit. -/
theorem rateAllows_of_accepted {call : Call Address} {issuer : Address} {claimType : Str}
    (direct : call.op.direct? = some (issuer, claimType)) (accepted : Accepted before call after) :
    RateAllows before.storage call.env.timestamp issuer claimType := by
  obtain ⟨env, op⟩ := call
  cases op with
  | attestation op =>
      cases op with
      | createAttestation | createAttestationValidFrom | createAttestationJurisdiction =>
          obtain ⟨rfl, rfl⟩ := Prod.mk.inj (Option.some.inj direct)
          obtain ⟨id, accepted⟩ := (returns_void ..).mp accepted
          exact ((returns_createAttestationInternal _ _ _ _ _ _ _ _ _ _ rfl).mp accepted).1.rate
      | createAttestationsBatch issuer subjects claimType expiration =>
          obtain ⟨rfl, rfl⟩ := Prod.mk.inj (Option.some.inj direct)
          obtain ⟨ids, accepted⟩ := (returns_void ..).mp accepted
          exact ((returns_createAttestationsBatch _ _ _ _ _ _ rfl).mp accepted).1.rate
      | _ => cases direct
  | _ => cases direct

end Steps

section Runs
variable {Address : Type} [DecidableEq Address] [Host Address]

/-- Once an issuer has issued directly, its stored time is no earlier than that,
whatever is called in between. -/
theorem issued_since {world : World Address} {issuance : Call Address} {issuer : Address}
    {claimType : Str} (direct : issuance.op.direct? = some (issuer, claimType))
    (accepted : Accepted world issuance (step world issuance)) (between : List (Call Address))
    (ordered : ∀ call ∈ between, issuance.env.timestamp ≤ call.env.timestamp) :
    ∃ time, (runFrom (step world issuance) between).storage.lastIssuanceTime issuer = some time ∧
      issuance.env.timestamp ≤ time := by
  -- the latest direct issuance is the last one in the list, so the list grows at its end
  induction between using List.reverseRecOn with
  | nil =>
      refine ⟨issuance.env.timestamp, ?_, Nat.le_refl _⟩
      rw [runFrom, Trace.run_nil, lastIssuanceTime_of_accepted accepted]
      simp [timesAfter, direct]
  | append_singleton calls call ih =>
      obtain ⟨time, last, since⟩ := ih fun other member => ordered other (by simp [member])
      rw [runFrom, Trace.run_concat]
      rcases step_cases (runFrom (step world issuance) calls) call with accepted | same
      · rw [lastIssuanceTime_of_accepted accepted, timesAfter]
        cases issues : call.op.direct? with
        | none => exact ⟨time, last, since⟩
        | some pair =>
            by_cases own : issuer = pair.1
            · exact ⟨call.env.timestamp, by simp [own], ordered call (by simp)⟩
            · exact ⟨time, by simpa [own] using last, since⟩
      · rw [same]
        exact ⟨time, last, since⟩

/-- Whenever a direct issuance succeeds under a positive interval, every earlier
successful one of the same issuer is at least that long ago. -/
def RateLimited (calls : List (Call Address)) : Prop :=
  ∀ first earlier between later late,
    calls = first ++ earlier :: (between ++ later :: late) →
    ∀ issuer oldType claimType, earlier.op.direct? = some (issuer, oldType) →
      later.op.direct? = some (issuer, claimType) →
      Accepted (run first) earlier (step (run first) earlier) →
      Accepted (run (first ++ earlier :: between)) later
        (step (run (first ++ earlier :: between)) later) →
      0 < effectiveInterval (run (first ++ earlier :: between)).storage claimType →
      earlier.env.timestamp + effectiveInterval (run (first ++ earlier :: between)).storage claimType
        ≤ later.env.timestamp

theorem rate_limited (calls : List (Call Address)) (ordered : Chronological calls) :
    RateLimited calls := by
  intro first earlier between later late split issuer oldType claimType direct again accepted
    succeeded limited
  have since : ∀ call ∈ between ++ later :: late, earlier.env.timestamp ≤ call.env.timestamp := by
    intro call member
    rw [split, Chronological, List.map_append, List.map_cons, List.pairwise_append] at ordered
    exact (List.pairwise_cons.mp ordered.2.1).1 _ (List.mem_map_of_mem member)
  obtain ⟨time, last, recent⟩ := issued_since direct accepted between
    fun call member => since call (by simp [member])
  have reached : run (first ++ earlier :: between) =
      runFrom (step (run first) earlier) between := by
    rw [run_append, runFrom, Trace.run_cons]
  rw [← reached] at last
  have waited := (rateAllows_of_accepted again succeeded).interval_le last limited
  have order := since later (by simp)
  omega

end Runs

section Sample
open Xdr

/-- With a global interval of 50 seconds, issuer 1 issues at 1000 and at 1060. -/
def limitedRun : List (Call ContractId) :=
  sampleDeployment ++ [
    signed 950 (contractId 9) (.admin (.setRateLimit (contractId 9) 50)), sampleIssuance,
    signed 1060 (contractId 1) (.attestation
      (.createAttestation (contractId 1) (contractId 4) (ascii "KYC") none none none))]

theorem rate_limited_sample :
    (run limitedRun).storage.lastIssuanceTime (contractId 1) = some 1060 ∧
      RateLimited limitedRun :=
  ⟨by decide +kernel, rate_limited limitedRun (by
    rw [Chronological]
    decide +kernel)⟩

end Sample

end TrustLink
