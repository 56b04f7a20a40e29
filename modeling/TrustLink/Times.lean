import TrustLink.MultisigProtocol
import TrustLink.RateLimit
import TrustLink.RequestLifecycle
import TrustLink.Warrants

/-!
Times under a clock that does not go back: of stored records, of requests and of
multi-sig proposals.
-/
namespace TrustLink
open Transaction Contract

section Times
variable {Address : Type}

/-- The record was issued by now, and its two bounds lie after its issuance. -/
structure WellTimed (now : Nat) (record : Attestation Address) : Prop where
  issued : record.timestamp ≤ now
  expires : ∀ time, record.expiration = some time → record.timestamp < time
  starts : ∀ time, record.validFrom = some time → record.timestamp < time

/-- The proposal was made by now, and expires seven days after it was made. -/
structure ProposedBy (now : Nat) (proposal : MultiSigProposal Address) : Prop where
  created : proposal.createdAt ≤ now
  expires : proposal.expiresAt = proposal.createdAt + 7 * secsPerDay

/-- Every time in the storage is what it should be at the given ledger time. -/
structure TimesKept (now : Nat) (storage : Storage Address) : Prop where
  records : storage.register.All (WellTimed now)
  requests : ∀ id request, storage.request id = some request →
    request.timestamp ≤ now ∧ request.expiresAt = request.timestamp + 7 * secsPerDay
  proposals : ∀ id proposal, storage.multisigProposal id = some proposal → ProposedBy now proposal

theorem timesKept_empty (now : Nat) : TimesKept now (World.empty Address).storage where
  records := all_empty
  requests _ _ found := nomatch found
  proposals _ _ found := nomatch found

theorem TimesKept.later {early late : Nat} {storage : Storage Address} (passes : early ≤ late)
    (kept : TimesKept early storage) : TimesKept late storage where
  records id record found :=
    { kept.records id record found with
      issued := Nat.le_trans (kept.records id record found).issued passes }
  requests id request found :=
    ⟨Nat.le_trans (kept.requests id request found).1 passes, (kept.requests id request found).2⟩
  proposals id proposal found :=
    { kept.proposals id proposal found with
      created := Nat.le_trans (kept.proposals id proposal found).created passes }

end Times

section Steps
variable {Address : Type} [DecidableEq Address] [Host Address] {before after : World Address}
  {storage : Storage Address} {env : Env Address} {call : Call Address}

/-- An issued record is well timed; the one that completes a proposal has the time of
the proposal. -/
theorem wellTimed_of_warrant {op : Op Address} {record : Attestation Address}
    (proposals : ∀ id proposal, storage.multisigProposal id = some proposal →
      ProposedBy env.timestamp proposal)
    (warrant : Warrant storage env op (.issue record)) : WellTimed env.timestamp record := by
  cases warrant with
  | createAttestation built checks =>
      subst built
      exact ⟨Nat.le_refl _, fun time given => checks.expires time given, nofun⟩
  | createAttestationValidFrom built checks =>
      subst built
      exact ⟨Nat.le_refl _, fun time given => checks.expires time given,
        fun time given => checks.starts time given⟩
  | createAttestationJurisdiction built checks =>
      subst built
      exact ⟨Nat.le_refl _, fun time given => checks.expires time given, nofun⟩
  | importAttestation built checks =>
      subst built
      exact ⟨checks.past, fun time given => checks.expires time given, nofun⟩
  | bridgeAttestation built checks =>
      subst built
      exact ⟨Nat.le_refl _, nofun, nofun⟩
  | createAttestationsBatch built member checks =>
      subst built
      exact ⟨Nat.le_refl _, fun time given => checks.expires time given, nofun⟩
  | createAttestationAsDelegate built checks =>
      subst built
      exact ⟨Nat.le_refl _, fun time given => checks.expires time given, nofun⟩
  | fulfillRequest built checks =>
      subst built
      exact ⟨Nat.le_refl _, fun time given => checks.expires time given, nofun⟩
  | proposeAttestation built =>
      subst built
      exact ⟨Nat.le_refl _, nofun, nofun⟩
  | cosignAttestation built checks =>
      subst built
      exact ⟨(proposals _ _ checks.found).created, nofun, nofun⟩

/-- A new expiration lies after the present, and so after the issuance. -/
theorem wellTimed_written {op : Op Address} {change : Change Address}
    {record : Attestation Address} (warrant : Warrant storage env op change)
    (base : change.base = some record) (timed : WellTimed env.timestamp record) :
    WellTimed env.timestamp change.written := by
  cases warrant with
  | renewAttestation managed future | updateExpiration managed future =>
      obtain rfl := Option.some.inj base
      exact ⟨timed.issued, fun time given => Nat.lt_of_le_of_lt timed.issued (future time given),
        timed.starts⟩
  | revokeAttestation | revokeAttestationsBatch | transferAttestation | requestDeletion =>
      obtain rfl := Option.some.inj base
      exact ⟨timed.issued, timed.expires, timed.starts⟩
  | _ => cases base

omit [DecidableEq Address] in
theorem submitted_now {request : AttestationRequest Address}
    (submits : call.move? storage = some (.submit request)) :
    request.timestamp = call.env.timestamp ∧
      request.expiresAt = call.env.timestamp + 7 * secsPerDay := by
  obtain ⟨env, op⟩ := call
  cases op with
  | request op =>
      cases op with
      | requestAttestation subject issuer claimType =>
          obtain rfl := Move.submit.inj (Option.some.inj submits)
          exact ⟨rfl, rfl⟩
      | _ => simp [Call.move?] at submits
  | _ => cases submits

/-- A request keeps the times it was submitted with. -/
theorem requests_timed (sound : before.storage.book.Sound)
    (kept : TimesKept call.env.timestamp before.storage) (accepted : Accepted before call after)
    {id : Str} {request : AttestationRequest Address}
    (found : after.storage.request id = some request) :
    request.timestamp ≤ call.env.timestamp ∧
      request.expiresAt = request.timestamp + 7 * secsPerDay := by
  rcases request_of_accepted sound accepted found with ⟨old, known, same⟩ | submits
  · rw [same.timestamp, same.expiresAt]
    exact kept.requests id old known
  · obtain ⟨time, expires⟩ := submitted_now submits
    exact ⟨Nat.le_of_eq time, by rw [time, expires]⟩

/-- A co-signature leaves the times of its proposal alone. -/
theorem proposals_timed (kept : TimesKept call.env.timestamp before.storage)
    (accepted : Accepted before call after) {id : Str} {proposal : MultiSigProposal Address}
    (found : after.storage.multisigProposal id = some proposal) :
    ProposedBy call.env.timestamp proposal := by
  cases proposalStep_of_accepted accepted with
  | kept call same => exact kept.proposals id proposal (same ▸ found)
  | propose env proposer subject claimType requiredSigners threshold proposable left =>
      rw [left, Function.update_apply] at found
      split at found
      · obtain rfl := Option.some.inj found
        exact ⟨Nat.le_refl _, rfl⟩
      · exact kept.proposals id proposal found
  | cosign env issuer proposalId loaded cosignable left =>
      rw [left, Function.update_apply] at found
      split at found
      · obtain rfl := Option.some.inj found
        have timed := kept.proposals proposalId loaded cosignable.found
        exact ⟨timed.created, timed.expires⟩
      · exact kept.proposals id proposal found

theorem timesKept_of_accepted (keyed : Keyed before.storage.register)
    (sound : before.storage.book.Sound) (kept : TimesKept call.env.timestamp before.storage)
    (accepted : Accepted before call after) : TimesKept call.env.timestamp after.storage where
  records := all_of_accepted keyed kept.records accepted
    (fun _ member => wellTimed_of_warrant kept.proposals (warrant_of_accepted accepted member))
    (fun _ member _ base timed => wellTimed_written (warrant_of_accepted accepted member) base timed)
  requests _ _ found := requests_timed sound kept accepted found
  proposals _ _ found := proposals_timed kept accepted found

/-- A request that was not there is one submitted now. -/
theorem requested_now (sound : before.storage.book.Sound) (accepted : Accepted before call after)
    {id : Str} {request : AttestationRequest Address} (fresh : before.storage.request id = none)
    (found : after.storage.request id = some request) :
    request.timestamp = call.env.timestamp := by
  rcases request_of_accepted sound accepted found with ⟨old, known, -⟩ | submits
  · exact absurd (fresh.symm.trans known) nofun
  · exact (submitted_now submits).1

theorem proposed_now (signed : ProposalsSigned before.storage)
    (accepted : Accepted before call after) {id : Str} {proposal : MultiSigProposal Address}
    (fresh : before.storage.multisigProposal id = none)
    (found : after.storage.multisigProposal id = some proposal) :
    proposal.createdAt = call.env.timestamp := by
  cases proposalStep_of_accepted accepted with
  | kept call same =>
      rw [same, fresh] at found
      cases found
  | propose env proposer subject claimType requiredSigners threshold proposable left =>
      rw [left, Function.update_apply] at found
      split at found
      · obtain rfl := Option.some.inj found
        rfl
      · exact absurd (fresh.symm.trans found) nofun
  | cosign env issuer proposalId loaded cosignable left =>
      rw [left, Function.update_apply] at found
      split at found
      · rename_i here
        -- the co-signed proposal was there, under its own id
        rw [here, (signed _ _ cosignable.found).own] at fresh
        exact absurd (fresh.symm.trans cosignable.found) nofun
      · exact absurd (fresh.symm.trans found) nofun

end Steps

section Runs
variable {Address : Type} [DecidableEq Address] [Host Address]

/-- The times of a run: what is stored in each of its states has proper times, and
what was created carries the ledger time of its creation. -/
structure WellFormedTimes (calls : List (Call Address)) : Prop where
  kept : ∀ early late, calls = early ++ late → ∀ now,
    (∀ call ∈ early, call.env.timestamp ≤ now) → TimesKept now (run early).storage
  requested : ∀ early call late, calls = early ++ call :: late → ∀ id request,
    (run early).storage.request id = none →
    (step (run early) call).storage.request id = some request →
      request.timestamp = call.env.timestamp
  proposed : ∀ early call late, calls = early ++ call :: late → ∀ id proposal,
    (run early).storage.multisigProposal id = none →
    (step (run early) call).storage.multisigProposal id = some proposal →
      proposal.createdAt = call.env.timestamp

theorem timesKept_run {calls : List (Call Address)} (ordered : Chronological calls) {now : Nat}
    (past : ∀ call ∈ calls, call.env.timestamp ≤ now) : TimesKept now (run calls).storage := by
  let invariant (time : Nat) (world : World Address) : Prop :=
    Keyed world.storage.register ∧ world.storage.book.Sound ∧ TimesKept time world.storage
  refine (@Trace.invariant_of_clock _ _ step Nat _ (·.env.timestamp) invariant ?_ ?_
    (World.empty Address) ?_ calls (List.pairwise_map.mp ordered) now past).2.2
  · exact fun early late world passes holds => ⟨holds.1, holds.2.1, holds.2.2.later passes⟩
  · rintro world call ⟨keyed, sound, kept⟩
    rcases step_cases world call with accepted | same
    · exact ⟨keyed_of_accepted keyed accepted,
        ((turns_of_accepted sound accepted).keeps sound).1,
        timesKept_of_accepted keyed sound kept accepted⟩
    · rw [same]
      exact ⟨keyed, sound, kept⟩
  · exact fun time => ⟨keyed_empty, sound_empty, timesKept_empty time⟩

theorem times_well_formed (calls : List (Call Address)) (ordered : Chronological calls) :
    WellFormedTimes calls where
  kept := by
    rintro early late rfl now past
    rw [Chronological, List.map_append] at ordered
    exact timesKept_run (List.pairwise_append.mp ordered).1 past
  requested := by
    intro early call late split id request fresh found
    rcases step_cases (run early) call with accepted | same
    · exact requested_now (book_sound early) accepted fresh found
    · rw [same, fresh] at found
      cases found
  proposed := by
    intro early call late split id proposal fresh found
    rcases step_cases (run early) call with accepted | same
    · exact proposed_now (proposals_signed_run early) accepted fresh found
    · rw [same, fresh] at found
      cases found

end Runs

section Sample
open Xdr

/-- Issuer 1 issues KYC and extends it, and proposes it again, which both issuers sign. -/
def timedRun : List (Call ContractId) :=
  sampleDeployment ++ [sampleIssuance,
    signed 1001 (contractId 1)
      (.attestation (.renewAttestation (contractId 1) sampleId (some 2000))),
    signed 1001 (contractId 2)
      (.request (.requestAttestation (contractId 2) (contractId 3) (ascii "KYC"))),
    signed 1001 (contractId 1) (.multisig (.proposeAttestation (contractId 1) (contractId 2)
      (ascii "AML") [contractId 1, contractId 3] 2))]

theorem times_well_formed_sample :
    Chronological timedRun ∧ WellFormedTimes timedRun ∧
      ((run timedRun).storage.attestation sampleId).map
        (fun record => (record.timestamp, record.expiration)) = some (1000, some 2000) := by
  have ordered : Chronological timedRun := by
    rw [Chronological]
    decide
  exact ⟨ordered, times_well_formed timedRun ordered, by decide +kernel⟩

end Sample

end TrustLink
