import Mathlib.Data.List.Induction
import TrustLink.Frame

/-!
The admin council over whole runs: when it stays manned, and when an accepted
hand-over was proposed by a sitting admin. Both hold up to calls that take a
seat which is still needed.
-/
namespace TrustLink
open Transaction Contract

section Seats
variable {Address : Type} [DecidableEq Address]

theorem mem_seated (admin other : Address) (council : Option (List Address)) :
    other ∈ (Storage.seated admin council).getD [] ↔ other ∈ council.getD [] ∨ other = admin := by
  by_cases member : admin ∈ council.getD []
  · simp only [Storage.seated, member, ↓reduceIte]
    exact ⟨.inl, fun either => either.elim id fun same => same ▸ member⟩
  · simp [Storage.seated, member]

theorem mem_handedOver (oldAdmin newAdmin other : Address) (council : Option (List Address)) :
    other ∈ (handedOver oldAdmin newAdmin council).getD [] ↔
      (other ∈ council.getD [] ∨ other = newAdmin) ∧ other ≠ oldAdmin := by
  rw [handedOver, Option.getD_some, List.mem_filter, mem_seated, decide_eq_true_iff]

end Seats

section Manned
variable {Address : Type} [DecidableEq Address] [Host Address]

/-- The call is an `initialize` that succeeds. -/
def Initializes (world : World Address) (call : Call Address) : Prop :=
  ∃ admin ttlDays, call.op = .council (.initializeContract admin ttlDays) ∧
    Accepted world call (step world call)

omit [Host Address] in
/-- The call passes every check and takes the seat of the only admin there is. -/
def TakesLastSeat (storage : Storage Address) (call : Call Address) : Prop :=
  match call.op with
  | .council (.transferAdmin currentAdmin newAdmin) =>
      currentAdmin ∈ call.env.auths ∧ TtlFits storage.ttlConfig ∧
        currentAdmin ∈ storage.council ∧ newAdmin = currentAdmin ∧
        ∀ member ∈ storage.council, member = currentAdmin
  | .council (.acceptAdminTransfer newAdmin) =>
      newAdmin ∈ call.env.auths ∧ TtlFits storage.ttlConfig ∧
        storage.pendingAdminTransfer = some ⟨newAdmin, newAdmin⟩ ∧
        ∀ member ∈ storage.council, member = newAdmin
  | .council (.removeAdmin existingAdmin adminToRemove) =>
      existingAdmin ∈ call.env.auths ∧ TtlFits storage.ttlConfig ∧
        existingAdmin ∈ storage.council ∧ 1 < storage.council.length ∧
        ∀ member ∈ storage.council, member = adminToRemove
  | _ => False

variable {before after : World Address} {call : Call Address}

/-- Only the council operations touch the council. -/
theorem council_of_other (other : ∀ op, call.op ≠ .council op) (accepted : Accepted before call after) :
    after.storage.adminCouncil = before.storage.adminCouncil ∧
      after.storage.pendingAdminTransfer = before.storage.pendingAdminTransfer := by
  obtain ⟨env, op⟩ := call
  cases op with
  | attestation op => exact ⟨(op.frame accepted).1, (op.frame accepted).2.1⟩
  | request op => exact ⟨(op.frame accepted).1, (op.frame accepted).2.1⟩
  | multisig op => exact op.frame accepted
  | council op => exact absurd rfl (other op)
  | admin op =>
      have kept := op.administers accepted
      exact ⟨kept.adminCouncil, kept.pendingAdminTransfer⟩

theorem council_manned (manned : before.storage.council ≠ [])
    (passed : ¬ TakesLastSeat before.storage call) (accepted : Accepted before call after) :
    after.storage.council ≠ [] := by
  obtain ⟨env, op⟩ := call
  cases op with
  | council op =>
      cases op with
      | initializeContract admin ttlDays =>
          obtain ⟨⟨-, empty, -⟩, rfl⟩ := (returns_initializeContract ..).mp accepted
          exact absurd empty manned
      | transferAdmin currentAdmin newAdmin =>
          obtain ⟨⟨auth, member, ttl⟩, rfl⟩ := (returns_transferAdmin ..).mp accepted
          -- the new seat is lost again when both addresses are the same
          by_cases other : newAdmin = currentAdmin
          · have rest : ¬ ∀ member ∈ before.storage.council, member = currentAdmin :=
              fun all => passed ⟨auth, ttl, member, other, all⟩
            push Not at rest
            obtain ⟨stays, seated, distinct⟩ := rest
            exact List.ne_nil_of_mem ((mem_handedOver ..).mpr ⟨.inl seated, distinct⟩)
          · exact List.ne_nil_of_mem ((mem_handedOver ..).mpr ⟨.inr rfl, other⟩)
      | proposeAdminTransfer currentAdmin newAdmin =>
          obtain ⟨-, rfl⟩ := (returns_proposeAdminTransfer ..).mp accepted
          exact manned
      | cancelAdminTransfer currentAdmin =>
          obtain ⟨pending, -, rfl⟩ := (returns_cancelAdminTransfer ..).mp accepted
          exact manned
      | acceptAdminTransfer newAdmin =>
          obtain ⟨⟨proposedBy, named⟩, ⟨auth, found, rfl, ttl⟩, rfl⟩ :=
            (returns_acceptAdminTransfer ..).mp accepted
          by_cases other : named = proposedBy
          · subst other
            have rest : ¬ ∀ member ∈ before.storage.council, member = named :=
              fun all => passed ⟨auth, ttl, found, all⟩
            push Not at rest
            obtain ⟨stays, seated, distinct⟩ := rest
            exact List.ne_nil_of_mem ((mem_handedOver ..).mpr ⟨.inl seated, distinct⟩)
          · exact List.ne_nil_of_mem ((mem_handedOver ..).mpr ⟨.inr rfl, other⟩)
      | addAdmin existingAdmin newAdmin =>
          obtain ⟨-, ⟨-, rfl⟩ | ⟨-, -, rfl⟩⟩ := (returns_addAdmin ..).mp accepted
          · exact manned
          · simp [Storage.council]
      | removeAdmin existingAdmin adminToRemove =>
          obtain ⟨⟨auth, member, many⟩, ⟨-, rfl⟩ | ⟨-, ttl, rfl⟩⟩ :=
            (returns_removeAdmin ..).mp accepted
          · exact manned
          · have rest : ¬ ∀ member ∈ before.storage.council, member = adminToRemove :=
              fun all => passed ⟨auth, ttl, member, many, all⟩
            push Not at rest
            obtain ⟨stays, seated, distinct⟩ := rest
            exact List.ne_nil_of_mem
              (List.mem_filter.mpr ⟨seated, decide_eq_true_iff.mpr distinct⟩)
      | initCouncil admin members quorum =>
          obtain ⟨⟨-, -, positive, enough, -⟩, rfl⟩ := (returns_initCouncil ..).mp accepted
          exact List.ne_nil_of_length_pos (Nat.lt_of_lt_of_le positive enough)
  | _ =>
      have kept := council_of_other (by simp) accepted
      rw [Storage.council, kept.1]
      exact manned

/-- The call that takes the last seat is accepted and leaves no council. -/
theorem council_empty (takes : TakesLastSeat before.storage call) :
    (step before call).storage.council = [] := by
  obtain ⟨env, op⟩ := call
  cases op with
  | council op =>
      cases op with
      | transferAdmin currentAdmin newAdmin =>
          obtain ⟨auth, ttl, member, rfl, all⟩ := takes
          have accepted : Accepted before ⟨env, .council (.transferAdmin newAdmin newAdmin)⟩ _ :=
            (returns_transferAdmin ..).mpr ⟨⟨auth, member, ttl⟩, rfl⟩
          rw [step_of_accepted accepted]
          refine List.eq_nil_iff_forall_not_mem.mpr fun other seated => ?_
          obtain ⟨either, distinct⟩ := (mem_handedOver ..).mp seated
          exact distinct (either.elim (all other) id)
      | acceptAdminTransfer newAdmin =>
          obtain ⟨auth, ttl, found, all⟩ := takes
          have accepted : Accepted before ⟨env, .council (.acceptAdminTransfer newAdmin)⟩ _ :=
            (returns_acceptAdminTransfer ..).mpr ⟨_, ⟨auth, found, rfl, ttl⟩, rfl⟩
          rw [step_of_accepted accepted]
          refine List.eq_nil_iff_forall_not_mem.mpr fun other seated => ?_
          obtain ⟨either, distinct⟩ := (mem_handedOver ..).mp seated
          exact distinct (either.elim (all other) id)
      | removeAdmin existingAdmin adminToRemove =>
          obtain ⟨auth, ttl, member, many, all⟩ := takes
          have removed : adminToRemove ∈ before.storage.council := all _ member ▸ member
          have accepted : Accepted before
              ⟨env, .council (.removeAdmin existingAdmin adminToRemove)⟩ _ :=
            (returns_removeAdmin ..).mpr ⟨⟨auth, member, many⟩, .inr ⟨removed, ttl, rfl⟩⟩
          rw [step_of_accepted accepted]
          refine List.filter_eq_nil_iff.mpr fun other seated => ?_
          simp [all other seated]
      | _ => cases takes
  | _ => cases takes

/-- Without a council and a pending hand-over only `initialize` changes either. -/
theorem council_unmanned (unmanned : before.storage.council = [])
    (nothing : before.storage.pendingAdminTransfer = none)
    (other : ∀ admin ttlDays, call.op ≠ .council (.initializeContract admin ttlDays))
    (accepted : Accepted before call after) :
    after.storage.council = [] ∧ after.storage.pendingAdminTransfer = none := by
  obtain ⟨env, op⟩ := call
  cases op with
  | council op =>
      cases op with
      | initializeContract admin ttlDays => exact absurd rfl (other admin ttlDays)
      | transferAdmin currentAdmin newAdmin =>
          obtain ⟨⟨-, member, -⟩, -⟩ := (returns_transferAdmin ..).mp accepted
          exact absurd member (unmanned ▸ List.not_mem_nil)
      | proposeAdminTransfer currentAdmin newAdmin =>
          obtain ⟨⟨-, member, -⟩, -⟩ := (returns_proposeAdminTransfer ..).mp accepted
          exact absurd member (unmanned ▸ List.not_mem_nil)
      | cancelAdminTransfer currentAdmin =>
          obtain ⟨pending, ⟨-, member, -⟩, -⟩ := (returns_cancelAdminTransfer ..).mp accepted
          exact absurd member (unmanned ▸ List.not_mem_nil)
      | acceptAdminTransfer newAdmin =>
          obtain ⟨pending, ⟨-, found, -⟩, -⟩ := (returns_acceptAdminTransfer ..).mp accepted
          simp [nothing] at found
      | addAdmin existingAdmin newAdmin =>
          obtain ⟨⟨-, member⟩, -⟩ := (returns_addAdmin ..).mp accepted
          exact absurd member (unmanned ▸ List.not_mem_nil)
      | removeAdmin existingAdmin adminToRemove =>
          obtain ⟨⟨-, member, -⟩, -⟩ := (returns_removeAdmin ..).mp accepted
          exact absurd member (unmanned ▸ List.not_mem_nil)
      | initCouncil admin members quorum =>
          obtain ⟨⟨-, member, -⟩, -⟩ := (returns_initCouncil ..).mp accepted
          exact absurd member (unmanned ▸ List.not_mem_nil)
  | _ =>
      have kept := council_of_other (by simp) accepted
      exact ⟨by rw [Storage.council, kept.1]; exact unmanned, kept.2.trans nothing⟩

theorem manned_of_initializes {world : World Address} (first : Initializes world call) :
    (step world call).storage.council ≠ [] := by
  obtain ⟨admin, ttlDays, op, accepted⟩ := first
  obtain ⟨env, _⟩ := call
  subst op
  obtain ⟨-, left⟩ := (returns_initializeContract ..).mp accepted
  rw [left]
  simp [Storage.council]

end Manned

section Runs
variable {Address : Type} [DecidableEq Address] [Host Address]

/-- A council or a pending hand-over goes back to a successful `initialize`. -/
theorem initialized_of_manned (calls : List (Call Address))
    (manned : (run calls).storage.council ≠ [] ∨
      (run calls).storage.pendingAdminTransfer ≠ none) :
    ∃ early call late, calls = early ++ call :: late ∧ Initializes (run early) call := by
  induction calls using List.reverseRecOn with
  | nil => simp [run, runFrom, World.empty, Storage.empty, Storage.council] at manned
  | append_singleton calls call ih =>
      by_cases first : Initializes (run calls) call
      · exact ⟨calls, call, [], rfl, first⟩
      have earlier : (run calls).storage.council ≠ [] ∨
          (run calls).storage.pendingAdminTransfer ≠ none := by
        by_contra neither
        push Not at neither
        rw [run_concat] at manned
        rcases step_cases (run calls) call with accepted | same
        · obtain ⟨empty, nothing⟩ := council_unmanned neither.1 neither.2
            (fun admin ttlDays op => first ⟨admin, ttlDays, op, accepted⟩) accepted
          exact manned.elim (absurd empty) (absurd nothing)
        · rw [same] at manned
          exact manned.elim (absurd neither.1) (absurd neither.2)
      obtain ⟨early, begun, late, rfl, initializes⟩ := ih earlier
      exact ⟨early, begun, late ++ [call], by simp, initializes⟩

/-- After a successful `initialize` there is a council in every state of the
run, and no second `initialize` succeeds. -/
structure CouncilKept (calls : List (Call Address)) : Prop where
  manned : ∀ early call late rest, calls = early ++ call :: late ++ rest →
    Initializes (run early) call → (run (early ++ call :: late)).storage.council ≠ []
  once : ∀ early first late second rest, calls = early ++ first :: late ++ second :: rest →
    Initializes (run early) first → ¬ Initializes (run (early ++ first :: late)) second

theorem run_split (early : List (Call Address)) (call : Call Address)
    (late : List (Call Address)) :
    run (early ++ call :: late) = runFrom (step (run early) call) late :=
  Trace.run_append step (World.empty Address) early (call :: late)

/-- The council stays manned in exactly the runs in which no call takes the
last seat. -/
theorem council_kept_iff (calls : List (Call Address)) :
    CouncilKept calls ↔
      Trace.Each step (fun world call => ¬ TakesLastSeat world.storage call) (World.empty Address)
        calls := by
  constructor
  · intro kept
    rw [Trace.each_iff]
    intro early call late split takes
    -- a call that takes the last seat needs a council, or a hand-over one has proposed
    have needed : (run early).storage.council ≠ [] ∨
        (run early).storage.pendingAdminTransfer ≠ none := by
      obtain ⟨env, op⟩ := call
      cases op with
      | council op =>
          cases op with
          | transferAdmin currentAdmin newAdmin => exact .inl (List.ne_nil_of_mem takes.2.2.1)
          | acceptAdminTransfer newAdmin => exact .inr (takes.2.2.1 ▸ Option.some_ne_none _)
          | removeAdmin existingAdmin adminToRemove =>
              exact .inl (List.ne_nil_of_mem takes.2.2.1)
          | _ => cases takes
      | _ => cases takes
    obtain ⟨start, first, middle, rfl, initializes⟩ := initialized_of_manned early needed
    refine kept.manned start first (middle ++ [call]) late (by rw [split]; simp) initializes ?_
    rw [← List.cons_append, ← List.append_assoc, run_concat]
    exact council_empty takes
  · intro guarded
    have manned : ∀ early call late rest, calls = early ++ call :: late ++ rest →
        Initializes (run early) call → (run (early ++ call :: late)).storage.council ≠ [] := by
      intro early call late rest split first
      rw [split] at guarded
      obtain ⟨-, -, passed⟩ := Trace.each_append.mp (Trace.each_append.mp guarded).1
      have keeps : ∀ (world : World Address) (next : Call Address),
          world.storage.council ≠ [] → ¬ TakesLastSeat world.storage next →
            (step world next).storage.council ≠ [] := by
        intro world next holds allowed
        rcases step_cases world next with accepted | same
        · exact council_manned holds allowed accepted
        · rw [same]
          exact holds
      rw [run_split]
      exact Trace.invariant_of_each keeps (manned_of_initializes first) passed
    refine ⟨manned, fun early first late second rest split initializes again => ?_⟩
    obtain ⟨admin, ttlDays, op, accepted⟩ := again
    obtain ⟨env, _⟩ := second
    subst op
    obtain ⟨⟨-, empty, -⟩, -⟩ := (returns_initializeContract ..).mp accepted
    exact manned early first late _ split initializes empty

end Runs

section Proposers
variable {Address : Type} [DecidableEq Address] [Host Address] {before after : World Address}
  {call : Call Address}

omit [Host Address] in
/-- The call passes every check and takes the seat of the admin whose hand-over
is pending, which stays pending. -/
def StrandsProposer (storage : Storage Address) (call : Call Address) : Prop :=
  ∃ pending, storage.pendingAdminTransfer = some pending ∧
    match call.op with
    | .council (.transferAdmin currentAdmin _) =>
        currentAdmin ∈ call.env.auths ∧ TtlFits storage.ttlConfig ∧
          currentAdmin = pending.proposedBy
    | .council (.removeAdmin existingAdmin adminToRemove) =>
        existingAdmin ∈ call.env.auths ∧ TtlFits storage.ttlConfig ∧
          existingAdmin ∈ storage.council ∧ 1 < storage.council.length ∧
          adminToRemove = pending.proposedBy
    | .council (.initCouncil admin members quorum) =>
        admin ∈ call.env.auths ∧ TtlFits storage.ttlConfig ∧ admin ∈ storage.council ∧
          0 < quorum ∧ quorum ≤ members.length ∧ pending.proposedBy ∉ members
    | _ => False

/-- The proposer of a pending hand-over sits in the council. -/
def ProposerSeated (storage : Storage Address) : Prop :=
  ∀ pending, storage.pendingAdminTransfer = some pending → pending.proposedBy ∈ storage.council

theorem proposer_seated (seated : ProposerSeated before.storage)
    (passed : ¬ StrandsProposer before.storage call) (accepted : Accepted before call after) :
    ProposerSeated after.storage := by
  obtain ⟨env, op⟩ := call
  cases op with
  | council op =>
      cases op with
      | initializeContract admin ttlDays =>
          obtain ⟨⟨-, empty, -⟩, rfl⟩ := (returns_initializeContract ..).mp accepted
          intro pending found
          exact absurd (seated pending found) (empty ▸ List.not_mem_nil)
      | transferAdmin currentAdmin newAdmin =>
          obtain ⟨⟨auth, member, ttl⟩, rfl⟩ := (returns_transferAdmin ..).mp accepted
          intro pending found
          -- the proposer loses the seat only by handing it over now
          refine (mem_handedOver ..).mpr ⟨.inl (seated pending found), fun same => ?_⟩
          exact passed ⟨pending, found, auth, ttl, same.symm⟩
      | proposeAdminTransfer currentAdmin newAdmin =>
          obtain ⟨⟨-, member, -⟩, rfl⟩ := (returns_proposeAdminTransfer ..).mp accepted
          intro pending found
          obtain rfl := Option.some.inj found
          exact member
      | cancelAdminTransfer currentAdmin =>
          obtain ⟨_, -, rfl⟩ := (returns_cancelAdminTransfer ..).mp accepted
          intro pending found
          cases found
      | acceptAdminTransfer newAdmin =>
          obtain ⟨_, -, rfl⟩ := (returns_acceptAdminTransfer ..).mp accepted
          intro pending found
          cases found
      | addAdmin existingAdmin newAdmin =>
          obtain ⟨-, ⟨-, rfl⟩ | ⟨-, -, rfl⟩⟩ := (returns_addAdmin ..).mp accepted
          · exact seated
          · intro pending found
            exact List.mem_append_left _ (seated pending found)
      | removeAdmin existingAdmin adminToRemove =>
          obtain ⟨⟨auth, member, many⟩, ⟨-, rfl⟩ | ⟨-, ttl, rfl⟩⟩ :=
            (returns_removeAdmin ..).mp accepted
          · exact seated
          · intro pending found
            refine List.mem_filter.mpr ⟨seated pending found, decide_eq_true_iff.mpr fun same => ?_⟩
            exact passed ⟨pending, found, auth, ttl, member, many, same.symm⟩
      | initCouncil admin members quorum =>
          obtain ⟨⟨auth, member, positive, enough, ttl⟩, rfl⟩ :=
            (returns_initCouncil ..).mp accepted
          intro pending found
          by_contra absent
          exact passed ⟨pending, found, auth, ttl, member, positive, enough, absent⟩
  | _ =>
      have kept := council_of_other (by simp) accepted
      intro pending found
      rw [Storage.council, kept.1]
      exact seated pending (kept.2.symm.trans found)

/-- Once a call has stranded the proposer, the hand-over can still be accepted. -/
theorem stranded_acceptance {pending : PendingAdminTransfer Address}
    {env : Env Address} (found : before.storage.pendingAdminTransfer = some pending)
    (auth : pending.newAdmin ∈ env.auths) (ttl : TtlFits before.storage.ttlConfig)
    (moved : pending.newAdmin ≠ pending.proposedBy) :
    ∃ after, Accepted before ⟨env, .council (.acceptAdminTransfer pending.newAdmin)⟩ after ∧
      pending.newAdmin ∈ after.storage.council :=
  ⟨_, (returns_acceptAdminTransfer ..).mpr ⟨pending, ⟨auth, found, rfl, ttl⟩, rfl⟩,
    (mem_handedOver ..).mpr ⟨.inr rfl, moved⟩⟩

/-- Whoever joins the council by accepting a hand-over was proposed by someone
who is an admin at that moment. -/
def GrantedByAdmin (calls : List (Call Address)) : Prop :=
  ∀ early call late newAdmin, calls = early ++ call :: late →
    call.op = .council (.acceptAdminTransfer newAdmin) →
    Accepted (run early) call (step (run early) call) →
    newAdmin ∉ (run early).storage.council →
    newAdmin ∈ (step (run early) call).storage.council →
      ∃ pending, (run early).storage.pendingAdminTransfer = some pending ∧
        pending.proposedBy ∈ (run early).storage.council

/-- Admin rights come from an admin in every run in which no call takes the seat
of the proposer while the hand-over is pending. -/
theorem granted_by_admin {calls : List (Call Address)}
    (guarded : Trace.Each step (fun world call => ¬ StrandsProposer world.storage call)
      (World.empty Address) calls) : GrantedByAdmin calls := by
  intro early call late newAdmin split op accepted _ _
  rw [split] at guarded
  have seated : ProposerSeated (run early).storage := by
    refine invariant_of_guarded_run (fun pending found => ?_) (fun before call after holds passed =>
      proposer_seated holds passed) (Trace.each_append.mp guarded).1
    simp [World.empty, Storage.empty] at found
  obtain ⟨env, _⟩ := call
  subst op
  obtain ⟨pending, ⟨-, found, -⟩, -⟩ := (returns_acceptAdminTransfer ..).mp accepted
  exact ⟨pending, found, seated pending found⟩

end Proposers

section Samples
open Xdr

/-- Admin 9 hands its seat to contract 4. -/
def handingRun : List (Call ContractId) := [
  signed 900 (contractId 9) (.council (.initializeContract (contractId 9) none)),
  signed 901 (contractId 9) (.council (.proposeAdminTransfer (contractId 9) (contractId 4))),
  signed 902 (contractId 4) (.council (.acceptAdminTransfer (contractId 4)))]

theorem granted_by_admin_sample :
    (run handingRun).storage.council = [contractId 4] ∧ GrantedByAdmin handingRun := by
  refine ⟨by decide +kernel, granted_by_admin ⟨?_, ?_, ?_, trivial⟩⟩ <;>
    exact fun ⟨_, _, stranded⟩ => stranded

/-- The only admin transfers its seat to itself, and a stranger initializes. -/
def abdicatingRun : List (Call ContractId) := [
  signed 900 (contractId 9) (.council (.initializeContract (contractId 9) none)),
  signed 901 (contractId 9) (.council (.transferAdmin (contractId 9) (contractId 9))),
  signed 902 (contractId 4) (.council (.initializeContract (contractId 4) none))]

theorem self_transfer_empties_council :
    (run (abdicatingRun.take 2)).storage.council = [] ∧
      (run abdicatingRun).storage.council = [contractId 4] ∧ ¬ CouncilKept abdicatingRun := by
  have empty : (run (abdicatingRun.take 2)).storage.council = [] := by decide +kernel
  have taken : (run abdicatingRun).storage.council = [contractId 4] := by decide +kernel
  refine ⟨empty, taken, fun kept => ?_⟩
  refine kept.manned [] _ [_] [_] rfl ⟨contractId 9, none, rfl, ?_⟩ empty
  exact (returns_initializeContract ..).mpr ⟨by decide +kernel, rfl⟩

/-- Admin 5 proposes a hand-over to contract 4 and is removed; contract 4 accepts. -/
def strandingRun : List (Call ContractId) := [
  signed 900 (contractId 9) (.council (.initializeContract (contractId 9) none)),
  signed 901 (contractId 9) (.council (.addAdmin (contractId 9) (contractId 5))),
  signed 902 (contractId 5) (.council (.proposeAdminTransfer (contractId 5) (contractId 4))),
  signed 903 (contractId 9) (.council (.removeAdmin (contractId 9) (contractId 5))),
  signed 904 (contractId 4) (.council (.acceptAdminTransfer (contractId 4)))]

theorem removed_proposer_grants_admin :
    (run (strandingRun.take 4)).storage.council = [contractId 9] ∧
      (run strandingRun).storage.council = [contractId 9, contractId 4] ∧
      ¬ GrantedByAdmin strandingRun := by
  have early : (run (strandingRun.take 4)).storage.council = [contractId 9] := by decide +kernel
  have final : (run strandingRun).storage.council = [contractId 9, contractId 4] := by
    decide +kernel
  have proposed : (run (strandingRun.take 4)).storage.pendingAdminTransfer =
      some ⟨contractId 5, contractId 4⟩ := by decide +kernel
  have auth : contractId 4 ∈ (signed 904 (contractId 4)
      (.council (.acceptAdminTransfer (contractId 4)))).env.auths := by decide
  have ttl : TtlFits (run (strandingRun.take 4)).storage.ttlConfig := by decide +kernel
  obtain ⟨after, accepted, -⟩ := stranded_acceptance proposed auth ttl (by decide)
  rw [← step_of_accepted accepted] at accepted
  refine ⟨early, final, fun granted => ?_⟩
  obtain ⟨pending, found, seated⟩ := granted (strandingRun.take 4) _ [] (contractId 4) rfl rfl
    accepted (by rw [early]; decide) (by
      show contractId 4 ∈ (run strandingRun).storage.council
      rw [final]
      decide)
  obtain rfl := Option.some.inj (proposed.symm.trans found)
  rw [early] at seated
  revert seated
  decide

end Samples

end TrustLink
