import TrustLink.History
import TrustLink.IssuerList
import TrustLink.Settings
import TrustLink.SubjectChecks
import TrustLink.Warrants

/-!
Where records come from. The registries of issuers and of bridges stay apart, and a
stored record goes back to the call that stored it, which its origin names.
-/
namespace TrustLink
open Transaction Contract

section Roles
variable {Address : Type}

/-- No address is registered in both roles. -/
def RolesApart (storage : Storage Address) : Prop :=
  ∀ address, ¬ (storage.issuer address = true ∧ storage.bridge address = true)

variable [DecidableEq Address] [Host Address] {before after : World Address} {call : Call Address}

/-- A new issuer is registered by its operation, which asks for a bridge. -/
theorem issuer_of_accepted (accepted : Accepted before call after) {address : Address}
    (registered : after.storage.issuer address = true) :
    before.storage.issuer address = true ∨
      before.storage.bridge address = false ∧
        ∃ admin, call.op = .admin (.registerIssuer admin address) := by
  by_cases other : ∀ op, call.op = .admin op → ¬ op.Staffs
  · rw [(registriesKept_of_accepted accepted other).1.issuer] at registered
    exact .inl registered
  obtain ⟨env, op⟩ := call
  push Not at other
  obtain ⟨op, rfl, staffs⟩ := other
  cases staffs with
  | registerIssuer admin issuer =>
      obtain ⟨checks, rfl⟩ := (returns_registerIssuer ..).mp accepted
      by_cases here : address = issuer
      · subst here
        exact .inr ⟨checks.native, admin, rfl⟩
      · exact .inl ((Function.update_of_ne here _ _).symm.trans registered)
  | removeIssuer admin issuer =>
      obtain ⟨-, rfl⟩ := (returns_removeIssuer ..).mp accepted
      by_cases here : address = issuer
      · simp [here] at registered
      · exact .inl ((Function.update_of_ne here _ _).symm.trans registered)
  | proposeCouncilAction proposer operation =>
      obtain ⟨id, accepted⟩ := (returns_void ..).mp accepted
      obtain ⟨-, -, rfl⟩ := (returns_proposeCouncilAction ..).mp accepted
      exact .inl registered
  | approveCouncilAction approver proposalId =>
      obtain ⟨proposal, -, rfl⟩ := (returns_approveCouncilAction ..).mp accepted
      exact .inl registered
  | executeCouncilAction executor proposalId =>
      obtain ⟨proposal, -, rfl⟩ := (returns_executeCouncilAction ..).mp accepted
      cases operation : proposal.operation with
      | removeIssuer issuer =>
          simp only [operation, Storage.withPerformed, Storage.withProposal] at registered
          by_cases here : address = issuer
          · simp [here] at registered
          · exact .inl ((Function.update_of_ne here _ _).symm.trans registered)
      | pauseContract =>
          simp only [operation, Storage.withPerformed, Storage.withProposal] at registered
          exact .inl registered

theorem bridge_of_accepted (accepted : Accepted before call after) {address : Address}
    (registered : after.storage.bridge address = true) :
    before.storage.bridge address = true ∨
      before.storage.issuer address = false ∧
        ∃ admin, call.op = .admin (.registerBridge admin address) := by
  have bridges : after.storage.bridge = (call.settings before.storage).bridge :=
    congrArg Settings.bridge (settings_of_accepted accepted)
  rw [bridges] at registered
  obtain ⟨env, op⟩ := call
  cases op with
  | admin op =>
      cases op with
      | registerBridge admin bridgeContract =>
          have checks : before.storage.issuer bridgeContract = false := by
            simp [Accepted, Op.exec, AdminOp.exec, Contract.registerBridge] at accepted
            exact accepted.2.2.1
          by_cases here : address = bridgeContract
          · subst here
            exact .inr ⟨checks, admin, rfl⟩
          · exact .inl ((Function.update_of_ne here _ _).symm.trans registered)
      | _ => exact .inl registered
  | council op => cases op <;> exact .inl registered
  | _ => exact .inl registered

theorem rolesApart_of_accepted (apart : RolesApart before.storage)
    (accepted : Accepted before call after) : RolesApart after.storage := by
  rintro address ⟨issuer, bridge⟩
  rcases issuer_of_accepted accepted issuer with issuer | ⟨native, admin, registers⟩
  · rcases bridge_of_accepted accepted bridge with bridge | ⟨foreign, -⟩
    · exact apart address ⟨issuer, bridge⟩
    · rw [foreign] at issuer
      cases issuer
  · rcases bridge_of_accepted accepted bridge with bridge | ⟨-, other, bridges⟩
    · rw [native] at bridge
      cases bridge
    · rw [registers] at bridges
      cases bridges

theorem rolesApart_run (calls : List (Call Address)) : RolesApart (run calls).storage :=
  invariant_of_run (fun _ both => nomatch both.1)
    (fun _ _ _ apart accepted => rolesApart_of_accepted apart accepted) calls

end Roles

section Lineage
variable {Address : Type} [DecidableEq Address] [Host Address]

/-- A later form of a record, of the same issuer unless the record was given away. -/
structure Descends (moved : Prop) (old new : Attestation Address) : Prop extends
    Later old new where
  issuer : ¬ moved → new.issuer = old.issuer

omit [DecidableEq Address] [Host Address] in
theorem Descends.trans {first second : Prop} {old middle new : Attestation Address}
    (early : Descends first old middle) (late : Descends second middle new) :
    Descends (first ∨ second) old new where
  toLater := early.toLater.trans late.toLater
  issuer stays := (late.issuer fun moved => stays (.inr moved)).trans
    (early.issuer fun moved => stays (.inl moved))

omit [DecidableEq Address] [Host Address] in
theorem Descends.imp {first second : Prop} {old new : Attestation Address}
    (descends : Descends first old new) (implies : first → second) : Descends second old new where
  toLater := descends.toLater
  issuer stays := descends.issuer fun moved => stays (implies moved)

def Change.Moves : Change Address → Prop
  | .transfer _ _ => True
  | _ => False

omit [DecidableEq Address] [Host Address] in
theorem descends_written {change : Change Address} {record : Attestation Address}
    (base : change.base = some record) : Descends change.Moves record change.written where
  toLater := later_written base
  issuer stays := by
    cases change with
    | issue issued => cases base
    | transfer record newIssuer => exact absurd trivial stays
    | _ =>
        obtain rfl := Option.some.inj base
        rfl

/-- After a list of changes a record goes back to one issued among them, or to the one
that was there under its id, for which none was issued. -/
theorem lineage_of_changes {register : Register Address} {changes : List (Change Address)}
    (enabled : Trace.Each Register.apply Enabled register changes) {id : Str}
    {record : Attestation Address}
    (stored : (Trace.run Register.apply register changes).record id = some record) :
    (∃ original, .issue original ∈ changes ∧ original.id = id ∧
        Descends (∃ change ∈ changes, change.Moves) original record) ∨
      (∃ old, register.record id = some old ∧
        Descends (∃ change ∈ changes, change.Moves) old record ∧
        ∀ issued, .issue issued ∈ changes → issued.id ≠ id) := by
  induction changes generalizing register with
  | nil => exact .inr ⟨record, stored, ⟨.refl record, fun _ => rfl⟩, fun _ member => nomatch member⟩
  | cons change rest ih =>
      have more : (∃ other ∈ rest, other.Moves) → ∃ other ∈ change :: rest, other.Moves :=
        fun ⟨other, member, moves⟩ => ⟨other, List.mem_cons_of_mem _ member, moves⟩
      rcases ih enabled.2 stored with ⟨original, member, own, descends⟩ |
        ⟨old, found, descends, others⟩
      · exact .inl ⟨original, List.mem_cons_of_mem _ member, own, descends.imp more⟩
      · by_cases here : id = change.written.id
        · subst here
          rw [Register.record_apply, Function.update_self] at found
          obtain rfl := Option.some.inj found
          rcases enabled.1.cases with ⟨issued, rfl, -⟩ | ⟨base, start, present⟩
          · exact .inl ⟨issued, List.mem_cons_self, rfl, descends.imp more⟩
          · refine .inr ⟨base, by rw [Change.written_id start, present],
              ((descends_written start).trans descends).imp ?_, fun issued member => ?_⟩
            · rintro (moves | moves)
              · exact ⟨change, List.mem_cons_self, moves⟩
              · exact more moves
            · rcases List.mem_cons.mp member with rfl | member
              · cases start
              · exact others issued member
        · rw [Register.record_apply, Function.update_of_ne here] at found
          refine .inr ⟨old, found, descends.imp more, fun issued member => ?_⟩
          rcases List.mem_cons.mp member with rfl | member
          · exact fun own => here own.symm
          · exact others issued member

end Lineage

section Provenance
variable {Address : Type} [DecidableEq Address] [Host Address]

/-- The call gives a record to another issuer. -/
def Call.Transfers (call : Call Address) : Prop :=
  ∃ admin id newIssuer, call.op = .attestation (.transferAttestation admin id newIssuer)

/-- The call stored the original of the id, and no later call of the run stored another. -/
structure StoredBy (calls : List (Call Address)) (id : Str) (early : List (Call Address))
    (call : Call Address) (late : List (Call Address)) (original : Attestation Address) : Prop where
  split : calls = early ++ call :: late
  stored : original ∈ created (run early) (step (run early) call)
  own : original.id = id
  last : ∀ between other rest, late = between ++ other :: rest →
    ∀ record ∈ created (run (early ++ call :: between)) (step (run (early ++ call :: between)) other),
      record.id ≠ id

theorem StoredBy.concat {calls : List (Call Address)} {id : Str} {early : List (Call Address)}
    {call : Call Address} {late : List (Call Address)} {original : Attestation Address}
    (storedBy : StoredBy calls id early call late original) (next : Call Address)
    (silent : ∀ record ∈ created (run calls) (step (run calls) next), record.id ≠ id) :
    StoredBy (calls ++ [next]) id early call (late ++ [next]) original where
  split := by rw [storedBy.split, List.append_assoc, List.cons_append]
  stored := storedBy.stored
  own := storedBy.own
  last := by
    intro between other rest split
    rcases List.eq_nil_or_concat rest with rfl | ⟨shorter, last, rfl⟩
    · obtain ⟨rfl, same⟩ := List.append_inj' split rfl
      obtain rfl := (List.cons.inj same).1
      rw [← storedBy.split]
      exact silent
    · have inner : late = between ++ other :: shorter := by
        have := split
        rw [List.concat_eq_append, ← List.cons_append, ← List.append_assoc] at this
        exact (List.append_inj' this rfl).1
      exact storedBy.last between other shorter inner

theorem transfers_of_moves {before after : World Address} {call : Call Address}
    (accepted : Accepted before call after)
    (moves : ∃ change ∈ call.changes before.storage, change.Moves) : call.Transfers := by
  obtain ⟨change, member, moves⟩ := moves
  obtain ⟨env, op⟩ := call
  cases warrant_of_accepted accepted member with
  | transferAttestation checks => exact ⟨_, _, _, rfl⟩
  | _ => cases moves

/-- Every stored record goes back to the call that stored it. -/
theorem provenance (calls : List (Call Address)) {id : Str} {record : Attestation Address}
    (found : (run calls).storage.attestation id = some record) :
    ∃ early call late original, StoredBy calls id early call late original ∧
      Descends (∃ other ∈ late, other.Transfers) original record := by
  -- the run grows at its end; either the last call stored the record or it was there
  induction calls using List.reverseRecOn generalizing record with
  | nil => cases found
  | append_singleton calls next ih =>
      rw [run_concat] at found
      rcases step_cases (run calls) next with accepted | same
      · have follows := follows_of_accepted (keyed_run calls) accepted
        have silent_of : (∀ issued, .issue issued ∈ next.changes (run calls).storage →
            issued.id ≠ id) → ∀ record ∈ created (run calls) (step (run calls) next),
              record.id ≠ id := by
          intro others record member
          rw [follows.created] at member
          exact others record (mem_filterMap_issued.mp member)
        have stored : (Trace.run Register.apply (run calls).storage.register
            (next.changes (run calls).storage)).record id = some record := by
          rw [← follows.register]
          exact found
        rcases lineage_of_changes follows.enabled stored with ⟨original, member, own, descends⟩ |
          ⟨old, there, descends, others⟩
        · have unmoved : ¬ ∃ change ∈ next.changes (run calls).storage, change.Moves := by
            rintro ⟨change, listed, moves⟩
            -- a call that issues makes no change of another kind
            rcases changes_uniform (run calls).storage next with issues | updates
            · have start := issues change listed
              cases change with
              | transfer => cases start
              | _ => cases moves
            · exact updates _ member rfl
          refine ⟨calls, next, [], original, ⟨rfl, ?_, own, ?_⟩,
            descends.imp fun moves => absurd moves unmoved⟩
          · rw [follows.created]
            exact mem_filterMap_issued.mpr member
          · intro between other rest split
            cases between <;> cases split
        · obtain ⟨early, call, late, original, storedBy, before⟩ := ih there
          refine ⟨early, call, late ++ [next], original, storedBy.concat next (silent_of others),
            (before.trans descends).imp ?_⟩
          rintro (⟨other, member, transfers⟩ | moves)
          · exact ⟨other, List.mem_append_left _ member, transfers⟩
          · exact ⟨next, by simp, transfers_of_moves accepted moves⟩
      · rw [same] at found
        obtain ⟨early, call, late, original, storedBy, before⟩ := ih found
        refine ⟨early, call, late ++ [next], original, storedBy.concat next ?_, before.imp ?_⟩
        · rw [same, created, List.drop_length]
          exact fun _ member => absurd member List.not_mem_nil
        · rintro ⟨other, member, transfers⟩
          exact ⟨other, List.mem_append_left _ member, transfers⟩

end Provenance

section Origins
variable {Address : Type} [DecidableEq Address] [Host Address]

def Call.Bridges (call : Call Address) : Prop :=
  ∃ bridge subject claimType sourceChain sourceTx,
    call.op = .attestation (.bridgeAttestation bridge subject claimType sourceChain sourceTx)

/-- What the origin of a record says about its source. -/
def Sourced (record : Attestation Address) : Prop :=
  if record.origin = .bridged then
    (∃ sourceChain, record.sourceChain = some sourceChain ∧ sourceChain ≠ []) ∧
      ∃ sourceTx, record.sourceTx = some sourceTx ∧ sourceTx ≠ []
  else record.sourceChain = none ∧ record.sourceTx = none

omit [DecidableEq Address] [Host Address] in
theorem Later.sourced {old new : Attestation Address} (later : Later old new)
    (sourced : Sourced old) : Sourced new := by
  rw [Sourced, later.origin, later.sourceChain, later.sourceTx]
  exact sourced

/-- A record of a bridge is issued by its operation alone, which finds the bridge
registered and both parts of the source given. -/
theorem sourced_of_warrant {storage : Storage Address} {call : Call Address}
    {record : Attestation Address} (warrant : Warrant storage call.env call.op (.issue record)) :
    Sourced record ∧ (record.origin = .bridged ↔ call.Bridges) ∧
      (record.origin = .bridged → storage.bridge record.issuer = true) := by
  obtain ⟨env, op⟩ := call
  cases warrant with
  | bridgeAttestation built checks =>
      subst built
      have given := checks.source
      unfold validateSourceReference at given
      split at given
      · cases given
      · rename_i present
        obtain ⟨chain, tx⟩ := not_or.mp present
        exact ⟨⟨⟨_, rfl, chain⟩, _, rfl, tx⟩, iff_of_true rfl ⟨_, _, _, _, _, rfl⟩,
          fun _ => checks.known⟩
  | createAttestation built | createAttestationValidFrom built
  | createAttestationJurisdiction built | importAttestation built | createAttestationsBatch built
  | createAttestationAsDelegate built | fulfillRequest built | proposeAttestation built
  | cosignAttestation built =>
      subst built
      exact ⟨⟨rfl, rfl⟩, iff_of_false nofun (by simp [Call.Bridges]), nofun⟩

/-- Origins can be trusted: the roles are apart, and a record is of bridged origin exactly
when a registered bridge, which was no issuer then, stored it with its source. -/
structure OriginsSound (calls : List (Call Address)) : Prop where
  apart : RolesApart (run calls).storage
  stored : ∀ id record, (run calls).storage.attestation id = some record →
    Sourced record ∧
    ∃ early call late original, StoredBy calls id early call late original ∧
      (record.origin = .bridged ↔ call.Bridges) ∧
      (record.origin = .bridged → (run early).storage.bridge original.issuer = true ∧
        (run early).storage.issuer original.issuer = false) ∧
      ((∀ other ∈ late, ¬ other.Transfers) → record.issuer = original.issuer)

theorem origins_sound (calls : List (Call Address)) : OriginsSound calls where
  apart := rolesApart_run calls
  stored := by
    intro id record found
    obtain ⟨early, call, late, original, storedBy, descends⟩ := provenance calls found
    obtain ⟨accepted, issued⟩ :=
      Stores.issued (.inl storedBy.stored) (keyed_run early)
    obtain ⟨sourced, bridged, known⟩ := sourced_of_warrant (warrant_of_accepted accepted issued)
    refine ⟨descends.toLater.sourced sourced, early, call, late, original, storedBy, ?_, ?_, ?_⟩
    · rw [descends.origin]
      exact bridged
    · intro origin
      have registered := known (descends.origin.symm.trans origin)
      refine ⟨registered, Bool.eq_false_iff.mpr fun issuer => ?_⟩
      exact rolesApart_run early original.issuer ⟨issuer, registered⟩
    · intro kept
      exact descends.issuer fun ⟨other, member, transfers⟩ => kept other member transfers

end Origins

end TrustLink
