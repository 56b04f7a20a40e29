import TrustLink.AuditTrail
import TrustLink.Readers
import TrustLink.Settings

/-!
Delegations. The grants and the index of each delegator change together, and an attestation
issued for a delegator goes back to the latest grant.
-/
namespace TrustLink
open Transaction Contract

section Listing
variable {Address : Type}

/-- Not expired at the time. -/
def Delegation.Live (now : Nat) (delegation : Delegation Address) : Prop :=
  ∀ time ∈ delegation.expiration, now < time

instance (now : Nat) : DecidablePred (@Delegation.Live Address now) :=
  fun delegation => inferInstanceAs (Decidable (∀ time ∈ delegation.expiration, now < time))

namespace Contract

/-- The loop of `list_delegations_by_delegator`. -/
def delegationsLoop (delegator : Address) (currentTime start limit : Nat) :
    List (Address × Str) → Nat → Nat → List (Delegation Address) →
      Program Address (List (Delegation Address))
  | [], _, _, result => pure result
  | (delegate, claimType) :: rest, skipped, count, result => do
      let delegation ← Storage.getDelegation delegator delegate claimType
      match delegation with
      | none => delegationsLoop delegator currentTime start limit rest skipped count result
      | some delegation =>
          if delegation.Live currentTime then
            if skipped < start then do
              let skipped ← checkedU32 (skipped + 1)
              delegationsLoop delegator currentTime start limit rest skipped count result
            else if limit ≤ count then pure result
            else do
              let count ← checkedU32 (count + 1)
              delegationsLoop delegator currentTime start limit rest skipped count
                (result ++ [delegation])
          else delegationsLoop delegator currentTime start limit rest skipped count result

def listDelegationsByDelegator (delegator : Address) (start limit : Nat) :
    Program Address (List (Delegation Address)) := do
  let currentTime ← ledgerTimestamp
  let index ← load (·.delegatorIndex delegator)
  delegationsLoop delegator currentTime start limit index 0 0 []

end Contract

/-- The delegations that some entries of an index stand for and that have not expired. -/
def Storage.liveDelegations (storage : Storage Address) (delegator : Address) (now : Nat)
    (index : List (Address × Str)) : List (Delegation Address) :=
  index.filterMap fun entry =>
    (storage.delegation delegator entry.1 entry.2).filter fun delegation => delegation.Live now

/-- An entry adds its delegation, if that is stored and has not expired. -/
theorem Storage.liveDelegations_cons (storage : Storage Address) (delegator : Address) (now : Nat)
    (entry : Address × Str) (rest : List (Address × Str)) :
    storage.liveDelegations delegator now (entry :: rest) =
      ((storage.delegation delegator entry.1 entry.2).filter fun delegation =>
        delegation.Live now).toList ++ storage.liveDelegations delegator now rest := by
  rw [Storage.liveDelegations, List.filterMap_cons]
  split <;> rename_i here <;> rw [here] <;> rfl

variable {env : Env Address} {world : World Address}

/-- The loop skips what is left to skip and takes what is left to take. -/
theorem returns_delegationsLoop {delegator : Address} {now start limit : Nat}
    (startFits : start < u32Range) (limitFits : limit < u32Range) (index : List (Address × Str))
    {skipped count : Nat} (behind : skipped ≤ start) (room : count ≤ limit)
    (result : List (Delegation Address)) :
    Returns (delegationsLoop delegator now start limit index skipped count result) env world
      (result ++ (((world.storage.liveDelegations delegator now index).drop
        (start - skipped)).take (limit - count))) world := by
  induction index generalizing skipped count result with
  | nil => simp [delegationsLoop, Storage.liveDelegations]
  | cons entry rest ih =>
      obtain ⟨delegate, claimType⟩ := entry
      rw [Storage.liveDelegations_cons]
      cases found : world.storage.delegation delegator delegate claimType with
      | none => simpa [delegationsLoop, found] using ih behind room result
      | some delegation =>
          by_cases live : delegation.Live now
          · rw [Option.filter_some, if_pos (decide_eq_true live), Option.toList_some,
              List.singleton_append]
            by_cases skips : skipped < start
            · have fits : skipped + 1 < u32Range := by omega
              have left : start - skipped = start - (skipped + 1) + 1 := by omega
              rw [left, List.drop_succ_cons]
              simpa [delegationsLoop, found, live, skips, fits] using ih skips room result
            · obtain rfl : skipped = start := by omega
              rw [Nat.sub_self, List.drop_zero]
              by_cases full : limit ≤ count
              · rw [Nat.sub_eq_zero_of_le full]
                simp [delegationsLoop, found, live, full]
              · have fits : count + 1 < u32Range := by omega
                have left : limit - count = limit - (count + 1) + 1 := by omega
                have next := ih behind (Nat.lt_of_not_le full) (result ++ [delegation])
                rw [Nat.sub_self, List.drop_zero, List.append_assoc, List.singleton_append] at next
                rw [left, List.take_succ_cons]
                simpa [delegationsLoop, found, live, full, fits] using next
          · rw [Option.filter_some, if_neg (by simp [live])]
            simpa [delegationsLoop, found, live] using ih behind room result

theorem returns_listDelegationsByDelegator (delegator : Address) {start limit : Nat}
    (startFits : start < u32Range) (limitFits : limit < u32Range) :
    Returns (listDelegationsByDelegator delegator start limit) env world
      (((world.storage.liveDelegations delegator env.timestamp
        (world.storage.delegatorIndex delegator)).drop start).take limit) world := by
  have listed := @returns_delegationsLoop _ env world delegator env.timestamp start limit startFits
    limitFits (world.storage.delegatorIndex delegator) 0 0 (Nat.zero_le _) (Nat.zero_le _) []
  simpa [listDelegationsByDelegator] using listed

end Listing

section Grants
variable {Address : Type}

/-- The delegations and their indexes. -/
structure Grants (Address : Type) where
  delegation : Address → Address → Str → Option (Delegation Address)
  index : Address → List (Address × Str)

def Storage.grants (storage : Storage Address) : Grants Address where
  delegation := storage.delegation
  index := storage.delegatorIndex

/-- Each delegation is stored under its own parties and claim type, and the index lists
exactly the stored ones, each once. -/
structure Grants.Sound (grants : Grants Address) : Prop where
  keyed : ∀ delegator delegate claimType delegation,
    grants.delegation delegator delegate claimType = some delegation →
      delegation.delegator = delegator ∧ delegation.delegate = delegate ∧
        delegation.claimType = claimType
  listed : ∀ delegator delegate claimType, (delegate, claimType) ∈ grants.index delegator ↔
    (grants.delegation delegator delegate claimType).isSome
  once : ∀ delegator, (grants.index delegator).Nodup

theorem sound_grants_empty : (Storage.empty Address).grants.Sound where
  keyed := nofun
  listed _ _ _ := ⟨nofun, nofun⟩
  once _ := .nil

inductive GrantMove (Address : Type) where
  | give (delegation : Delegation Address)
  | withdraw (delegator delegate : Address) (claimType : Str)

/-- What an operation does to the grants when it is accepted. -/
def Op.grantMove? : Op Address → Option (GrantMove Address)
  | .admin (.delegateClaimType issuer delegate claimType expiration) =>
      some (.give ⟨issuer, delegate, claimType, expiration⟩)
  | .admin (.revokeDelegation issuer delegate claimType) =>
      some (.withdraw issuer delegate claimType)
  | _ => none

variable [DecidableEq Address]

/-- One delegation is written or removed. -/
def Grants.put (grants : Grants Address) (delegator delegate : Address) (claimType : Str)
    (delegation : Option (Delegation Address)) : Address → Address → Str →
      Option (Delegation Address) :=
  Function.update grants.delegation delegator <|
    Function.update (grants.delegation delegator) delegate <|
      Function.update (grants.delegation delegator delegate) claimType delegation

/-- An entry is listed, unless it is already. -/
def Grants.enlist (grants : Grants Address) (delegator : Address) (entry : Address × Str) :
    Address → List (Address × Str) :=
  if entry ∈ grants.index delegator then grants.index
  else Function.update grants.index delegator (grants.index delegator ++ [entry])

def Grants.strike (grants : Grants Address) (delegator delegate : Address) (claimType : Str) :
    Address → List (Address × Str) :=
  Function.update grants.index delegator ((grants.index delegator).filter fun entry =>
    entry.1 ≠ delegate ∨ entry.2 ≠ claimType)

def Grants.apply (grants : Grants Address) : GrantMove Address → Grants Address
  | .give delegation =>
      { delegation := grants.put delegation.delegator delegation.delegate delegation.claimType
          (some delegation)
        index := grants.enlist delegation.delegator (delegation.delegate, delegation.claimType) }
  | .withdraw delegator delegate claimType =>
      { delegation := grants.put delegator delegate claimType none
        index := grants.strike delegator delegate claimType }

theorem Grants.put_apply (grants : Grants Address) (delegator delegate : Address) (claimType : Str)
    (delegation : Option (Delegation Address)) (owner other : Address) (type : Str) :
    grants.put delegator delegate claimType delegation owner other type =
      if owner = delegator ∧ other = delegate ∧ type = claimType then delegation
      else grants.delegation owner other type := by
  unfold Grants.put
  by_cases owned : owner = delegator
  · subst owned
    by_cases same : other = delegate
    · subst same
      by_cases typed : type = claimType <;> simp [typed]
    · simp [same]
  · simp [owned]

theorem Grants.mem_enlist (grants : Grants Address) (delegator owner : Address)
    (entry other : Address × Str) : other ∈ grants.enlist delegator entry owner ↔
      other ∈ grants.index owner ∨ owner = delegator ∧ other = entry := by
  unfold Grants.enlist
  split
  case isTrue listed =>
    refine (or_iff_left_of_imp ?_).symm
    rintro ⟨rfl, rfl⟩
    exact listed
  case isFalse =>
    by_cases owned : owner = delegator
    · subst owned
      simp
    · simp [owned]

theorem Grants.mem_strike (grants : Grants Address) (delegator delegate owner other : Address)
    (claimType type : Str) : (other, type) ∈ grants.strike delegator delegate claimType owner ↔
      (other, type) ∈ grants.index owner ∧
        ¬ (owner = delegator ∧ other = delegate ∧ type = claimType) := by
  unfold Grants.strike
  by_cases owned : owner = delegator
  · subst owned
    simp [or_iff_not_imp_left]
  · simp [owned]

theorem Grants.nodup_enlist {grants : Grants Address} {owner : Address}
    (once : (grants.index owner).Nodup) (delegator : Address) (entry : Address × Str) :
    (grants.enlist delegator entry owner).Nodup := by
  unfold Grants.enlist
  split
  case isTrue => exact once
  case isFalse fresh =>
    by_cases owned : owner = delegator
    · subst owned
      rw [Function.update_self]
      rw [← List.concat_eq_append]
      exact once.concat fresh
    · rwa [Function.update_of_ne owned]

theorem Grants.nodup_strike {grants : Grants Address} {owner : Address}
    (once : (grants.index owner).Nodup) (delegator delegate : Address) (claimType : Str) :
    (grants.strike delegator delegate claimType owner).Nodup := by
  unfold Grants.strike
  by_cases owned : owner = delegator
  · subst owned
    rw [Function.update_self]
    exact once.filter _
  · rwa [Function.update_of_ne owned]

/-- A grant or its withdrawal keeps records and index in step. -/
theorem Grants.Sound.apply {grants : Grants Address} (sound : grants.Sound)
    (move : GrantMove Address) : (grants.apply move).Sound := by
  cases move with
  | give given =>
      refine ⟨fun delegator delegate claimType delegation found => ?_,
        fun delegator delegate claimType => ?_, fun delegator => nodup_enlist (sound.once _) _ _⟩
      · simp only [Grants.apply, put_apply] at found
        split at found
        case isTrue here =>
          obtain rfl := Option.some.inj found
          exact ⟨here.1.symm, here.2.1.symm, here.2.2.symm⟩
        case isFalse => exact sound.keyed _ _ _ _ found
      · simp only [Grants.apply, put_apply, mem_enlist, sound.listed, Prod.mk.injEq]
        split
        case isTrue here => exact iff_of_true (.inr here) rfl
        case isFalse away => exact or_iff_left away
  | withdraw delegator delegate claimType =>
      refine ⟨fun owner other type delegation found => ?_, fun owner other type => ?_,
        fun owner => nodup_strike (sound.once _) _ _ _⟩
      · simp only [Grants.apply, put_apply] at found
        split at found
        case isTrue => cases found
        case isFalse => exact sound.keyed _ _ _ _ found
      · simp only [Grants.apply, put_apply, mem_strike, sound.listed]
        split
        case isTrue here => exact iff_of_false (fun listed => listed.2 here) nofun
        case isFalse away => exact and_iff_left away

end Grants

section Moves
variable {Address : Type} [DecidableEq Address] {env : Env Address} {before after : World Address}

/-- What a delegation has checked. -/
structure Delegable (storage : Storage Address) (env : Env Address) (issuer delegate : Address)
    (expiration : Option Nat) : Prop where
  auth : issuer ∈ env.auths
  registered : storage.issuer issuer = true
  distinct : issuer ≠ delegate
  future : ∀ time ∈ expiration, env.timestamp < time
  ttl : TtlFits storage.ttlConfig

theorem returns_delegateClaimType (issuer delegate : Address) (claimType : Str)
    (expiration : Option Nat) (done : Unit) :
    Returns (delegateClaimType issuer delegate claimType expiration) env before done after ↔
      Delegable before.storage env issuer delegate expiration ∧
        after = ⟨{ before.storage with
            delegation := before.storage.grants.put issuer delegate claimType
              (some ⟨issuer, delegate, claimType, expiration⟩)
            delegatorIndex := before.storage.grants.enlist issuer (delegate, claimType) },
          before.events ++ [.delegationCreated issuer delegate claimType expiration],
          before.payments⟩ := by
  simp [delegateClaimType]
  constructor
  · rintro ⟨auth, registered, distinct, future, ttl, left⟩
    exact ⟨⟨auth, registered, distinct, future, ttl⟩, left⟩
  · rintro ⟨⟨auth, registered, distinct, future, ttl⟩, left⟩
    exact ⟨auth, registered, distinct, future, ttl, left⟩

/-- The call made the move, if it makes one. -/
def Grants.turn (grants : Grants Address) : Option (GrantMove Address) → Grants Address
  | some move => grants.apply move
  | none => grants

theorem AdminOp.grants_of_returns (op : AdminOp Address)
    (accepted : Returns op.exec env before () after) :
    after.storage.grants = before.storage.grants.turn (Op.admin op).grantMove? := by
  obtain ⟨storage, written, left⟩ := op.leaves accepted
  rw [left.storage]
  cases written <;> rfl

variable [Host Address] {call : Call Address}

theorem grants_of_accepted (accepted : Accepted before call after) :
    after.storage.grants = before.storage.grants.turn call.op.grantMove? := by
  obtain ⟨env, op⟩ := call
  cases op with
  | attestation op => exact op.kept accepted Storage.grants (fun _ _ => rfl) fun _ _ _ => rfl
  | request op => exact (op.works accepted).kept Storage.grants fun _ _ => rfl
  | multisig op => exact (op.works accepted).kept Storage.grants fun _ _ => rfl
  | council op =>
      obtain ⟨storage, written, left⟩ := op.leaves accepted
      rw [left.storage]
      cases written <;> rfl
  | admin op => exact op.grants_of_returns accepted

theorem grants_sound (calls : List (Call Address)) : (run calls).storage.grants.Sound :=
  @invariant_of_run _ _ _ (fun world => world.storage.grants.Sound) sound_grants_empty
    (fun before call after sound accepted => by
      rw [grants_of_accepted accepted]
      cases call.op.grantMove? with
      | none => exact sound
      | some move => exact sound.apply move) calls

/-- The index of every delegator has an entry once for each of its delegations and nothing
else, and the listing is the slice of those that have not expired. -/
structure DelegationsListed (world : World Address) : Prop where
  index : ∀ delegator delegate claimType,
    (world.storage.delegatorIndex delegator).count (delegate, claimType) =
      if (world.storage.delegation delegator delegate claimType).isSome then 1 else 0
  listing : ∀ env delegator start limit, start < u32Range → limit < u32Range →
    Returns (listDelegationsByDelegator delegator start limit) env world
      (((world.storage.liveDelegations delegator env.timestamp
        (world.storage.delegatorIndex delegator)).drop start).take limit) world

theorem delegations_listed (calls : List (Call Address)) : DelegationsListed (run calls) where
  index delegator delegate claimType := by
    have sound := grants_sound calls
    have listed : (delegate, claimType) ∈ (run calls).storage.delegatorIndex delegator ↔
        ((run calls).storage.delegation delegator delegate claimType).isSome :=
      sound.listed delegator delegate claimType
    have once : ((run calls).storage.delegatorIndex delegator).Nodup := sound.once delegator
    rw [once.count]
    exact if_congr listed rfl rfl
  listing env delegator start limit startFits limitFits :=
    returns_listDelegationsByDelegator delegator startFits limitFits

end Moves

section Issuance
variable {Address : Type} [DecidableEq Address] [Host Address]

/-- A successful `delegate_claim_type` or `revoke_delegation` between the two for the claim
type. -/
def Regrants (delegator delegate : Address) (claimType : Str) (world : World Address)
    (call : Call Address) : Prop :=
  Accepted world call (step world call) ∧
    ((∃ expiration,
      call.op = .admin (.delegateClaimType delegator delegate claimType expiration)) ∨
      call.op = .admin (.revokeDelegation delegator delegate claimType))

/-- The run has a successful grant that nothing has replaced or withdrawn since, and that has
not expired. -/
def LiveGrant (calls : List (Call Address)) (delegator delegate : Address) (claimType : Str)
    (now : Nat) : Prop :=
  ∃ before grant middle expiration, calls = before ++ grant :: middle ∧
    grant.op = .admin (.delegateClaimType delegator delegate claimType expiration) ∧
    Accepted (run before) grant (step (run before) grant) ∧
    Trace.Each step (fun world next => ¬ Regrants delegator delegate claimType world next)
      (run (before ++ [grant])) middle ∧
    ∀ time, expiration = some time → now < time

/-- What stands behind a record that a delegate has issued. -/
structure BackedByGrant (early : List (Call Address)) (call : Call Address) (delegate : Address)
    (id : Str) (record : Attestation Address) : Prop where
  grant : LiveGrant early record.issuer delegate record.claimType call.env.timestamp
  distinct : delegate ≠ record.issuer
  registered : (run early).storage.issuer record.issuer = true
  log : (step (run early) call).storage.auditLog id =
    [⟨.created, delegate, call.env.timestamp, none⟩]

/-- Every record that a delegate stores in the run is backed. -/
def DelegatedBacked (calls : List (Call Address)) : Prop :=
  ∀ early call late, calls = early ++ call :: late →
    ∀ delegate delegator subject claimType expiration metadata,
      call.op = .attestation (.createAttestationAsDelegate delegate delegator subject claimType
        expiration metadata) →
      ∀ id record, (run early).storage.attestation id ≠ some record →
        (step (run early) call).storage.attestation id = some record →
        BackedByGrant early call delegate id record

variable {delegator delegate : Address} {claimType : Str}

/-- Nothing else changes the delegation. -/
theorem delegation_kept (world : World Address) (call : Call Address)
    (other : ¬ Regrants delegator delegate claimType world call) :
    (step world call).storage.delegation delegator delegate claimType =
      world.storage.delegation delegator delegate claimType := by
  rcases step_cases world call with accepted | same
  · refine (congrArg (fun grants => grants.delegation delegator delegate claimType)
      (grants_of_accepted accepted)).trans ?_
    obtain ⟨env, op⟩ := call
    cases op with
    | admin op =>
        cases op with
        | delegateClaimType issuer target type expiration =>
            refine (Grants.put_apply ..).trans (if_neg ?_)
            rintro ⟨rfl, rfl, rfl⟩
            exact other ⟨accepted, .inl ⟨expiration, rfl⟩⟩
        | revokeDelegation issuer target type =>
            refine (Grants.put_apply ..).trans (if_neg ?_)
            rintro ⟨rfl, rfl, rfl⟩
            exact other ⟨accepted, .inr rfl⟩
        | _ => rfl
    | _ => rfl
  · rw [same]

/-- A stored delegation goes back to the grant that stored it. -/
theorem grant_of_stored {calls : List (Call Address)} {delegation : Delegation Address}
    (found : (run calls).storage.delegation delegator delegate claimType = some delegation)
    {now : Nat} (live : delegation.Live now) :
    LiveGrant calls delegator delegate claimType now ∧ delegate ≠ delegator := by
  obtain ⟨early, call, late, rfl, ⟨accepted, writes⟩, held, quiet⟩ :=
    @Trace.latest_write _ _ step _
      (fun world => world.storage.delegation delegator delegate claimType)
      (Regrants delegator delegate claimType) delegation_kept (World.empty Address) rfl _ _ found
  have stored := grants_of_accepted accepted
  rw [← run_concat] at stored
  have value := congrArg (fun grants => grants.delegation delegator delegate claimType) stored
  rcases writes with ⟨expiration, grants⟩ | withdraws
  · obtain ⟨env, op⟩ := call
    obtain rfl : op = _ := grants
    -- the stored value is the one that the grant wrote
    have written := value.trans (Grants.put_apply ..)
    rw [if_pos ⟨rfl, rfl, rfl⟩] at written
    obtain rfl := Option.some.inj (held.symm.trans written)
    obtain ⟨checks, -⟩ := (returns_delegateClaimType ..).mp accepted
    have granted := fun time given => live time given
    exact ⟨⟨early, _, late, expiration, rfl, rfl, accepted, quiet, granted⟩,
      Ne.symm checks.distinct⟩
  · obtain ⟨env, op⟩ := call
    obtain rfl : op = _ := withdraws
    have written := value.trans (Grants.put_apply ..)
    rw [if_pos ⟨rfl, rfl, rfl⟩] at written
    exact absurd (held.symm.trans written) nofun

/-- What an issuance by a delegate has checked and what it leaves. -/
theorem issued_by_delegate {before after : World Address} {env : Env Address} {subject : Address}
    {expiration : Option Nat} {metadata : Option Str}
    (accepted : Accepted before ⟨env, .attestation (.createAttestationAsDelegate delegate delegator
      subject claimType expiration metadata)⟩ after) :
    ∃ record : Attestation Address, DelegateChecks before.storage env delegate delegator subject
        claimType expiration metadata record ∧
      record.issuer = delegator ∧ record.claimType = claimType ∧
      after.storage.attestation =
        Function.update before.storage.attestation record.id (some record) ∧
      after.storage.auditLog = Function.update before.storage.auditLog record.id
        (before.storage.auditLog record.id ++ [⟨.created, delegate, env.timestamp, none⟩]) := by
  obtain ⟨id, returned⟩ := (returns_void ..).mp accepted
  obtain ⟨checks, -, rfl⟩ := (returns_createAttestationAsDelegate _ _ _ _ _ _ _ _ rfl).mp returned
  exact ⟨_, checks, rfl, rfl, rfl, rfl⟩

theorem delegated_issuance_backed (calls : List (Call Address)) : DelegatedBacked calls := by
  intro early call late split delegate delegator subject claimType expiration metadata issues id
    record fresh stored
  rcases step_cases (run early) call with accepted | same
  · obtain ⟨env, op⟩ := call
    obtain rfl : op = _ := issues
    obtain ⟨issued, checks, rfl, rfl, records, log⟩ := issued_by_delegate accepted
    rw [records] at stored
    by_cases here : id = issued.id
    · subst here
      rw [Function.update_self] at stored
      obtain rfl := Option.some.inj stored
      obtain ⟨delegation, found, live⟩ := checks.delegation
      obtain ⟨grant, distinct⟩ := grant_of_stored found live
      refine ⟨grant, distinct, checks.registered, ?_⟩
      rw [log, Function.update_self, silent_run early issued.id checks.fresh, List.nil_append]
    · rw [Function.update_of_ne here] at stored
      exact absurd stored fresh
  · rw [same] at stored
    exact absurd stored fresh

end Issuance

end TrustLink
