import TrustLink.Templates

/-!
The two ordered registries: the claim types, which are only ever registered, and the templates
of an issuer, which are saved, overwritten and deleted. In each the list has the ids of the
records, each once, in the order of the calls that created them.
-/
namespace TrustLink
open Transaction Contract Xdr

/-- The records and the list of the claim types. -/
def Storage.claimTypes {Address : Type} (storage : Storage Address) :
    Registry.Table Str ClaimTypeInfo :=
  ⟨storage.claimType, storage.claimTypeList⟩

section ClaimTypes
variable {Address : Type} [DecidableEq Address] {env : Env Address} {before after : World Address}

/-- The move that an administrative operation makes in the registry of claim types. -/
def AdminOp.registers : AdminOp Address → Option (Registry.Move Str ClaimTypeInfo)
  | .registerClaimType _ claimType description => some (.put claimType ⟨claimType, description⟩)
  | _ => none

theorem CouncilOp.claimTypes_of_returns (op : CouncilOp Address)
    (accepted : Returns op.exec env before () after) :
    after.storage.claimTypes = before.storage.claimTypes := by
  obtain ⟨storage, written, left⟩ := op.leaves accepted
  rw [left.storage]
  cases written <;> rfl

theorem AdminOp.claimTypes_of_returns (op : AdminOp Address)
    (accepted : Returns op.exec env before () after) :
    after.storage.claimTypes = before.storage.claimTypes.turn op.registers := by
  obtain ⟨storage, written, left⟩ := op.leaves accepted
  rw [left.storage]
  cases written <;> rfl

variable [Host Address]

/-- The move that a public call makes there. -/
def Entry.Op.registers : Entry.Op Address → Option (Registry.Move Str ClaimTypeInfo)
  | .delegated (.admin op) => op.registers
  | _ => none

omit [Host Address] in
theorem Entry.claimTypes_revokeTurn (issuer : Address) (reason : Option Str) (timestamp : Nat)
    (storage : Storage Address) (id : Str) :
    (Entry.revokeTurn issuer reason timestamp storage id).claimTypes = storage.claimTypes := by
  cases found : storage.attestation id with
  | none => rw [revokeTurn, found]
  | some attestation =>
      rw [revokeTurn_of_found found]
      rfl

/-- Only `register_claim_type` writes the registry. -/
theorem Entry.claimTypes_of_returns (op : Entry.Op Address)
    (accepted : Returns op.exec env before () after) :
    after.storage.claimTypes = before.storage.claimTypes.turn op.registers := by
  cases op with
  | delegated op =>
      cases op with
      | attestation op =>
          exact op.kept accepted Storage.claimTypes (fun _ _ => rfl) fun _ _ _ => rfl
      | request op => exact (op.works accepted).kept Storage.claimTypes fun _ _ => rfl
      | multisig op => exact (op.works accepted).kept Storage.claimTypes fun _ _ => rfl
      | council op => exact op.claimTypes_of_returns accepted
      | admin op => exact op.claimTypes_of_returns accepted
  | createAttestationsBatch issuer subjects claimType expiration =>
      obtain ⟨ids, accepted⟩ := (returns_void ..).mp accepted
      obtain ⟨-, -, rfl⟩ := (returns_entryBatch _ _ _ _ _ _ rfl).mp accepted
      exact Trace.run_keeps withEntryListed Storage.claimTypes (fun _ _ => rfl) _ _
  | bridgeAttestation bridge subject claimType sourceChain sourceTx =>
      obtain ⟨id, accepted⟩ := (returns_void ..).mp accepted
      obtain ⟨-, -, rfl⟩ := (returns_entryBridge _ _ _ _ _ _ _ rfl).mp accepted
      rfl
  | revokeAttestation issuer id reason =>
      obtain ⟨attestation, -, -, rfl⟩ := (returns_entryRevoke ..).mp accepted
      rfl
  | revokeAttestationsBatch issuer ids reason =>
      obtain ⟨count, accepted⟩ := (returns_void ..).mp accepted
      obtain ⟨-, -, rfl⟩ := (returns_entryRevokeBatch ..).mp accepted
      exact Trace.run_keeps (revokeTurn issuer reason env.timestamp) Storage.claimTypes
        (fun storage id => claimTypes_revokeTurn issuer reason env.timestamp storage id) _ _
  | setRequireRegisteredClaimType admin required =>
      obtain ⟨-, rfl⟩ := (returns_entrySwitch ..).mp accepted
      rfl

/-- The call at the position is a `register_claim_type` that is accepted. -/
def RegistersAt (calls : List (Entry.Call Address)) (claimType : Str) (n : Nat) : Prop :=
  ∃ env admin description after,
    calls[n]? =
      some ⟨env, .delegated (.admin (.registerClaimType admin claimType description))⟩ ∧
    Entry.Accepted (Entry.run (calls.take n))
      ⟨env, .delegated (.admin (.registerClaimType admin claimType description))⟩ after

/-- The position of the first registration of a claim type. -/
def FirstRegistered (calls : List (Entry.Call Address)) (claimType : Str) (n : Nat) : Prop :=
  RegistersAt calls claimType n ∧ ∀ i < n, ¬ RegistersAt calls claimType i

omit [DecidableEq Address] [Host Address] in
theorem registers_eq_some {op : Entry.Op Address} {move : Registry.Move Str ClaimTypeInfo} :
    op.registers = some move ↔ ∃ admin claimType description,
      op = .delegated (.admin (.registerClaimType admin claimType description)) ∧
        move = .put claimType ⟨claimType, description⟩ := by
  constructor
  · intro moves
    cases op with
    | delegated op =>
        cases op with
        | admin op =>
            cases op with
            | registerClaimType admin claimType description =>
                cases moves
                exact ⟨admin, claimType, description, rfl, rfl⟩
            | _ => cases moves
        | _ => cases moves
    | _ => cases moves
  · rintro ⟨admin, claimType, description, rfl, rfl⟩
    rfl

theorem Entry.step_eq_attempt (world : World Address) (call : Entry.Call Address) :
    Entry.step world call = attempt call.op.exec call.env world := by
  unfold Entry.step attempt
  cases call.op.exec call.env world <;> rfl

theorem registersAt_iff (calls : List (Entry.Call Address)) (claimType : Str) (n : Nat) :
    RegistersAt calls claimType n ↔ ∃ call : Entry.Call Address, ∃ value,
      call.op.registers = some (.put claimType value) ∧
        Registry.ReturnsAt Entry.step (·.op.exec) (·.env) (World.empty Address) calls call n := by
  constructor
  · rintro ⟨env, admin, description, after, here, accepted⟩
    exact ⟨_, _, rfl, here, after, accepted⟩
  · rintro ⟨⟨env, op⟩, value, moves, here, after, accepted⟩
    obtain ⟨admin, _, description, rfl, same⟩ := registers_eq_some.mp moves
    cases same
    exact ⟨env, admin, description, after, here, accepted⟩

/-- The claim types of any run are listed in the order of first registration. -/
theorem claimTypes_listed (calls : List (Entry.Call Address)) :
    Registry.Listed (Entry.run calls).storage.claimTypes (FirstRegistered calls) := by
  have never : ∀ claimType n, False ↔ ∃ call : Entry.Call Address,
      call.op.registers = some (.remove claimType) ∧
        Registry.ReturnsAt Entry.step (·.op.exec) (·.env) (World.empty Address) calls call n := by
    intro claimType n
    refine iff_of_false id ?_
    rintro ⟨call, moves, -⟩
    obtain ⟨admin, other, description, -, same⟩ := registers_eq_some.mp moves
    cases same
  have listed := @Registry.listed_of_run _ _ _ _ _ _ _ Entry.step (·.op.exec) (·.env)
    (fun world : World Address => world.storage.claimTypes) (·.op.registers) Entry.step_eq_attempt
    (fun call _ _ accepted => Entry.claimTypes_of_returns call.op accepted)
    (World.empty Address) rfl (RegistersAt calls) (fun _ _ => False) calls
    (registersAt_iff calls) never
  have first : (fun claimType => Registry.Standing (RegistersAt calls claimType) fun _ => False) =
      FirstRegistered calls := by
    funext claimType n
    exact propext Registry.standing_iff_first
  rwa [first] at listed

end ClaimTypes

namespace Template

section Templates
variable {Address : Type} [DecidableEq Address] [Host Address] {env : Env Address}
  {before after : TemplateWorld Address} {issuer : Address}

/-- The move that a call makes among the templates of an issuer. -/
def Op.keeps (issuer : Address) :
    Op Address → Option (Registry.Move Str (AttestationTemplate Address))
  | .contract _ => none
  | .saveTemplate owner templateId claimType metadata =>
      if owner = issuer then some (.put templateId ⟨owner, templateId, claimType, metadata⟩)
      else none
  | .deleteTemplate owner templateId =>
      if owner = issuer then some (.remove templateId) else none

omit [Host Address] in
theorem table_withTable (state : TemplateWorld Address) (owner issuer : Address)
    (changed : Registry.Table Str (AttestationTemplate Address)) :
    table issuer (withTable state owner changed) =
      if owner = issuer then changed else table issuer state := by
  by_cases here : owner = issuer
  · subst here
    simp [table, withTable]
  · simp [table, withTable, here, Function.update_of_ne (Ne.symm here)]

/-- Each issuer has a registry of its own. -/
theorem table_of_returns (op : Op Address) (accepted : Returns op.exec env before () after) :
    table issuer after = (table issuer before).turn (op.keeps issuer) := by
  cases op with
  | contract op =>
      obtain ⟨world, -, rfl⟩ := (returns_zoom ..).mp accepted
      rfl
  | saveTemplate owner templateId claimType metadata =>
      obtain ⟨-, rfl⟩ := (returns_saveTemplate ..).mp accepted
      rw [table_withTable, Op.keeps]
      by_cases here : owner = issuer
      · subst here
        simp [Registry.Table.turn]
      · simp [here, Registry.Table.turn]
  | deleteTemplate owner templateId =>
      obtain ⟨-, rfl⟩ := (returns_deleteTemplate ..).mp accepted
      refine (table_withTable ..).trans ?_
      rw [Op.keeps]
      by_cases here : owner = issuer
      · subst here
        simp [Registry.Table.turn]
      · simp [here, Registry.Table.turn]

/-- The call at the position is a `save_template` of the issuer's that is accepted. -/
def SavesAt (calls : List (Call Address)) (issuer : Address) (templateId : Str) (n : Nat) : Prop :=
  ∃ env claimType metadata after,
    calls[n]? = some ⟨env, .saveTemplate issuer templateId claimType metadata⟩ ∧
    Accepted (run (calls.take n)) ⟨env, .saveTemplate issuer templateId claimType metadata⟩ after

/-- The call at the position is a `delete_template` of the issuer's that is accepted. -/
def DeletesAt (calls : List (Call Address)) (issuer : Address) (templateId : Str) (n : Nat) :
    Prop :=
  ∃ env after, calls[n]? = some ⟨env, .deleteTemplate issuer templateId⟩ ∧
    Accepted (run (calls.take n)) ⟨env, .deleteTemplate issuer templateId⟩ after

/-- The position of the most recent creation: a save that found no template which an earlier
one had left, after which none has been deleted. -/
def LastCreated (calls : List (Call Address)) (issuer : Address) (templateId : Str) : Nat → Prop :=
  Registry.Standing (SavesAt calls issuer templateId) (DeletesAt calls issuer templateId)

theorem savesAt_iff (calls : List (Call Address)) (issuer : Address) (templateId : Str) (n : Nat) :
    SavesAt calls issuer templateId n ↔ ∃ call : Call Address, ∃ template,
      call.op.keeps issuer = some (.put templateId template) ∧
        Registry.ReturnsAt step (·.op.exec) (·.env) (TemplateWorld.empty Address) calls call n := by
  constructor
  · rintro ⟨env, claimType, metadata, after, here, accepted⟩
    exact ⟨⟨env, .saveTemplate issuer templateId claimType metadata⟩,
      ⟨issuer, templateId, claimType, metadata⟩, if_pos rfl, here, after, accepted⟩
  · rintro ⟨⟨env, op⟩, template, moves, here, after, accepted⟩
    cases op with
    | contract op => cases moves
    | deleteTemplate owner id => simp [Op.keeps] at moves
    | saveTemplate owner id claimType metadata =>
        simp [Op.keeps] at moves
        obtain ⟨rfl, rfl, -⟩ := moves
        exact ⟨env, claimType, metadata, after, here, accepted⟩

theorem deletesAt_iff (calls : List (Call Address)) (issuer : Address) (templateId : Str)
    (n : Nat) :
    DeletesAt calls issuer templateId n ↔ ∃ call : Call Address,
      call.op.keeps issuer = some (.remove templateId) ∧
        Registry.ReturnsAt step (·.op.exec) (·.env) (TemplateWorld.empty Address) calls call n := by
  constructor
  · rintro ⟨env, after, here, accepted⟩
    exact ⟨⟨env, .deleteTemplate issuer templateId⟩, if_pos rfl, here, after, accepted⟩
  · rintro ⟨⟨env, op⟩, moves, here, after, accepted⟩
    cases op with
    | contract op => cases moves
    | saveTemplate owner id claimType metadata => simp [Op.keeps] at moves
    | deleteTemplate owner id =>
        simp [Op.keeps] at moves
        obtain ⟨rfl, rfl⟩ := moves
        exact ⟨env, after, here, accepted⟩

/-- The templates of an issuer are listed in the order of their most recent creation. -/
theorem templates_listed (calls : List (Call Address)) (issuer : Address) :
    Registry.Listed (table issuer (run calls)) (LastCreated calls issuer) :=
  @Registry.listed_of_run _ _ _ _ _ _ _ step (·.op.exec) (·.env) (table issuer)
    (·.op.keeps issuer) (fun _ _ => rfl)
    (fun call _ _ accepted => table_of_returns call.op accepted)
    (TemplateWorld.empty Address) rfl (SavesAt calls issuer) (DeletesAt calls issuer) calls
    (savesAt_iff calls issuer) (deletesAt_iff calls issuer)

end Templates

/-- Issuer 1 saves, at the time given. -/
def sampleSave (timestamp : Nat) (templateId : Str) : Call ContractId :=
  ⟨⟨timestamp, [contractId 1], fun _ => true, fun _ => true⟩,
    .saveTemplate (contractId 1) templateId (ascii "KYC") none⟩

def sampleTemplates : List (Call ContractId) :=
  sampleDeployment.map (fun call => ⟨call.env, .contract (.delegated call.op)⟩) ++
    [sampleSave 1000 (ascii "alpha"), sampleSave 1001 (ascii "beta"),
      sampleSave 1002 (ascii "alpha")]

-- an overwritten template keeps its place, a deleted and saved one goes to the end
example : (run sampleTemplates).templateList (contractId 1) = [ascii "alpha", ascii "beta"] ∧
    (run (sampleTemplates ++ [
      ⟨⟨1003, [contractId 1], fun _ => true, fun _ => true⟩,
        .deleteTemplate (contractId 1) (ascii "alpha")⟩,
      sampleSave 1004 (ascii "alpha")])).templateList (contractId 1) =
        [ascii "beta", ascii "alpha"] := by
  decide +kernel

end Template

section Main
variable {Address : Type} [DecidableEq Address] [Host Address]

/-- Both registries mirror their records in every reachable state. -/
theorem ordered_registries_mirror :
    (∀ calls : List (Entry.Call Address),
      Registry.Listed (Entry.run calls).storage.claimTypes (FirstRegistered calls)) ∧
    ∀ (calls : List (Template.Call Address)) (issuer : Address),
      Registry.Listed (Template.table issuer (Template.run calls))
        (Template.LastCreated calls issuer) :=
  ⟨claimTypes_listed, Template.templates_listed⟩

end Main

end TrustLink
