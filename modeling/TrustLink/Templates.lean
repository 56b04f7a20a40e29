import TrustLink.PublicCalls
import TrustLink.Lib.Registry
import TrustLink.Lib.Rollback

/-!
The attestation templates of lib.rs, which live beside the rest of the contract: a record per
issuer and id, and per issuer the list of the ids.
-/
namespace TrustLink
open Transaction

structure AttestationTemplate (Address : Type) where
  issuer : Address
  templateId : Str
  claimType : Str
  metadata : Option Str

inductive TemplateEvent (Address : Type) where
  | templateDeleted (issuer : Address) (templateId : Str)

/-- The world of the contract with the storage of the templates. -/
structure TemplateWorld (Address : Type) where
  world : World Address
  template : Address → Str → Option (AttestationTemplate Address)
  templateList : Address → List Str
  events : List (TemplateEvent Address)

def TemplateWorld.empty (Address : Type) : TemplateWorld Address :=
  ⟨World.empty Address, fun _ _ => none, fun _ => [], []⟩

abbrev TemplateProgram (Address : Type) := Tx Fault (Env Address) (TemplateWorld Address)

namespace Template

section Model
variable {Address : Type}

/-- A step that looks at the rest of the contract only. -/
def onContract {α : Type} (program : Program Address α) : TemplateProgram Address α :=
  zoom (·.world) (fun state world => { state with world }) program

variable [DecidableEq Address]

def getTemplate (issuer : Address) (templateId : Str) :
    TemplateProgram Address (AttestationTemplate Address) := do
  let found ← reads fun state => state.template issuer templateId
  orFail (.error .notFound) found

def setTemplate (template : AttestationTemplate Address) : TemplateProgram Address Unit := do
  let _ ← onContract getTtlLifetime
  let isNew ← reads fun state => (state.template template.issuer template.templateId).isNone
  modify fun state => { state with
    template := Function.update state.template template.issuer
      (Function.update (state.template template.issuer) template.templateId (some template)) }
  if isNew = true then
    modify fun state => { state with
      templateList := Function.update state.templateList template.issuer
        (state.templateList template.issuer ++ [template.templateId]) }
  else pure ()

def removeTemplate (issuer : Address) (templateId : Str) : TemplateProgram Address Unit := do
  modify fun state => { state with
    template := Function.update state.template issuer
      (Function.update (state.template issuer) templateId none) }
  let _ ← onContract getTtlLifetime
  modify fun state => { state with
    templateList := Function.update state.templateList issuer
      ((state.templateList issuer).filter (· ≠ templateId)) }

def saveTemplate (issuer : Address) (templateId claimType : Str) (metadata : Option Str) :
    TemplateProgram Address Unit := do
  onContract (requireAuth issuer)
  onContract (Validation.requireIssuer issuer)
  onContract (validated (Validation.validateClaimType claimType))
  onContract (validated (Validation.validateMetadata metadata))
  setTemplate ⟨issuer, templateId, claimType, metadata⟩

def deleteTemplate (issuer : Address) (templateId : Str) : TemplateProgram Address Unit := do
  onContract (requireAuth issuer)
  let template ← getTemplate issuer templateId
  onContract (failWhen (template.issuer ≠ issuer) .unauthorized)
  removeTemplate issuer templateId
  modify fun state => { state with
    events := state.events ++ [.templateDeleted issuer templateId] }

end Model

/-- A call of the contract, of which two are about templates. -/
inductive Op (Address : Type) where
  | contract (op : Entry.Op Address)
  | saveTemplate (issuer : Address) (templateId claimType : Str) (metadata : Option Str)
  | deleteTemplate (issuer : Address) (templateId : Str)

structure Call (Address : Type) where
  env : Env Address
  op : Op Address

section Execution
variable {Address : Type} [DecidableEq Address] [Host Address]

def Op.exec : Op Address → TemplateProgram Address Unit
  | .contract op => onContract op.exec
  | .saveTemplate issuer templateId claimType metadata =>
      Template.saveTemplate issuer templateId claimType metadata
  | .deleteTemplate issuer templateId => Template.deleteTemplate issuer templateId

/-- One transaction; a failing one leaves no writes. -/
def step (state : TemplateWorld Address) (call : Call Address) : TemplateWorld Address :=
  attempt call.op.exec call.env state

abbrev run (calls : List (Call Address)) : TemplateWorld Address :=
  Trace.run step (TemplateWorld.empty Address) calls

def Accepted (before : TemplateWorld Address) (call : Call Address)
    (after : TemplateWorld Address) : Prop :=
  Returns call.op.exec call.env before () after

end Execution

section Returns
variable {Address : Type} [DecidableEq Address] {env : Env Address}
  {before after : TemplateWorld Address}

/-- The checks of `save_template`. -/
structure SaveChecks (storage : Storage Address) (env : Env Address) (issuer : Address)
    (claimType : Str) (metadata : Option Str) : Prop where
  auth : issuer ∈ env.auths
  registered : storage.issuer issuer = true
  claim : Validation.validateClaimType claimType = .ok ()
  metadata : Validation.validateMetadata metadata = .ok ()
  ttl : TtlFits storage.ttlConfig

/-- The checks of `delete_template`. -/
structure DeleteChecks (state : TemplateWorld Address) (env : Env Address) (issuer : Address)
    (templateId : Str) : Prop where
  auth : issuer ∈ env.auths
  own : ∃ template, state.template issuer templateId = some template ∧ template.issuer = issuer
  ttl : TtlFits state.world.storage.ttlConfig

/-- The records and the list of one issuer. -/
def table (issuer : Address) (state : TemplateWorld Address) :
    Registry.Table Str (AttestationTemplate Address) :=
  ⟨state.template issuer, state.templateList issuer⟩

/-- The state with another table of one issuer. -/
def withTable (state : TemplateWorld Address) (issuer : Address)
    (table : Registry.Table Str (AttestationTemplate Address)) : TemplateWorld Address :=
  { state with
    template := Function.update state.template issuer table.record
    templateList := Function.update state.templateList issuer table.order }

theorem returns_setTemplate (template : AttestationTemplate Address) (done : Unit) :
    Returns (setTemplate template) env before done after ↔
      TtlFits before.world.storage.ttlConfig ∧
        after = withTable before template.issuer
          ((table template.issuer before).move (.put template.templateId template)) := by
  simp [setTemplate, onContract]
  cases found : before.template template.issuer template.templateId with
  | none => simp [found, withTable, table, Registry.Table.move]
  | some old => simp [found, withTable, table, Registry.Table.move]

theorem returns_removeTemplate (issuer : Address) (templateId : Str) (done : Unit) :
    Returns (removeTemplate issuer templateId) env before done after ↔
      TtlFits before.world.storage.ttlConfig ∧
        after = withTable before issuer ((table issuer before).move (.remove templateId)) := by
  simp [removeTemplate, onContract, withTable, table, Registry.Table.move]

theorem returns_saveTemplate (issuer : Address) (templateId claimType : Str)
    (metadata : Option Str) (done : Unit) :
    Returns (saveTemplate issuer templateId claimType metadata) env before done after ↔
      SaveChecks before.world.storage env issuer claimType metadata ∧
        after = withTable before issuer ((table issuer before).move
          (.put templateId ⟨issuer, templateId, claimType, metadata⟩)) := by
  simp [saveTemplate, onContract, returns_setTemplate]
  constructor
  · rintro ⟨auth, registered, claim, metadata, ttl, left⟩
    exact ⟨⟨auth, registered, claim, metadata, ttl⟩, left⟩
  · rintro ⟨⟨auth, registered, claim, metadata, ttl⟩, left⟩
    exact ⟨auth, registered, claim, metadata, ttl, left⟩

theorem returns_deleteTemplate (issuer : Address) (templateId : Str) (done : Unit) :
    Returns (deleteTemplate issuer templateId) env before done after ↔
      DeleteChecks before env issuer templateId ∧
        after = { withTable before issuer ((table issuer before).move (.remove templateId)) with
          events := before.events ++ [.templateDeleted issuer templateId] } := by
  simp [deleteTemplate, getTemplate, onContract, returns_removeTemplate]
  constructor
  · rintro ⟨auth, template, found, own, ttl, rfl⟩
    exact ⟨⟨auth, ⟨template, found.symm, own⟩, ttl⟩, rfl⟩
  · rintro ⟨⟨auth, ⟨template, found, own⟩, ttl⟩, rfl⟩
    exact ⟨auth, template, found.symm, own, ttl, rfl⟩

end Returns

end Template

end TrustLink
