import TrustLink.Indexer.Signings
import TrustLink.Observer

/-!
The rows of the attestations beside the register of the contract, over histories of any calls. Of an
attestation a row shows the subject, the claim type and whether it is revoked, which is what the
validity endpoint looks at. No event of a transfer or a deletion is watched, and none is needed for
that; but an id that is announced again keeps its row.
-/
namespace TrustLink.Indexer
open Trace Mirroring

section Log
variable {Address : Type}

/-- An event about an attestation follows the earlier ones. -/
def Grounded (register : PublicRegister Address) : Event Address → Prop
  | .attestationCreated attestation => Lettered attestation.id ∧ attestation.origin = .native
  | .attestationImported attestation => Lettered attestation.id ∧ attestation.origin = .imported
  | .attestationBridged attestation => Lettered attestation.id ∧ attestation.origin = .bridged
  | .attestationRevoked id _ _ | .attestationRevokedWithReason id _ _
  | .attestationTransferred id _ _ | .deletionRequested _ id _ =>
      (register.record id).isSome = true
  | _ => True

theorem grounded_hidden {event : Event Address} (hidden : event.isPublic = false)
    (register : PublicRegister Address) : Grounded register event := by
  cases event <;> trivial

variable [Host Address] {register : Register Address} {now : Nat}

theorem grounded_posting {change : Change Address} (enabled : Enabled register change)
    {event : Event Address} (posted : change.posting? now = some event) :
    Grounded register.posted event := by
  cases change with
  | issue attestation =>
      obtain rfl := Option.some.inj posted
      have lettered : Lettered attestation.id := named_letters (enabled.2.imp_right And.left)
      cases origin : attestation.origin <;>
        simp only [Attestation.announcement, origin] <;> exact ⟨lettered, origin⟩
  | amend attestation expiration => cases posted
  | revoke attestation | revokeInBatch attestation | transfer attestation | erase attestation =>
      have found : register.record attestation.id = some attestation := enabled
      obtain rfl := Option.some.inj posted
      simp [Grounded, Register.posted, found]

variable [DecidableEq Address]

theorem grounded_changes {changes : List (Change Address)}
    (enabled : Each Register.apply Enabled register changes) :
    Each PublicRegister.absorb Grounded register.posted
      (changes.filterMap (Change.posting? now)) := by
  induction changes generalizing register with
  | nil => trivial
  | cons change rest ih =>
      have later := ih enabled.2
      rw [posted_apply enabled.1 now] at later
      cases posted : change.posting? now with
      | none =>
          rw [posted, Option.toList_none, Trace.run_nil] at later
          rwa [List.filterMap_cons_none posted]
      | some event =>
          rw [posted, Option.toList_some, Trace.run_cons, Trace.run_nil] at later
          rw [List.filterMap_cons_some posted]
          exact ⟨grounded_posting enabled.1 posted, later⟩

/-- Of an attestation the log first tells that there is one. -/
theorem grounded_live (activities : List (Activity Address)) :
    Each PublicRegister.absorb Grounded (PublicRegister.empty Address)
      (live activities).events := by
  refine @each_log _ _ _ _ (fun storage => storage.register.posted) _ _
    (fun event report seen => grounded_hidden (hidden_elsewhere (by simp [report])) seen)
    (fun activities => (register_log [] activities).rebuild rfl)
    (fun activities call after accepted => ?_) activities
  have keyed := keyed_live activities
  refine ⟨_, events_of_accepted keyed accepted, ?_⟩
  rw [← each_filter PublicRegister.absorb_idle fun _ hidden seen => grounded_hidden hidden seen,
    public_postings]
  exact grounded_changes (follows_of_accepted keyed accepted).enabled

omit [Host Address] in
theorem grounded_lettered (register : PublicRegister Address) (event : Event Address)
    (lettered : ∀ id, (register.record id).isSome = true → Lettered id)
    (grounded : Grounded register event) :
    ∀ id, ((register.absorb event).record id).isSome = true → Lettered id := by
  have kept : ∀ {target : Str} {record : Option (PublicRecord Address)},
      ((record.isSome = true) → Lettered target) → ∀ id,
        (Function.update register.record target record id).isSome = true → Lettered id := by
    intro target record own id
    by_cases here : id = target
    · subst here
      simpa using own
    · simpa [here] using lettered id
  cases event with
  | attestationCreated attestation | attestationImported attestation
  | attestationBridged attestation => exact kept fun _ => grounded.1
  | attestationRevoked target issuer reason | attestationRevokedWithReason target issuer reason =>
      have own := lettered target grounded
      intro id
      rw [PublicRegister.absorb, PublicRegister.revoke]
      split
      · exact lettered id
      · exact kept (fun _ => own) id
  | attestationTransferred target oldIssuer newIssuer =>
      exact kept fun _ => lettered target grounded
  | deletionRequested subject target timestamp => exact kept fun _ => lettered target grounded
  | _ => exact lettered

end Log

section Rows

@[simp] theorem spread_subject (extra : Extra) (row : AttestationRow) :
    (extra.spread row).subject = row.subject := by
  cases extra <;> rfl

@[simp] theorem spread_claimType (extra : Extra) (row : AttestationRow) :
    (extra.spread row).claimType = row.claimType := by
  cases extra <;> rfl

@[simp] theorem spread_isRevoked (extra : Extra) (row : AttestationRow) :
    (extra.spread row).isRevoked = row.isRevoked := by
  cases extra <;> rfl

variable {Address : Type} [TextDecoder] [AddressDecoder Address]

/-- What the validity endpoint sees of an attestation. -/
structure AttestationRow.Tells (row : AttestationRow) (record : PublicRecord Address) : Prop where
  subject : row.subject = strkey record.subject
  claimType : row.claimType = text record.claimType
  isRevoked : row.isRevoked = record.revocation.isSome

/-- The rows tell of the records of the register. -/
abbrev DisplaysRecords (record : Str → Option (PublicRecord Address))
    (table : Table AttestationRow) : Prop :=
  Displays text AttestationRow.Tells record table

variable [JsRuntime]

/-- An announcement shows in a row: it can be stored, and either there is no row yet or the row is
of an attestation of the same type that is not revoked. If it cannot be stored, the row has to be
of the same subject as well. -/
def NotedAs (register : PublicRegister Address) (attestation : Attestation Address) : Prop :=
  match register.record attestation.id with
  | none => Storable attestation
  | some record => (Storable attestation ∨ record.subject = attestation.subject) ∧
      text record.claimType = text attestation.claimType ∧ record.revocation = none

/-- What the event tells of an attestation shows in its row. -/
def Noted (register : PublicRegister Address) : Event Address → Prop
  | .attestationCreated attestation | .attestationImported attestation
  | .attestationBridged attestation => NotedAs register attestation
  | _ => True

variable {db : Db} (clock : Clock)

/-- An announcement that cannot be stored is lost. Else it gives a new row, or it gives the row
there is its subject. -/
theorem processed_announcement (attestation : Attestation Address) :
    (Storable attestation ∧ ∃ row extra, row.subject = strkey attestation.subject ∧
      row.claimType = text attestation.claimType ∧ row.isRevoked = false ∧
      (processEvent db (clock, publish attestation.announcement)).attestation =
        db.attestation.upsert (text attestation.id)
          (fun old => Extra.spread extra { old with subject := row.subject })
          (Extra.spread extra row)) ∨
    ¬ Storable attestation ∧
      (processEvent db (clock, publish attestation.announcement)).attestation = db.attestation := by
  by_cases storable : Storable attestation
  · obtain ⟨after, handled⟩ := @announcement_handled _ _ _ _ db clock attestation storable
    obtain ⟨-, base, extra, shows, rfl⟩ := row_of_announcement handled
    refine .inl ⟨storable, base, extra, ?_, ?_, ?_, ?_⟩
    · simpa using shows.subject
    · simpa using shows.claimType
    · simpa using shows.isRevoked
    · rw [processEvent, handled]
      rfl
  · refine .inr ⟨storable, ?_⟩
    cases handled : handleEvent db clock (publish attestation.announcement) with
    | none => rw [processEvent, handled, Option.getD_none]
    | some after => exact absurd (row_of_announcement handled).1 storable

variable {register : PublicRegister Address}

omit [JsRuntime] in
/-- A new record is told by a row with its subject and type that shows no revocation. -/
theorem tells_fresh {row : AttestationRow} {attestation : Attestation Address}
    {record : PublicRecord Address} (subject : record.subject = attestation.subject)
    (claimType : record.claimType = attestation.claimType) (fresh : record.revocation = none) :
    row.Tells record ↔ row.subject = strkey attestation.subject ∧
      row.claimType = text attestation.claimType ∧ row.isRevoked = false := by
  rw [← subject, ← claimType]
  constructor
  · exact fun tells => ⟨tells.subject, tells.claimType, by simpa [fresh] using tells.isRevoked⟩
  · exact fun same => ⟨same.1, same.2.1, by simpa [fresh] using same.2.2⟩

theorem displays_announced (displays : DisplaysRecords register.record db.attestation)
    (lettered : ∀ id, (register.record id).isSome = true → Lettered id)
    {attestation : Attestation Address} (own : Lettered attestation.id) {event : Event Address}
    (announced : attestation.announcement = event)
    {record : PublicRecord Address} (subject : record.subject = attestation.subject)
    (claimType : record.claimType = attestation.claimType) (fresh : record.revocation = none) :
    DisplaysRecords (Function.update register.record attestation.id (some record))
        (processEvent db (clock, publish event)).attestation ↔
      NotedAs register attestation := by
  subst announced
  have apart := apart_text lettered own
  unfold NotedAs
  rcases @processed_announcement _ _ _ _ db clock attestation with
    ⟨storable, row, extra, sameSubject, sameType, active, written⟩ | ⟨unstorable, same⟩
  · rw [written]
    refine (displays.write_iff apart fun key other => Function.update_of_ne other ..).trans ?_
    rw [Table.upsert, Function.update_self]
    simp only [Option.some.injEq, exists_eq_left', tells_fresh subject claimType fresh]
    cases known : register.record attestation.id with
    | none =>
        rw [displays.absent apart known]
        simp [sameSubject, sameType, active, storable]
    | some earlier =>
        obtain ⟨old, found, tells⟩ := displays.shown _ _ known
        rw [found]
        simp [sameSubject, tells.claimType, tells.isRevoked, storable]
  · rw [same]
    refine (displays.write_iff apart fun _ _ => rfl).trans ?_
    simp only [tells_fresh subject claimType fresh]
    cases known : register.record attestation.id with
    | none => simp [displays.absent apart known, unstorable]
    | some earlier =>
        obtain ⟨old, found, tells⟩ := displays.shown _ _ known
        rw [found]
        simp [tells.subject, tells.claimType, tells.isRevoked, unstorable,
          AddressDecoder.injective.eq_iff]

theorem processed_revocation {event : Event Address} {id : Str} {issuer : Address}
    {reason : Option Str} (lettered : Lettered id)
    (published : publish event = publish (.attestationRevoked id issuer reason)) :
    (processEvent db (clock, publish event)).attestation =
      db.attestation.updateMany (text id) (fun _ => true) fun row => { row with isRevoked := true } := by
  rw [published, processEvent, handle_revocation (plain_of_letters lettered)]
  rfl

/-- A revocation shows in the row of what it revokes. -/
theorem displays_revoked (displays : DisplaysRecords register.record db.attestation)
    (lettered : ∀ id, (register.record id).isSome = true → Lettered id) {event : Event Address}
    {id : Str} {issuer : Address} {reason : Option Str}
    (published : publish event = publish (.attestationRevoked id issuer reason))
    {record : PublicRecord Address} (known : register.record id = some record) :
    DisplaysRecords
      (Function.update register.record id (some { record with revocation := some reason }))
      (processEvent db (clock, publish event)).attestation := by
  have own := lettered id (by simp [known])
  obtain ⟨row, found, tells⟩ := displays.shown id record known
  rw [processed_revocation clock own published]
  refine (displays.write_iff (apart_text lettered own) fun key other => ?_).mpr
    ⟨{ row with isRevoked := true }, ?_, tells.subject, tells.claimType, rfl⟩
  · exact Function.update_of_ne other ..
  · simp [Table.updateMany, found]

omit [JsRuntime] in
/-- A new issuer and a deletion do not show. -/
theorem displays_unseen {table : Table AttestationRow}
    (displays : DisplaysRecords register.record table)
    (lettered : ∀ id, (register.record id).isSome = true → Lettered id) {id : Str}
    {record later : PublicRecord Address} (known : register.record id = some record)
    (subject : later.subject = record.subject) (claimType : later.claimType = record.claimType)
    (revocation : later.revocation = record.revocation) :
    DisplaysRecords (Function.update register.record id (some later)) table := by
  obtain ⟨row, found, tells⟩ := displays.shown id record known
  refine displays.rewrite (apart_text lettered (lettered id (by simp [known]))) found ⟨?_, ?_, ?_⟩
  · rw [subject, tells.subject]
  · rw [claimType, tells.claimType]
  · rw [revocation, tells.isRevoked]

/-- An event that is neither an announcement nor a revocation leaves the rows alone. -/
theorem records_kept {event : Event Address} (silent : event.isNotice = false) :
    (processEvent db (clock, publish event)).attestation = db.attestation := by
  refine attestation_kept clock fun id same => ?_
  cases event <;> first | exact Bool.noConfusion silent | cases same

variable [DecidableEq Address]

/-- An event that follows the earlier ones shows exactly when it is noted. -/
theorem displays_posted (event : Event Address)
    (displays : DisplaysRecords register.record db.attestation)
    (lettered : ∀ id, (register.record id).isSome = true → Lettered id)
    (grounded : Grounded register event) :
    DisplaysRecords (register.absorb event).record
        (processEvent db (clock, publish event)).attestation ↔ Noted register event := by
  cases event with
  | attestationCreated attestation | attestationImported attestation
  | attestationBridged attestation =>
      have announced := grounded.2
      exact displays_announced clock displays lettered grounded.1
        (by rw [Attestation.announcement, announced]) rfl rfl rfl
  | attestationRevoked id issuer reason | attestationRevokedWithReason id issuer reason =>
      obtain ⟨record, known⟩ := Option.isSome_iff_exists.mp grounded
      rw [PublicRegister.absorb, PublicRegister.revoke, known]
      exact iff_of_true (displays_revoked clock displays lettered rfl known) trivial
  | attestationTransferred id oldIssuer newIssuer =>
      obtain ⟨record, known⟩ := Option.isSome_iff_exists.mp grounded
      rw [PublicRegister.absorb, PublicRegister.reassign, known, records_kept clock rfl]
      exact iff_of_true (displays_unseen displays lettered known rfl rfl rfl) trivial
  | deletionRequested subject id timestamp =>
      obtain ⟨record, known⟩ := Option.isSome_iff_exists.mp grounded
      rw [PublicRegister.absorb, PublicRegister.erase, known, records_kept clock rfl]
      exact iff_of_true (displays_unseen displays lettered known rfl rfl rfl) trivial
  | _ =>
      rw [PublicRegister.absorb_idle _ rfl, records_kept clock rfl]
      exact iff_of_true displays trivial

theorem records_shown_iff {handled : List (Clock × Event Address)}
    (log : Each PublicRegister.absorb Grounded (PublicRegister.empty Address)
      (handled.map Prod.snd)) :
    (∀ early late, handled = early ++ late →
        DisplaysRecords
          (Trace.run PublicRegister.absorb (PublicRegister.empty Address)
            (early.map Prod.snd)).record
          (tablesAfter early).attestation) ↔
      Each PublicRegister.absorb Noted (PublicRegister.empty Address) (handled.map Prod.snd) :=
  @always_mirrored_iff _ _ _ _ _ handlePublished Grounded Noted
    (fun register => ∀ id, (register.record id).isSome = true → Lettered id)
    (fun register db => DisplaysRecords register.record db.attestation) grounded_lettered
    (fun _ _ clock event lettered grounded displays =>
      displays_posted clock event displays lettered grounded)
    _ Db.empty (fun _ stands => Bool.noConfusion stands) displays_empty handled log

variable [Host Address]

/-- At every moment the rows tell of the attestations exactly if every event is noted, and then
they tell of those that the contract has stored at that time. -/
theorem records_mirrored (activities : List (Activity Address))
    (handled : List (Clock × Event Address))
    (published : handled.map Prod.snd = (live activities).events) :
    ((∀ early late, handled = early ++ late →
        DisplaysRecords
          (Trace.run PublicRegister.absorb (PublicRegister.empty Address)
            (early.map Prod.snd)).record
          (tablesAfter early).attestation) ↔
      Each PublicRegister.absorb Noted (PublicRegister.empty Address) (live activities).events) ∧
    (Each PublicRegister.absorb Noted (PublicRegister.empty Address) (live activities).events →
      ∀ early late, activities = early ++ late →
        DisplaysRecords (live early).storage.register.posted.record
          (tablesAfter (handled.take (live early).events.length)).attestation) := by
  have exact := records_shown_iff (published ▸ grounded_live activities)
  rw [published] at exact
  refine ⟨exact, fun noted early late split => ?_⟩
  obtain ⟨fresh, grown, -⟩ := register_log early late
  have seen : (handled.take (live early).events.length).map Prod.snd = (live early).events := by
    rw [List.map_take, published, split, grown, List.take_left]
  have told : (live early).storage.register.posted =
      Trace.run PublicRegister.absorb (PublicRegister.empty Address)
        ((handled.take (live early).events.length).map Prod.snd) := by
    rw [seen]
    exact (register_log [] early).rebuild rfl
  rw [told]
  exact exact.mpr noted _ _ (List.take_append_drop ..).symm

end Rows

section Sample
open Xdr

attribute [local instance] decimalRuntime

/-- Whatever is announced is the sample attestation, for the first time. -/
def announcesKyc (register : PublicRegister ContractId) (event : Event ContractId) : Bool :=
  event.creation?.all fun attestation =>
    (register.record attestation.id).isNone && decide (ShowsKyc attestation)

theorem noted_of_kyc {register : PublicRegister ContractId} {event : Event ContractId}
    (announces : announcesKyc register event = true) : Noted register event := by
  cases event with
  | attestationCreated attestation | attestationImported attestation
  | attestationBridged attestation =>
      simp only [announcesKyc, Event.creation?, Option.all_some, Bool.and_eq_true,
        Option.isNone_iff_eq_none, decide_eq_true_eq] at announces
      rw [Noted, NotedAs, announces.1]
      exact announces.2.storable
  | _ => trivial

/-- An attestation that is issued and passes to another issuer. -/
theorem records_mirrored_sample :
    let activities := (sampleDeployment ++ [sampleIssuance, sampleTransfer]).map Activity.call
    let handled := (live activities).events.map fun event => (midnight, event)
    DisplaysRecords (live activities).storage.register.posted.record
      (tablesAfter handled).attestation := by
  intro activities handled
  have announces : Each PublicRegister.absorb
      (fun register event => announcesKyc register event = true) (PublicRegister.empty ContractId)
      (live activities).events := by decide +kernel
  have published : handled.map Prod.snd = (live activities).events := by
    simp [handled, Function.comp_def]
  have mirrored := (records_mirrored activities handled published).2
    (announces.imp fun _ _ => noted_of_kyc) activities [] (List.append_nil _).symm
  rwa [List.take_of_length_le (by simp [handled])] at mirrored

end Sample

end TrustLink.Indexer
