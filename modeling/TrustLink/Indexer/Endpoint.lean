import TrustLink.Notices
import TrustLink.Readers
import TrustLink.Indexer.Published
import TrustLink.Indexer.Reindex

/-!
`GET /subjects/:address/claims/:claim_type/valid` against `has_valid_claim`. The answer
is read off the attestation rows, which follow the notices of the contract: a row stands
for each attestation whose announcement fits its columns, and it shows a revocation.
Expirations, start times and deletions leave no trace in what the endpoint looks at.
-/
namespace TrustLink.Indexer
open Transaction Query

/-- The endpoint finds a row that is not revoked. -/
def AnswersValid (db : Db) (address claimType : String) : Prop :=
  ∃ id row, db.attestation id = some row ∧ row.subject = address ∧ row.claimType = claimType ∧
    row.isRevoked = false

section Announcing
variable [JsRuntime] {Address : Type} [TextDecoder] [AddressDecoder Address]

/-- PostgreSQL can store what the announcement of the attestation carries. -/
def Storable (attestation : Attestation Address) : Prop :=
  match attestation.origin with
  | .native => CreatedFits attestation
  | .imported => ImportedFits attestation
  | .bridged => ∃ timestamp, BridgedFits attestation timestamp

/-- What the endpoint sees of an attestation. -/
structure Shows (row : AttestationRow) (attestation : Attestation Address) (revoked : Bool) :
    Prop where
  subject : row.subject = strkey attestation.subject
  claimType : row.claimType = text attestation.claimType
  isRevoked : row.isRevoked = revoked

omit [JsRuntime] in
theorem shows_spread (kind : Watched) (attestation : Attestation Address) (timestamp : Int)
    (extra : Extra) : Shows (extra.spread (baseRow kind attestation timestamp)) attestation false := by
  cases extra <;> exact ⟨rfl, rfl, rfl⟩

variable {db after : Db} {clock : Clock} {attestation : Attestation Address}

theorem announcement_handled (storable : Storable attestation) :
    ∃ after, handleEvent db clock (publish attestation.announcement) = some after := by
  unfold Storable at storable
  unfold Attestation.announcement
  cases origin : attestation.origin with
  | native =>
      rw [origin] at storable
      exact ⟨_, handle_created.mpr ⟨storable, rfl⟩⟩
  | imported =>
      rw [origin] at storable
      exact ⟨_, handle_imported.mpr ⟨storable, rfl⟩⟩
  | bridged =>
      rw [origin] at storable
      obtain ⟨timestamp, fits⟩ := storable
      exact ⟨_, handle_bridged.mpr ⟨timestamp, fits, rfl⟩⟩

theorem row_of_announcement
    (handled : handleEvent db clock (publish attestation.announcement) = some after) :
    Storable attestation ∧ ∃ base extra, Shows (extra.spread base) attestation false ∧
      after = db.withRow (text attestation.id) base extra := by
  unfold Attestation.announcement at handled
  unfold Storable
  cases origin : attestation.origin with
  | native =>
      rw [origin] at handled
      obtain ⟨fits, left⟩ := handle_created.mp handled
      exact ⟨fits, _, _, shows_spread .created attestation _ _, left⟩
  | imported =>
      rw [origin] at handled
      obtain ⟨fits, left⟩ := handle_imported.mp handled
      exact ⟨fits, _, _, shows_spread .imported attestation _ _, left⟩
  | bridged =>
      rw [origin] at handled
      obtain ⟨timestamp, fits, left⟩ := handle_bridged.mp handled
      exact ⟨⟨timestamp, fits⟩, _, _, shows_spread .bridged attestation _ _, left⟩

theorem handle_revocation {id : Str} {issuer : Address} {reason : Option Str}
    (plain : Plain (text id)) :
    handleEvent db clock (publish (.attestationRevoked id issuer reason)) = some { db with
      attestation := db.attestation.updateMany (text id) (fun _ => true)
        fun row => { row with isRevoked := true } } := by
  have watches : (publish (.attestationRevoked id issuer reason)).watched? = some .revoked := rfl
  have stored : textColumn (text id) = some (text id) := textColumn_eq_some.mpr ⟨plain, rfl⟩
  rw [handleEvent_of_watched watches rfl, handleKind, handleRevoked]
  simp [item, stored]

end Announcing

section Noting
variable [JsRuntime]

/-- The attestation rows after an event depend on those before and the event alone. -/
theorem attestation_processEvent {db other : Db} (clock clock' : Clock) (ev : EventResponse)
    (same : db.attestation = other.attestation) :
    (processEvent db (clock, ev)).attestation = (processEvent other (clock', ev)).attestation := by
  obtain ⟨edit, writes⟩ := event_writes ev
  have alike := writes.alike clock clock'
  rw [writes.processed, writes.processed]
  cases early : edit clock with
  | none =>
      rw [early] at alike
      cases late : edit clock' with
      | none => exact same
      | some edit => rw [late] at alike; cases alike
  | some first =>
      rw [early] at alike
      cases late : edit clock' with
      | none => rw [late] at alike; cases alike
      | some second =>
          rw [late] at alike
          cases alike with
          | some alike =>
              cases first with
              | multisigProposal id write =>
                  cases second with
                  | multisigProposal id' write' => exact same
                  | _ => cases alike
              | _ => cases alike; simp [Db.apply, same]

/-- An event that is not about an attestation leaves their rows alone. -/
theorem attestation_kept {db : Db} (clock : Clock) {ev : EventResponse}
    (other : ∀ id, ev.rowKey? ≠ some (.attestation id)) :
    (processEvent db (clock, ev)).attestation = db.attestation := by
  obtain ⟨edit, writes⟩ := event_writes ev
  rw [writes.processed]
  cases written : edit clock with
  | none => rfl
  | some first =>
      cases first with
      | attestation id write => exact absurd (writes.keyed clock _ written) (other id)
      | _ => rfl

variable {Address : Type} [TextDecoder] [AddressDecoder Address]

/-- The rows of the attestations after an event. -/
def noteStep (table : Table AttestationRow) (event : Event Address) : Table AttestationRow :=
  (processEvent { Db.empty with attestation := table } (epoch, publish event)).attestation

theorem noteStep_idle {table : Table AttestationRow} {event : Event Address}
    (silent : event.isNotice = false) : noteStep table event = table := by
  refine attestation_kept epoch fun id same => ?_
  cases event <;> first | exact Bool.noConfusion silent | cases same

/-- Only the notices count, in their order. -/
theorem attestation_run {db : Db} {handled : List (Clock × EventResponse)}
    {events : List (Event Address)} (published : handled.map Prod.snd = events.map publish) :
    (Trace.run processEvent db handled).attestation =
      Trace.run noteStep db.attestation (events.filter Event.isNotice) := by
  induction events generalizing db handled with
  | nil =>
      rw [List.map_nil, List.map_eq_nil_iff] at published
      rw [published]
      rfl
  | cons event rest ih =>
      obtain ⟨⟨clock, ev⟩, later, rfl, same, more⟩ := List.map_eq_cons_iff.mp published
      simp only at same
      subst same
      have first : (processEvent db (clock, publish event)).attestation =
          noteStep db.attestation event := attestation_processEvent clock epoch _ rfl
      rw [Trace.run_cons, ih more, first]
      cases noticed : event.isNotice with
      | true => rw [List.filter_cons_of_pos noticed, Trace.run_cons]
      | false =>
          rw [List.filter_cons_of_neg (by simp [noticed]), noteStep_idle noticed]

end Noting

section Mirroring
variable {Address : Type} [Host Address]

omit [Host Address] in
theorem hexByte_letters (byte : UInt8) : ∀ digit ∈ hexByte byte, 0 < digit ∧ digit < 128 := by
  have table : hexDigits.all (fun digit => decide (0 < digit ∧ digit < 128)) = true := by decide
  intro digit member
  exact of_decide_eq_true (List.all_eq_true.mp table digit (hexByte_digits byte digit member))

/-- The ids of attestations are hexadecimal. -/
theorem named_letters {id : Str} {subject : Address}
    (named : NativeName id subject ∨ BridgeName id subject) :
    ∀ digit ∈ id, 0 < digit ∧ digit < 128 := by
  have hashed : ∃ payload, id = hashPayload Address payload := by
    rcases named with ⟨_, _, _, rfl⟩ | ⟨_, _, _, _, _, rfl⟩
    · exact ⟨_, rfl⟩
    · exact ⟨_, rfl⟩
  obtain ⟨payload, rfl⟩ := hashed
  intro digit member
  obtain ⟨byte, -, there⟩ := List.mem_flatMap.mp member
  exact hexByte_letters byte digit there

variable [TextDecoder] [JsRuntime] [AddressDecoder Address]

/-- The rows are those of the announced attestations that fit, each showing whether its
record is revoked. -/
structure Mirrors (table : Table AttestationRow) (register : Register Address)
    (announced : List (Attestation Address)) : Prop where
  rows : ∀ key row, table key = some row →
    ∃ attestation ∈ announced, Storable attestation ∧ key = text attestation.id
  listed : ∀ attestation ∈ announced, Storable attestation →
    ∃ row record, table (text attestation.id) = some row ∧
      register.record attestation.id = some record ∧ Shows row attestation record.revoked

omit [Host Address] [JsRuntime] in
theorem mirrors_empty : Mirrors (fun _ => none) (Register.empty Address) [] :=
  ⟨fun _ _ found => (nomatch found), fun _ member => (nomatch member)⟩

variable {table : Table AttestationRow} {register : Register Address}
  {announced : List (Attestation Address)}

omit [JsRuntime] in
theorem Mirrors.fresh (mirrors : Mirrors table register announced) (keyed : Keyed register)
    {id : Str} (letters : Ascii id) (unused : register.record id = none) :
    table (text id) = none := by
  rw [Option.eq_none_iff_forall_ne_some]
  intro row found
  obtain ⟨attestation, member, storable, same⟩ := mirrors.rows _ _ found
  obtain ⟨-, record, -, stored, -⟩ := mirrors.listed attestation member storable
  have ascii : Ascii attestation.id :=
    fun byte there => (named_letters (keyed _ _ stored).2 byte there).2
  rw [text_injective letters ascii same, stored] at unused
  cases unused

omit [Host Address] in
theorem noteStep_announcement {attestation : Attestation Address}
    (absent : table (text attestation.id) = none) :
    (Storable attestation ∧ ∃ row, Shows row attestation false ∧
      noteStep table attestation.announcement =
        Function.update table (text attestation.id) (some row)) ∨
      ¬ Storable attestation ∧ noteStep table attestation.announcement = table := by
  by_cases storable : Storable attestation
  · obtain ⟨after, handled⟩ : ∃ after, handleEvent { Db.empty with attestation := table } epoch
        (publish attestation.announcement) = some after := announcement_handled storable
    obtain ⟨-, base, extra, shows, rfl⟩ := row_of_announcement handled
    refine .inl ⟨storable, _, shows, ?_⟩
    simp [noteStep, processEvent, handled, Db.withRow, Table.upsert, absent]
  · refine .inr ⟨storable, ?_⟩
    cases handled : handleEvent { Db.empty with attestation := table } epoch
        (publish attestation.announcement) with
    | none => simp [noteStep, processEvent, handled]
    | some after => exact absurd (row_of_announcement handled).1 storable

omit [Host Address] in
theorem noteStep_revocation {id : Str} {issuer : Address} {reason : Option Str}
    (plain : Plain (text id)) :
    noteStep table (.attestationRevoked id issuer reason) =
      table.updateMany (text id) (fun _ => true) fun row => { row with isRevoked := true } := by
  simp [noteStep, processEvent, handle_revocation plain]

/-- A revocation shows in the row of the attestation, if it has one. -/
theorem Mirrors.revoke (mirrors : Mirrors table register announced) (keyed : Keyed register)
    {attestation : Attestation Address} {reason : Option Str}
    (found : register.record attestation.id = some attestation) {next : Register Address}
    (record : next.record = Function.update register.record attestation.id
      (some { attestation with revoked := true, revocationReason := reason })) :
    Mirrors (noteStep table (.attestationRevoked attestation.id attestation.issuer reason)) next
      announced := by
  have letters : ∀ {id attestation}, register.record id = some attestation →
      ∀ digit ∈ id, 0 < digit ∧ digit < 128 :=
    fun stored => named_letters (keyed _ _ stored).2
  have ascii : Ascii attestation.id := fun byte there => (letters found byte there).2
  rw [noteStep_revocation (plain_of_letters (letters found))]
  refine ⟨fun key row there => ?_, fun other member storable => ?_⟩
  · have before : ∃ old, table key = some old := by
      by_cases here : key = text attestation.id
      · rw [here, Table.updateMany, Function.update_self, Option.map_eq_some_iff] at there
        obtain ⟨old, before, -⟩ := there
        exact ⟨old, here ▸ before⟩
      · exact ⟨row, by rwa [Table.updateMany, Function.update_of_ne here] at there⟩
    obtain ⟨old, before⟩ := before
    exact mirrors.rows key old before
  · obtain ⟨row, stored, there, held, shows⟩ := mirrors.listed other member storable
    by_cases same : other.id = attestation.id
    · rw [same] at there
      rw [record, same, Function.update_self]
      refine ⟨{ row with isRevoked := true }, _, ?_, rfl, shows.subject, shows.claimType, rfl⟩
      simp [Table.updateMany, there]
    · have apart : text other.id ≠ text attestation.id := fun alike =>
        same (text_injective (fun byte there => (letters held byte there).2) ascii alike)
      rw [record, Function.update_of_ne same]
      exact ⟨row, stored, by rw [Table.updateMany, Function.update_of_ne apart, there], held, shows⟩

omit [Host Address] [JsRuntime] in
/-- A change that neither announces nor revokes does not show. -/
theorem Mirrors.quiet (mirrors : Mirrors table register announced)
    {attestation written : Attestation Address}
    (found : register.record attestation.id = some attestation)
    {next : Register Address}
    (record : next.record = Function.update register.record attestation.id (some written))
    (revoked : written.revoked = attestation.revoked) :
    Mirrors table next announced := by
  refine ⟨mirrors.rows, fun other member storable => ?_⟩
  obtain ⟨row, stored, there, held, shows⟩ := mirrors.listed other member storable
  by_cases same : other.id = attestation.id
  · rw [same, found, Option.some.injEq] at held
    rw [record, same, Function.update_self]
    exact ⟨row, written, same ▸ there, rfl, revoked ▸ held ▸ shows⟩
  · exact ⟨row, stored, there, by rw [record, Function.update_of_ne same, held], shows⟩

variable [DecidableEq Address]

theorem Mirrors.issue (mirrors : Mirrors table register announced) (keyed : Keyed register)
    {attestation : Attestation Address} (enabled : Enabled register (.issue attestation))
    (unused : register.record attestation.id = none) :
    Mirrors (noteStep table attestation.announcement) (register.apply (.issue attestation))
      (announced ++ [attestation]) := by
  obtain ⟨⟨unrevoked, -⟩, named⟩ := enabled
  have ascii : Ascii attestation.id := fun byte there =>
    (named_letters (named.imp_right And.left) byte there).2
  have absent := mirrors.fresh keyed ascii unused
  have record : (register.apply (.issue attestation)).record =
      Function.update register.record attestation.id (some attestation) := rfl
  have kept : ∀ other ∈ announced, Storable other → other.id ≠ attestation.id ∧
      text other.id ≠ text attestation.id := by
    intro other member storable
    obtain ⟨row, stored, there, held, -⟩ := mirrors.listed other member storable
    constructor <;> intro same
    · rw [same, unused] at held
      cases held
    · rw [same, absent] at there
      cases there
  rcases noteStep_announcement absent with ⟨storable, row, shows, left⟩ | ⟨unstorable, left⟩
  · rw [left]
    refine ⟨fun key old there => ?_, fun other member fits => ?_⟩
    · by_cases here : key = text attestation.id
      · exact ⟨attestation, by simp, storable, here⟩
      · rw [Function.update_of_ne here] at there
        obtain ⟨other, member, fits, same⟩ := mirrors.rows key old there
        exact ⟨other, List.mem_append_left _ member, fits, same⟩
    · rcases List.mem_append.mp member with earlier | now
      · obtain ⟨old, stored, there, held, shown⟩ := mirrors.listed other earlier fits
        obtain ⟨apart, textApart⟩ := kept other earlier fits
        exact ⟨old, stored, by rw [Function.update_of_ne textApart, there],
          by rw [record, Function.update_of_ne apart, held], shown⟩
      · obtain rfl := List.mem_singleton.mp now
        exact ⟨row, other, Function.update_self .., by rw [record, Function.update_self],
          unrevoked ▸ shows⟩
  · rw [left]
    refine ⟨fun key old there => ?_, fun other member fits => ?_⟩
    · obtain ⟨other, member, fits, same⟩ := mirrors.rows key old there
      exact ⟨other, List.mem_append_left _ member, fits, same⟩
    · rcases List.mem_append.mp member with earlier | now
      · obtain ⟨old, stored, there, held, shown⟩ := mirrors.listed other earlier fits
        exact ⟨old, stored, there,
          by rw [record, Function.update_of_ne (kept other earlier fits).1, held], shown⟩
      · obtain rfl := List.mem_singleton.mp now
        exact absurd fits unstorable

theorem Mirrors.apply (mirrors : Mirrors table register announced) (keyed : Keyed register)
    {change : Change Address} (enabled : Enabled register change)
    (orderly : Orderly register change) :
    Mirrors (change.notice?.elim table (noteStep table)) (register.apply change)
      (announced ++ change.issued?.toList) := by
  cases change with
  | issue attestation => exact mirrors.issue keyed enabled orderly
  | revoke attestation reason | revokeInBatch attestation reason =>
      have found : register.record attestation.id = some attestation := orderly
      simp only [Change.issued?, Option.toList_none, List.append_nil]
      exact mirrors.revoke keyed found rfl
  | amend attestation _ | transfer attestation _ | erase attestation =>
      have found : register.record attestation.id = some attestation := orderly
      simp only [Change.issued?, Option.toList_none, List.append_nil]
      exact mirrors.quiet found rfl rfl

theorem Mirrors.run {changes : List (Change Address)} (mirrors : Mirrors table register announced)
    (keyed : Keyed register) (enabled : Trace.Each Register.apply Enabled register changes)
    (orderly : Trace.Each Register.apply Orderly register changes) :
    Mirrors (Trace.run noteStep table (changes.filterMap Change.notice?))
      (Trace.run Register.apply register changes)
      (announced ++ changes.filterMap Change.issued?) := by
  induction changes generalizing table register announced with
  | nil => simpa using mirrors
  | cons change rest ih =>
      have later := ih (mirrors.apply keyed enabled.1 orderly.1) (keyed.apply enabled.1) enabled.2
        orderly.2
      cases noticed : change.notice? with
      | none => cases issued : change.issued? <;> simpa [noticed, issued] using later
      | some event => cases issued : change.issued? <;> simpa [noticed, issued] using later

/-- The rows the indexer has made of the notices mirror the attestations of the run. -/
theorem mirrors_run (calls : List (Call Address)) (direct : ∀ call ∈ calls, call.op.Direct) :
    Mirrors (Trace.run noteStep (fun _ => none) (run calls).notices)
      (run calls).storage.register (run calls).announced := by
  let invariant (world : World Address) : Prop :=
    Mirrors (Trace.run noteStep (fun _ => none) world.notices) world.storage.register
      world.announced
  have keeps : ∀ before call after, Keyed before.storage.register → invariant before →
      call.op.Direct → Accepted before call after → invariant after := by
    intro before call after keyed mirrors direct accepted
    have single : ∀ op, call.op ≠ .multisig op := by
      intro op same
      rw [same] at direct
      exact direct
    have checked := checked_of_accepted keyed single accepted
    have followed := Mirrors.run mirrors keyed checked.enabled checked.orderly
    rwa [← Trace.run_append, ← notices_of_accepted keyed direct accepted, ← checked.register,
      ← checked.announced] at followed
  exact @invariant_of_keyed_calls _ _ _ (fun _ call => call.op.Direct) invariant mirrors_empty
    keeps calls calls [] (List.append_nil calls).symm
    (Trace.each_of_forall _ fun call member _ => direct call member)

end Mirroring

section Refinement
variable {Address : Type} [Host Address] [TextDecoder] [JsRuntime] [AddressDecoder Address]

/-- An attestation for the claim was announced to the subject with values that PostgreSQL
can store, and it is not revoked. -/
def Indexed (world : World Address) (subject : Address) (claimType : Str) : Prop :=
  ∃ attestation ∈ world.announced, Storable attestation ∧ attestation.subject = subject ∧
    text attestation.claimType = text claimType ∧
    ∃ record, world.storage.attestation attestation.id = some record ∧ record.revoked = false

/-- What the subject has indexed for the claim is deleted, expired or not yet active. -/
def Outlived (world : World Address) (now : Nat) (subject : Address) (claimType : Str) : Prop :=
  Indexed world subject claimType ∧
    ∀ id attestation, world.storage.attestation id = some attestation →
      attestation.subject = subject → attestation.claimType = claimType →
        attestation.deleted = true ∨ attestation.getStatus now ≠ .valid

/-- What the subject has that is valid for the claim could not be stored. -/
def Unindexed (world : World Address) (now : Nat) (subject : Address) (claimType : Str) : Prop :=
  ¬ Indexed world subject claimType ∧
    ∃ id attestation, world.storage.attestation id = some attestation ∧
      attestation.subject = subject ∧ attestation.claimType = claimType ∧
        attestation.deleted = false ∧ attestation.getStatus now = .valid

omit [Host Address] [JsRuntime] [AddressDecoder Address] in
theorem claimed_iff_indexed {world : World Address} {now : Nat} {subject : Address}
    {claimType : Str} :
    (Indexed world subject claimType ↔ Claimed world.storage now subject claimType) ↔
      ¬ Outlived world now subject claimType ∧ ¬ Unindexed world now subject claimType := by
  have unclaimed : ¬ Claimed world.storage now subject claimType ↔
      ∀ id attestation, world.storage.attestation id = some attestation →
        attestation.subject = subject → attestation.claimType = claimType →
          attestation.deleted = true ∨ attestation.getStatus now ≠ .valid := by
    unfold Claimed
    grind
  have outlived : Outlived world now subject claimType ↔
      Indexed world subject claimType ∧ ¬ Claimed world.storage now subject claimType := by
    rw [unclaimed]
    rfl
  have unindexed : Unindexed world now subject claimType ↔
      ¬ Indexed world subject claimType ∧ Claimed world.storage now subject claimType := Iff.rfl
  rw [outlived, unindexed]
  tauto

variable [DecidableEq Address]

/-- The rows made of the events of a run answer for the attestations that are indexed. -/
theorem answersValid_iff {calls : List (Call Address)}
    (direct : ∀ call ∈ calls, call.op.Direct) {handled : List (Clock × EventResponse)}
    (published : handled.map Prod.snd = (run calls).events.map publish) (subject : Address)
    (claimType : Str) :
    AnswersValid (Trace.run processEvent Db.empty handled) (strkey subject) (text claimType) ↔
      Indexed (run calls) subject claimType := by
  have mirrors := mirrors_run calls direct
  have rows : (Trace.run processEvent Db.empty handled).attestation =
      Trace.run noteStep (fun _ => none) (run calls).notices := attestation_run published
  rw [AnswersValid, rows]
  constructor
  · rintro ⟨id, row, found, owned, claims, active⟩
    obtain ⟨attestation, member, storable, rfl⟩ := mirrors.rows id row found
    obtain ⟨same, record, there, stored, shows⟩ := mirrors.listed attestation member storable
    obtain rfl : row = same := Option.some.inj (found.symm.trans there)
    refine ⟨attestation, member, storable, ?_, ?_, record, stored, ?_⟩
    · exact AddressDecoder.injective (shows.subject.symm.trans owned)
    · exact shows.claimType.symm.trans claims
    · exact shows.isRevoked.symm.trans active
  · rintro ⟨attestation, member, storable, rfl, claims, record, stored, active⟩
    obtain ⟨row, same, there, held, shows⟩ := mirrors.listed attestation member storable
    obtain rfl : record = same := Option.some.inj (stored.symm.trans held)
    exact ⟨_, row, there, shows.subject, shows.claimType.trans claims,
      shows.isRevoked.trans active⟩

/-- When the endpoint says what the contract says. -/
theorem endpoint_agrees_iff (sound : Host.Sound Address) (calls : List (Call Address))
    (direct : ∀ call ∈ calls, call.op.Direct) (handled : List (Clock × EventResponse))
    (published : handled.map Prod.snd = (run calls).events.map publish) (env : Env Address)
    (subject : Address) (claimType : Str) :
    (AnswersValid (Trace.run processEvent Db.empty handled) (strkey subject) (text claimType) ↔
        Reads (hasValidClaim subject claimType) env (run calls) true) ↔
      ¬ Outlived (run calls) env.timestamp subject claimType ∧
        ¬ Unindexed (run calls) env.timestamp subject claimType := by
  rw [answersValid_iff direct published, reads_hasValidClaim (covers_run sound calls),
    claimed_iff_indexed]

end Refinement

section Sample
open Xdr

local instance decimals : JsRuntime := ⟨String.toInt?⟩

/-- The subject of the sample attestation has it deleted. -/
def sampleDeletion : Call ContractId :=
  signed 1001 (contractId 2) (.attestation (.requestDeletion (contractId 2) sampleId))

/-- The events of a run, handed to the indexer one by one. -/
def delivered (calls : List (Call ContractId)) : List (Clock × EventResponse) :=
  (run calls).events.map fun event => (epoch, publish event)

theorem delivered_published (calls : List (Call ContractId)) :
    (delivered calls).map Prod.snd = (run calls).events.map publish := by
  simp [delivered, Function.comp_def]

/-- A record of the sample attestation. -/
def ShowsKyc (attestation : Attestation ContractId) : Prop :=
  (attestation.id = sampleId ∧ attestation.origin = .native ∧ attestation.timestamp = 1000) ∧
    (attestation.subject = contractId 2 ∧ attestation.claimType = ascii "KYC") ∧
    attestation.metadata = some (ascii "level 2")

instance (attestation : Attestation ContractId) : Decidable (ShowsKyc attestation) :=
  inferInstanceAs (Decidable (_ ∧ _ ∧ _))

theorem ShowsKyc.storable {attestation : Attestation ContractId} (shows : ShowsKyc attestation) :
    Storable attestation := by
  obtain ⟨⟨id, native, timestamp⟩, ⟨-, claimType⟩, metadata⟩ := shows
  unfold Storable
  rw [native]
  refine ⟨by rw [timestamp]; decide, ?_, ?_, ?_⟩
  · rw [id]
    exact plain_of_letters (named_letters (.inl ⟨_, _, _, rfl⟩))
  · rw [claimType]
    exact plain_of_letters (by decide +kernel)
  · simp only [metadata, Option.mem_def, Option.some.injEq, forall_eq']
    exact plain_of_letters (by decide +kernel)

theorem indexed_of_shows {world : World ContractId}
    (told : world.announced.any (fun attestation => decide (ShowsKyc attestation)) = true)
    (stored : (world.storage.attestation sampleId).any (fun record => !record.revoked) = true) :
    Indexed world (contractId 2) (ascii "KYC") := by
  obtain ⟨attestation, member, shows⟩ := List.any_eq_true.mp told
  have shows : ShowsKyc attestation := of_decide_eq_true shows
  obtain ⟨record, found, active⟩ := (Option.any_eq_true ..).mp stored
  refine ⟨attestation, member, shows.storable, shows.2.1.1, by rw [shows.2.1.2], record, ?_, ?_⟩
  · rw [shows.1.1, found]
  · simpa using active

/-- The endpoint still answers for an attestation its subject has had deleted. -/
theorem endpoint_outlives_deletion :
    let calls := sampleDeployment ++ [sampleIssuance, sampleDeletion]
    ¬ (AnswersValid (Trace.run processEvent Db.empty (delivered calls)) (strkey (contractId 2))
          (text (ascii "KYC")) ↔
        Reads (hasValidClaim (contractId 2) (ascii "KYC")) sampleDeletion.env (run calls) true) := by
  intro calls
  have direct : ∀ call ∈ calls, call.op.Direct := by
    simp [calls, sampleDeployment, sampleIssuance, sampleDeletion, signed, Op.Direct]
  have indexed : Indexed (run calls) (contractId 2) (ascii "KYC") :=
    indexed_of_shows (by decide +kernel) (by decide +kernel)
  have silent : (run calls).storage.validAttestations (contractId 2) = [] := by decide +kernel
  have answers : Answers (·.storage) (run calls).storage
      (hasValidClaim (contractId 2) (ascii "KYC")) sampleDeletion.env _ :=
    answers_hasValidClaim (contractId 2) (ascii "KYC")
  rw [answersValid_iff direct (delivered_published calls), reads_iff answers, silent]
  simp [indexed]

/-- Before the deletion both say yes. -/
theorem endpoint_agrees_iff_sample :
    let calls := sampleDeployment ++ [sampleIssuance]
    AnswersValid (Trace.run processEvent Db.empty (delivered calls)) (strkey (contractId 2))
        (text (ascii "KYC")) ↔
      Reads (hasValidClaim (contractId 2) (ascii "KYC")) sampleIssuance.env (run calls) true := by
  intro calls
  have direct : ∀ call ∈ calls, call.op.Direct := by
    simp [calls, sampleDeployment, sampleIssuance, signed, Op.Direct]
  have indexed : Indexed (run calls) (contractId 2) (ascii "KYC") :=
    indexed_of_shows (by decide +kernel) (by decide +kernel)
  have valid : ((run calls).storage.attestation sampleId).any
      (fun attestation => decide (attestation.subject = contractId 2 ∧
        attestation.claimType = ascii "KYC" ∧ attestation.deleted = false ∧
        attestation.getStatus sampleIssuance.env.timestamp = .valid)) = true := by
    decide +kernel
  obtain ⟨attestation, found, holds⟩ := (Option.any_eq_true ..).mp valid
  obtain ⟨owned, claims, undeleted, status⟩ := of_decide_eq_true holds
  refine (endpoint_agrees_iff sampleHost_sound calls direct (delivered calls)
    (delivered_published calls) sampleIssuance.env (contractId 2) (ascii "KYC")).mpr ⟨?_, ?_⟩
  · rintro ⟨-, none⟩
    rcases none _ _ found owned claims with deleted | invalid
    · simp [undeleted] at deleted
    · exact invalid status
  · exact fun unindexed => unindexed.1 indexed

end Sample

end TrustLink.Indexer
