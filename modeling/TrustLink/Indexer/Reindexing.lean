import TrustLink.Indexer.Convergence

/-!
Reindexing beside the live pass. `POST /admin/reindex` starts a pass that handles events again while
the live one goes on, so that any of them may be handled before and after any other. The handlers of
attestations write to the tables with one operation each. Those of proposals read before they write,
and their rows are left out here.
-/
namespace TrustLink.Indexer
open Trace Mirroring

section Telling
variable {Address : Type}

/-- What a row shows of an attestation. -/
structure Gist (Address : Type) where
  subject : Address
  claimType : Str
  revoked : Bool

def recordGist (record : PublicRecord Address) : Gist Address :=
  ⟨record.subject, record.claimType, record.revocation.isSome⟩

/-- The attestation that the event revokes. -/
def revocationOf : Event Address → Option Str
  | .attestationRevoked id _ _ | .attestationRevokedWithReason id _ _ => some id
  | _ => none

theorem unrevoked_of_creation {event : Event Address} {attestation : Attestation Address}
    (creation : event.creation? = some attestation) : revocationOf event = none := by
  cases event <;> first | rfl | cases creation

/-- What the event tells of one attestation, after what is known. -/
def tell (id : Str) (known : Option (Gist Address)) (event : Event Address) :
    Option (Gist Address) :=
  match event.creation? with
  | some attestation =>
      if attestation.id = id then some ⟨attestation.subject, attestation.claimType, false⟩ else known
  | none =>
      if revocationOf event = some id then known.map fun gist => { gist with revoked := true }
      else known

/-- What the events tell of an attestation. -/
def told (events : List (Event Address)) (id : Str) : Option (Gist Address) :=
  Trace.run (tell id) none events

/-- What is revoked after an event has been before, or the event revokes it. -/
theorem revoked_of_tell {id : Str} {known : Option (Gist Address)} {event : Event Address}
    {gist : Gist Address} (tells : tell id known event = some gist) (revoked : gist.revoked = true) :
    revocationOf event = some id ∨ known = some gist := by
  unfold tell at tells
  split at tells
  · split at tells
    · obtain rfl := Option.some.inj tells
      cases revoked
    · exact .inr tells
  · split at tells
    case isTrue revokes => exact .inl revokes
    case isFalse => exact .inr tells

theorem tell_isSome {id : Str} {known : Option (Gist Address)} (event : Event Address)
    (stands : known.isSome = true) : (tell id known event).isSome = true := by
  unfold tell
  split
  · split
    · rfl
    · exact stands
  · split
    · rwa [Option.isSome_map]
    · exact stands

variable [DecidableEq Address]

theorem gist_absorb (register : PublicRegister Address) (event : Event Address) (id : Str) :
    ((register.absorb event).record id).map recordGist =
      tell id ((register.record id).map recordGist) event := by
  cases event with
  | attestationCreated attestation | attestationImported attestation
  | attestationBridged attestation =>
      by_cases same : attestation.id = id
      · subst same
        simp [tell, Event.creation?, PublicRegister.absorb, PublicRegister.announce,
          recordGist]
      · simp [tell, Event.creation?, PublicRegister.absorb, PublicRegister.announce, same,
          Ne.symm same]
  | attestationRevoked target issuer reason | attestationRevokedWithReason target issuer reason =>
      rw [PublicRegister.absorb, PublicRegister.revoke]
      by_cases same : target = id
      · subst same
        cases known : register.record target <;>
          simp [tell, Event.creation?, revocationOf, known, recordGist]
      · cases known : register.record target <;>
          simp [tell, Event.creation?, revocationOf, same, Ne.symm same]
  | attestationTransferred target oldIssuer newIssuer =>
      by_cases same : id = target
      · subst same
        simp [tell, Event.creation?, revocationOf, PublicRegister.absorb, PublicRegister.reassign,
          Function.comp_def]
        rfl
      · simp [tell, Event.creation?, revocationOf, PublicRegister.absorb, PublicRegister.reassign,
          same]
  | deletionRequested subject target timestamp =>
      by_cases same : id = target
      · subst same
        simp [tell, Event.creation?, revocationOf, PublicRegister.absorb, PublicRegister.erase,
          Function.comp_def]
        rfl
      · simp [tell, Event.creation?, revocationOf, PublicRegister.absorb, PublicRegister.erase,
          same]
  | _ => rfl

theorem gist_run (events : List (Event Address)) (id : Str) :
    ((Trace.run PublicRegister.absorb (PublicRegister.empty Address) events).record id).map
      recordGist = told events id := by
  induction events using List.reverseRecOn with
  | nil => rfl
  | append_singleton events event ih =>
      rw [told, Trace.run_concat, Trace.run_concat, gist_absorb, ih, told]

omit [DecidableEq Address] in
theorem told_concat (events : List (Event Address)) (event : Event Address) (id : Str) :
    told (events ++ [event]) id = tell id (told events id) event :=
  Trace.run_concat ..

omit [DecidableEq Address] in
/-- What is known has been announced. -/
theorem announced_of_told {events : List (Event Address)} {id : Str}
    (known : (told events id).isSome = true) :
    ∃ event ∈ events, ∃ attestation, event.creation? = some attestation ∧ attestation.id = id := by
  induction events using List.reverseRecOn with
  | nil => cases known
  | append_singleton events event ih =>
      have earlier : (told events id).isSome = true → ∃ other ∈ events ++ [event], ∃ attestation,
          other.creation? = some attestation ∧ attestation.id = id := by
        intro before
        obtain ⟨other, member, announced⟩ := ih before
        exact ⟨other, List.mem_append_left _ member, announced⟩
      rw [told_concat, tell] at known
      split at known
      case h_1 attestation creation =>
        split at known
        case isTrue same => exact ⟨event, by simp, attestation, creation, same⟩
        case isFalse => exact earlier known
      case h_2 =>
        split at known
        case isTrue => exact earlier (by rwa [Option.isSome_map] at known)
        case isFalse => exact earlier known

omit [DecidableEq Address] in
/-- What has been announced stays known. -/
theorem told_of_announced {events : List (Event Address)} {event : Event Address}
    {attestation : Attestation Address} (member : event ∈ events)
    (creation : event.creation? = some attestation) :
    (told events attestation.id).isSome = true := by
  induction events using List.reverseRecOn with
  | nil => cases member
  | append_singleton events last ih =>
      rw [told_concat]
      rcases List.mem_append.mp member with before | here
      · exact tell_isSome last (ih before)
      · obtain rfl := List.mem_singleton.mp here
        simp [tell, creation]

end Telling

section Rows
variable {Address : Type} [TextDecoder] [AddressDecoder Address]

/-- The ids the event names are hexadecimal, and an announcement is the one its attestation has. -/
structure Worded (event : Event Address) : Prop where
  announced : ∀ attestation, event.creation? = some attestation →
    Lettered attestation.id ∧ attestation.announcement = event
  revoked : ∀ id, revocationOf event = some id → Lettered id

/-- What handling an event does to the rows. -/
inductive Handling (event : Event Address) (table : Table AttestationRow) :
    Table AttestationRow → Prop
  | idle
      (unannounced : ∀ attestation, event.creation? = some attestation → ¬ Storable attestation)
      (unrevoked : revocationOf event = none) : Handling event table table
  | announced (attestation : Attestation Address) (creation : event.creation? = some attestation)
      (storable : Storable attestation) (row : AttestationRow) (extra : Extra)
      (subject : row.subject = strkey attestation.subject)
      (claimType : row.claimType = text attestation.claimType) (active : row.isRevoked = false) :
      Handling event table (table.upsert (text attestation.id)
        (fun old => Extra.spread extra { old with subject := row.subject })
        (Extra.spread extra row))
  | revoked (id : Str) (revokes : revocationOf event = some id) :
      Handling event table (table.updateMany (text id) (fun _ => true)
        fun row => { row with isRevoked := true })

variable {event : Event Address} {table after : Table AttestationRow}

/-- A row keeps its type, and it stays revoked. -/
theorem Handling.kept (handling : Handling event table after) {place : String}
    {row : AttestationRow} (found : table place = some row) :
    ∃ later, after place = some later ∧ later.claimType = row.claimType ∧
      (row.isRevoked = true → later.isRevoked = true) := by
  cases handling with
  | idle => exact ⟨row, found, rfl, id⟩
  | announced attestation creation storable fresh extra =>
      by_cases here : place = text attestation.id
      · subst here
        refine ⟨Extra.spread extra { row with subject := fresh.subject }, ?_, by simp, by simp⟩
        rw [Table.upsert, Function.update_self, found, Option.elim_some]
      · exact ⟨row, by rwa [Table.upsert, Function.update_of_ne here], rfl, id⟩
  | revoked target =>
      by_cases here : place = text target
      · subst here
        exact ⟨{ row with isRevoked := true }, by simp [Table.updateMany, found], rfl, fun _ => rfl⟩
      · exact ⟨row, by rwa [Table.updateMany, Function.update_of_ne here], rfl, id⟩

/-- A row is as it was, or an announcement has given it its subject, or it is revoked now. -/
theorem Handling.origin (handling : Handling event table after) {place : String}
    {row : AttestationRow} (found : after place = some row) :
    table place = some row ∨
      (∃ attestation, event.creation? = some attestation ∧ Storable attestation ∧
        place = text attestation.id ∧ row.subject = strkey attestation.subject ∧
        ((∃ old, table place = some old ∧ row.claimType = old.claimType ∧
            row.isRevoked = old.isRevoked) ∨
          row.claimType = text attestation.claimType ∧ row.isRevoked = false)) ∨
      ∃ id old, revocationOf event = some id ∧ place = text id ∧ table place = some old ∧
        row.subject = old.subject ∧ row.claimType = old.claimType := by
  cases handling with
  | idle => exact .inl found
  | announced attestation creation storable fresh extra subject claimType active =>
      by_cases here : place = text attestation.id
      · refine .inr (.inl ⟨attestation, creation, storable, here, ?_⟩)
        subst here
        rw [Table.upsert, Function.update_self] at found
        obtain rfl := Option.some.inj found
        cases before : table (text attestation.id) with
        | none => exact ⟨by simp [subject], .inr ⟨by simp [claimType], by simp [active]⟩⟩
        | some old => exact ⟨by simp [subject], .inl ⟨old, rfl, by simp, by simp⟩⟩
      · exact .inl (by rwa [Table.upsert, Function.update_of_ne here] at found)
  | revoked id revokes =>
      by_cases here : place = text id
      · subst here
        rw [Table.updateMany, Function.update_self] at found
        obtain ⟨old, before, rfl⟩ := Option.map_eq_some_iff.mp found
        exact .inr (.inr ⟨id, old, revokes, rfl, before, rfl, rfl⟩)
      · exact .inl (by rwa [Table.updateMany, Function.update_of_ne here] at found)

theorem Handling.of_announced (handling : Handling event table after)
    {attestation : Attestation Address} (creation : event.creation? = some attestation)
    (storable : Storable attestation) :
    ∃ row, after (text attestation.id) = some row ∧ row.subject = strkey attestation.subject ∧
      (table (text attestation.id) = none → row.claimType = text attestation.claimType) := by
  cases handling with
  | idle unannounced => exact absurd storable (unannounced attestation creation)
  | announced other created _ fresh extra subject claimType =>
      obtain rfl := Option.some.inj (creation.symm.trans created)
      rw [Table.upsert, Function.update_self]
      refine ⟨_, rfl, ?_, fun absent => ?_⟩
      · cases table (text attestation.id) <;> simp [subject]
      · simp [absent, claimType]
  | revoked id revokes => cases revokes.symm.trans (unrevoked_of_creation creation)

theorem Handling.of_revoked (handling : Handling event table after) {id : Str}
    (revokes : revocationOf event = some id) {row : AttestationRow}
    (found : after (text id) = some row) : row.isRevoked = true := by
  cases handling with
  | idle _ unrevoked => cases revokes.symm.trans unrevoked
  | announced attestation creation => cases revokes.symm.trans (unrevoked_of_creation creation)
  | revoked target target_revokes =>
      obtain rfl := Option.some.inj (revokes.symm.trans target_revokes)
      rw [Table.updateMany, Function.update_self] at found
      obtain ⟨old, -, rfl⟩ := Option.map_eq_some_iff.mp found
      rfl

variable [JsRuntime]

theorem handling_of_worded (worded : Worded event) (db : Db)
    (clock : Clock) :
    Handling event db.attestation (processEvent db (clock, publish event)).attestation := by
  have announcing : ∀ attestation, event.creation? = some attestation →
      revocationOf event = none → attestation.announcement = event →
      Handling event db.attestation (processEvent db (clock, publish event)).attestation := by
    rintro attestation creation silent rfl
    rcases @processed_announcement _ _ _ _ db clock attestation with
      ⟨storable, row, extra, subject, claimType, active, written⟩ | ⟨unstorable, same⟩
    · exact written ▸ .announced attestation creation storable row extra subject claimType active
    · rw [same]
      refine .idle (fun other created => ?_) silent
      obtain rfl := Option.some.inj (creation.symm.trans created)
      exact unstorable
  have revoking : ∀ (id : Str) (issuer : Address) (reason : Option Str),
      revocationOf event = some id →
      publish event = publish (.attestationRevoked id issuer reason) →
      Handling event db.attestation (processEvent db (clock, publish event)).attestation := by
    intro id issuer reason revokes published
    rw [processed_revocation clock (worded.revoked id revokes) published]
    exact .revoked id revokes
  cases event with
  | attestationCreated attestation | attestationImported attestation
  | attestationBridged attestation =>
      exact announcing attestation rfl rfl (worded.announced attestation rfl).2
  | attestationRevoked id issuer reason | attestationRevokedWithReason id issuer reason =>
      exact revoking id issuer reason rfl rfl
  | _ =>
      rw [records_kept clock rfl]
      exact .idle (by simp [Event.creation?]) rfl

end Rows

section Ends
variable {Address : Type} [TextDecoder] [AddressDecoder Address] (events : List (Event Address))

/-- The row shows the attestation. -/
structure AttestationRow.ShowsGist (row : AttestationRow) (gist : Gist Address) : Prop where
  subject : row.subject = strkey gist.subject
  claimType : row.claimType = text gist.claimType
  isRevoked : row.isRevoked = gist.revoked

/-- Something that can be stored has been announced under the id. -/
def HasRow (id : Str) : Prop :=
  ∃ event ∈ events, ∃ attestation, event.creation? = some attestation ∧ Storable attestation ∧
    attestation.id = id

/-- What the event writes is still right in the end. An announcement that cannot be stored writes
nothing, but what it tells of must have a row all the same. -/
structure Lasts (known : Str → Option (Gist Address)) (event : Event Address) : Prop where
  announced : ∀ attestation, event.creation? = some attestation → Storable attestation →
    ∃ gist, known attestation.id = some gist ∧ gist.subject = attestation.subject ∧
      text gist.claimType = text attestation.claimType
  stored : ∀ attestation, event.creation? = some attestation → HasRow events attestation.id
  revoked : ∀ id, revocationOf event = some id →
    ∃ gist, known id = some gist ∧ gist.revoked = true

/-- The row says nothing of an attestation that is not known in the end. -/
def Vouched (known : Str → Option (Gist Address)) (place : String) (row : AttestationRow) : Prop :=
  ∃ id gist, place = text id ∧ known id = some gist ∧ row.subject = strkey gist.subject ∧
    row.claimType = text gist.claimType ∧ (row.isRevoked = true → gist.revoked = true)

/-- The rows show at least what the early events tell, and at most what all of them do. -/
structure Between (early : List (Event Address)) (table : Table AttestationRow) : Prop where
  shown : ∀ id, HasRow early id → ∃ row, table (text id) = some row ∧
    ∀ gist, told early id = some gist → gist.revoked = true → row.isRevoked = true
  vouched : ∀ place row, table place = some row → Vouched (told events) place row

variable {events} {event : Event Address}

omit [TextDecoder] [AddressDecoder Address] in
theorem lettered_told (worded : ∀ event ∈ events, Worded event) {id : Str} {gist : Gist Address}
    (known : told events id = some gist) : Lettered id := by
  obtain ⟨event, member, attestation, creation, rfl⟩ := announced_of_told
    (Option.isSome_iff_exists.mpr ⟨gist, known⟩)
  exact ((worded event member).announced attestation creation).1

theorem vouched_handling (worded : ∀ event ∈ events, Worded event) (member : event ∈ events)
    (lasts : Lasts events (told events) event) {table after : Table AttestationRow}
    (handling : Handling event table after)
    (vouched : ∀ place row, table place = some row → Vouched (told events) place row)
    {place : String} {row : AttestationRow} (found : after place = some row) :
    Vouched (told events) place row := by
  have own := worded event member
  rcases handling.origin found with
    same | ⟨attestation, creation, storable, rfl, subject, columns⟩ |
      ⟨id, old, revokes, rfl, before, subject, claimType⟩
  · exact vouched place row same
  · obtain ⟨gist, stands, owned, claims⟩ := lasts.announced attestation creation storable
    refine ⟨attestation.id, gist, rfl, stands, by rw [subject, owned], ?_⟩
    rcases columns with ⟨old, before, sameType, sameState⟩ | ⟨claimType, active⟩
    · obtain ⟨other, earlier, alike, known, -, typed, marked⟩ := vouched _ old before
      obtain rfl := text_injective (own.announced attestation creation).1.ascii
        (lettered_told worded known).ascii alike
      obtain rfl := Option.some.inj (stands.symm.trans known)
      exact ⟨sameType.trans typed, fun revoked => marked (sameState.symm.trans revoked)⟩
    · exact ⟨claimType.trans claims.symm, fun revoked => by cases active.symm.trans revoked⟩
  · obtain ⟨gist, stands, revoked⟩ := lasts.revoked id revokes
    obtain ⟨other, earlier, alike, known, owned, typed, -⟩ := vouched _ old before
    obtain rfl := text_injective (own.revoked id revokes).ascii
      (lettered_told worded known).ascii alike
    obtain rfl := Option.some.inj (stands.symm.trans known)
    exact ⟨id, gist, rfl, stands, subject.trans owned, claimType.trans typed, fun _ => revoked⟩

omit [AddressDecoder Address] in
theorem hasRow_concat {early : List (Event Address)} {id : Str} :
    HasRow (early ++ [event]) id ↔ HasRow early id ∨
      ∃ attestation, event.creation? = some attestation ∧ Storable attestation ∧
        attestation.id = id := by
  simp [HasRow, or_and_right, exists_or]

variable {early : List (Event Address)} {table after : Table AttestationRow}

/-- Handling any event of the log again takes nothing away. -/
theorem Between.again (between : Between events early table)
    (worded : ∀ event ∈ events, Worded event) (member : event ∈ events)
    (lasts : Lasts events (told events) event) (handling : Handling event table after) :
    Between events early after := by
  constructor
  · intro id stored
    obtain ⟨row, found, marked⟩ := between.shown id stored
    obtain ⟨later, there, -, stays⟩ := handling.kept found
    exact ⟨later, there, fun gist known revoked => stays (marked gist known revoked)⟩
  · exact fun place row => vouched_handling worded member lasts handling between.vouched

/-- The next event of the log adds what it tells. -/
theorem Between.next (between : Between events early table)
    (worded : ∀ event ∈ events, Worded event) (member : event ∈ events)
    (lasts : Lasts events (told events) event) (handling : Handling event table after) :
    Between events (early ++ [event]) after := by
  constructor
  · intro id stored
    rcases hasRow_concat.mp stored with before | ⟨attestation, creation, storable, rfl⟩
    · obtain ⟨row, found, marked⟩ := between.shown id before
      obtain ⟨later, there, -, stays⟩ := handling.kept found
      refine ⟨later, there, fun gist known revoked => ?_⟩
      rw [told_concat] at known
      rcases revoked_of_tell known revoked with revokes | earlier
      · exact handling.of_revoked revokes there
      · exact stays (marked gist earlier revoked)
    · obtain ⟨row, there, -⟩ := handling.of_announced creation storable
      refine ⟨row, there, fun gist known revoked => ?_⟩
      -- the announcement tells of an attestation that is not revoked
      rw [told_concat, tell, creation] at known
      obtain rfl := Option.some.inj ((if_pos rfl).symm.trans known)
      cases revoked
  · exact fun place row => vouched_handling worded member lasts handling between.vouched

/-- When all of the log has been handled there is nothing between. -/
theorem Between.displays (between : Between events events table)
    (worded : ∀ event ∈ events, Worded event)
    (lasts : ∀ event ∈ events, Lasts events (told events) event) :
    Displays text AttestationRow.ShowsGist (told events) table := by
  constructor
  · intro id gist known
    obtain ⟨event, member, attestation, creation, rfl⟩ := announced_of_told
      (Option.isSome_iff_exists.mpr ⟨gist, known⟩)
    obtain ⟨row, found, marked⟩ :=
      between.shown attestation.id ((lasts event member).stored attestation creation)
    obtain ⟨other, same, alike, stands, subject, claimType, revoked⟩ := between.vouched _ row found
    obtain rfl := text_injective (lettered_told worded known).ascii
      (lettered_told worded stands).ascii alike
    obtain rfl := Option.some.inj (known.symm.trans stands)
    refine ⟨row, found, subject, claimType, ?_⟩
    exact Bool.eq_iff_iff.mpr ⟨revoked, marked gist known⟩
  · intro place row found
    obtain ⟨id, gist, same, known, -⟩ := between.vouched place row found
    exact ⟨id, same, by rw [known]; rfl⟩

variable [JsRuntime]

theorem displays_beside (worded : ∀ event ∈ events, Worded event)
    (lasts : ∀ event ∈ events, Lasts events (told events) event)
    {handled : List (Clock × Event Address)} (live : events.Sublist (handled.map Prod.snd))
    (only : ∀ seen ∈ handled, seen.2 ∈ events) :
    Displays text AttestationRow.ShowsGist (told events) (tablesAfter handled).attestation := by
  refine Between.displays ?_ worded lasts
  refine @holds_beside _ _ _ handlePublished events
    (fun early db => Between events early db.attestation) ?_ ?_ handled only [] events rfl live
    Db.empty ⟨fun id stored => ?_, fun place row found => ?_⟩
  · intro early event late whole db clock between
    have member : event ∈ events := by simp [whole]
    exact between.next worded member (lasts event member)
      (handling_of_worded (worded event member) db clock)
  · intro early db clock event member between
    exact between.again worded member (lasts event member)
      (handling_of_worded (worded event member) db clock)
  · obtain ⟨event, member, -⟩ := stored
    cases member
  · cases found

/-- A row has been announced by something that can be stored. -/
theorem hasRow_of_row {handled : List (Clock × Event Address)}
    (worded : ∀ seen ∈ handled, Worded seen.2) {place : String} {row : AttestationRow}
    (found : (tablesAfter handled).attestation place = some row) :
    ∃ id, place = text id ∧ HasRow (handled.map Prod.snd) id := by
  induction handled using List.reverseRecOn generalizing row with
  | nil => cases found
  | append_singleton handled seen ih =>
      have before : ∀ old, (tablesAfter handled).attestation place = some old →
          ∃ id, place = text id ∧ HasRow ((handled ++ [seen]).map Prod.snd) id := by
        intro old earlier
        obtain ⟨id, same, stored⟩ := ih (fun other member =>
          worded other (List.mem_append_left _ member)) earlier
        rw [List.map_append]
        exact ⟨id, same, hasRow_concat.mpr (.inl stored)⟩
      rw [tablesAfter, Trace.run_concat] at found
      rcases (handling_of_worded (worded seen (by simp)) _ seen.1).origin found with
        same | ⟨attestation, creation, storable, same, -⟩ | ⟨id, old, -, -, earlier, -⟩
      · exact before row same
      · rw [List.map_append]
        exact ⟨attestation.id, same, hasRow_concat.mpr (.inr ⟨attestation, creation, storable, rfl⟩)⟩
      · exact before old earlier

theorem claimType_kept {handled : List (Clock × Event Address)}
    (worded : ∀ seen ∈ handled, Worded seen.2) {db : Db} {place : String} {row : AttestationRow}
    (found : db.attestation place = some row) :
    ∃ later, (Trace.run handlePublished db handled).attestation place = some later ∧
      later.claimType = row.claimType := by
  induction handled generalizing db row with
  | nil => exact ⟨row, found, rfl⟩
  | cons seen rest ih =>
      obtain ⟨next, there, sameType, -⟩ :=
        (handling_of_worded (worded seen (by simp)) db seen.1).kept found
      obtain ⟨later, kept, same⟩ := ih (fun other member =>
        worded other (List.mem_cons_of_mem _ member)) there
      exact ⟨later, kept, same.trans sameType⟩

/-- An event that is handled once before the rest and once behind it shows what it writes. -/
theorem lasts_of_displayed (worded : ∀ event ∈ events, Worded event)
    (grounded : ∀ event ∈ events, ∀ id, revocationOf event = some id →
      (told events id).isSome = true)
    (displayed : ∀ handled : List (Clock × Event Address), events.Sublist (handled.map Prod.snd) →
      (∀ seen ∈ handled, seen.2 ∈ events) →
      Displays text AttestationRow.ShowsGist (told events) (tablesAfter handled).attestation)
    (member : event ∈ events) : Lasts events (told events) event := by
  have own := worded event member
  let pass : List (Clock × Event Address) := events.map fun event => (epoch, event)
  have whole : pass.map Prod.snd = events := by simp [pass, Function.comp_def]
  have only : ∀ seen ∈ pass, seen.2 ∈ events := fun seen there =>
    whole ▸ List.mem_map_of_mem there
  have once := displayed pass (by rw [whole]) only
  have before := displayed ((epoch, event) :: pass)
    (by rw [List.map_cons, whole]; exact List.sublist_cons_self ..)
    (by simpa [member] using only)
  have behind := displayed (pass ++ [(epoch, event)])
    (by rw [List.map_append, whole]; exact List.sublist_append_left ..)
    (by simpa [member, or_imp, forall_and] using only)
  constructor
  · intro attestation creation storable
    obtain ⟨gist, known⟩ := Option.isSome_iff_exists.mp (told_of_announced member creation)
    refine ⟨gist, known, ?_, ?_⟩
    · obtain ⟨row, found, shows⟩ := behind.shown attestation.id gist known
      rw [tablesAfter, Trace.run_concat] at found
      obtain ⟨written, there, subject, -⟩ :=
        (handling_of_worded own (tablesAfter pass) epoch).of_announced creation storable
      obtain rfl := Option.some.inj (there.symm.trans found)
      exact AddressDecoder.injective (shows.subject.symm.trans subject)
    · obtain ⟨row, found, shows⟩ := before.shown attestation.id gist known
      obtain ⟨first, there, -, claimType⟩ :=
        (handling_of_worded own Db.empty epoch).of_announced creation storable
      obtain ⟨later, kept, same⟩ := claimType_kept (fun seen there =>
        worded seen.2 (only seen there)) there
      obtain rfl := Option.some.inj (kept.symm.trans found)
      exact shows.claimType.symm.trans (same.trans (claimType rfl))
  · intro attestation creation
    obtain ⟨gist, known⟩ := Option.isSome_iff_exists.mp (told_of_announced member creation)
    obtain ⟨row, found, -⟩ := once.shown attestation.id gist known
    obtain ⟨id, alike, stored⟩ := hasRow_of_row (fun seen there =>
      worded seen.2 (only seen there)) found
    rw [whole] at stored
    obtain ⟨earlier, there, other, announced, storable, rfl⟩ := stored
    have same := text_injective (own.announced attestation creation).1.ascii
      ((worded earlier there).announced other announced).1.ascii alike
    exact ⟨earlier, there, other, announced, storable, same.symm⟩
  · intro id revokes
    obtain ⟨gist, known⟩ := Option.isSome_iff_exists.mp (grounded event member id revokes)
    obtain ⟨row, found, shows⟩ := behind.shown id gist known
    rw [tablesAfter, Trace.run_concat] at found
    have revoked := (handling_of_worded own (tablesAfter pass) epoch).of_revoked revokes found
    exact ⟨gist, known, shows.isRevoked.symm.trans revoked⟩

end Ends

section Live
variable {Address : Type}

def storedGist (attestation : Attestation Address) : Gist Address :=
  ⟨attestation.subject, attestation.claimType, attestation.revoked⟩

/-- An event that follows the earlier ones is worded as the contract words it. -/
theorem worded_of_grounded {register : PublicRegister Address} {event : Event Address}
    (lettered : ∀ id, (register.record id).isSome = true → Lettered id)
    (grounded : Grounded register event) : Worded event := by
  cases event with
  | attestationCreated attestation | attestationImported attestation
  | attestationBridged attestation =>
      refine ⟨fun other created => ?_, fun id revokes => (by cases revokes)⟩
      obtain rfl := Option.some.inj created
      have origin := grounded.2
      exact ⟨grounded.1, by rw [Attestation.announcement, origin]⟩
  | attestationRevoked target issuer reason | attestationRevokedWithReason target issuer reason =>
      refine ⟨fun other created => (by cases created), fun id revokes => ?_⟩
      obtain rfl := Option.some.inj revokes
      exact lettered _ grounded
  | _ => exact ⟨fun other created => (by cases created), fun id revokes => (by cases revokes)⟩

theorem known_of_grounded {register : PublicRegister Address} {event : Event Address} {id : Str}
    (grounded : Grounded register event) (revokes : revocationOf event = some id) :
    (register.record id).isSome = true := by
  cases event with
  | attestationRevoked target issuer reason | attestationRevokedWithReason target issuer reason =>
      obtain rfl := Option.some.inj revokes
      exact grounded
  | _ => cases revokes

variable [DecidableEq Address] [Host Address] (activities : List (Activity Address))

/-- What the log tells is what is stored. -/
theorem told_live (id : Str) :
    told (live activities).events id =
      ((live activities).storage.attestation id).map storedGist := by
  have rebuilt : (live activities).storage.register.posted =
      Trace.run PublicRegister.absorb (PublicRegister.empty Address) (live activities).events :=
    (register_log [] activities).rebuild rfl
  rw [← gist_run, ← rebuilt]
  change (((live activities).storage.attestation id).map Attestation.posted).map
    recordGist = _
  rw [Option.map_map]
  congr 1
  funext attestation
  cases revoked : attestation.revoked <;>
    simp [recordGist, Attestation.posted, storedGist, revoked]

/-- Each event of the contract is worded well and, if it revokes something, is about an attestation
that the log tells of. -/
theorem wording_live {event : Event Address} (member : event ∈ (live activities).events) :
    Worded event ∧ ∀ id, revocationOf event = some id →
      (told (live activities).events id).isSome = true := by
  obtain ⟨early, late, split⟩ := List.append_of_mem member
  have guarded := (grounded_live activities).invariant grounded_lettered
    (fun _ stands => Bool.noConfusion stands)
  rw [split] at guarded
  obtain ⟨lettered, grounded⟩ := (each_append.mp guarded).2.1
  refine ⟨worded_of_grounded lettered grounded, fun id revokes => ?_⟩
  have before : (told early id).isSome = true := by
    rw [← gist_run, Option.isSome_map]
    exact known_of_grounded grounded revokes
  obtain ⟨other, there, attestation, creation, rfl⟩ := announced_of_told before
  refine told_of_announced ?_ creation
  rw [split]
  exact List.mem_append_left _ there

variable [TextDecoder] [AddressDecoder Address]

theorem displaysRecords_iff (table : Table AttestationRow) :
    DisplaysRecords (live activities).storage.register.posted.record table ↔
      Displays text AttestationRow.ShowsGist (told (live activities).events) table := by
  have rebuilt : (live activities).storage.register.posted =
      Trace.run PublicRegister.absorb (PublicRegister.empty Address) (live activities).events :=
    (register_log [] activities).rebuild rfl
  have known : told (live activities).events = fun id =>
      ((live activities).storage.register.posted.record id).map recordGist := by
    funext id
    rw [rebuilt, gist_run]
  have same : ∀ (row : AttestationRow) (record : PublicRecord Address),
      row.Tells record ↔ row.ShowsGist (recordGist record) := by
    intro row record
    exact ⟨fun tells => ⟨tells.subject, tells.claimType, tells.isRevoked⟩,
      fun shows => ⟨shows.subject, shows.claimType, shows.isRevoked⟩⟩
  rw [known, displays_map]
  simp only [← same]

variable [JsRuntime]

/-- Whatever is handled again beside the live pass, whenever and however often: the rows tell of the
attestations in the end exactly if what each event writes is still right in the end. -/
theorem reindex_undisturbed :
    (∀ handled : List (Clock × Event Address),
        (live activities).events.Sublist (handled.map Prod.snd) →
        (∀ seen ∈ handled, seen.2 ∈ (live activities).events) →
        DisplaysRecords (live activities).storage.register.posted.record
          (tablesAfter handled).attestation) ↔
      ∀ event ∈ (live activities).events, Lasts (live activities).events
        (fun id => ((live activities).storage.attestation id).map storedGist) event := by
  have stored : (fun id => ((live activities).storage.attestation id).map storedGist) =
      told (live activities).events := by
    funext id
    exact (told_live activities id).symm
  have worded : ∀ event ∈ (live activities).events, Worded event := fun event member =>
    (wording_live activities member).1
  simp only [displaysRecords_iff, stored]
  constructor
  · intro displayed event member
    exact lasts_of_displayed worded (fun other there => (wording_live activities there).2)
      displayed member
  · exact fun lasts handled beside only => displays_beside worded lasts beside only

end Live

end TrustLink.Indexer
