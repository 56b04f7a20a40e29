import TrustLink.Events
import TrustLink.Xdr
import TrustLink.Indexer.Handler

/-!
The events of events.rs as the indexer receives them, and the rows it makes of them.
Of several constants for one topic the later one stands, which is the one the indexer
watches for. `scValToNative` and the text of an address live outside the repository.
-/
namespace TrustLink.Indexer

/-- How `scValToNative` reads the bytes of a Soroban string. -/
class TextDecoder where
  text : Str → String
  ascii : ∀ bytes, (∀ byte ∈ bytes, byte < 128) →
    (text bytes).toList = bytes.map fun byte => Char.ofNat byte.toNat

/-- How it reads an address: as the text of its key, letters and digits only. -/
class AddressDecoder (Address : Type) where
  strkey : Address → String
  injective : Function.Injective strkey
  stored : ∀ address, textColumn (strkey address) = some (strkey address)

export TextDecoder (text)
export AddressDecoder (strkey)

def Ascii (bytes : Str) : Prop := ∀ byte ∈ bytes, byte < 128

theorem byte_of_ascii {byte : UInt8} (ascii : byte < 128) :
    (Char.ofNat byte.toNat).toNat.toUInt8 = byte ∧
      (0 < byte → Char.ofNat byte.toNat ≠ Char.ofNat 0) := by
  have table : ∀ n : Fin 128, (Char.ofNat (UInt8.ofNat n).toNat).toNat.toUInt8 = UInt8.ofNat n ∧
      (0 < UInt8.ofNat n → Char.ofNat (UInt8.ofNat n).toNat ≠ Char.ofNat 0) := by decide
  simpa using table ⟨byte.toNat, ascii⟩

theorem text_injective [TextDecoder] {left right : Str} (leftAscii : Ascii left)
    (rightAscii : Ascii right) (same : text left = text right) : left = right := by
  have recover : ∀ {bytes : Str}, Ascii bytes →
      (text bytes).toList.map (fun letter => letter.toNat.toUInt8) = bytes := by
    intro bytes ascii
    rw [TextDecoder.ascii bytes ascii, List.map_map]
    refine (List.map_congr_left fun byte member => ?_).trans (List.map_id bytes)
    exact (byte_of_ascii (ascii byte member)).1
  rw [← recover leftAscii, ← recover rightAscii, same]

section Publishing
variable {Address : Type} [TextDecoder] [AddressDecoder Address]

def ofAddress (address : Address) : JsValue := .string (strkey address)

def ofText (bytes : Str) : JsValue := .string (text bytes)

def ofU32 (value : Nat) : JsValue := .number value

def ofU64 (value : Nat) : JsValue := .bigint value

def ofOption {Value : Type} (encode : Value → JsValue) : Option Value → JsValue
  | none => .null
  | some value => encode value

def ofTier : IssuerTier → JsValue
  | .basic => .number 0
  | .verified => .number 1
  | .premium => .number 2

/-- `env.events().publish`, for each function of events.rs. The source of
`issuer_tier_updated` names two tiers, of which it is given one. -/
def publish : Event Address → EventResponse
  | .adminInitialized admin timestamp =>
      ⟨[.string "adm_init"], .array [ofAddress admin, ofU64 timestamp]⟩
  | .attestationCreated attestation =>
      ⟨[.string "created", ofAddress attestation.subject],
        .array [ofText attestation.id, ofAddress attestation.issuer, ofText attestation.claimType,
          ofU64 attestation.timestamp, ofOption ofText attestation.metadata]⟩
  | .attestationImported attestation =>
      ⟨[.string "imported", ofAddress attestation.subject],
        .array [ofText attestation.id, ofAddress attestation.issuer, ofText attestation.claimType,
          ofU64 attestation.timestamp, ofOption ofU64 attestation.expiration]⟩
  | .attestationBridged attestation =>
      ⟨[.string "bridged", ofAddress attestation.subject],
        .array [ofText attestation.id, ofAddress attestation.issuer, ofText attestation.claimType,
          ofText (attestation.sourceChain.getD []), ofText (attestation.sourceTx.getD [])]⟩
  | .attestationRevoked id issuer reason =>
      ⟨[.string "revoked", ofAddress issuer], .array [ofText id, ofOption ofText reason]⟩
  | .attestationRevokedWithReason id issuer reason =>
      ⟨[.string "revoked", ofAddress issuer], .array [ofText id, ofOption ofText reason]⟩
  | .attestationRenewed id issuer newExpiration =>
      ⟨[.string "renewed", ofAddress issuer], .array [ofText id, ofOption ofU64 newExpiration]⟩
  | .attestationExpired id subject => ⟨[.string "expired", ofAddress subject], ofText id⟩
  | .attestationTransferred id oldIssuer newIssuer =>
      ⟨[.string "att_xfer", ofAddress oldIssuer], .array [ofText id, ofAddress newIssuer]⟩
  | .deletionRequested subject id timestamp =>
      ⟨[.string "del_req", ofAddress subject], .array [ofText id, ofU64 timestamp]⟩
  | .expirationHookTriggered subject id expiration =>
      ⟨[.string "exp_hook", ofAddress subject], .array [ofText id, ofU64 expiration]⟩
  | .issuerRegistered issuer admin timestamp =>
      ⟨[.string "iss_reg", ofAddress issuer], .array [ofAddress admin, ofU64 timestamp]⟩
  | .issuerRemoved issuer admin timestamp =>
      ⟨[.string "iss_rem", ofAddress issuer], .array [ofAddress admin, ofU64 timestamp]⟩
  | .issuerTierUpdated issuer tier =>
      ⟨[.string "iss_tier", ofAddress issuer], .array [ofTier tier]⟩
  | .claimTypeRegistered claimType description =>
      ⟨[.string "clm_type", ofText claimType], ofText description⟩
  | .multisigProposed proposalId proposer subject threshold =>
      ⟨[.string "ms_prop", ofAddress subject],
        .array [ofText proposalId, ofAddress proposer, ofU32 threshold]⟩
  | .multisigCosigned proposalId signer signaturesSoFar threshold =>
      ⟨[.string "ms_sign", ofAddress signer],
        .array [ofText proposalId, ofU32 signaturesSoFar, ofU32 threshold]⟩
  | .multisigActivated proposalId attestationId =>
      ⟨[.string "ms_actv"], .array [ofText proposalId, ofText attestationId]⟩
  | .adminTransferred oldAdmin newAdmin =>
      ⟨[.string "adm_xfer"], .array [ofAddress oldAdmin, ofAddress newAdmin]⟩
  | .adminTransferProposed currentAdmin newAdmin =>
      ⟨[.string "adm_prop", ofAddress currentAdmin], ofAddress newAdmin⟩
  | .adminAdded byAdmin newAdmin timestamp =>
      ⟨[.string "adm_add", ofAddress byAdmin], .array [ofAddress newAdmin, ofU64 timestamp]⟩
  | .adminRemoved byAdmin removedAdmin timestamp =>
      ⟨[.string "adm_rem", ofAddress byAdmin], .array [ofAddress removedAdmin, ofU64 timestamp]⟩
  | .contractPaused admin timestamp =>
      ⟨[.string "paused"], .array [ofAddress admin, ofU64 timestamp]⟩
  | .contractUnpaused admin timestamp =>
      ⟨[.string "unpaused"], .array [ofAddress admin, ofU64 timestamp]⟩
  | .attestationRequested requestId subject issuer claimType expiresAt =>
      ⟨[.string "att_req", ofAddress issuer],
        .array [ofText requestId, ofAddress subject, ofText claimType, ofU64 expiresAt]⟩
  | .requestFulfilled requestId issuer attestationId =>
      ⟨[.string "req_ok", ofAddress issuer], .array [ofText requestId, ofText attestationId]⟩
  | .requestRejected requestId issuer reason =>
      ⟨[.string "req_no", ofAddress issuer], .array [ofText requestId, ofOption ofText reason]⟩
  | .requestCancelled requestId subject =>
      ⟨[.string "req_cncl", ofAddress subject], ofText requestId⟩
  | .delegationCreated delegator delegate claimType expiration =>
      ⟨[.string "del_crtd", ofAddress delegator],
        .array [ofAddress delegate, ofText claimType, ofOption ofU64 expiration]⟩
  | .delegationRevoked delegator delegate claimType =>
      ⟨[.string "del_rvkd", ofAddress delegator], .array [ofAddress delegate, ofText claimType]⟩
  | .whitelistModeEnabled issuer => ⟨[.string "wl_on", ofAddress issuer], .null⟩
  | .councilInitialized quorum memberCount =>
      ⟨[.string "cncl_ini"], .array [ofU32 quorum, ofU32 memberCount]⟩
  | .proposalCreated proposalId proposer =>
      ⟨[.string "prop_new", ofAddress proposer], ofU32 proposalId⟩
  | .proposalApproved proposalId approver =>
      ⟨[.string "prop_ok", ofAddress approver], ofU32 proposalId⟩
  | .proposalExecuted proposalId => ⟨[.string "prop_exe"], ofU32 proposalId⟩

end Publishing

section Columns

/-- A text without a zero character. -/
def Plain (text : String) : Prop := Char.ofNat 0 ∉ text.toList

theorem textColumn_eq_some {given stored : String} :
    textColumn given = some stored ↔ Plain given ∧ stored = given := by
  unfold textColumn Plain
  split
  · simp_all
  · simp_all [eq_comm]

theorem bigIntColumn_eq_some {given stored : Int} :
    bigIntColumn given = some stored ↔
      (-bigIntRange ≤ given ∧ given < bigIntRange) ∧ stored = given := by
  unfold bigIntColumn
  split
  · rename_i fits
    simp [fits, eq_comm]
  · rename_i beyond
    simp [beyond]

/-- A natural number in a `BigInt` column. -/
theorem bigIntColumn_natCast {value : Nat} {stored : Int} :
    bigIntColumn (value : Int) = some stored ↔ value < bigIntRange ∧ stored = value := by
  unfold bigIntColumn
  split
  · rename_i fits
    simp only [Option.some.injEq]
    constructor
    · rintro rfl
      exact ⟨by omega, rfl⟩
    · exact fun pair => pair.2.symm
  · rename_i beyond
    simp only [reduceCtorEq, false_iff, not_and]
    intro small
    omega

theorem nullableColumn_eq_some {given : Option String} {stored : Option String} :
    nullableColumn textColumn given = some stored ↔
      (∀ text ∈ given, Plain text) ∧ stored = given := by
  cases given with
  | none => simp [nullableColumn, eq_comm]
  | some given =>
      simp only [nullableColumn, Option.map_eq_some_iff, textColumn_eq_some, Option.mem_def,
        Option.some.injEq, forall_eq']
      constructor
      · rintro ⟨_, ⟨plain, rfl⟩, rfl⟩
        exact ⟨plain, rfl⟩
      · rintro ⟨plain, rfl⟩
        exact ⟨given, ⟨plain, rfl⟩, rfl⟩

theorem plain_of_letters [TextDecoder] {bytes : Str}
    (letters : ∀ byte ∈ bytes, 0 < byte ∧ byte < 128) : Plain (text bytes) := by
  have ascii : Ascii bytes := fun byte member => (letters byte member).2
  rw [Plain, TextDecoder.ascii _ ascii]
  intro member
  obtain ⟨byte, there, zero⟩ := List.mem_map.mp member
  exact (byte_of_ascii (ascii byte there)).2 (letters byte there).1 zero

theorem plain_natCast (value : Nat) : Plain (toString (value : Int)) := by
  intro member
  have digits : (toString (value : Int)).toList = Nat.toDigits 10 value := Nat.toList_repr
  rw [digits] at member
  have digit := Nat.isDigit_of_mem_toDigits (by decide) (by decide) member
  revert digit
  decide

theorem extraOf_imported_some {data : List JsValue} {value : JsValue} {extra : Extra}
    (present : (item data 4).nullable = some value) :
    extraOf .imported data = some extra ↔
      ∃ expiration, value.toBigInt = some expiration ∧
        ∃ stored, bigIntColumn expiration = some stored ∧ .imported (some stored) = extra := by
  simp only [extraOf, present, Option.bind_eq_bind, Option.bind_eq_some_iff, Option.pure_def,
    Option.some.injEq]

@[simp] theorem toBigInt_ofU64 (value : Nat) : (ofU64 value).toBigInt = some (value : Int) := rfl

@[simp] theorem toText_ofU64 (value : Nat) : (ofU64 value).toText = toString (value : Int) := by
  rw [ofU64, JsValue.toText]

@[simp] theorem rawText_ofAddress {Address : Type} [AddressDecoder Address] (address : Address) :
    rawText (ofAddress address) = some (strkey address) :=
  AddressDecoder.stored address

@[simp] theorem toText_ofAddress {Address : Type} [AddressDecoder Address] (address : Address) :
    (ofAddress address).toText = strkey address := by
  rw [ofAddress, JsValue.toText]

section Texts
variable [TextDecoder] {first second third fourth : JsValue} {extra : Extra}

@[simp] theorem toBigInt_ofText (bytes : Str) :
    (ofText bytes).toBigInt = stringToBigInt (text bytes) := rfl

@[simp] theorem rawText_ofText (bytes : Str) : rawText (ofText bytes) = textColumn (text bytes) :=
  rfl

@[simp] theorem nullable_ofText (bytes : Str) : (ofText bytes).nullable = some (ofText bytes) := rfl

@[simp] theorem toText_ofText (bytes : Str) : (ofText bytes).toText = text bytes := by
  rw [ofText, JsValue.toText]

@[simp] theorem nullable_ofOption (bytes : Option Str) :
    (ofOption ofText bytes).nullable = bytes.map ofText := by
  cases bytes <;> rfl

theorem extraOf_created (metadata : Option Str) :
    extraOf .created [first, second, third, fourth, ofOption ofText metadata] = some extra ↔
      (∀ bytes ∈ metadata, Plain (text bytes)) ∧ extra = .created (metadata.map text) := by
  have read : ((item [first, second, third, fourth, ofOption ofText metadata] 4).nullable.map
      JsValue.toText) = metadata.map text := by
    simp [item, Function.comp_def]
  simp only [extraOf, read, Option.bind_eq_bind, Option.bind_eq_some_iff, nullableColumn_eq_some,
    Option.pure_def, Option.some.injEq]
  constructor
  · rintro ⟨_, ⟨plain, rfl⟩, rfl⟩
    exact ⟨by simpa using plain, rfl⟩
  · rintro ⟨plain, rfl⟩
    exact ⟨_, ⟨by simpa using plain, rfl⟩, rfl⟩

theorem extraOf_bridged (sourceTx : Str) :
    extraOf .bridged [first, second, third, fourth, ofText sourceTx] = some extra ↔
      Plain (text sourceTx) ∧ extra = .bridged (some (text sourceTx)) none := by
  have chain : (item [first, second, third, fourth, ofText sourceTx] 4).nullable.map
      JsValue.toText = some (text sourceTx) := by simp [item]
  have tx : (item [first, second, third, fourth, ofText sourceTx] 5).nullable.map
      JsValue.toText = none := rfl
  simp only [extraOf, chain, tx, Option.bind_eq_bind, Option.bind_eq_some_iff,
    nullableColumn_eq_some, Option.pure_def, Option.some.injEq]
  constructor
  · rintro ⟨_, ⟨plain, rfl⟩, _, ⟨-, rfl⟩, rfl⟩
    exact ⟨plain _ rfl, rfl⟩
  · rintro ⟨plain, rfl⟩
    exact ⟨_, ⟨by simpa using plain, rfl⟩, _, ⟨by simp, rfl⟩, rfl⟩

end Texts

theorem extraOf_imported {first second third fourth : JsValue}
    {extra : Extra} (expiration : Option Nat) :
    extraOf .imported [first, second, third, fourth, ofOption ofU64 expiration] = some extra ↔
      (∀ time ∈ expiration, time < bigIntRange) ∧
        extra = .imported (expiration.map Int.ofNat) := by
  cases expiration with
  | none => simp [extraOf, item, ofOption, JsValue.nullable, eq_comm]
  | some time =>
      have present : (item [first, second, third, fourth, ofOption ofU64 (some time)] 4).nullable =
          some (ofU64 time) := rfl
      rw [extraOf_imported_some present]
      simp only [toBigInt_ofU64, Option.some.injEq, exists_eq_left', bigIntColumn_natCast]
      constructor
      · rintro ⟨_, ⟨fits, rfl⟩, rfl⟩
        exact ⟨by simpa using fits, rfl⟩
      · rintro ⟨fits, rfl⟩
        exact ⟨time, ⟨fits time rfl, rfl⟩, rfl⟩

end Columns

section Records
variable {Address : Type} [TextDecoder] [AddressDecoder Address] (attestation : Attestation Address)

/-- The row a creation event puts down, before the columns of its kind. -/
def baseRow (kind : Watched) (attestation : Attestation Address) (timestamp : Int) :
    AttestationRow where
  issuer := strkey attestation.issuer
  subject := strkey attestation.subject
  claimType := text attestation.claimType
  timestamp := timestamp
  expiration := none
  isRevoked := false
  metadata := none
  imported := kind = .imported
  bridged := kind = .bridged
  sourceChain := none
  sourceTx := none

def Db.withRow (db : Db) (id : String) (row : AttestationRow) (extra : Extra) : Db :=
  { db with
    attestation := db.attestation.upsert id
      (fun old => extra.spread { old with subject := row.subject }) (extra.spread row) }

/-- What PostgreSQL can store of the record of a creation. -/
structure CreatedFits : Prop where
  timestamp : attestation.timestamp < bigIntRange
  id : Plain (text attestation.id)
  claimType : Plain (text attestation.claimType)
  metadata : ∀ metadata ∈ attestation.metadata, Plain (text metadata)

/-- What it can store of the record of an import. -/
structure ImportedFits : Prop where
  timestamp : attestation.timestamp < bigIntRange
  expiration : ∀ expiration ∈ attestation.expiration, expiration < bigIntRange
  id : Plain (text attestation.id)
  claimType : Plain (text attestation.claimType)

/-- A bridged record carries the name of the source chain where the indexer reads a
timestamp. -/
structure BridgedFits (timestamp : Int) : Prop where
  sourceChain : stringToBigInt (text (attestation.sourceChain.getD [])) = some timestamp
  timestamp : -bigIntRange ≤ timestamp ∧ timestamp < bigIntRange
  id : Plain (text attestation.id)
  claimType : Plain (text attestation.claimType)
  sourceTx : Plain (text (attestation.sourceTx.getD []))

end Records

section Handling
variable [JsRuntime] {db after : Db} {clock : Clock}

omit [JsRuntime] in
theorem handleAttestation_iff (kind : Watched) (party : String) (data : List JsValue) :
    handleAttestation db kind party data = some after ↔
      ∃ timestamp, (item data 3).toBigInt = some timestamp ∧
      ∃ stored, bigIntColumn timestamp = some stored ∧
      ∃ extra, extraOf kind data = some extra ∧
      ∃ subject, textColumn party = some subject ∧
      ∃ id, rawText (item data 0) = some id ∧
      ∃ issuer, rawText (item data 1) = some issuer ∧
      ∃ claimType, rawText (item data 2) = some claimType ∧
      db.withRow id
        { issuer := issuer, subject := subject, claimType := claimType, timestamp := stored,
          expiration := none, isRevoked := false, metadata := none, imported := kind = .imported,
          bridged := kind = .bridged, sourceChain := none, sourceTx := none } extra = after := by
  simp only [handleAttestation, Option.bind_eq_bind, Option.bind_eq_some_iff, Option.pure_def,
    Option.some.injEq]
  rfl

theorem handleEvent_of_watched {ev : EventResponse} {kind : Watched} {data : List JsValue}
    (watches : ev.watched? = some kind) (carries : ev.data? = some data) :
    handleEvent db clock ev = handleKind db clock ev.party data kind := by
  rw [handleEvent, watches]
  simp only [carries]
  rfl

variable {Address : Type} [TextDecoder] [AddressDecoder Address] {attestation : Attestation Address}

theorem handle_created :
    handleEvent db clock (publish (.attestationCreated attestation)) = some after ↔
      CreatedFits attestation ∧
        after = db.withRow (text attestation.id)
          (baseRow .created attestation attestation.timestamp)
          (.created (attestation.metadata.map text)) := by
  have watches : (publish (.attestationCreated attestation)).watched? = some .created := rfl
  have party : (publish (.attestationCreated attestation)).party = strkey attestation.subject := rfl
  rw [handleEvent_of_watched watches rfl, handleKind, handleAttestation_iff, party]
  simp only [item, List.getD_cons_zero, List.getD_cons_succ, toBigInt_ofU64, extraOf_created,
    rawText_ofText, rawText_ofAddress, AddressDecoder.stored, bigIntColumn_natCast,
    textColumn_eq_some, Option.some.injEq, exists_eq_left', and_assoc, exists_and_left,
    exists_eq_left]
  constructor
  · rintro ⟨timestamp, metadata, id, claimType, rfl⟩
    exact ⟨⟨timestamp, id, claimType, metadata⟩, rfl⟩
  · rintro ⟨⟨timestamp, id, claimType, metadata⟩, rfl⟩
    exact ⟨timestamp, metadata, id, claimType, rfl⟩

theorem handle_imported :
    handleEvent db clock (publish (.attestationImported attestation)) = some after ↔
      ImportedFits attestation ∧
        after = db.withRow (text attestation.id)
          (baseRow .imported attestation attestation.timestamp)
          (.imported (attestation.expiration.map Int.ofNat)) := by
  have watches : (publish (.attestationImported attestation)).watched? = some .imported := rfl
  have party : (publish (.attestationImported attestation)).party = strkey attestation.subject :=
    rfl
  rw [handleEvent_of_watched watches rfl, handleKind, handleAttestation_iff, party]
  simp only [item, List.getD_cons_zero, List.getD_cons_succ, toBigInt_ofU64, extraOf_imported,
    rawText_ofText, rawText_ofAddress, AddressDecoder.stored, bigIntColumn_natCast,
    textColumn_eq_some, Option.some.injEq, exists_eq_left', and_assoc, exists_and_left,
    exists_eq_left]
  constructor
  · rintro ⟨timestamp, expiration, id, claimType, rfl⟩
    exact ⟨⟨timestamp, expiration, id, claimType⟩, rfl⟩
  · rintro ⟨⟨timestamp, expiration, id, claimType⟩, rfl⟩
    exact ⟨timestamp, expiration, id, claimType, rfl⟩

theorem handle_bridged :
    handleEvent db clock (publish (.attestationBridged attestation)) = some after ↔
      ∃ timestamp, BridgedFits attestation timestamp ∧
        after = db.withRow (text attestation.id) (baseRow .bridged attestation timestamp)
          (.bridged (some (text (attestation.sourceTx.getD []))) none) := by
  have watches : (publish (.attestationBridged attestation)).watched? = some .bridged := rfl
  have party : (publish (.attestationBridged attestation)).party = strkey attestation.subject := rfl
  rw [handleEvent_of_watched watches rfl, handleKind, handleAttestation_iff, party]
  simp only [item, List.getD_cons_zero, List.getD_cons_succ, toBigInt_ofText, extraOf_bridged,
    rawText_ofText, rawText_ofAddress, AddressDecoder.stored, bigIntColumn_eq_some,
    textColumn_eq_some, Option.some.injEq, exists_eq_left', and_assoc, exists_and_left,
    exists_eq_left]
  refine exists_congr fun timestamp => ?_
  constructor
  · rintro ⟨sourceChain, low, high, sourceTx, id, claimType, rfl⟩
    exact ⟨⟨sourceChain, ⟨low, high⟩, id, claimType, sourceTx⟩, rfl⟩
  · rintro ⟨⟨sourceChain, ⟨low, high⟩, id, claimType, sourceTx⟩, rfl⟩
    exact ⟨sourceChain, low, high, sourceTx, id, claimType, rfl⟩

/-- The indexer reads five fields where the contract publishes four. -/
theorem handle_requested (requestId : Str) (subject issuer : Address) (claimType : Str)
    (expiresAt : Nat) :
    handleEvent db clock
      (publish (.attestationRequested requestId subject issuer claimType expiresAt)) = none := by
  have watches : (publish (.attestationRequested requestId subject issuer claimType
    expiresAt)).watched? = some .attReq := rfl
  rw [handleEvent_of_watched watches rfl, handleKind]
  rw [Option.eq_none_iff_forall_ne_some]
  intro after handled
  simp [handleAttReq, item, JsValue.toBigInt] at handled

theorem handle_registered (issuer admin : Address) (timestamp : Nat) :
    handleEvent db clock (publish (.issuerRegistered issuer admin timestamp)) = some { db with
      issuer := db.issuer.upsert (strkey admin)
        (fun row => { row with
          name := toString (timestamp : Int), url := none, description := none })
        { name := toString (timestamp : Int), url := none, description := none,
          tier := "basic" } } := by
  have watches : (publish (.issuerRegistered issuer admin timestamp)).watched? = some .issReg := rfl
  have name : textColumn (toString (timestamp : Int)) = some (toString (timestamp : Int)) :=
    textColumn_eq_some.mpr ⟨plain_natCast timestamp, rfl⟩
  rw [handleEvent_of_watched watches rfl, handleKind, handleIssReg]
  simp only [item, List.getD_cons_zero, List.getD_cons_succ, List.getD_nil, toText_ofAddress,
    toText_ofU64, AddressDecoder.stored, name, JsValue.nullable, nullableColumn, Option.map_none,
    Option.bind_eq_bind, Option.bind_some, Option.pure_def]

end Handling

theorem withRow_self {db : Db} {id : String} (absent : db.attestation id = none)
    (row : AttestationRow) (extra : Extra) :
    (db.withRow id row extra).attestation id = some (extra.spread row) := by
  simp [Db.withRow, Table.upsert, absent]

section Mirroring
variable [JsRuntime] {Address : Type} [TextDecoder] [AddressDecoder Address]

/-- A row agrees with the record of an attestation. -/
structure Agrees (row : AttestationRow) (attestation : Attestation Address) : Prop where
  issuer : row.issuer = strkey attestation.issuer
  subject : row.subject = strkey attestation.subject
  claimType : row.claimType = text attestation.claimType
  timestamp : row.timestamp = attestation.timestamp
  expiration : row.expiration = attestation.expiration.map Int.ofNat
  metadata : row.metadata = attestation.metadata.map text
  sourceChain : row.sourceChain = attestation.sourceChain.map text
  sourceTx : row.sourceTx = attestation.sourceTx.map text

/-- Handling the event creates a row that agrees with the record. -/
def Mirrored (event : Event Address) (attestation : Attestation Address) : Prop :=
  ∀ clock db, db.attestation (text attestation.id) = none →
    ∃ after row, handleEvent db clock (publish event) = some after ∧
      after.attestation (text attestation.id) = some row ∧ Agrees row attestation

/-- Handling the event of a new request creates a row that agrees with it. -/
def RequestMirrored (request : AttestationRequest Address) : Prop :=
  ∀ clock db, db.attestationRequest (text request.id) = none →
    ∃ after row, handleEvent db clock (publish (.attestationRequested request.id request.subject
        request.issuer request.claimType request.expiresAt)) = some after ∧
      after.attestationRequest (text request.id) = some row ∧
      row.subject = strkey request.subject ∧ row.issuer = strkey request.issuer ∧
      row.claimType = text request.claimType ∧ row.requestedAt = request.timestamp ∧
      row.expiresAt = request.expiresAt

/-- Handling the event of a registration creates the row of the issuer. -/
def IssuerMirrored (issuer admin : Address) (timestamp : Nat) : Prop :=
  ∀ clock db, db.issuer (strkey issuer) = none →
    ∃ after row, handleEvent db clock (publish (.issuerRegistered issuer admin timestamp)) =
        some after ∧ after.issuer (strkey issuer) = some row

/-- Handling an event that puts down a given row mirrors the record when that row agrees
with it. -/
theorem mirrored_iff {event : Event Address} {attestation : Attestation Address}
    {fits : Prop} {base : AttestationRow} {extra : Extra}
    (handles : ∀ {clock db after}, handleEvent db clock (publish event) = some after ↔
      fits ∧ after = db.withRow (text attestation.id) base extra) :
    Mirrored event attestation ↔ fits ∧ Agrees (extra.spread base) attestation := by
  constructor
  · intro mirrored
    obtain ⟨after, row, handled, found, agrees⟩ := mirrored epoch Db.empty rfl
    obtain ⟨stored, rfl⟩ := handles.mp handled
    rw [withRow_self rfl, Option.some.injEq] at found
    exact ⟨stored, found ▸ agrees⟩
  · rintro ⟨stored, agrees⟩ clock db absent
    exact ⟨_, _, handles.mpr ⟨stored, rfl⟩, withRow_self absent base extra, agrees⟩

/-- A creation event has no place for an expiration or a source. -/
theorem created_agrees_iff (attestation : Attestation Address) :
    Mirrored (.attestationCreated attestation) attestation ↔
      CreatedFits attestation ∧ attestation.expiration = none ∧
        attestation.sourceChain = none ∧ attestation.sourceTx = none := by
  rw [mirrored_iff handle_created]
  refine and_congr_right fun _ => ⟨fun agrees => ?_, fun ⟨expiration, chain, tx⟩ => ?_⟩
  · exact ⟨Option.map_eq_none_iff.mp agrees.expiration.symm,
      Option.map_eq_none_iff.mp agrees.sourceChain.symm,
      Option.map_eq_none_iff.mp agrees.sourceTx.symm⟩
  · exact ⟨rfl, rfl, rfl, rfl, by rw [expiration]; rfl, rfl, by rw [chain]; rfl, by rw [tx]; rfl⟩

theorem imported_agrees_iff (attestation : Attestation Address) :
    Mirrored (.attestationImported attestation) attestation ↔
      ImportedFits attestation ∧ attestation.metadata = none ∧
        attestation.sourceChain = none ∧ attestation.sourceTx = none := by
  rw [mirrored_iff handle_imported]
  refine and_congr_right fun _ => ⟨fun agrees => ?_, fun ⟨metadata, chain, tx⟩ => ?_⟩
  · exact ⟨Option.map_eq_none_iff.mp agrees.metadata.symm,
      Option.map_eq_none_iff.mp agrees.sourceChain.symm,
      Option.map_eq_none_iff.mp agrees.sourceTx.symm⟩
  · exact ⟨rfl, rfl, rfl, rfl, rfl, by rw [metadata]; rfl, by rw [chain]; rfl, by rw [tx]; rfl⟩

theorem bridged_agrees_iff (attestation : Attestation Address) :
    Mirrored (.attestationBridged attestation) attestation ↔
      BridgedFits attestation attestation.timestamp ∧ attestation.expiration = none ∧
        attestation.metadata = none ∧ attestation.sourceTx = none ∧
        attestation.sourceChain.map text = some (text []) := by
  constructor
  · intro mirrored
    obtain ⟨after, row, handled, found, agrees⟩ := mirrored epoch Db.empty rfl
    obtain ⟨timestamp, fits, rfl⟩ := handle_bridged.mp handled
    rw [withRow_self rfl, Option.some.injEq] at found
    subst found
    have time : timestamp = attestation.timestamp := agrees.timestamp
    have tx : attestation.sourceTx = none := Option.map_eq_none_iff.mp agrees.sourceTx.symm
    have chain := agrees.sourceChain
    rw [tx] at chain
    subst time
    exact ⟨fits, Option.map_eq_none_iff.mp agrees.expiration.symm,
      Option.map_eq_none_iff.mp agrees.metadata.symm, tx, chain.symm⟩
  · rintro ⟨fits, expiration, metadata, tx, chain⟩ clock db absent
    refine ⟨_, _, handle_bridged.mpr ⟨_, fits, rfl⟩, withRow_self absent _ _, ?_⟩
    exact ⟨rfl, rfl, rfl, rfl, by rw [expiration]; rfl, by rw [metadata]; rfl,
      by rw [chain, tx]; rfl, by rw [tx]; rfl⟩

theorem not_requestMirrored (request : AttestationRequest Address) : ¬ RequestMirrored request := by
  intro mirrored
  obtain ⟨after, row, handled, -⟩ := mirrored epoch Db.empty rfl
  rw [handle_requested] at handled
  cases handled

theorem issuerMirrored_iff (issuer admin : Address) (timestamp : Nat) :
    IssuerMirrored issuer admin timestamp ↔ admin = issuer := by
  constructor
  · intro mirrored
    obtain ⟨after, row, handled, found⟩ := mirrored epoch Db.empty rfl
    rw [handle_registered, Option.some.injEq] at handled
    subst handled
    by_contra other
    have apart : strkey issuer ≠ strkey admin :=
      fun same => other (AddressDecoder.injective same).symm
    simp [Table.upsert, Db.empty, Function.update_of_ne apart] at found
  · rintro rfl clock db absent
    refine ⟨_, ⟨toString (timestamp : Int), none, none, "basic"⟩,
      handle_registered admin admin timestamp, ?_⟩
    simp only [Table.upsert, absent, Option.elim_none, Function.update_self]

/-- Which published events the indexer turns into rows that agree with the contract. -/
theorem published_rows_agree_iff :
    (∀ attestation : Attestation Address,
      Mirrored (.attestationCreated attestation) attestation ↔
        CreatedFits attestation ∧ attestation.expiration = none ∧
          attestation.sourceChain = none ∧ attestation.sourceTx = none) ∧
    (∀ attestation : Attestation Address,
      Mirrored (.attestationImported attestation) attestation ↔
        ImportedFits attestation ∧ attestation.metadata = none ∧
          attestation.sourceChain = none ∧ attestation.sourceTx = none) ∧
    (∀ attestation : Attestation Address,
      Mirrored (.attestationBridged attestation) attestation ↔
        BridgedFits attestation attestation.timestamp ∧ attestation.expiration = none ∧
          attestation.metadata = none ∧ attestation.sourceTx = none ∧
          attestation.sourceChain.map text = some (text [])) ∧
    (∀ request : AttestationRequest Address, ¬ RequestMirrored request) ∧
    ∀ (issuer admin : Address) (timestamp : Nat),
      IssuerMirrored issuer admin timestamp ↔ admin = issuer :=
  ⟨created_agrees_iff, imported_agrees_iff, bridged_agrees_iff, not_requestMirrored,
    issuerMirrored_iff⟩

end Mirroring

section Sample
open Xdr

/-- The text of ASCII bytes; any other byte becomes a replacement character. -/
def lettersOf (bytes : Str) : String :=
  String.ofList (bytes.map fun byte =>
    if byte < 128 then Char.ofNat byte.toNat else Char.ofNat 0xFFFD)

instance sampleTexts : TextDecoder where
  text := lettersOf
  ascii bytes ascii := by
    simp only [lettersOf, String.toList_ofList]
    exact List.map_congr_left fun byte member => if_pos (ascii byte member)

theorem addressToString_letters (address : ContractId) :
    ∀ byte ∈ addressToString address, 0 < byte ∧ byte < 128 := by
  have table : ∀ n : Fin 32, 0 < base32Alphabet.getD n 0 ∧ base32Alphabet.getD n 0 < 128 := by
    decide
  intro byte member
  obtain ⟨position, -, rfl⟩ := List.mem_map.mp member
  exact table ⟨_, Nat.mod_lt _ (by decide)⟩

instance sampleKeys : AddressDecoder ContractId where
  strkey address := text (addressToString address)
  injective left right same := addressToString_injective
    (text_injective (fun byte member => (addressToString_letters left byte member).2)
      (fun byte member => (addressToString_letters right byte member).2) same)
  stored address :=
    textColumn_eq_some.mpr ⟨plain_of_letters (addressToString_letters address), rfl⟩

/-- Contract 1 attests KYC of contract 2 until time 2000. -/
def expiringRecord : Attestation ContractId where
  id := ascii "6e9b085e1701dccd32b187c07e10fdf1b4b1588f0daf4a21435d207ed0c45789"
  issuer := contractId 1
  subject := contractId 2
  claimType := ascii "KYC"
  timestamp := 1000
  expiration := some 2000
  revoked := false
  metadata := none
  jurisdiction := none
  validFrom := none
  origin := .native
  sourceChain := none
  sourceTx := none
  tags := none
  revocationReason := none
  deleted := false

/-- An attestation that expires, a request and the registration of an issuer by another
address: none of the three events is mirrored. -/
theorem published_rows_disagree :
    let _ : JsRuntime := ⟨String.toInt?⟩
    ¬ (∀ attestation : Attestation ContractId,
        Mirrored (.attestationCreated attestation) attestation) ∧
      ¬ (∀ request : AttestationRequest ContractId, RequestMirrored request) ∧
      ¬ ∀ (issuer admin : ContractId) (timestamp : Nat), IssuerMirrored issuer admin timestamp := by
  intro _
  refine ⟨fun mirrored => ?_, fun mirrored => ?_, fun mirrored => ?_⟩
  · have expiring := (created_agrees_iff _).mp (mirrored expiringRecord)
    exact Option.some_ne_none 2000 expiring.2.1
  · exact not_requestMirrored _ (mirrored ⟨ascii "r", contractId 2, contractId 1, ascii "KYC", 1000,
      2000, .pending, none⟩)
  · have same := (issuerMirrored_iff _ _ _).mp (mirrored (contractId 1) (contractId 9) 900)
    exact absurd same (by decide)

end Sample

end TrustLink.Indexer
