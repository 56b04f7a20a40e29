import TrustLink.Indexer.Values

/-!
`handleEvent` of the indexer on its four tables, without `createdAt` and `updatedAt`.
Metrics, webhooks and subscriptions are told of an event after the tables are, and
read nothing back into them. A handler that throws answers `none`.
-/
namespace TrustLink.Indexer

structure AttestationRow where
  issuer : String
  subject : String
  claimType : String
  timestamp : Int
  expiration : Option Int
  isRevoked : Bool
  metadata : Option String
  imported : Bool
  bridged : Bool
  sourceChain : Option String
  sourceTx : Option String
  deriving DecidableEq

structure MultisigProposalRow where
  subject : String
  proposer : String
  claimType : String
  threshold : Int
  signers : List String
  signatureCount : Int
  finalized : Bool
  expiresAt : Int
  deriving DecidableEq

inductive RequestRowStatus where
  | pending
  | fulfilled
  | rejected
  deriving DecidableEq

structure AttestationRequestRow where
  subject : String
  issuer : String
  claimType : String
  requestedAt : Int
  expiresAt : Int
  status : RequestRowStatus
  fulfillmentId : Option String
  rejectionReason : Option String
  deriving DecidableEq

structure IssuerRow where
  name : String
  url : Option String
  description : Option String
  tier : String
  deriving DecidableEq

structure Db where
  attestation : Table AttestationRow
  multisigProposal : Table MultisigProposalRow
  attestationRequest : Table AttestationRequestRow
  issuer : Table IssuerRow

def Db.empty : Db where
  attestation := fun _ => none
  multisigProposal := fun _ => none
  attestationRequest := fun _ => none
  issuer := fun _ => none

/-- An event as `rpc.getEvents` returns it, its parts read by `scValToNative`. -/
structure EventResponse where
  topic : List JsValue
  value : JsValue

/-- The watched topics. -/
inductive Watched where
  | created
  | revoked
  | imported
  | bridged
  | msProp
  | msSign
  | msActv
  | issReg
  | issuerTierUpdated
  | attReq
  | reqFul
  | reqRej
  deriving DecidableEq

def watched : List (String × Watched) :=
  [("created", .created), ("revoked", .revoked), ("imported", .imported), ("bridged", .bridged),
    ("ms_prop", .msProp), ("ms_sign", .msSign), ("ms_actv", .msActv), ("iss_reg", .issReg),
    ("issuer_tier_updated", .issuerTierUpdated), ("att_req", .attReq), ("req_ful", .reqFul),
    ("req_rej", .reqRej)]

def EventResponse.watched? (ev : EventResponse) : Option Watched :=
  match ev.topic with
  | .string topicStr :: _ => watched.lookup topicStr
  | _ => none

/-- The second topic as a text. -/
def EventResponse.party (ev : EventResponse) : String :=
  match ev.topic with
  | _ :: value :: _ => value.toText
  | _ => ""

/-- A watched event carries a tuple; the indexer casts to an array what it reads. -/
def EventResponse.data? (ev : EventResponse) : Option (List JsValue) :=
  match ev.value with
  | .array items => some items
  | _ => none

def item (data : List JsValue) (position : Nat) : JsValue := data.getD position .undefined

/-- A text column that is given a value as it is. -/
def rawText : JsValue → Option String
  | .string text => textColumn text
  | _ => none

/-- The columns that depend on the kind of event. -/
inductive Extra where
  | absent
  | created (metadata : Option String)
  | imported (expiration : Option Int)
  | bridged (sourceChain sourceTx : Option String)

def Extra.spread : Extra → AttestationRow → AttestationRow
  | .absent, row => row
  | .created metadata, row => { row with metadata := metadata }
  | .imported expiration, row => { row with expiration := expiration }
  | .bridged sourceChain sourceTx, row =>
      { row with sourceChain := sourceChain, sourceTx := sourceTx }

def proposalExpiry (clock : Clock) : Int := Int.ofNat (clock.now / 1000) + 7 * 24 * 60 * 60

section Handlers
variable [JsRuntime] (db : Db)

def handleMsProp (clock : Clock) (party : String) (data : List JsValue) : Option Db := do
  let proposalId ← textColumn (item data 0).toText
  let proposer ← textColumn (item data 1).toText
  let threshold ← (item data 2).toNumber
  let threshold ← intColumn threshold
  let subject ← textColumn party
  let expiresAt ← bigIntColumn (proposalExpiry clock)
  return { db with
    multisigProposal := db.multisigProposal.upsert proposalId id
      { subject := subject, proposer := proposer, claimType := "", threshold := threshold,
        signers := [proposer], signatureCount := 1, finalized := false, expiresAt := expiresAt } }

def handleMsSign (party : String) (data : List JsValue) : Option Db := do
  let proposalId ← textColumn (item data 0).toText
  let signatureCount := (item data 1).toNumber
  match db.multisigProposal proposalId with
  | none => return db
  | some existing =>
      let updatedSigners :=
        if party ∈ existing.signers then existing.signers else existing.signers ++ [party]
      let _ ← textColumn party
      let signatureCount ← signatureCount
      let signatureCount ← intColumn signatureCount
      let multisigProposal ← db.multisigProposal.update proposalId fun row =>
        { row with signatureCount := signatureCount, signers := updatedSigners }
      return { db with multisigProposal := multisigProposal }

def handleMsActv (data : List JsValue) : Option Db := do
  let proposalId ← textColumn (item data 0).toText
  return { db with
    multisigProposal := db.multisigProposal.updateMany proposalId (fun row => !row.finalized)
      fun row => { row with finalized := true } }

def handleAttReq (party : String) (data : List JsValue) : Option Db := do
  let requestId ← textColumn (item data 0).toText
  let issuer ← textColumn (item data 1).toText
  let claimType ← textColumn (item data 2).toText
  let requestedAt ← (item data 3).toBigInt
  let requestedAt ← bigIntColumn requestedAt
  let expiresAt ← (item data 4).toBigInt
  let expiresAt ← bigIntColumn expiresAt
  let subject ← textColumn party
  return { db with
    attestationRequest := db.attestationRequest.upsert requestId id
      { subject := subject, issuer := issuer, claimType := claimType, requestedAt := requestedAt,
        expiresAt := expiresAt, status := .pending, fulfillmentId := none,
        rejectionReason := none } }

def handleReqFul (data : List JsValue) : Option Db := do
  let requestId ← textColumn (item data 0).toText
  let attestationId ← textColumn (item data 1).toText
  return { db with
    attestationRequest := db.attestationRequest.updateMany requestId
      (fun row => row.status = .pending)
      fun row => { row with status := .fulfilled, fulfillmentId := some attestationId } }

def handleReqRej (data : List JsValue) : Option Db := do
  let requestId ← textColumn (item data 0).toText
  let rejectionReason ← nullableColumn textColumn ((item data 1).nullable.map JsValue.toText)
  return { db with
    attestationRequest := db.attestationRequest.updateMany requestId
      (fun row => row.status = .pending)
      fun row => { row with status := .rejected, rejectionReason := rejectionReason } }

def handleRevoked (data : List JsValue) : Option Db := do
  let attestationId ← textColumn (item data 0).toText
  return { db with
    attestation := db.attestation.updateMany attestationId (fun _ => true)
      fun row => { row with isRevoked := true } }

def handleIssReg (data : List JsValue) : Option Db := do
  let address ← textColumn (item data 0).toText
  let name ← textColumn (item data 1).toText
  let url ← nullableColumn textColumn ((item data 2).nullable.map JsValue.toText)
  let description ← nullableColumn textColumn ((item data 3).nullable.map JsValue.toText)
  return { db with
    issuer := db.issuer.upsert address
      (fun row => { row with name := name, url := url, description := description })
      { name := name, url := url, description := description, tier := "basic" } }

def handleIssuerTierUpdated (data : List JsValue) : Option Db := do
  let address ← textColumn (item data 0).toText
  let tier ← textColumn (item data 1).toText
  let issuer ← db.issuer.update address fun row => { row with tier := tier }
  return { db with issuer := issuer }

def extraOf (kind : Watched) (data : List JsValue) : Option Extra :=
  match kind with
  | .created => do
      let metadata ← nullableColumn textColumn ((item data 4).nullable.map JsValue.toText)
      return .created metadata
  | .imported => do
      match (item data 4).nullable with
      | none => return .imported none
      | some value =>
          let expiration ← value.toBigInt
          let expiration ← bigIntColumn expiration
          return .imported (some expiration)
  | .bridged => do
      let sourceChain ← nullableColumn textColumn ((item data 4).nullable.map JsValue.toText)
      let sourceTx ← nullableColumn textColumn ((item data 5).nullable.map JsValue.toText)
      return .bridged sourceChain sourceTx
  | _ => return .absent

def handleAttestation (kind : Watched) (party : String) (data : List JsValue) : Option Db := do
  let timestamp ← (item data 3).toBigInt
  let timestamp ← bigIntColumn timestamp
  let extra ← extraOf kind data
  let subject ← textColumn party
  let id ← rawText (item data 0)
  let issuer ← rawText (item data 1)
  let claimType ← rawText (item data 2)
  return { db with
    attestation := db.attestation.upsert id
      (fun row => extra.spread { row with subject := subject })
      (extra.spread
        { issuer := issuer, subject := subject, claimType := claimType, timestamp := timestamp,
          expiration := none, isRevoked := false, metadata := none,
          imported := kind = .imported, bridged := kind = .bridged, sourceChain := none,
          sourceTx := none }) }

/-- The branch of `handleEvent` for a kind of event. -/
def handleKind (clock : Clock) (party : String) (data : List JsValue) : Watched → Option Db
  | .msProp => handleMsProp db clock party data
  | .msSign => handleMsSign db party data
  | .msActv => handleMsActv db data
  | .attReq => handleAttReq db party data
  | .reqFul => handleReqFul db data
  | .reqRej => handleReqRej db data
  | .revoked => handleRevoked db data
  | .issReg => handleIssReg db data
  | .issuerTierUpdated => handleIssuerTierUpdated db data
  | .created => handleAttestation db .created party data
  | .imported => handleAttestation db .imported party data
  | .bridged => handleAttestation db .bridged party data

def handleEvent (clock : Clock) (ev : EventResponse) : Option Db :=
  match ev.watched? with
  | none => some db
  | some kind => do
      let data ← ev.data?
      handleKind db clock ev.party data kind

/-- `processRange` goes on with the next event when a handler throws. -/
def processEvent (handled : Clock × EventResponse) : Db :=
  (handleEvent db handled.1 handled.2).getD db

end Handlers

end TrustLink.Indexer
