import TrustLink.Indexer.Endpoint
import TrustLink.Lib.Mirroring
import TrustLink.Proceedings

/-!
The rows of the multi-sig proposals beside the proposals of the contract. The rows are made of
three of the events, and they show of a proposal what these tell, as long as no proposal takes the
place of another one and the numbers fit their columns.
-/
namespace TrustLink.Indexer
open Trace Mirroring

section Log
variable {Address : Type} [DecidableEq Address] [Host Address]

/-- The bytes of a text without zero characters. -/
def Lettered (bytes : Str) : Prop := ∀ byte ∈ bytes, 0 < byte ∧ byte < 128

theorem Lettered.ascii {bytes : Str} (lettered : Lettered bytes) : Ascii bytes :=
  fun byte member => (lettered byte member).2

omit [DecidableEq Address] in
theorem hashed_lettered (payload : Str) : Lettered (hashPayload Address payload) := by
  intro digit member
  obtain ⟨byte, -, there⟩ := List.mem_flatMap.mp member
  exact hexByte_letters byte digit there

/-- An event about a proposal follows the earlier ones. -/
def Sequel (agenda : Agenda Address) : Event Address → Prop
  | .multisigProposed id _ _ _ => Lettered id
  | .multisigCosigned id signer signaturesSoFar _ => ∃ signing, agenda.signing id = some signing ∧
      signer ∉ signing.signers ∧ signaturesSoFar = signing.signers.length + 1
  | .multisigActivated id _ => (agenda.signing id).isSome = true
  | _ => True

omit [DecidableEq Address] [Host Address] in
theorem sequel_elsewhere {agenda : Agenda Address} {event : Event Address}
    (other : event.topic ≠ .proposals) : Sequel agenda event := by
  cases event <;> trivial

omit [DecidableEq Address] [Host Address] in
theorem each_elsewhere (agenda : Agenda Address) {events : List (Event Address)}
    (others : ∀ event ∈ events, event.topic ≠ .proposals) :
    Each Agenda.absorb Sequel agenda events :=
  each_of_forall agenda fun event member _ => sequel_elsewhere (others event member)

variable {env : Env Address} {before after : World Address}

theorem MultisigOp.sequel_log (op : MultisigOp Address)
    (accepted : Transaction.Returns op.exec env before () after) :
    ∃ fresh, after.events = before.events ++ fresh ∧
      Each Agenda.absorb Sequel before.storage.agenda fresh := by
  cases op.outcome accepted with
  | bypass => exact ⟨_, rfl, trivial, trivial⟩
  | proposal built =>
      subst built
      exact ⟨_, rfl, hashed_lettered _, trivial⟩
  | completion cosignable reached =>
      have found : before.storage.agenda.signing _ = some (MultiSigProposal.posted _) :=
        congrArg (Option.map MultiSigProposal.posted) cosignable.found
      refine ⟨_, rfl, ⟨_, found, cosignable.unsigned, rfl⟩, trivial, ?_, trivial⟩
      simp [Sequel, Agenda.absorb, Agenda.sign, found]
  | cosignature cosignable short =>
      have found : before.storage.agenda.signing _ = some (MultiSigProposal.posted _) :=
        congrArg (Option.map MultiSigProposal.posted) cosignable.found
      exact ⟨_, rfl, ⟨_, found, cosignable.unsigned, rfl⟩, trivial⟩

theorem sequel_of_accepted {call : Call Address} (keyed : Keyed before.storage.register)
    (accepted : Accepted before call after) :
    ∃ fresh, after.events = before.events ++ fresh ∧
      Each Agenda.absorb Sequel before.storage.agenda fresh := by
  obtain ⟨env, op⟩ := call
  cases op with
  | attestation op =>
      refine ⟨_, op.events_of_returns keyed accepted, each_elsewhere _ fun event member => ?_⟩
      simp [op.topic_postings _ _ event member]
  | request op => cases op.outcome accepted <;> exact ⟨_, rfl, by simp [Each, Sequel]⟩
  | multisig op => exact MultisigOp.sequel_log op accepted
  | council op =>
      refine ⟨_, op.events_of_returns accepted, each_elsewhere _ fun event member => ?_⟩
      simp [op.topic_postings _ _ event member]
  | admin op =>
      refine ⟨_, op.events_of_returns accepted, each_elsewhere _ fun event member same => ?_⟩
      have topic := op.topic_postings _ _ event member
      rw [same] at topic
      simp at topic

/-- Of a proposal the log first tells that it was made, and every signature once. -/
theorem sequel_live (activities : List (Activity Address)) :
    Each Agenda.absorb Sequel (Storage.empty Address).agenda (live activities).events :=
  @each_log _ _ _ _ Storage.agenda _ _
    (fun _ report _ => sequel_elsewhere (by simp [report]))
    (fun activities => (agenda_log [] activities).rebuild rfl)
    (fun activities _ _ accepted => sequel_of_accepted (keyed_live activities) accepted) activities

omit [DecidableEq Address] [Host Address] in
/-- Every proposal of the agenda has a text for its id. -/
theorem lettered_absorb (agenda : Agenda Address) (event : Event Address)
    (lettered : ∀ id, (agenda.signing id).isSome = true → Lettered id)
    (sequel : Sequel agenda event) :
    ∀ id, ((agenda.absorb event).signing id).isSome = true → Lettered id := by
  intro id
  cases event with
  | multisigProposed proposalId proposer subject threshold =>
      by_cases here : id = proposalId
      · exact fun _ => here ▸ sequel
      · simpa [Agenda.absorb, here] using lettered id
  | multisigCosigned proposalId signer signaturesSoFar threshold =>
      by_cases here : id = proposalId
      · simpa [Agenda.absorb, Agenda.sign, here] using lettered proposalId
      · simpa [Agenda.absorb, Agenda.sign, here] using lettered id
  | multisigActivated proposalId attestationId =>
      by_cases here : id = proposalId
      · simpa [Agenda.absorb, Agenda.sign, here] using lettered proposalId
      · simpa [Agenda.absorb, Agenda.sign, here] using lettered id
  | _ => exact lettered id

end Log

section Rows
variable {Address : Type} [AddressDecoder Address]

/-- The row shows what the events have told of a proposal. -/
structure MultisigProposalRow.Shows (row : MultisigProposalRow) (signing : Signing Address) :
    Prop where
  subject : row.subject = strkey signing.subject
  proposer : row.proposer = strkey signing.proposer
  threshold : row.threshold = signing.threshold
  signers : row.signers = signing.signers.map strkey
  signatureCount : row.signatureCount = signing.signers.length
  finalized : row.finalized = signing.finalized

theorem MultisigProposalRow.Shows.unique {row : MultisigProposalRow}
    {first second : Signing Address} (one : row.Shows first) (other : row.Shows second) :
    first = second := by
  have subject := AddressDecoder.injective (one.subject.symm.trans other.subject)
  have proposer := AddressDecoder.injective (one.proposer.symm.trans other.proposer)
  have threshold := Int.ofNat_inj.mp (one.threshold.symm.trans other.threshold)
  have signers := List.map_injective_iff.mpr AddressDecoder.injective
    (one.signers.symm.trans other.signers)
  have finalized := one.finalized.symm.trans other.finalized
  cases first
  cases second
  simp_all

/-- A text stands for one id only. -/
theorem apart_text [TextDecoder] {Value : Type} {store : Str → Option Value} {id : Str}
    (lettered : ∀ other, (store other).isSome = true → Lettered other) (own : Lettered id) :
    KeyAlone text store id :=
  fun other stands same => text_injective (lettered other stands).ascii own.ascii same

/-- The rows show the proposals of the agenda. -/
abbrev DisplaysSignings [TextDecoder] (signing : Str → Option (Signing Address))
    (table : Table MultisigProposalRow) : Prop :=
  Displays text MultisigProposalRow.Shows signing table

end Rows

section Handling
variable [JsRuntime] {Address : Type} [TextDecoder] [AddressDecoder Address] {db : Db}
  (clock : Clock) {id : Str}

/-- An event that is not about a proposal leaves their rows alone. -/
theorem proposals_kept {event : Event Address} (other : event.topic ≠ .proposals) :
    (processEvent db (clock, publish event)).multisigProposal = db.multisigProposal := by
  obtain ⟨edit, writes⟩ := event_writes (publish event)
  rw [writes.processed]
  cases written : edit clock with
  | none => rfl
  | some first =>
      cases first with
      | multisigProposal id write =>
          have keyed := writes.keyed clock _ written
          cases event <;> first | exact absurd rfl other | cases keyed
      | _ => rfl

omit [JsRuntime] [TextDecoder] in
theorem intColumn_natCast (value : Nat) :
    intColumn (value : Int) = if value < intRange then some (value : Int) else none := by
  unfold intColumn
  by_cases fits : value < intRange
  · rw [if_pos fits, if_pos (by omega)]
  · rw [if_neg fits, if_neg (by omega)]

/-- A threshold that fits no column loses the proposal. -/
theorem process_proposed (lettered : Lettered id) (proposer subject : Address) (threshold : Nat) :
    (processEvent db (clock, publish (.multisigProposed id proposer subject threshold))).multisigProposal =
      if threshold < intRange then
        db.multisigProposal.upsert (text id) (fun row => row)
          ⟨strkey subject, strkey proposer, "", threshold, [strkey proposer], 1, false,
            proposalExpiry clock⟩
      else db.multisigProposal := by
  have watches : (publish (.multisigProposed id proposer subject threshold)).watched? =
      some .msProp := rfl
  have stored : textColumn (text id) = some (text id) :=
    textColumn_eq_some.mpr ⟨plain_of_letters lettered, rfl⟩
  have party : (publish (.multisigProposed id proposer subject threshold)).party = strkey subject :=
    rfl
  rw [processEvent, handleEvent_of_watched watches rfl, handleKind, handleMsProp, party]
  simp -implicitDefEqProofs only [item, List.getD_cons_zero, List.getD_cons_succ, toText_ofText,
    toText_ofAddress, AddressDecoder.stored, stored, ofU32, JsValue.toNumber, Option.bind_eq_bind,
    Option.bind_some, intColumn_natCast, expiry_fits]
  by_cases fits : threshold < intRange
  · simp -implicitDefEqProofs only [if_pos fits, Option.bind_some, Option.pure_def,
      Option.getD_some]
    rfl
  · simp only [if_neg fits, Option.bind_none, Option.getD_none]

/-- A count that fits no column loses the signature. -/
theorem process_cosigned (lettered : Lettered id) {row : MultisigProposalRow}
    (found : db.multisigProposal (text id) = some row) {signer : Address}
    (unsigned : strkey signer ∉ row.signers) (signaturesSoFar threshold : Nat) :
    (processEvent db (clock, publish
        (.multisigCosigned id signer signaturesSoFar threshold))).multisigProposal =
      if signaturesSoFar < intRange then
        Function.update db.multisigProposal (text id) (some { row with
          signatureCount := signaturesSoFar, signers := row.signers ++ [strkey signer] })
      else db.multisigProposal := by
  have watches : (publish (.multisigCosigned id signer signaturesSoFar threshold)).watched? =
      some .msSign := rfl
  have stored : textColumn (text id) = some (text id) :=
    textColumn_eq_some.mpr ⟨plain_of_letters lettered, rfl⟩
  have party : (publish (.multisigCosigned id signer signaturesSoFar threshold)).party =
      strkey signer := rfl
  rw [processEvent, handleEvent_of_watched watches rfl, handleKind, handleMsSign, party]
  simp -implicitDefEqProofs only [item, List.getD_cons_zero, List.getD_cons_succ, toText_ofText,
    AddressDecoder.stored, stored, found, ofU32, JsValue.toNumber, Option.bind_eq_bind,
    Option.bind_some, intColumn_natCast, if_neg unsigned, Table.update, Option.map_some]
  by_cases fits : signaturesSoFar < intRange
  · simp -implicitDefEqProofs only [if_pos fits, Option.bind_some, Option.pure_def,
      Option.getD_some]
  · simp only [if_neg fits, Option.bind_none, Option.getD_none]

theorem process_activated (lettered : Lettered id) (attestationId : Str) :
    (processEvent db (clock, publish
        (.multisigActivated id attestationId : Event Address))).multisigProposal =
      db.multisigProposal.updateMany (text id) (fun row => !row.finalized)
        fun row => { row with finalized := true } := by
  have watches : (publish (.multisigActivated id attestationId : Event Address)).watched? =
      some .msActv := rfl
  have stored : textColumn (text id) = some (text id) :=
    textColumn_eq_some.mpr ⟨plain_of_letters lettered, rfl⟩
  rw [processEvent, handleEvent_of_watched watches rfl, handleKind, handleMsActv]
  simp [item, stored]

end Handling

section Following
variable {Address : Type}

/-- What an event tells of a proposal shows in its row: a new proposal has a new id, or says what
is already known, and the numbers fit their columns. -/
def Shown (agenda : Agenda Address) : Event Address → Prop
  | .multisigProposed id proposer subject threshold =>
      (agenda.signing id = none ∧ threshold < intRange) ∨
        agenda.signing id = some ⟨proposer, subject, threshold, [proposer], false⟩
  | .multisigCosigned _ _ signaturesSoFar _ => signaturesSoFar < intRange
  | _ => True

deriving instance DecidableEq for Signing

instance decidableShown [DecidableEq Address] (agenda : Agenda Address) :
    (event : Event Address) → Decidable (Shown agenda event)
  | .multisigProposed id proposer subject threshold =>
      inferInstanceAs (Decidable ((agenda.signing id = none ∧ threshold < intRange) ∨
        agenda.signing id = some ⟨proposer, subject, threshold, [proposer], false⟩))
  | .multisigCosigned _ _ signaturesSoFar _ =>
      inferInstanceAs (Decidable (signaturesSoFar < intRange))
  | .adminInitialized .. | .attestationCreated .. | .attestationImported ..
  | .attestationBridged .. | .attestationRevoked .. | .attestationRevokedWithReason ..
  | .attestationRenewed .. | .attestationExpired .. | .attestationTransferred ..
  | .deletionRequested .. | .expirationHookTriggered .. | .issuerRegistered ..
  | .issuerRemoved .. | .issuerTierUpdated .. | .claimTypeRegistered .. | .multisigActivated ..
  | .adminTransferred .. | .adminTransferProposed .. | .adminAdded .. | .adminRemoved ..
  | .contractPaused .. | .contractUnpaused .. | .attestationRequested .. | .requestFulfilled ..
  | .requestRejected .. | .requestCancelled .. | .delegationCreated .. | .delegationRevoked ..
  | .whitelistModeEnabled .. | .councilInitialized .. | .proposalCreated ..
  | .proposalApproved .. | .proposalExecuted .. => isTrue trivial

theorem shown_elsewhere {agenda : Agenda Address} {event : Event Address}
    (other : event.topic ≠ .proposals) : Shown agenda event := by
  cases event <;> trivial

theorem signing_absorb_elsewhere {agenda : Agenda Address} {event : Event Address}
    (other : event.topic ≠ .proposals) : (agenda.absorb event).signing = agenda.signing := by
  cases event <;> first | rfl | exact absurd rfl other

variable [JsRuntime] [TextDecoder] [AddressDecoder Address] {agenda : Agenda Address} {db : Db}
  (clock : Clock)

theorem displays_proposed (displays : DisplaysSignings agenda.signing db.multisigProposal)
    (lettered : ∀ id, (agenda.signing id).isSome = true → Lettered id) {id : Str}
    (own : Lettered id) (proposer subject : Address) (threshold : Nat) :
    DisplaysSignings (agenda.absorb (.multisigProposed id proposer subject threshold)).signing
        (processEvent db (clock,
          publish (.multisigProposed id proposer subject threshold))).multisigProposal ↔
      Shown agenda (.multisigProposed id proposer subject threshold) := by
  rw [process_proposed clock own, Agenda.absorb, Shown]
  refine (displays.write_iff (apart_text lettered own) fun key other => ?_).trans ?_
  · split
    · exact Function.update_of_ne other ..
    · rfl
  · cases heard : agenda.signing id with
    | none =>
        have absent := displays.absent (apart_text lettered own) heard
        by_cases fits : threshold < intRange
        · simp only [if_pos fits, Table.upsert, absent, Option.elim_none, Function.update_self,
            Option.some.injEq, exists_eq_left', fits, and_self, true_or, iff_true]
          exact ⟨rfl, rfl, rfl, rfl, rfl, rfl⟩
        · simp [fits, absent]
    | some proposal =>
        obtain ⟨row, found, shows⟩ := displays.shown id proposal heard
        have stays : (if threshold < intRange then
            db.multisigProposal.upsert (text id) (fun row => row)
              ⟨strkey subject, strkey proposer, "", threshold, [strkey proposer], 1, false,
                proposalExpiry clock⟩
            else db.multisigProposal) (text id) = some row := by
          split <;> simp [Table.upsert, found]
        rw [stays]
        simp only [Option.some.injEq, exists_eq_left', reduceCtorEq, false_and, false_or]
        exact ⟨shows.unique, fun same => same ▸ shows⟩

theorem displays_cosigned (displays : DisplaysSignings agenda.signing db.multisigProposal)
    (lettered : ∀ id, (agenda.signing id).isSome = true → Lettered id) {id : Str}
    {signing : Signing Address} (heard : agenda.signing id = some signing) {signer : Address}
    (unsigned : signer ∉ signing.signers) (threshold : Nat) :
    DisplaysSignings (agenda.absorb
          (.multisigCosigned id signer (signing.signers.length + 1) threshold)).signing
        (processEvent db (clock, publish
          (.multisigCosigned id signer (signing.signers.length + 1) threshold))).multisigProposal ↔
      signing.signers.length + 1 < intRange := by
  have own := lettered id (by simp [heard])
  obtain ⟨row, found, shows⟩ := displays.shown id signing heard
  have unlisted : strkey signer ∉ row.signers := by
    rw [shows.signers, List.mem_map_of_injective AddressDecoder.injective]
    exact unsigned
  rw [process_cosigned clock own found unlisted, Agenda.absorb, Agenda.sign, heard]
  refine (displays.write_iff (apart_text lettered own) fun key other => ?_).trans ?_
  · split
    · exact Function.update_of_ne other ..
    · rfl
  · by_cases fits : signing.signers.length + 1 < intRange
    · rw [if_pos fits, Function.update_self]
      refine iff_of_true ⟨_, rfl, shows.subject, shows.proposer, shows.threshold, ?_, ?_,
        shows.finalized⟩ fits
      · simp [shows.signers]
      · simp
    · rw [if_neg fits, found]
      refine iff_of_false ?_ fits
      rintro ⟨stored, same, later⟩
      obtain rfl := Option.some.inj same
      have count := shows.signatureCount.symm.trans later.signatureCount
      simp only [List.length_append, List.length_singleton, Int.natCast_add] at count
      omega

theorem displays_activated (displays : DisplaysSignings agenda.signing db.multisigProposal)
    (lettered : ∀ id, (agenda.signing id).isSome = true → Lettered id) {id : Str}
    {signing : Signing Address} (heard : agenda.signing id = some signing) (attestationId : Str) :
    DisplaysSignings (agenda.absorb (.multisigActivated id attestationId)).signing
      (processEvent db (clock,
        publish (.multisigActivated id attestationId : Event Address))).multisigProposal := by
  have own := lettered id (by simp [heard])
  obtain ⟨row, found, shows⟩ := displays.shown id signing heard
  rw [process_activated clock own, Agenda.absorb, Agenda.sign, heard]
  refine (displays.write_iff (apart_text lettered own) fun key other => ?_).mpr ?_
  · exact Function.update_of_ne other ..
  · refine ⟨{ row with finalized := true }, ?_, shows.subject, shows.proposer, shows.threshold,
      shows.signers, shows.signatureCount, rfl⟩
    rw [Table.updateMany, Function.update_self, found, Option.map_some]
    cases row with
    | mk _ _ _ _ _ _ finalized => cases finalized <;> rfl

/-- An event that follows the earlier ones is displayed exactly when it can be shown. -/
theorem displays_event (event : Event Address)
    (displays : DisplaysSignings agenda.signing db.multisigProposal)
    (lettered : ∀ id, (agenda.signing id).isSome = true → Lettered id)
    (sequel : Sequel agenda event) :
    DisplaysSignings (agenda.absorb event).signing
        (processEvent db (clock, publish event)).multisigProposal ↔ Shown agenda event := by
  by_cases about : event.topic = .proposals
  · cases event with
    | multisigProposed id proposer subject threshold =>
        exact displays_proposed clock displays lettered sequel proposer subject threshold
    | multisigCosigned id signer signaturesSoFar threshold =>
        obtain ⟨signing, heard, unsigned, rfl⟩ := sequel
        exact displays_cosigned clock displays lettered heard unsigned threshold
    | multisigActivated id attestationId =>
        obtain ⟨signing, heard⟩ := Option.isSome_iff_exists.mp sequel
        exact iff_of_true (displays_activated clock displays lettered heard attestationId) trivial
    | _ => cases about
  · rw [signing_absorb_elsewhere about, proposals_kept clock about]
    exact iff_of_true displays (shown_elsewhere about)

/-- The indexer handles the published event at the time it shows. -/
def handlePublished (db : Db) (seen : Clock × Event Address) : Db :=
  processEvent db (seen.1, publish seen.2)

def tablesAfter (handled : List (Clock × Event Address)) : Db :=
  Trace.run handlePublished Db.empty handled

theorem signings_shown_iff {handled : List (Clock × Event Address)}
    (log : Each Agenda.absorb Sequel (Storage.empty Address).agenda (handled.map Prod.snd)) :
    (∀ early late, handled = early ++ late →
        DisplaysSignings
          (Trace.run Agenda.absorb (Storage.empty Address).agenda (early.map Prod.snd)).signing
          (tablesAfter early).multisigProposal) ↔
      Each Agenda.absorb Shown (Storage.empty Address).agenda (handled.map Prod.snd) :=
  @always_mirrored_iff _ _ _ _ _ handlePublished Sequel Shown
    (fun agenda => ∀ id, (agenda.signing id).isSome = true → Lettered id)
    (fun agenda db => DisplaysSignings agenda.signing db.multisigProposal) lettered_absorb
    (fun _ _ clock event lettered sequel displays =>
      displays_event clock event displays lettered sequel)
    _ Db.empty (fun _ stands => Bool.noConfusion stands) displays_empty handled log

variable [DecidableEq Address] [Host Address]

/-- At every moment the rows show the proposals exactly if every event can be shown, and then they
show the proposals that the contract has stored at that time. -/
theorem signings_mirrored (activities : List (Activity Address))
    (handled : List (Clock × Event Address))
    (published : handled.map Prod.snd = (live activities).events) :
    ((∀ early late, handled = early ++ late →
        DisplaysSignings
          (Trace.run Agenda.absorb (Storage.empty Address).agenda (early.map Prod.snd)).signing
          (tablesAfter early).multisigProposal) ↔
      Each Agenda.absorb Shown (Storage.empty Address).agenda (live activities).events) ∧
    (Each Agenda.absorb Shown (Storage.empty Address).agenda (live activities).events →
      ∀ early late, activities = early ++ late →
        DisplaysSignings (live early).storage.agenda.signing
          (tablesAfter (handled.take (live early).events.length)).multisigProposal) := by
  have exact := signings_shown_iff (published ▸ sequel_live activities)
  rw [published] at exact
  refine ⟨exact, fun shown early late split => ?_⟩
  obtain ⟨fresh, grown, -⟩ := agenda_log early late
  have seen : (handled.take (live early).events.length).map Prod.snd = (live early).events := by
    rw [List.map_take, published, split, grown, List.take_left]
  have told : (live early).storage.agenda = Trace.run Agenda.absorb (Storage.empty Address).agenda
      ((handled.take (live early).events.length).map Prod.snd) := by
    rw [seen]
    exact (agenda_log [] early).rebuild rfl
  rw [told]
  exact exact.mpr shown _ _ (List.take_append_drop ..).symm

end Following

section Sample
open Xdr

attribute [local instance] decimalRuntime

/-- A proposal that is completed by one more signature, followed event by event. -/
theorem signings_mirrored_sample :
    let activities := (sampleDeployment ++ [sampleProposal, sampleCosignature]).map Activity.call
    let handled := (live activities).events.map fun event => (midnight, event)
    DisplaysSignings (live activities).storage.agenda.signing
      (tablesAfter handled).multisigProposal := by
  intro activities handled
  have shown : Each Agenda.absorb Shown (Storage.empty ContractId).agenda
      (live activities).events := by decide +kernel
  have published : handled.map Prod.snd = (live activities).events := by
    simp [handled, Function.comp_def]
  have mirrored := (signings_mirrored activities handled published).2 shown activities []
    (List.append_nil _).symm
  rwa [List.take_of_length_le (by simp [handled])] at mirrored

end Sample

end TrustLink.Indexer
