import TrustLink.Xdr

/-!
The four families of identifiers. What is hashed can be read back field by field, and its
first byte or the fourth field tells the family, so ids differ as long as digests do.
-/
namespace TrustLink

/-- What the generation of ids relies on: the length of a digest and the shape of XDR. -/
structure Host.Encodes (Address : Type) [Host Address] : Prop where
  digestLength : ∀ payload, (@Host.sha256 Address _ payload).length = 32
  addressDelimited : Codec.SelfDelimiting (@Host.addressXdr Address _)
  stringDelimited : Codec.SelfDelimiting (@Host.stringXdr Address _)
  u64Delimited : Codec.SelfDelimiting (@Host.u64Xdr Address _)
  addressZero : ∀ address : Address, (Host.addressXdr address).head? = some 0
  stringU64Apart : Codec.Apart (@Host.stringXdr Address _) (@Host.u64Xdr Address _)

/-- A call of one of the four generators, with its arguments. -/
inductive IdCall (Address : Type) where
  | attestation (issuer subject : Address) (claimType : Str) (timestamp : Nat)
  | bridged (bridge subject : Address) (claimType sourceChain sourceTx : Str) (timestamp : Nat)
  | request (subject issuer : Address) (claimType : Str) (timestamp : Nat)
  | proposal (proposer subject : Address) (claimType : Str) (timestamp : Nat)

namespace IdCall
variable {Address : Type}

/-- The first byte of what is hashed: of an address, or of the family's tag. -/
def firstByte : IdCall Address → UInt8
  | .attestation .. | .bridged .. => 0
  | .request .. => 114
  | .proposal .. => 109

variable [Host Address]

def id : IdCall Address → Str
  | .attestation issuer subject claimType timestamp =>
      Attestation.generateId issuer subject claimType timestamp
  | .bridged bridge subject claimType sourceChain sourceTx timestamp =>
      Attestation.generateBridgeId bridge subject claimType sourceChain sourceTx timestamp
  | .request subject issuer claimType timestamp =>
      AttestationRequest.generateId subject issuer claimType timestamp
  | .proposal proposer subject claimType timestamp =>
      MultiSigProposal.generateId proposer subject claimType timestamp

def fields (first second : Address) (claimType : Str) : Str :=
  Host.addressXdr first ++ Host.addressXdr second ++ @Host.stringXdr Address _ claimType

/-- What is hashed. -/
def payload : IdCall Address → Str
  | .attestation issuer subject claimType timestamp =>
      fields issuer subject claimType ++ @Host.u64Xdr Address _ timestamp
  | .bridged bridge subject claimType sourceChain sourceTx timestamp =>
      fields bridge subject claimType ++ @Host.stringXdr Address _ sourceChain ++
        @Host.stringXdr Address _ sourceTx ++ @Host.u64Xdr Address _ timestamp
  | .request subject issuer claimType timestamp =>
      ascii "req:" ++ (fields subject issuer claimType ++ @Host.u64Xdr Address _ timestamp)
  | .proposal proposer subject claimType timestamp =>
      ascii "multisig:" ++ (fields proposer subject claimType ++ @Host.u64Xdr Address _ timestamp)

theorem id_eq (call : IdCall Address) : call.id = hashPayload Address call.payload := by
  cases call with
  | attestation | bridged => rfl
  | request => simp only [id, AttestationRequest.generateId, payload, fields, List.append_assoc]
  | proposal => simp only [id, MultiSigProposal.generateId, payload, fields, List.append_assoc]

theorem fields_delimited (encodes : Host.Encodes Address) :
    Codec.SelfDelimiting fun value : (Address × Address) × Str =>
      fields value.1.1 value.1.2 value.2 :=
  (encodes.addressDelimited.pair encodes.addressDelimited).pair encodes.stringDelimited

/-- The fields and the time, as three of the families hash them. -/
theorem stamped_delimited (encodes : Host.Encodes Address) :
    Codec.SelfDelimiting fun value : ((Address × Address) × Str) × Nat =>
      fields value.1.1.1 value.1.1.2 value.1.2 ++ @Host.u64Xdr Address _ value.2 :=
  (fields_delimited encodes).pair encodes.u64Delimited

theorem bridged_delimited (encodes : Host.Encodes Address) :
    Codec.SelfDelimiting fun value : ((((Address × Address) × Str) × Str) × Str) × Nat =>
      fields value.1.1.1.1.1 value.1.1.1.1.2 value.1.1.1.2 ++
        @Host.stringXdr Address _ value.1.1.2 ++ @Host.stringXdr Address _ value.1.2 ++
        @Host.u64Xdr Address _ value.2 :=
  (((fields_delimited encodes).pair encodes.stringDelimited).pair encodes.stringDelimited).pair
    encodes.u64Delimited

theorem head_payload (encodes : Host.Encodes Address) (call : IdCall Address) :
    call.payload.head? = some call.firstByte := by
  have head : ∀ (address : Address) (rest : Str),
      (Host.addressXdr address ++ rest).head? = some 0 := by
    intro address rest
    rw [List.head?_append, encodes.addressZero]
    rfl
  cases call with
  | attestation | bridged =>
      simp only [payload, fields, List.append_assoc]
      exact head _ _
  | request | proposal => rfl

/-- Behind the claim type a bridge id goes on with a string, and a native id with a number. -/
theorem payload_apart (encodes : Host.Encodes Address) {bridge subject issuer other : Address}
    {claimType sourceChain sourceTx claimType' : Str} {timestamp timestamp' : Nat} :
    (IdCall.bridged bridge subject claimType sourceChain sourceTx timestamp).payload ≠
      (IdCall.attestation issuer other claimType' timestamp').payload := by
  intro same
  have apart := encodes.stringU64Apart.behind (fields_delimited encodes)
  refine apart (((bridge, subject), claimType), sourceChain) (((issuer, other), claimType'),
    timestamp') (@Host.stringXdr Address _ sourceTx ++ @Host.u64Xdr Address _ timestamp) [] ?_
  simpa only [payload, List.append_assoc, List.append_nil] using same

/-- What is hashed determines the call. -/
theorem payload_injective (encodes : Host.Encodes Address) :
    Function.Injective (@payload Address _) := by
  intro left right same
  have first : left.firstByte = right.firstByte := by
    have heads := congrArg List.head? same
    rw [head_payload encodes, head_payload encodes] at heads
    exact Option.some.inj heads
  have stamped := stamped_delimited encodes
  cases left with
  | attestation issuer subject claimType timestamp =>
      cases right with
      | attestation issuer' subject' claimType' timestamp' =>
          have parts := (stamped (((issuer, subject), claimType), timestamp)
            (((issuer', subject'), claimType'), timestamp') [] [] (congrArg (· ++ []) same)).1
          simpa [and_assoc] using parts
      | bridged => exact absurd same.symm (payload_apart encodes)
      | request | proposal => cases first
  | bridged bridge subject claimType sourceChain sourceTx timestamp =>
      cases right with
      | attestation => exact absurd same (payload_apart encodes)
      | bridged bridge' subject' claimType' sourceChain' sourceTx' timestamp' =>
          have parts := (bridged_delimited encodes
            (((((bridge, subject), claimType), sourceChain), sourceTx), timestamp)
            (((((bridge', subject'), claimType'), sourceChain'), sourceTx'), timestamp') [] []
            (congrArg (· ++ []) same)).1
          simpa [and_assoc] using parts
      | request | proposal => cases first
  | request subject issuer claimType timestamp =>
      cases right with
      | request subject' issuer' claimType' timestamp' =>
          have parts := (stamped.tagged (ascii "req:") (((subject, issuer), claimType), timestamp)
            (((subject', issuer'), claimType'), timestamp') [] [] (congrArg (· ++ []) same)).1
          simpa [and_assoc] using parts
      | _ => cases first
  | proposal proposer subject claimType timestamp =>
      cases right with
      | proposal proposer' subject' claimType' timestamp' =>
          have parts := (stamped.tagged (ascii "multisig:")
            (((proposer, subject), claimType), timestamp)
            (((proposer', subject'), claimType'), timestamp') [] []
            (congrArg (· ++ []) same)).1
          simpa [and_assoc] using parts
      | _ => cases first

end IdCall

section Hexadecimal
variable {Address : Type} [Host Address]

theorem hashPayload_length (encodes : Host.Encodes Address) (payload : Str) :
    (hashPayload Address payload).length = 64 := by
  have double : ∀ bytes : Str, (bytes.flatMap hexByte).length = 2 * bytes.length := by
    intro bytes
    induction bytes with
    | nil => rfl
    | cons byte rest ih =>
        rw [List.flatMap_cons, List.length_append, ih, List.length_cons, hexByte, List.length_cons,
          List.length_cons, List.length_nil]
        omega
  rw [hashPayload, double, encodes.digestLength]

theorem hashPayload_digits (payload : Str) :
    ∀ digit ∈ hashPayload Address payload, digit ∈ hexDigits := by
  intro digit member
  obtain ⟨byte, -, printed⟩ := List.mem_flatMap.mp member
  exact hexByte_digits byte digit printed

end Hexadecimal

section Identifiers
variable {Address : Type} [Host Address]

/-- As long as the digests of what they hash do not collide, two calls give the same id
exactly when they are one call, of one generator with the same arguments. Every id is 64
lowercase hexadecimal digits. -/
theorem ids_collision_free (encodes : Host.Encodes Address) (left right : IdCall Address)
    (apart : @Host.sha256 Address _ left.payload = @Host.sha256 Address _ right.payload →
      left.payload = right.payload) :
    (left.id = right.id ↔ left = right) ∧ left.id.length = 64 ∧
      ∀ digit ∈ left.id, digit ∈ ascii "0123456789abcdef" := by
  refine ⟨⟨fun same => ?_, fun same => by rw [same]⟩, ?_, ?_⟩
  · rw [left.id_eq, right.id_eq] at same
    have digests := Codec.flatMap_injective 2 (fun _ => rfl) (by decide) hexByte_injective same
    exact IdCall.payload_injective encodes (apart digests)
  · rw [left.id_eq]
    exact hashPayload_length encodes _
  · rw [left.id_eq]
    exact hashPayload_digits _

end Identifiers

section Sample
open Xdr

/-- The digests of the sample, and 32 zeros for any other payload. -/
@[reducible] def paddedHost : Host ContractId :=
  { sampleHost with
    sha256 := fun payload => (sampleDigests.lookup payload).getD (List.replicate 32 0) }

theorem paddedHost_encodes : @Host.Encodes ContractId paddedHost := by
  refine @Host.Encodes.mk ContractId paddedHost (fun payload => ?_) addressXdr_delimited
    stringXdr_delimited u64Xdr_delimited (fun _ => rfl) stringXdr_apart
  change ((sampleDigests.lookup payload).getD (List.replicate 32 0)).length = 32
  cases known : sampleDigests.lookup payload with
  | none => rfl
  | some digest =>
      have lengths : ∀ entry ∈ sampleDigests, entry.2.length = 32 := by decide
      exact lengths _ (mem_of_lookup known)

/-- The attestation of the sample and the proposal with the same fields. -/
theorem ids_collision_free_sample :
    let attestation : IdCall ContractId :=
      .attestation (contractId 1) (contractId 2) (ascii "KYC") 1000
    let proposal : IdCall ContractId := .proposal (contractId 1) (contractId 2) (ascii "KYC") 1000
    (@IdCall.id _ paddedHost attestation = @IdCall.id _ paddedHost proposal ↔
        attestation = proposal) ∧
      (@IdCall.id _ paddedHost attestation).length = 64 ∧
      ∀ digit ∈ @IdCall.id _ paddedHost attestation, digit ∈ ascii "0123456789abcdef" :=
  @ids_collision_free ContractId paddedHost paddedHost_encodes
    (.attestation (contractId 1) (contractId 2) (ascii "KYC") 1000)
    (.proposal (contractId 1) (contractId 2) (ascii "KYC") 1000)
    (fun same => absurd same (by decide +kernel))

end Sample

end TrustLink
