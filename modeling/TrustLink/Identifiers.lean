import TrustLink.Types
import TrustLink.Lib.Codec

/-!
Identifier generation of types.rs. SHA-256, the XDR encodings of the SDK and
`Address::to_string` live outside the repository and are the operations of
`Host`; `Host.Sound` lists what the contract relies on. Digests are left
unbounded in length, since an injective digest cannot have 32 bytes.
-/
namespace TrustLink

class Host (Address : Type) where
  sha256 : Str → Str
  addressXdr : Address → Str
  stringXdr : Str → Str
  u64Xdr : Nat → Str
  addressToString : Address → Str

structure Host.Sound (Address : Type) [Host Address] : Prop where
  sha256Injective : Function.Injective (@Host.sha256 Address _)
  addressDelimited : Codec.SelfDelimiting (@Host.addressXdr Address _)
  stringDelimited : Codec.SelfDelimiting (@Host.stringXdr Address _)
  u64Delimited : Codec.SelfDelimiting (@Host.u64Xdr Address _)
  -- XDR values start with the tag of their type
  stringU64Apart : Codec.Apart (@Host.stringXdr Address _) (@Host.u64Xdr Address _)

def hexDigits : Str := ascii "0123456789abcdef"

def hexByte (byte : UInt8) : Str :=
  [hexDigits.getD (byte >>> 4).toNat 0, hexDigits.getD (byte &&& 0x0f).toNat 0]

section Generation
variable {Address : Type} [Host Address]

variable (Address) in
def hashPayload (payload : Str) : Str := (@Host.sha256 Address _ payload).flatMap hexByte

def Attestation.generateId (issuer subject : Address) (claimType : Str) (timestamp : Nat) : Str :=
  hashPayload Address
    (Host.addressXdr issuer ++ Host.addressXdr subject ++ @Host.stringXdr Address _ claimType ++
      @Host.u64Xdr Address _ timestamp)

def Attestation.generateBridgeId (bridge subject : Address)
    (claimType sourceChain sourceTx : Str) (timestamp : Nat) : Str :=
  hashPayload Address
    (Host.addressXdr bridge ++ Host.addressXdr subject ++ @Host.stringXdr Address _ claimType ++
      @Host.stringXdr Address _ sourceChain ++ @Host.stringXdr Address _ sourceTx ++
      @Host.u64Xdr Address _ timestamp)

def AttestationRequest.generateId (subject issuer : Address) (claimType : Str)
    (timestamp : Nat) : Str :=
  hashPayload Address
    (ascii "req:" ++ Host.addressXdr subject ++ Host.addressXdr issuer ++
      @Host.stringXdr Address _ claimType ++ @Host.u64Xdr Address _ timestamp)

def MultiSigProposal.generateId (proposer subject : Address) (claimType : Str)
    (timestamp : Nat) : Str :=
  hashPayload Address
    (ascii "multisig:" ++ Host.addressXdr proposer ++ Host.addressXdr subject ++
      @Host.stringXdr Address _ claimType ++ @Host.u64Xdr Address _ timestamp)

end Generation

theorem hexByte_digits (byte : UInt8) : ∀ digit ∈ hexByte byte, digit ∈ hexDigits := by
  have listed : ∀ index < hexDigits.length, hexDigits.getD index 0 ∈ hexDigits := by
    intro index inside
    rw [List.getD_eq_getElem?_getD, List.getElem?_eq_getElem inside, Option.getD_some]
    exact List.getElem_mem inside
  have sixteen : hexDigits.length = 16 := rfl
  have high : (byte >>> 4).toNat < hexDigits.length := by
    have small := byte.toNat_lt
    rw [sixteen, UInt8.toNat_shiftRight, Nat.shiftRight_eq_div_pow]
    simp
    omega
  have low : (byte &&& 0x0f).toNat < hexDigits.length := by
    rw [sixteen, UInt8.toNat_and]
    exact Nat.lt_succ_of_le Nat.and_le_right
  intro digit member
  simp only [hexByte, List.mem_cons, List.not_mem_nil, or_false] at member
  rcases member with rfl | rfl
  · exact listed _ high
  · exact listed _ low

/-- Reads a digit of the table back; anything else is read as zero. -/
def nibbleOf (digit : UInt8) : UInt8 :=
  if digit < 58 then digit - 48 else digit - 87

theorem nibbles_of_hexByte (byte : UInt8) :
    (hexByte byte).map nibbleOf = [byte >>> 4, byte &&& 0x0f] := by
  have table : ∀ n : Fin 256, (hexByte (UInt8.ofNat n)).map nibbleOf =
      [UInt8.ofNat n >>> 4, UInt8.ofNat n &&& 0x0f] := by decide +kernel
  simpa using table ⟨byte.toNat, byte.toNat_lt⟩

theorem hexByte_injective : Function.Injective hexByte := by
  intro left right same
  have nibbles : [left >>> 4, left &&& 0x0f] = [right >>> 4, right &&& 0x0f] := by
    rw [← nibbles_of_hexByte, ← nibbles_of_hexByte, same]
  simp only [List.cons.injEq, and_true] at nibbles
  have joined : ∀ byte : UInt8, byte = (byte >>> 4) <<< 4 ||| (byte &&& 0x0f) := by
    intro byte
    have table : ∀ n : Fin 256, UInt8.ofNat n =
        (UInt8.ofNat n >>> 4) <<< 4 ||| (UInt8.ofNat n &&& 0x0f) := by decide +kernel
    simpa using table ⟨byte.toNat, byte.toNat_lt⟩
  rw [joined left, joined right, nibbles.1, nibbles.2]

section Soundness
variable {Address : Type} [Host Address]

theorem hashPayload_injective (sound : Host.Sound Address) :
    Function.Injective (hashPayload Address) := by
  intro left right same
  apply sound.sha256Injective
  exact Codec.flatMap_injective 2 (fun _ => rfl) (by decide) hexByte_injective same

/-- An attestation id determines the subject it was generated for. -/
theorem generateId_subject (sound : Host.Sound Address) {issuer subject issuer' subject' : Address}
    {claimType claimType' : Str} {timestamp timestamp' : Nat}
    (same : Attestation.generateId issuer subject claimType timestamp =
      Attestation.generateId issuer' subject' claimType' timestamp') :
    subject = subject' := by
  have payloads := hashPayload_injective sound same
  have delimited := sound.addressDelimited.pair sound.addressDelimited
  have parts := delimited (issuer, subject) (issuer', subject') _ _
    (by simpa only [List.append_assoc] using payloads)
  exact congrArg Prod.snd parts.1

/-- Bridge ids and native ids never meet: behind the claim type the one goes on
with a string and the other with a number. -/
theorem generateBridgeId_ne_generateId (sound : Host.Sound Address)
    {bridge subject issuer subject' : Address} {claimType sourceChain sourceTx claimType' : Str}
    {timestamp timestamp' : Nat} :
    Attestation.generateBridgeId bridge subject claimType sourceChain sourceTx timestamp ≠
      Attestation.generateId issuer subject' claimType' timestamp' := by
  intro same
  have payloads := hashPayload_injective sound same
  have apart := ((sound.stringU64Apart.behind sound.stringDelimited).behind
    sound.addressDelimited).behind sound.addressDelimited
  exact apart (bridge, subject, claimType, sourceChain) (issuer, subject', claimType', timestamp')
    (@Host.stringXdr Address _ sourceTx ++ @Host.u64Xdr Address _ timestamp) []
    (by simpa only [List.append_assoc, List.append_nil] using payloads)

end Soundness

end TrustLink
