import Mathlib.Data.List.Induction
import Mathlib.Data.List.Nodup
import TrustLink.Identifiers

/-!
The host operations for contract addresses: the XDR forms of addresses, strings
and 64-bit numbers, and the printed form of an address. Lengths and numbers out
of range have no XDR form and get one of their own here, so that the encodings
are total. A digest is looked up in a table of known SHA-256 values; any other
payload stands for its own digest.
-/
namespace TrustLink.Xdr

/-- The 32 bytes of a contract address. -/
abbrev ContractId := { bytes : Str // bytes.length = 32 }

def bigEndian : Nat → Nat → Str
  | 0, _ => []
  | width + 1, value => bigEndian width (value / 256) ++ [(value % 256).toUInt8]

def unary (value : Nat) : Str := List.replicate value 1 ++ [0]

/-- `ScVal::Address` of a contract. -/
def addressXdr (address : ContractId) : Str := [0, 0, 0, 18, 0, 0, 0, 1] ++ address.val

/-- `ScVal::String`: the length, the bytes, and zeros up to a multiple of four. -/
def stringXdr (value : Str) : Str :=
  if value.length < u32Range then
    [0, 0, 0, 14] ++ (bigEndian 4 value.length ++
      (value ++ List.replicate ((4 - value.length % 4) % 4) 0))
  else [255, 255, 255, 14] ++ (unary value.length ++ value)

/-- `ScVal::U64`. -/
def u64Xdr (value : Nat) : Str :=
  if value < u64Range then [0, 0, 0, 5] ++ bigEndian 8 value else [255, 255, 255, 5] ++ unary value

def base32Alphabet : Str := ascii "ABCDEFGHIJKLMNOPQRSTUVWXYZ234567"

/-- CRC16 with polynomial 0x1021, one byte at a time. -/
def crc16Step (crc : Nat) (byte : UInt8) : Nat :=
  (List.range 8).foldl (fun crc _ =>
    if crc < 0x8000 then crc * 2 else (crc * 2 % 0x10000) ^^^ 0x1021) (crc ^^^ (byte.toNat * 256))

/-- `Address::to_string`: version byte, address and checksum in base 32. -/
def addressToString (address : ContractId) : Str :=
  let bytes : Str := 16 :: address.val
  let crc := bytes.foldl crc16Step 0
  let value := (bytes ++ [(crc % 256).toUInt8, (crc / 256).toUInt8]).foldl
    (fun value byte => value * 256 + byte.toNat) 0
  (List.range 56).reverse.map fun position =>
    base32Alphabet.getD (value / 32 ^ position % 32) 0

/-- No digest of the table may look like a payload that stands for itself. -/
def digest (known : List (Str × Str)) (payload : Str) : Str :=
  (known.lookup payload).getD (255 :: payload)

theorem digits_injective (base count : Nat) {left right : Nat}
    (leftFits : left < base ^ count) (rightFits : right < base ^ count)
    (same : ∀ position < count, left / base ^ position % base = right / base ^ position % base) :
    left = right := by
  induction count generalizing left right with
  | zero => simp at leftFits rightFits; omega
  | succ count ih =>
      have low : left % base = right % base := by simpa using same 0 (by omega)
      have high : left / base = right / base := by
        refine ih (Nat.div_lt_of_lt_mul (by rwa [← Nat.pow_succ'])) (Nat.div_lt_of_lt_mul
          (by rwa [← Nat.pow_succ'])) fun position below => ?_
        have next := same (position + 1) (by omega)
        rwa [Nat.pow_succ', ← Nat.div_div_eq_div_mul, ← Nat.div_div_eq_div_mul] at next
      rw [← Nat.div_add_mod left base, ← Nat.div_add_mod right base, low, high]

def bytesValue (bytes : Str) : Nat := bytes.foldl (fun value byte => value * 256 + byte.toNat) 0

theorem bytesValue_concat (bytes : Str) (byte : UInt8) :
    bytesValue (bytes ++ [byte]) = bytesValue bytes * 256 + byte.toNat := by
  simp [bytesValue]

theorem bytesValue_lt (bytes : Str) : bytesValue bytes < 256 ^ bytes.length := by
  induction bytes using List.reverseRecOn with
  | nil => simp [bytesValue]
  | append_singleton bytes byte ih =>
      have small := byte.toNat_lt
      rw [bytesValue_concat, List.length_append, List.length_singleton, Nat.pow_succ]
      omega

theorem bytesValue_injective {left right : Str} (length : left.length = right.length)
    (same : bytesValue left = bytesValue right) : left = right := by
  induction left using List.reverseRecOn generalizing right with
  | nil => exact (List.length_eq_zero_iff.mp length.symm).symm
  | append_singleton left byte ih =>
      rcases List.eq_nil_or_concat right with rfl | ⟨right, other, rfl⟩
      · simp at length
      · rw [List.concat_eq_append] at length same ⊢
        have small := byte.toNat_lt
        have otherSmall := other.toNat_lt
        rw [bytesValue_concat, bytesValue_concat] at same
        have heads : left = right := ih (by simpa using length) (by omega)
        have lasts : byte = other := UInt8.toNat_inj.mp (by omega)
        rw [heads, lasts]

theorem base32_injective {left right : Nat} (leftFits : left < 32) (rightFits : right < 32)
    (same : base32Alphabet.getD left 0 = base32Alphabet.getD right 0) : left = right := by
  have table : ∀ i j : Fin 32,
      base32Alphabet.getD i 0 = base32Alphabet.getD j 0 → i = j := by decide
  exact congrArg Fin.val (table ⟨left, leftFits⟩ ⟨right, rightFits⟩ same)

theorem bigEndian_length (width value : Nat) : (bigEndian width value).length = width := by
  induction width generalizing value with
  | zero => rfl
  | succ width ih => simp [bigEndian, ih]

theorem bigEndian_injective (width : Nat) {left right : Nat} (leftFits : left < 256 ^ width)
    (rightFits : right < 256 ^ width) (same : bigEndian width left = bigEndian width right) :
    left = right := by
  induction width generalizing left right with
  | zero => simp at leftFits rightFits; omega
  | succ width ih =>
      obtain ⟨heads, last⟩ := List.append_inj same (by rw [bigEndian_length, bigEndian_length])
      have high := ih (Nat.div_lt_of_lt_mul (by rw [Nat.pow_succ, Nat.mul_comm] at leftFits; exact leftFits))
        (Nat.div_lt_of_lt_mul (by rw [Nat.pow_succ, Nat.mul_comm] at rightFits; exact rightFits)) heads
      have low : left % 256 = right % 256 := by
        have bytes := congrArg UInt8.toNat (List.cons.inj last).1
        simpa using bytes
      omega

theorem unary_delimited : Codec.SelfDelimiting unary := by
  intro left right leftRest rightRest same
  induction left generalizing right with
  | zero =>
      cases right with
      | zero => simpa [unary] using same
      | succ right => simp [unary, List.replicate_succ] at same
  | succ left ih =>
      cases right with
      | zero => simp [unary, List.replicate_succ] at same
      | succ right =>
          have shorter : unary left ++ leftRest = unary right ++ rightRest := by
            simpa [unary, List.replicate_succ] using same
          obtain ⟨equal, rest⟩ := ih right shorter
          exact ⟨by rw [equal], rest⟩

theorem addressToString_injective : Function.Injective addressToString := by
  intro left right same
  let bytes (address : ContractId) : Str :=
    let crc := (16 :: address.val).foldl crc16Step 0
    16 :: address.val ++ [(crc % 256).toUInt8, (crc / 256).toUInt8]
  have length : ∀ address, (bytes address).length = 35 := by
    intro address
    simp [bytes, address.property]
  have fits : ∀ address, bytesValue (bytes address) < 32 ^ 56 := by
    intro address
    have small := bytesValue_lt (bytes address)
    rw [length] at small
    exact small
  have value : bytesValue (bytes left) = bytesValue (bytes right) := by
    refine digits_injective 32 56 (fits left) (fits right) fun position below => ?_
    have member : position ∈ (List.range 56).reverse := by simpa using below
    have letters : ∀ position ∈ (List.range 56).reverse,
        base32Alphabet.getD (bytesValue (bytes left) / 32 ^ position % 32) 0 =
          base32Alphabet.getD (bytesValue (bytes right) / 32 ^ position % 32) 0 :=
      List.map_inj_left.mp same
    exact base32_injective (Nat.mod_lt _ (by decide)) (Nat.mod_lt _ (by decide))
      (letters position member)
  have whole := bytesValue_injective (by rw [length, length]) value
  obtain ⟨-, rest⟩ := List.cons.inj whole
  exact Subtype.ext (List.append_inj rest (by rw [left.property, right.property])).1

theorem addressXdr_delimited : Codec.SelfDelimiting addressXdr := by
  refine Codec.delimited_of_length 40 (fun address => ?_) fun left right same => ?_
  · simp [addressXdr, address.property]
  · exact Subtype.ext (List.append_cancel_left same)

theorem u64Xdr_delimited : Codec.SelfDelimiting u64Xdr := by
  intro left right leftRest rightRest same
  by_cases leftFits : left < u64Range <;> by_cases rightFits : right < u64Range
  · simp only [u64Xdr, leftFits, rightFits, ↓reduceIte, List.append_assoc,
      List.append_cancel_left_eq] at same
    obtain ⟨heads, tails⟩ := List.append_inj same (by rw [bigEndian_length, bigEndian_length])
    exact ⟨bigEndian_injective 8 leftFits rightFits heads, tails⟩
  · simp [u64Xdr, leftFits, rightFits] at same
  · simp [u64Xdr, leftFits, rightFits] at same
  · simp only [u64Xdr, leftFits, rightFits, ↓reduceIte, List.append_assoc,
      List.append_cancel_left_eq] at same
    exact unary_delimited left right _ _ same

theorem stringXdr_delimited : Codec.SelfDelimiting stringXdr := by
  intro left right leftRest rightRest same
  by_cases leftFits : left.length < u32Range <;> by_cases rightFits : right.length < u32Range
  · simp only [stringXdr, leftFits, rightFits, ↓reduceIte, List.append_assoc,
      List.append_cancel_left_eq] at same
    obtain ⟨lengths, bodies⟩ :=
      List.append_inj same (by rw [bigEndian_length, bigEndian_length])
    have equal := bigEndian_injective 4 leftFits rightFits lengths
    obtain ⟨values, tails⟩ := List.append_inj bodies equal
    rw [equal] at tails
    exact ⟨values, List.append_cancel_left tails⟩
  · simp [stringXdr, leftFits, rightFits] at same
  · simp [stringXdr, leftFits, rightFits] at same
  · simp only [stringXdr, leftFits, rightFits, ↓reduceIte, List.append_assoc,
      List.append_cancel_left_eq] at same
    obtain ⟨lengths, bodies⟩ := unary_delimited _ _ _ _ same
    obtain ⟨values, tails⟩ := List.append_inj bodies lengths
    exact ⟨values, tails⟩

theorem stringXdr_apart : Codec.Apart stringXdr u64Xdr := by
  intro string number leftRest rightRest same
  unfold stringXdr u64Xdr at same
  split at same <;> split at same <;> simp at same

theorem mem_of_lookup {known : List (Str × Str)} {payload value : Str}
    (found : known.lookup payload = some value) : (payload, value) ∈ known := by
  obtain ⟨before, after, rfl, -⟩ := List.lookup_eq_some_iff.mp found
  simp

theorem digest_injective {known : List (Str × Str)} (distinct : (known.map (·.2)).Nodup)
    (real : ∀ entry ∈ known, entry.2.head? ≠ some 255) : Function.Injective (digest known) := by
  intro left right same
  cases leftKnown : known.lookup left with
  | none =>
      cases rightKnown : known.lookup right with
      | none => simpa [digest, leftKnown, rightKnown] using same
      | some value =>
          simp only [digest, leftKnown, rightKnown, Option.getD_none, Option.getD_some] at same
          have member := mem_of_lookup rightKnown
          exact absurd (by rw [← same]; rfl) (real _ member)
  | some value =>
      have leftMember := mem_of_lookup leftKnown
      cases rightKnown : known.lookup right with
      | none =>
          simp only [digest, leftKnown, rightKnown, Option.getD_none, Option.getD_some] at same
          exact absurd (by rw [same]; rfl) (real _ leftMember)
      | some other =>
          have rightMember := mem_of_lookup rightKnown
          simp only [digest, leftKnown, rightKnown, Option.getD_some] at same
          have entries := List.inj_on_of_nodup_map distinct leftMember rightMember same
          exact congrArg Prod.fst entries

/-- The host with a table of known digests. -/
@[reducible] def host (known : List (Str × Str)) : Host ContractId where
  sha256 := digest known
  addressXdr := addressXdr
  stringXdr := stringXdr
  u64Xdr := u64Xdr
  addressToString := addressToString

theorem host_sound {known : List (Str × Str)} (distinct : (known.map (·.2)).Nodup)
    (real : ∀ entry ∈ known, entry.2.head? ≠ some 255) :
    @Host.Sound ContractId (host known) :=
  @Host.Sound.mk ContractId (host known) (digest_injective distinct real) addressXdr_delimited
    stringXdr_delimited u64Xdr_delimited stringXdr_apart

section Sample

/-- The contract address that repeats one byte. -/
def contractId (byte : UInt8) : ContractId := ⟨List.replicate 32 byte, List.length_replicate⟩

/-- What is hashed for the id of an attestation about contract 2 by contract 1,
of type KYC, at time 1000. -/
def samplePayload : Str :=
  addressXdr (contractId 1) ++ addressXdr (contractId 2) ++ stringXdr (ascii "KYC") ++ u64Xdr 1000

/-- The SHA-256 digests of that payload and of the proposal payload with the
same fields. -/
def sampleDigests : List (Str × Str) :=
  [(samplePayload,
      [110, 155, 8, 94, 23, 1, 220, 205, 50, 177, 135, 192, 126, 16, 253, 241, 180, 177, 88, 143,
        13, 175, 74, 33, 67, 93, 32, 126, 208, 196, 87, 137]),
    (ascii "multisig:" ++ samplePayload,
      [204, 108, 216, 225, 188, 115, 42, 49, 53, 169, 24, 147, 137, 191, 22, 191, 97, 155, 35, 99,
        114, 183, 175, 68, 164, 95, 130, 121, 196, 79, 171, 212])]

instance sampleHost : Host ContractId := host sampleDigests

theorem sampleHost_sound : Host.Sound ContractId := host_sound (by decide) (by decide)

end Sample

end TrustLink.Xdr
