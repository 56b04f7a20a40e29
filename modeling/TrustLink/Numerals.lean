import TrustLink.Lib.Digits
import TrustLink.Lifecycle

/-!
The decimal numerals that `u64_to_string` writes into the audit log.
-/
namespace TrustLink
open Transaction Contract

/-- `b'0' + d as u8`. -/
def asciiDigit (d : Nat) : UInt8 := 48 + d.toUInt8

def parseDecimal (text : Str) : Nat := Digits.read 10 (fun byte => byte.toNat - 48) text

/-- The text is the decimal numeral of the number: digits, the first of which is zero only
when it is the only one. -/
structure Numeral (text : Str) (n : Nat) : Prop where
  nonempty : text ≠ []
  digits : ∀ byte ∈ text, 48 ≤ byte ∧ byte ≤ 57
  unpadded : text.head? = some 48 → text = [48]
  value : parseDecimal text = n

theorem asciiDigit_toNat {d : Nat} (small : d < 10) : (asciiDigit d).toNat = 48 + d := by
  simp [asciiDigit]
  omega

theorem u64DigitLoop_eq_fill (pos val : Nat) (buf : Str) :
    u64DigitLoop pos val buf = Digits.fill 10 asciiDigit pos val buf := by
  induction pos generalizing val buf with
  | zero => rfl
  | succ pos ih => rw [u64DigitLoop, Digits.fill, ih, asciiDigit]

/-- The loop writes the digits and stays in the buffer, whose 20 bytes hold any `u64`. -/
theorem u64ToString_positive {n : Nat} (positive : n ≠ 0) (fits : n < u64Range) :
    u64ToString n = some (Digits.numeral 10 asciiDigit n) := by
  have short : n < 10 ^ 20 := Nat.lt_trans fits (by decide)
  have room : 20 ≤ (List.replicate 20 (0 : UInt8)).length := by simp
  obtain ⟨start, filled, wrote, text⟩ :=
    @Digits.fill_numeral _ 10 asciiDigit (by decide) 20 n _ room short
  have whole : filled.drop start = Digits.numeral 10 asciiDigit n := by simpa using text
  rw [u64ToString, if_neg positive, u64DigitLoop_eq_fill, wrote]
  exact congrArg some whole

theorem numeral_zero : Numeral (ascii "0") 0 where
  nonempty := by decide
  digits byte member := by
    obtain rfl : byte = 48 := List.mem_singleton.mp member
    decide
  unpadded _ := rfl
  value := rfl

theorem numeral_positive {n : Nat} (positive : n ≠ 0) :
    Numeral (Digits.numeral 10 asciiDigit n) n where
  nonempty empty := by
    obtain ⟨digit, -, -, first⟩ := @Digits.head_numeral _ 10 asciiDigit (by decide) n positive
    rw [empty] at first
    cases first
  digits byte member := by
    obtain ⟨digit, small, rfl⟩ := Digits.mem_numeral (by decide) member
    rw [UInt8.le_iff_toNat_le, UInt8.le_iff_toNat_le, asciiDigit_toNat small]
    exact ⟨Nat.le_add_right 48 digit, Nat.add_le_add_left (Nat.le_of_lt_succ small) 48⟩
  unpadded leading := by
    obtain ⟨digit, nonzero, small, first⟩ :=
      @Digits.head_numeral _ 10 asciiDigit (by decide) n positive
    have same := congrArg UInt8.toNat (Option.some.inj (first.symm.trans leading))
    rw [asciiDigit_toNat small] at same
    simp at same
    omega
  value := Digits.read_numeral (by decide)
    (fun d small => by rw [asciiDigit_toNat small]; omega) n

theorem numeral_of_u64 (n : UInt64) :
    ∃ text, u64ToString n.toNat = some text ∧ Numeral text n.toNat := by
  by_cases zero : n.toNat = 0
  · exact ⟨ascii "0", by rw [zero]; rfl, by rw [zero]; exact numeral_zero⟩
  · exact ⟨_, u64ToString_positive zero n.toNat_lt, numeral_positive zero⟩

/-- Every `u64` has its numeral, and numerals tell them apart. -/
theorem u64_to_string_exact :
    (∀ n : UInt64, ∃ text, u64ToString n.toNat = some text ∧ Numeral text n.toNat) ∧
      Function.Injective fun n : UInt64 => u64ToString n.toNat := by
  refine ⟨numeral_of_u64, fun first second same => ?_⟩
  obtain ⟨text, wrote, numeral⟩ := numeral_of_u64 first
  obtain ⟨other, also, reads⟩ := numeral_of_u64 second
  obtain rfl := Option.some.inj (wrote.symm.trans (same.trans also))
  exact UInt64.toNat_inj.mp (numeral.value.symm.trans reads.value)

section Log
variable {Address : Type} [DecidableEq Address] {env : Env Address} {before after : World Address}

/-- The entry that a renewal logs has the numeral of the new expiration. -/
theorem renewal_logged {issuer : Address} {id : Str} {time : UInt64}
    (accepted : Returns (renewAttestation issuer id (some time.toNat)) env before () after) :
    ∃ text, Numeral text time.toNat ∧ after.storage.auditLog id =
      before.storage.auditLog id ++ [⟨.renewed, issuer, env.timestamp, some text⟩] := by
  obtain ⟨attestation, -, -, details, written, rfl⟩ := (returns_renewAttestation ..).mp accepted
  obtain ⟨text, wrote, numeral⟩ := numeral_of_u64 time
  obtain rfl : some text = details := by simpa [wrote] using written
  exact ⟨text, numeral, Function.update_self ..⟩

end Log

end TrustLink
