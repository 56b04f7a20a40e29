import Mathlib.Data.List.Dedup

/-!
Signatures towards a threshold. One party signs first, the others one at a time,
each of them a listed party that has not signed yet. The list may name a party
twice and may name the first; only the others on it count.
-/
namespace Threshold
variable {Party : Type}

/-- The signatures collected so far. -/
structure Signed (first : Party) (required signers : List Party) : Prop where
  nodup : signers.Nodup
  first : signers.head? = some first
  required : ∀ signer ∈ signers.tail, signer ∈ required

variable {first signer : Party} {required signers : List Party}

theorem signed_first (first : Party) (required : List Party) : Signed first required [first] :=
  ⟨List.nodup_singleton first, rfl, fun _ member => absurd member List.not_mem_nil⟩

theorem Signed.eq_cons (signed : Signed first required signers) :
    signers = first :: signers.tail := by
  cases signers with
  | nil => exact absurd signed.first nofun
  | cons head rest => rw [Option.some.inj signed.first, List.tail_cons]

theorem Signed.sign (signed : Signed first required signers) (member : signer ∈ required)
    (unsigned : signer ∉ signers) : Signed first required (signers ++ [signer]) := by
  have split := signed.eq_cons
  refine ⟨List.nodup_append.mpr ⟨signed.nodup, List.nodup_singleton signer, ?_⟩, ?_, ?_⟩
  · rintro other earlier _ last rfl
    exact unsigned (List.mem_singleton.mp last ▸ earlier)
  · rw [split]
    rfl
  · rw [split, List.cons_append, List.tail_cons]
    intro other listed
    rcases List.mem_append.mp listed with earlier | last
    · exact signed.required other earlier
    · exact List.mem_singleton.mp last ▸ member

section Counting
variable [DecidableEq Party]

/-- The listed parties that can still add a signature to that of the first. -/
def others (first : Party) (required : List Party) : List Party :=
  (required.filter (· ≠ first)).dedup

theorem mem_others : signer ∈ others first required ↔ signer ∈ required ∧ signer ≠ first := by
  simp [others]

theorem Signed.length_le (signed : Signed first required signers) :
    signers.length ≤ (others first required).length + 1 := by
  have split := signed.eq_cons
  have distinct := signed.nodup
  rw [split, List.nodup_cons] at distinct
  rw [split, List.length_cons]
  refine Nat.succ_le_succ (distinct.2.length_le_of_subset fun other listed => ?_)
  refine mem_others.mpr ⟨signed.required other listed, ?_⟩
  rintro rfl
  exact distinct.1 listed

/-- Enough others can be named to reach any count they suffice for. -/
theorem exists_signers {count : Nat} (enough : count ≤ (others first required).length) :
    ∃ rest : List Party, rest.length = count ∧ (first :: rest).Nodup ∧
      ∀ signer ∈ rest, signer ∈ required := by
  have listed : ∀ signer ∈ (others first required).take count, signer ∈ required ∧ signer ≠ first :=
    fun signer member => mem_others.mp (List.mem_of_mem_take member)
  refine ⟨(others first required).take count, List.length_take_of_le enough,
    List.nodup_cons.mpr ⟨fun member => (listed first member).2 rfl, ?_⟩,
    fun signer member => (listed signer member).1⟩
  exact (List.nodup_dedup _).sublist (List.take_sublist count _)

end Counting

end Threshold
