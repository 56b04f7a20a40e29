import Mathlib.Logic.Function.Basic
import Mathlib.Tactic.Common

/-!
Self-delimiting encodings: an encoded value can be split off the front of any
longer string in one way only, so fields can be concatenated without separators.
-/
namespace Codec
variable {α β γ Byte : Type}

def SelfDelimiting (encode : α → List Byte) : Prop :=
  ∀ left right leftRest rightRest,
    encode left ++ leftRest = encode right ++ rightRest → left = right ∧ leftRest = rightRest

/-- No string starts with a value of both encodings. -/
def Apart (left : α → List Byte) (right : β → List Byte) : Prop :=
  ∀ a b leftRest rightRest, left a ++ leftRest ≠ right b ++ rightRest

/-- Fields written one after the other are self-delimiting again. -/
theorem SelfDelimiting.pair {first : α → List Byte} {second : β → List Byte}
    (delimitedFirst : SelfDelimiting first) (delimitedSecond : SelfDelimiting second) :
    SelfDelimiting fun value : α × β => first value.1 ++ second value.2 := by
  rintro ⟨a, b⟩ ⟨c, d⟩ leftRest rightRest same
  simp only [List.append_assoc] at same
  obtain ⟨heads, tails⟩ := delimitedFirst a c _ _ same
  obtain ⟨seconds, rests⟩ := delimitedSecond b d _ _ tails
  exact ⟨Prod.ext heads seconds, rests⟩

/-- A constant in front changes nothing. -/
theorem SelfDelimiting.tagged {encode : α → List Byte} (delimited : SelfDelimiting encode)
    (tag : List Byte) : SelfDelimiting fun value => tag ++ encode value := by
  intro left right leftRest rightRest same
  simp only [List.append_assoc, List.append_cancel_left_eq] at same
  exact delimited left right leftRest rightRest same

/-- Strings that agree on a shared first field stay apart behind it. -/
theorem Apart.behind {field : α → List Byte} {left : β → List Byte} {right : γ → List Byte}
    (delimited : SelfDelimiting field) (apart : Apart left right) :
    Apart (fun value : α × β => field value.1 ++ left value.2)
      (fun value : α × γ => field value.1 ++ right value.2) := by
  rintro ⟨a, b⟩ ⟨c, d⟩ leftRest rightRest same
  simp only [List.append_assoc] at same
  exact apart b d _ _ (delimited a c _ _ same).2

/-- Strings of one length need no delimiter. -/
theorem delimited_of_length {encode : α → List Byte} (width : Nat)
    (fixed : ∀ value, (encode value).length = width) (distinct : Function.Injective encode) :
    SelfDelimiting encode := by
  intro left right leftRest rightRest same
  obtain ⟨heads, tails⟩ := List.append_inj same (by rw [fixed, fixed])
  exact ⟨distinct heads, tails⟩

/-- Replacing every symbol by a block of one fixed length loses nothing. -/
theorem flatMap_injective {block : α → List Byte} (width : Nat)
    (fixed : ∀ symbol, (block symbol).length = width) (positive : 0 < width)
    (distinct : Function.Injective block) :
    Function.Injective fun word : List α => word.flatMap block := by
  intro left right same
  induction left generalizing right with
  | nil =>
      cases right with
      | nil => rfl
      | cons symbol rest =>
          have lengths := congrArg List.length same
          simp [fixed] at lengths
          omega
  | cons symbol rest ih =>
      cases right with
      | nil =>
          have lengths := congrArg List.length same
          simp [fixed] at lengths
          omega
      | cons other others =>
          simp only [List.flatMap_cons] at same
          obtain ⟨heads, tails⟩ := List.append_inj same (by rw [fixed, fixed])
          rw [distinct heads, ih tails]

end Codec
