import Mathlib.Data.Nat.Digits.Lemmas
import Mathlib.Tactic.Common

/-!
Numerals of a base: written into a buffer from its end, as a program does that takes off the
last digit again and again, and read from the front.
-/
namespace Digits
variable {Symbol : Type} {base : Nat} {symbol : Nat → Symbol}

/-- The digits of a number, the most significant one first. Zero has none. -/
def numeral (base : Nat) (symbol : Nat → Symbol) (n : Nat) : List Symbol :=
  (Nat.digits base n).reverse.map symbol

/-- Writes a number from position `pos` downwards; returns where it begins, and `none` when it
would have to go below zero. -/
def fill (base : Nat) (symbol : Nat → Symbol) :
    Nat → Nat → List Symbol → Option (Nat × List Symbol)
  | 0, val, buf => if val = 0 then some (0, buf) else none
  | pos + 1, val, buf =>
      if val = 0 then some (pos + 1, buf)
      else fill base symbol pos (val / base) (buf.set pos (symbol (val % base)))

def read (base : Nat) (digit : Symbol → Nat) (text : List Symbol) : Nat :=
  text.foldl (fun value next => value * base + digit next) 0

@[simp] theorem numeral_zero : numeral base symbol 0 = [] := by
  simp [numeral]

theorem numeral_step (large : 1 < base) {n : Nat} (positive : n ≠ 0) :
    numeral base symbol n = numeral base symbol (n / base) ++ [symbol (n % base)] := by
  rw [numeral, Nat.digits_eq_cons_digits_div large positive, List.reverse_cons, List.map_append]
  rfl

/-- A numeral has no leading zero. -/
theorem head_numeral (large : 1 < base) {n : Nat} (positive : n ≠ 0) :
    ∃ digit, digit ≠ 0 ∧ digit < base ∧
      (numeral base symbol n).head? = some (symbol digit) := by
  have some_digit : Nat.digits base n ≠ [] := Nat.digits_ne_nil_iff_ne_zero.mpr positive
  refine ⟨(Nat.digits base n).getLast some_digit, Nat.getLast_digit_ne_zero base positive,
    Nat.digits_lt_base large (List.getLast_mem some_digit), ?_⟩
  rw [numeral, List.head?_map, List.head?_reverse, List.getLast?_eq_getLast_of_ne_nil some_digit]
  rfl

theorem mem_numeral (large : 1 < base) {n : Nat} {next : Symbol}
    (member : next ∈ numeral base symbol n) : ∃ digit, digit < base ∧ next = symbol digit := by
  obtain ⟨digit, listed, rfl⟩ := List.mem_map.mp member
  exact ⟨digit, Nat.digits_lt_base large (List.mem_reverse.mp listed), rfl⟩

/-- Reading a numeral gives back its number. -/
theorem read_numeral (large : 1 < base) {digit : Symbol → Nat}
    (inverse : ∀ d, d < base → digit (symbol d) = d) (n : Nat) :
    read base digit (numeral base symbol n) = n := by
  induction n using Nat.strongRecOn with
  | ind n ih =>
      by_cases zero : n = 0
      · rw [zero, numeral_zero]
        rfl
      · have smaller := ih (n / base) (Nat.div_lt_self (Nat.pos_of_ne_zero zero) large)
        have last := inverse (n % base) (Nat.mod_lt n (by omega))
        rw [numeral_step large zero, read, List.foldl_append]
        rw [read] at smaller
        rw [smaller, List.foldl_cons, List.foldl_nil, last]
        exact Nat.div_add_mod' n base

/-- The loop has what is left of the number to write, and the digits it has taken off stand
behind its position. -/
theorem fill_numeral (large : 1 < base) {pos val : Nat} {buf : List Symbol}
    (room : pos ≤ buf.length) (fits : val < base ^ pos) :
    ∃ start filled, fill base symbol pos val buf = some (start, filled) ∧
      filled.drop start = numeral base symbol val ++ buf.drop pos := by
  induction pos generalizing val buf with
  | zero =>
      have zero : val = 0 := by simpa using fits
      exact ⟨0, buf, by rw [fill, if_pos zero], by rw [zero, numeral_zero, List.nil_append]⟩
  | succ pos ih =>
      rw [fill]
      by_cases zero : val = 0
      · exact ⟨pos + 1, buf, if_pos zero, by rw [zero, numeral_zero, List.nil_append]⟩
      · rw [if_neg zero]
        have rest : val / base < base ^ pos :=
          Nat.div_lt_of_lt_mul (by rwa [← Nat.pow_succ'])
        have inside : pos < (buf.set pos (symbol (val % base))).length := by
          rwa [List.length_set]
        obtain ⟨start, filled, wrote, behind⟩ := ih (Nat.le_of_lt inside) rest
        refine ⟨start, filled, wrote, behind.trans ?_⟩
        rw [List.drop_eq_getElem_cons inside, List.getElem_set_self,
          List.drop_set_of_lt (Nat.lt_succ_self pos), numeral_step large zero, List.append_assoc]
        rfl

end Digits
