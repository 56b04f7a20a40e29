import Mathlib.Algebra.Group.Nat.Defs
import Mathlib.Logic.Function.Basic
import Mathlib.Tactic.Common

/-!
What the indexer computes with: the values `scValToNative` returns, the conversions of
JavaScript applied to them, and tables as the Prisma client sees them. A conversion or
a column that throws answers `none`.
-/
namespace TrustLink.Indexer

/-- Every number of a contract event is a `u32`; the wider ones are bigints. -/
inductive JsValue where
  | undefined
  | null
  | bool (value : Bool)
  | number (value : Int)
  | bigint (value : Int)
  | string (text : String)
  | array (items : List JsValue)

/-- The numeric value of a text, where it is an integer. No event of the contract has
a text in the place of a number that is read so. -/
class JsRuntime where
  stringToNumber : String → Option Int

mutual

/-- `String(value)`. -/
def JsValue.toText : JsValue → String
  | .undefined => "undefined"
  | .null => "null"
  | .bool value => if value then "true" else "false"
  | .number value => toString value
  | .bigint value => toString value
  | .string text => text
  | .array items => ",".intercalate (JsValue.itemTexts items)

def JsValue.itemTexts : List JsValue → List String
  | [] => []
  | .undefined :: rest => "" :: JsValue.itemTexts rest
  | .null :: rest => "" :: JsValue.itemTexts rest
  | item :: rest => item.toText :: JsValue.itemTexts rest

end

def isWhiteSpace (letter : Char) : Bool :=
  (9 ≤ letter.toNat && letter.toNat ≤ 13) || (0x2000 ≤ letter.toNat && letter.toNat ≤ 0x200A) ||
    [0x20, 0xA0, 0x1680, 0x2028, 0x2029, 0x202F, 0x205F, 0x3000, 0xFEFF].contains letter.toNat

def digitValue (letter : Char) : Option Nat :=
  if '0' ≤ letter ∧ letter ≤ '9' then some (letter.toNat - '0'.toNat)
  else if 'a' ≤ letter ∧ letter ≤ 'f' then some (letter.toNat - 'a'.toNat + 10)
  else if 'A' ≤ letter ∧ letter ≤ 'F' then some (letter.toNat - 'A'.toNat + 10)
  else none

/-- The value of a run of digits, which must not be empty. -/
def digitsValue (base : Nat) (digits : List Char) : Option Nat :=
  if digits = [] then none
  else digits.foldlM (fun value letter =>
    (digitValue letter).bind fun digit =>
      if digit < base then some (value * base + digit) else none) 0

/-- `BigInt(text)`: blanks around it are dropped, an empty text is zero, a sign stands
before decimal digits only. -/
def stringToBigInt (text : String) : Option Int :=
  match ((text.toList.dropWhile isWhiteSpace).reverse.dropWhile isWhiteSpace).reverse with
  | [] => some 0
  | '+' :: digits => (digitsValue 10 digits).map Int.ofNat
  | '-' :: digits => (digitsValue 10 digits).map fun value => -Int.ofNat value
  | '0' :: mark :: digits =>
      let base := if mark = 'x' ∨ mark = 'X' then 16 else if mark = 'o' ∨ mark = 'O' then 8
        else if mark = 'b' ∨ mark = 'B' then 2 else 10
      (digitsValue base (if base = 10 then mark :: digits else digits)).map Int.ofNat
  | digits => (digitsValue 10 digits).map Int.ofNat

/-- `BigInt(value)`. -/
def JsValue.toBigInt : JsValue → Option Int
  | .undefined => none
  | .null => none
  | .bool value => some (if value then 1 else 0)
  | .number value => some value
  | .bigint value => some value
  | .string text => stringToBigInt text
  | .array items => stringToBigInt (JsValue.array items).toText

/-- `Number(value)`, where it is an integer. -/
def JsValue.toNumber [JsRuntime] : JsValue → Option Int
  | .undefined => none
  | .null => some 0
  | .bool value => some (if value then 1 else 0)
  | .number value => some value
  | .bigint value => some value
  | .string text => JsRuntime.stringToNumber text
  | .array items => JsRuntime.stringToNumber (JsValue.array items).toText

/-- `value != null ? … : null`. -/
def JsValue.nullable : JsValue → Option JsValue
  | .undefined => none
  | .null => none
  | value => some value

/-- The time of `Date.now()`, in milliseconds; a date lies in this range. -/
structure Clock where
  now : Nat
  inRange : now ≤ 8640000000000000

def epoch : Clock := ⟨0, by decide⟩

section Columns

/-- One past the largest value of an `Int` column. -/
def intRange : Nat := 2 ^ 31

/-- One past the largest value of a `BigInt` column. -/
def bigIntRange : Nat := 2 ^ 63

def intColumn (value : Int) : Option Int :=
  if -intRange ≤ value ∧ value < intRange then some value else none

def bigIntColumn (value : Int) : Option Int :=
  if -bigIntRange ≤ value ∧ value < bigIntRange then some value else none

/-- A text column; PostgreSQL stores no text with a zero character in it. -/
def textColumn (text : String) : Option String :=
  if Char.ofNat 0 ∈ text.toList then none else some text

def nullableColumn {Value Stored : Type} (column : Value → Option Stored) :
    Option Value → Option (Option Stored)
  | none => some none
  | some value => (column value).map some

end Columns

section Tables
variable {Row : Type}

/-- A table by its primary key. -/
abbrev Table (Row : Type) := String → Option Row

def Table.upsert (table : Table Row) (key : String) (update : Row → Row) (create : Row) :
    Table Row :=
  Function.update table key (some ((table key).elim create update))

/-- `updateMany`: no row, nothing to do. -/
def Table.updateMany (table : Table Row) (key : String) (condition : Row → Bool)
    (data : Row → Row) : Table Row :=
  Function.update table key ((table key).map fun row => if condition row then data row else row)

/-- `update` throws when there is no row. -/
def Table.update (table : Table Row) (key : String) (data : Row → Row) : Option (Table Row) :=
  (table key).map fun row => Function.update table key (some (data row))

end Tables

end TrustLink.Indexer
