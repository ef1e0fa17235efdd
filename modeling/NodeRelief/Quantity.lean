import NodeRelief.Document
import NodeRelief.Number.Decimal

/-!
# Resource quantities

A quantity is a decimal with an optional suffix: one letter for a power of 1000, a letter and `i`
for a power of 1024. A number is a quantity as it is.
-/

namespace NodeRelief.Quantity

/-- The multiplier of a suffix, as `factor · 10 ^ scale`. -/
structure Multiplier where
  factor : Nat
  scale : Int
deriving DecidableEq, Repr

/-- Powers of 1000 from n to E; `none` for a letter that is no suffix. -/
def decimalPower? : Char → Option Int
  | 'n' => some (-3)
  | 'u' => some (-2)
  | 'm' => some (-1)
  | 'k' => some 1
  | 'K' => some 1
  | 'M' => some 2
  | 'G' => some 3
  | 'T' => some 4
  | 'P' => some 5
  | 'E' => some 6
  | _ => none

/-- Powers of 1024 from Ki to Ei. -/
def binaryPower? : Char → Option Nat
  | 'K' => some 1
  | 'M' => some 2
  | 'G' => some 3
  | 'T' => some 4
  | 'P' => some 5
  | 'E' => some 6
  | _ => none

inductive Suffix where
  | none
  | times (m : Multiplier)
  | unknown
deriving DecidableEq, Repr

/-- Splits a text into number and suffix. A final `i` belongs to a suffix only behind a letter that
is one, and only some of those letters take it. -/
def split (s : List Char) : List Char × Suffix :=
  match s.reverse with
  | 'i' :: c :: rest =>
    if (decimalPower? c).isSome then
      (rest.reverse, match binaryPower? c with
        | some p => .times ⟨Nat.pow 1024 p, 0⟩
        | none => .unknown)
    else (s, .none)
  | c :: rest =>
    match decimalPower? c with
    | some p => (rest.reverse, .times ⟨1, 3 * p⟩)
    | none => (s, .none)
  | [] => (s, .none)

def parse? (text : String) : Option Decimal :=
  match split text.toList with
  | (number, .none) => Decimal.ofText? number
  | (number, .times m) => (Decimal.ofText? number).bind (Decimal.scale? m.factor m.scale)
  | (_, .unknown) => none

/-- The quantity a text stands for; a text that cannot be read stands for zero. -/
def read (text : String) : Decimal := (parse? text).getD .zero

/-- The quantity of a document; anything but a number or a text stands for zero. -/
def ofDocument : Document → Decimal
  | .bool b => .ofInt (if b then 1 else 0)
  | .int i => .ofInt i
  | .float x => .ofBinary64 x
  | .text s => read s
  | _ => .zero

end NodeRelief.Quantity
