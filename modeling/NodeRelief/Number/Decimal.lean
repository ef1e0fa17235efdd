import NodeRelief.Number.Binary64
import NodeRelief.Text.Blank

/-!
# Decimal numbers

Decimals `± coefficient · 10 ^ exponent` of any length, infinities and NaNs. Reading a decimal is
exact; a product is rounded to 28 places, a half to the even neighbour.
-/

namespace NodeRelief

inductive Decimal where
  | finite (negative : Bool) (coefficient : Nat) (exponent : Int)
  | infinite (negative : Bool)
  | nan (negative signaling : Bool)
deriving DecidableEq, Repr

namespace Decimal

open NodeRelief.Text NodeRelief.Numeral

def zero : Decimal := .finite false 0 0

def places (n : Nat) : Nat := (Nat.toDigits 10 n).length

/-- Moves zeros at the end of a coefficient into the exponent. -/
def trim (coefficient : Nat) (exponent : Int) : Nat × Int :=
  if h : coefficient ≠ 0 ∧ coefficient % 10 = 0 then trim (coefficient / 10) (exponent + 1)
  else (coefficient, exponent)
termination_by coefficient
decreasing_by omega

/-- Two decimals are equal when their values are; a NaN equals nothing. Comparing a signaling NaN
has no answer. -/
def equals? : Decimal → Decimal → Option Bool
  | .nan _ true, _ => none
  | _, .nan _ true => none
  | .nan _ false, _ => some false
  | _, .nan _ false => some false
  | .infinite a, .infinite b => some (a == b)
  | .finite s c e, .finite s' c' e' =>
    some (if c = 0 ∧ c' = 0 then true else s == s' && trim c e == trim c' e')
  | _, _ => some false

/-- A finite value as digits without zeros at their end, then its exponent. -/
def text : Decimal → String
  | .finite negative c e =>
    if c = 0 then "0"
    else
      let (c, e) := trim c e
      (if negative then "-" else "") ++ numeral c ++ "e" ++ signedNumeral e
  | .infinite negative => if negative then "-Infinity" else "Infinity"
  | .nan negative false => if negative then "-NaN" else "NaN"
  | .nan negative true => if negative then "-sNaN" else "sNaN"

/-! ## Reading -/

/-- Characters as ASCII: a decimal digit of any script counts as the digit it denotes, and an
underscore as nothing. -/
def fold (s : List Char) : List Char :=
  s.filterMap fun c =>
    if c = '_' then none
    else match digitValue? c with
      | some d => some (Char.ofNat (48 + d))
      | none => some c

/-- The largest exponent that the leading place of a number written out may have. -/
def mostReadable : Int := 999999999999999999

/-- Numbers whose leading place has at least this exponent may have places without end. -/
def leastLeading : Int := -999999999999999999

/-- The least exponent that the last place of a smaller number may have. -/
def leastReadable : Int := -1999999999999999997

def readable (coefficient : Nat) (exponent : Int) : Bool :=
  let leading := exponent + places coefficient - 1
  leading ≤ mostReadable && (leastLeading ≤ leading || leastReadable ≤ exponent)

def finite? (negative : Bool) (s : List Char) : Option Decimal :=
  match scientific? s with
  | some (c, e) => if readable c e then some (.finite negative c e) else none
  | none => none

/-- An infinity or a NaN, by its name in lower case; a NaN may carry digits. -/
def special? (negative : Bool) (word : List Char) : Option Decimal :=
  let payload (s : List Char) : Bool := s.all isAsciiDigit
  if word = "inf".toList ∨ word = "infinity".toList then some (.infinite negative)
  else if "nan".toList.isPrefixOf word && payload (word.drop 3) then some (.nan negative false)
  else if "snan".toList.isPrefixOf word && payload (word.drop 4) then some (.nan negative true)
  else none

def ofText? (s : List Char) : Option Decimal :=
  let (negative, body) := splitSign (fold (strip isBlank s))
  match special? negative (body.map Char.toLower) with
  | some d => some d
  | none => finite? negative body

/-! ## Other numbers -/

def ofInt (i : Int) : Decimal := .finite (i < 0) i.natAbs 0

/-- The exact value of a binary64 number: a power of 1/2 is a power of 5 over one of 10. -/
def ofBinary64 : Binary64 → Decimal
  | .nan => .nan false false
  | .infinite negative => .infinite negative
  | .finite negative m e =>
    if 0 ≤ e then .finite negative (m * Nat.pow 2 e.toNat) 0
    else .finite negative (m * Nat.pow 5 (-e).toNat) e

/-! ## Products -/

def precision : Nat := 28

/-- The largest exponent of the leading place of a product. -/
def mostLeading : Int := 999999

/-- The exponent below which no place of a product is kept. -/
def leastPlace : Int := -1000026

/-- `n / 10 ^ k` rounded, a half to the even neighbour; more places than `n` has leave zero. -/
def dropPlaces (n k : Nat) : Nat := if places n < k then 0 else halfEven n (Nat.pow 10 k)

/-- Rounds to at most 28 places, none of them below the least one. Fails when the leading place is
too large. -/
def round? (negative : Bool) (coefficient : Nat) (exponent : Int) : Option Decimal :=
  let excess : Int := max (places coefficient - precision) (leastPlace - exponent)
  let (c, e) :=
    if 0 < excess then (dropPlaces coefficient excess.toNat, exponent + excess)
    else (coefficient, exponent)
  if c ≠ 0 ∧ mostLeading < e + places c - 1 then none else some (.finite negative c e)

/-- The product with `factor · 10 ^ scale`. There is none if it is too large or if the decimal is a
signaling NaN. -/
def scale? (factor : Nat) (scale : Int) : Decimal → Option Decimal
  | .finite negative c e => round? negative (c * factor) (e + scale)
  | .infinite negative => some (.infinite negative)
  | .nan _ true => none
  | .nan negative false => some (.nan negative false)

end Decimal

end NodeRelief
