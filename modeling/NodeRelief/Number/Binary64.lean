import NodeRelief.Number.Numeral

/-!
# Binary64 numbers

The numbers of the 64-bit binary format as exact values: a finite one is `± mantissa · 2 ^ exponent`.
Rounding takes the nearest number, and of two equally near the one with the even mantissa.
-/

namespace NodeRelief

inductive Binary64 where
  | nan
  | infinite (negative : Bool)
  | finite (negative : Bool) (mantissa : Nat) (exponent : Int)
deriving DecidableEq, Repr

namespace Binary64

def leastExponent : Int := -1074

def greatestExponent : Int := 971

/-- `n / d` as a fraction of `2 ^ e`: numerator and denominator. -/
def scaled (n d : Nat) (e : Int) : Nat × Nat :=
  if 0 ≤ e then (n, d * Nat.pow 2 e.toNat) else (n * Nat.pow 2 (-e).toNat, d)

/-- The exponent that gives `n / d` a mantissa of 53 bits, or the least exponent if that is larger. -/
def exponentOf (n d : Nat) : Int :=
  let s := (n.log2 : Int) - d.log2
  let (n', d') := scaled n d s
  max (if d' ≤ n' then s - 52 else s - 53) leastExponent

/-- `n / d`, for `d > 0`, rounded to the format. -/
def ofRatio (negative : Bool) (n d : Nat) : Binary64 :=
  if n = 0 then .finite negative 0 leastExponent
  else
    let e := exponentOf n d
    let (n', d') := scaled n d e
    let m := halfEven n' d'
    let (m, e) := if m = Nat.pow 2 53 then (Nat.pow 2 52, e + 1) else (m, e)
    if greatestExponent < e then .infinite negative else .finite negative m e

/-- `digits · 10 ^ scale` rounded to the format. -/
def ofDecimal (negative : Bool) (digits : Nat) (scale : Int) : Binary64 :=
  let places := (Nat.toDigits 10 digits).length
  if digits = 0 then ofRatio negative 0 1
  else if 400 < scale + places then .infinite negative
  else if scale + places < -400 then ofRatio negative 0 1
  else if 0 ≤ scale then ofRatio negative (digits * Nat.pow 10 scale.toNat) 1
  else ofRatio negative digits (Nat.pow 10 (-scale).toNat)

def ofInt (i : Int) : Binary64 := ofRatio (i < 0) i.natAbs 1

/-- The magnitude of a finite number as a fraction. -/
def ratio (mantissa : Nat) (exponent : Int) : Nat × Nat :=
  if 0 ≤ exponent then (mantissa * Nat.pow 2 exponent.toNat, 1)
  else (mantissa, Nat.pow 2 (-exponent).toNat)

def isFinite : Binary64 → Bool
  | .finite _ _ _ => true
  | _ => false

def isZero : Binary64 → Bool
  | .finite _ m _ => m == 0
  | _ => false

/-- Strictly greater than zero; a NaN is not. -/
def isPositive : Binary64 → Bool
  | .nan => false
  | .infinite negative => !negative
  | .finite negative m _ => !negative && m != 0

def neg : Binary64 → Binary64
  | .nan => .nan
  | .infinite negative => .infinite (!negative)
  | .finite negative m e => .finite (!negative) m e

/-- The exact value of a finite number. -/
def value : Binary64 → Rat
  | .finite negative m e =>
    let (n, d) := ratio m e
    mkRat (Numeral.signed negative n) d
  | _ => 0

/-- The whole number a finite number equals, if it equals one. -/
def toInt? : Binary64 → Option Int
  | .finite negative m e =>
    let (n, d) := ratio m e
    if n % d = 0 then some (if negative then -(n / d : Nat) else (n / d : Nat)) else none
  | _ => none

/-- The product with a whole number, rounded to the format. -/
def times (x : Binary64) (k : Nat) : Binary64 :=
  match x with
  | .finite negative m e =>
    let (n, d) := ratio m e
    ofRatio negative (n * k) d
  | x => x

/-- The whole number nearest to a finite number, a half to the even neighbour. -/
def nearest? : Binary64 → Option Int
  | .finite negative m e =>
    let (n, d) := ratio m e
    some (if negative then -(halfEven n d : Nat) else (halfEven n d : Nat))
  | _ => none

end Binary64

end NodeRelief
