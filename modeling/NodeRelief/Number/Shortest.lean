import NodeRelief.Number.Binary64
import NodeRelief.Text.Digit

/-!
# Shortest decimal text

The fewest decimal places that read back to the same binary64 number, and of those the nearest to
it. Numbers from 0.0001 up to 10 ^ 16 are written positionally, the others with an exponent.
-/

namespace NodeRelief.Binary64

open NodeRelief.Text

/-- `n / d` on the grid of the multiples of `10 ^ k`: the multiple at or below it. -/
def gridFloor (n d : Nat) (k : Int) : Nat :=
  if 0 ≤ k then n / (d * Nat.pow 10 k.toNat) else n * Nat.pow 10 (-k).toNat / d

/-- Whether `n / d` is at least `10 ^ k`. -/
def reaches (n d : Nat) (k : Int) : Bool :=
  if 0 ≤ k then d * Nat.pow 10 k.toNat ≤ n else d ≤ n * Nat.pow 10 (-k).toNat

/-- The `p` with `10 ^ (p - 1) ≤ n / d < 10 ^ p`. -/
def decimalPoint (n d : Nat) : Int :=
  let guess : Int := ((Nat.toDigits 10 n).length : Int) - (Nat.toDigits 10 d).length
  if reaches n d guess then guess + 1 else guess

/-- Whether `n / d` lies nearer to the upper end of the grid step from `q`, or in the middle of it
with `q` odd. -/
def nearerAbove (n d q : Nat) (k : Int) : Bool :=
  let (n', d') := if 0 ≤ k then (n, d * Nat.pow 10 k.toNat) else (n * Nat.pow 10 (-k).toNat, d)
  let twice := 2 * (n' - q * d')
  d' < twice || (d' == twice && q % 2 == 1)

/-- On the grid of `10 ^ k`, the neighbour of the number that reads back, the nearer one if both do. -/
def onGrid? (m : Nat) (e : Int) (k : Int) : Option Nat :=
  let (n, d) := ratio m e
  let q := gridFloor n d k
  let back (c : Nat) : Bool := ofDecimal false c k == ofRatio false n d
  match back q, back (q + 1) with
  | true, true => some (if nearerAbove n d q k then q + 1 else q)
  | true, false => some q
  | false, true => some (q + 1)
  | false, false => none

/-- The first of the grids with `places`, `places + 1`, … places that has a number reading back. -/
def firstGrid (m : Nat) (e point : Int) (places : Nat) : Nat → Nat × Int
  | 0 => (gridFloor (ratio m e).1 (ratio m e).2 (point - places), point - places)
  | fuel + 1 =>
    match onGrid? m e (point - places) with
    | some c => (c, point - places)
    | none => firstGrid m e point (places + 1) fuel

def dropTrailingZeros (l : List Char) : List Char := (l.reverse.dropWhile (· == '0')).reverse

/-- Digits of the shortest decimal, without zeros at the end, and its decimal point counted from
their left. -/
def shortest (m : Nat) (e : Int) : List Char × Int :=
  let (n, d) := ratio m e
  let (c, k) := firstGrid m e (decimalPoint n d) 1 17
  let digits := Nat.toDigits 10 c
  (dropTrailingZeros digits, k + digits.length)

/-- Digits with the decimal point set before place `point`. -/
def layout (digits : List Char) (point : Int) : List Char :=
  if point ≤ -4 ∨ 16 < point then
    let e := point - 1
    let mark := if e < 0 then '-' else '+'
    let mantissa := match digits with
      | [] => []
      | [c] => [c]
      | c :: rest => c :: '.' :: rest
    mantissa ++ 'e' :: mark :: (paddedNumeral 2 e.natAbs).toList
  else if point ≤ 0 then '0' :: '.' :: (List.replicate (-point).toNat '0' ++ digits)
  else if digits.length ≤ point.toNat then
    digits ++ List.replicate (point.toNat - digits.length) '0' ++ ['.', '0']
  else digits.take point.toNat ++ '.' :: digits.drop point.toNat

def text : Binary64 → String
  | .nan => "nan"
  | .infinite negative => if negative then "-inf" else "inf"
  | .finite negative m e =>
    let body := if m = 0 then ['0', '.', '0'] else
      let (digits, point) := shortest m e
      layout digits point
    String.ofList (if negative then '-' :: body else body)

end NodeRelief.Binary64
