import NodeRelief.Text.Digit

/-!
# Numerals

What the written forms of numbers share: a sign, ASCII digits with a point among them, an exponent,
and the rounding of a quotient.
-/

namespace NodeRelief

open NodeRelief.Text

/-- `n / d` rounded to the nearest whole number, a half to the even neighbour. -/
def halfEven (n d : Nat) : Nat :=
  let q := n / d
  let r := n % d
  if 2 * r < d then q else if d < 2 * r then q + 1 else q + q % 2

namespace Numeral

/-- A sign, if there is one, and the rest; `true` for a minus. -/
def splitSign : List Char → Bool × List Char
  | '-' :: rest => (true, rest)
  | '+' :: rest => (false, rest)
  | s => (false, s)

def signed (negative : Bool) (n : Nat) : Int := if negative then -n else n

/-- The number written by ASCII digits alone, at least one of them. -/
def digits? (s : List Char) : Option Nat :=
  if s.isEmpty then none else (s.mapM asciiDigit?).map ofPlaces

/-- Digits with at most one point among them: the digits and how many stand after the point. -/
def pointed? (s : List Char) : Option (Nat × Nat) :=
  let whole := s.takeWhile (· != '.')
  let fraction := (s.dropWhile (· != '.')).drop 1
  (digits? (whole ++ fraction)).map fun n => (n, fraction.length)

def exponent? (s : List Char) : Option Int :=
  let (negative, body) := splitSign s
  (digits? body).map (signed negative)

/-- Digits with an optional point and an optional exponent, as `digits · 10 ^ scale`. -/
def scientific? (s : List Char) : Option (Nat × Int) :=
  let isMark (c : Char) : Bool := c == 'e' || c == 'E'
  let tail := s.dropWhile (!isMark ·)
  match pointed? (s.takeWhile (!isMark ·)), (if tail.isEmpty then some 0 else exponent? (tail.drop 1)) with
  | some (digits, places), some e => some (digits, e - places)
  | _, _ => none

end Numeral

end NodeRelief
