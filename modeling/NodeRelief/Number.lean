import NodeRelief.Number.Shortest

/-!
# Numbers

A number is whole, or it is of the binary format. Numbers of both forms compare by their exact values;
the infinities lie beyond all others, and a NaN is below nothing and above nothing.
-/

namespace NodeRelief

inductive Number where
  | whole (n : Int)
  | fractional (x : Binary64)
deriving DecidableEq, Repr

namespace Number

def text : Number → String
  | .whole n => Text.signedNumeral n
  | .fractional x => x.text

def neg : Number → Number
  | .whole n => .whole (-n)
  | .fractional x => .fractional x.neg

def isNaN : Number → Bool
  | .fractional .nan => true
  | _ => false

/-- The exact value of a number that is finite. -/
def value : Number → Rat
  | .whole n => n
  | .fractional x => x.value

def lt : Number → Number → Bool
  | .fractional .nan, _ | _, .fractional .nan => false
  | .fractional (.infinite a), .fractional (.infinite b) => a && !b
  | .fractional (.infinite a), _ => a
  | _, .fractional (.infinite b) => !b
  | a, b => decide (a.value < b.value)

def le (a b : Number) : Bool := !a.isNaN && !b.isNaN && !b.lt a

@[simp] theorem lt_whole (m n : Int) : lt (.whole m) (.whole n) = decide (m < n) := by
  rw [lt, value, value, decide_eq_decide]
  · exact Rat.intCast_lt_intCast
  all_goals nofun

@[simp] theorem le_whole (m n : Int) : le (.whole m) (.whole n) = decide (m ≤ n) := by
  simp [le, isNaN, ← decide_not]

end Number

end NodeRelief
