import NodeRelief.Number.Binary64
import NodeRelief.Text.Blank

/-!
# Literals

Whole numbers, binary64 numbers and truth values written as text. Digits are those of ASCII. A text
that is no number as it stands may become one when it is tidied: underscores between digits, a plus
sign, zeros in front and a fraction of zeros carry no meaning.
-/

namespace NodeRelief.Literal

open NodeRelief.Text NodeRelief.Numeral

/-! ## Underscores -/

def hasPair (c : Char) : List Char → Bool
  | a :: b :: rest => (a == c && b == c) || hasPair c (b :: rest)
  | _ => false

/-- The text without its underscores, of which there is one or more, none at an end and no two side
by side. -/
def joined? (s : List Char) : Option (List Char) :=
  if s.contains '_' ∧ s.head? ≠ some '_' ∧ s.getLast? ≠ some '_' ∧ ¬ hasPair '_' s then
    some (s.filter (· != '_'))
  else none

/-! ## Whole numbers -/

inductive IntFlaw where
  | malformed
  | tooLong
deriving DecidableEq, Repr

/-- The most digits a whole number may have. -/
def mostDigits : Nat := 4300

/-- An optional minus sign and digits, the first of which is zero only if it is the only one. Too
many digits are found before what follows them. -/
def plainInt (s : List Char) : Except IntFlaw Int :=
  let negative := s.head? == some '-'
  let body := if negative then s.drop 1 else s
  let digits := body.takeWhile isAsciiDigit
  let canonical := digits.head? ≠ some '0' ∨ digits.length = 1
  if canonical ∧ mostDigits < digits.length then .error .tooLong
  else match digits? body with
    | some n => if canonical then .ok (signed negative n) else .error .malformed
    | none => .error .malformed

/-- The text behind zeros and underscores, of which the first is a zero. Where nothing that could
begin a number follows, the last of them stays. -/
def behindZeros? (last : Char) : List Char → Option (List Char)
  | [] => some [last]
  | c :: rest =>
    if c == '0' || c == '_' then behindZeros? c rest
    else if isAsciiDigit c || c == '-' then some (c :: rest)
    else if c == '.' then some (last :: c :: rest)
    else none

/-- Drops the zeros in front of a number. It has to begin with a digit or a minus sign. -/
def withoutZeros? : List Char → Option (List Char)
  | '0' :: rest => behindZeros? '0' rest
  | c :: rest => if isAsciiDigit c || c == '-' then some (c :: rest) else none
  | [] => none

/-- Drops a point and the zeros behind it, if there are any and nothing else is. -/
def withoutFraction (s : List Char) : List Char :=
  let fraction := (s.dropWhile (· != '.')).drop 1
  if !fraction.isEmpty && fraction.all (· == '0') then s.takeWhile (· != '.') else s

/-- A whole number without what carries no meaning in it. -/
def tidied? (s : List Char) : Option (List Char) :=
  let bare := match s with
    | '+' :: '-' :: _ => none
    | '+' :: rest => withoutZeros? rest
    | '-' :: rest => (withoutZeros? rest).map ('-' :: ·)
    | s => withoutZeros? s
  bare.map fun s =>
    let s := withoutFraction s
    (joined? s).getD s

/-- A whole number, as it stands or, between blanks, tidied. Only one that stands plain can be too
long; one that had to be tidied is malformed then. -/
def int (text : String) : Except IntFlaw Int :=
  match plainInt text.toList, tidied? (strip isWhiteSpace text.toList) with
  | .error .malformed, some tidy => (plainInt tidy).mapError fun _ => .malformed
  | result, _ => result

/-! ## Binary64 numbers -/

/-- The names of the values that are not finite, in lower case. -/
def special? (negative : Bool) (word : String) : Option Binary64 :=
  if word = "inf" ∨ word = "infinity" then some (.infinite negative)
  else if word = "nan" then some .nan
  else none

def plainFloat? (s : List Char) : Option Binary64 :=
  let (negative, body) := splitSign s
  match special? negative (String.ofList (body.map Char.toLower)) with
  | some x => some x
  | none => (scientific? body).map fun (digits, scale) => .ofDecimal negative digits scale

/-- A number between blanks; or, without blanks, one with underscores anywhere inside. -/
def float? (text : String) : Option Binary64 :=
  plainFloat? (strip isWhiteSpace text.toList) <|> (joined? text.toList).bind plainFloat?

/-! ## Truth values -/

/-- The words for true and false, in any case; the letters that count are those of ASCII. -/
def bool? (text : String) : Option Bool :=
  let word := String.ofList (text.toList.map Char.toLower)
  if word ∈ ["true", "t", "yes", "y", "on", "1"] then some true
  else if word ∈ ["false", "f", "no", "n", "off", "0"] then some false
  else none

end NodeRelief.Literal
