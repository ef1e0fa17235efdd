import NodeRelief.Document
import NodeRelief.Register

/-!
# Parsing documents

Documents as text: objects in braces, lists in brackets, quoted texts with escapes, numbers, and the
words `null`, `true` and `false`. A number with a point or an exponent is a binary64 number, any
other one whole. Of two fields of one name the later value stays, in the place of the earlier.
-/

namespace NodeRelief.Document

open NodeRelief.Numeral

def isGap (c : Char) : Bool := c == ' ' || c == '\n' || c == '\t' || c == '\r'

def skipGap (s : List Char) : List Char := s.dropWhile isGap

/-! ## Texts -/

def hexDigit? (c : Char) : Option Nat :=
  if '0' ≤ c ∧ c ≤ '9' then some (c.toNat - 48)
  else if 'a' ≤ c ∧ c ≤ 'f' then some (c.toNat - 87)
  else if 'A' ≤ c ∧ c ≤ 'F' then some (c.toNat - 55)
  else none

def hexNumber? (s : List Char) : Option Nat :=
  (s.mapM hexDigit?).map fun ds => ds.foldl (fun n d => 16 * n + d) 0

/-- What a letter stands for behind a backslash; any other character stands for itself. -/
def unescaped (c : Char) : Char :=
  if c == 'n' then '\n' else if c == 't' then '\t' else if c == 'r' then '\r'
  else if c == 'b' then '\x08' else if c == 'f' then '\x0c' else c

/-- The numbers of the characters up to the closing mark, and what follows the mark. -/
def codes : List Char → Option (List Nat × List Char)
  | [] => none
  | '\\' :: 'u' :: a :: b :: c :: d :: rest =>
    match hexNumber? [a, b, c, d], codes rest with
    | some n, some (ns, after) => some (n :: ns, after)
    | _, _ => none
  | '\\' :: c :: rest => (codes rest).map fun (ns, after) => ((unescaped c).toNat :: ns, after)
  | c :: rest =>
    if c = '\x22' then some ([], rest)
    else (codes rest).map fun (ns, after) => (c.toNat :: ns, after)

/-- Joins two halves, as used for the numbers that do not fit in four places, into one character. -/
def joinHalves : List Nat → List Char
  | [] => []
  | [n] => [Char.ofNat n]
  | n :: m :: rest =>
    if 0xd800 ≤ n ∧ n < 0xdc00 ∧ 0xdc00 ≤ m ∧ m < 0xe000 then
      Char.ofNat (0x10000 + (n - 0xd800) * 1024 + (m - 0xdc00)) :: joinHalves rest
    else Char.ofNat n :: joinHalves (m :: rest)

def quotedText (s : List Char) : Option (String × List Char) :=
  (codes s).map fun (ns, after) => (String.ofList (joinHalves ns), after)

/-! ## Numbers and words -/

def isNumberPart (c : Char) : Bool :=
  Text.isAsciiDigit c || c == '-' || c == '+' || c == '.' || c == 'e' || c == 'E'

def number? (s : List Char) : Option Document :=
  let (negative, body) := splitSign s
  if body.all Text.isAsciiDigit then (digits? body).map fun n => .int (signed negative n)
  else (scientific? body).map fun (digits, scale) =>
    .float (Binary64.ofDecimal negative digits scale)

def words : List (String × Document) :=
  [("null", .null), ("true", .bool true), ("false", .bool false), ("NaN", .float .nan),
    ("Infinity", .float (.infinite false)), ("-Infinity", .float (.infinite true))]

def word? (s : List Char) : Option (Document × List Char) :=
  words.findSome? fun (w, d) =>
    if w.toList.isPrefixOf s then some (d, s.drop w.length) else none

/-! ## Values -/

mutual

/-- A value at the front, and what follows it. -/
def value : Nat → List Char → Option (Document × List Char)
  | 0, _ => none
  | fuel + 1, s =>
    match skipGap s with
    | '\x7b' :: rest => fields fuel [] (skipGap rest)
    | '[' :: rest => items fuel [] (skipGap rest)
    | '\x22' :: rest => (quotedText rest).map fun (t, rest) => (.text t, rest)
    | s =>
      match word? s with
      | some r => some r
      | none => (number? (s.takeWhile isNumberPart)).map fun d => (d, s.dropWhile isNumberPart)

/-- The items of a list from here on, behind those in `before`, which are held in reverse. -/
def items : Nat → List Document → List Char → Option (Document × List Char)
  | 0, _, _ => none
  | fuel + 1, before, s =>
    match s with
    | ']' :: rest => some (.list before.reverse, rest)
    | s =>
      match value fuel s with
      | none => none
      | some (d, rest) =>
        match skipGap rest with
        | ',' :: rest => items fuel (d :: before) (skipGap rest)
        | ']' :: rest => some (.list (d :: before).reverse, rest)
        | _ => none

/-- The fields of an object from here on, behind those in `before`. -/
def fields : Nat → List (String × Document) → List Char → Option (Document × List Char)
  | 0, _, _ => none
  | fuel + 1, before, s =>
    match s with
    | '\x7d' :: rest => some (.object before, rest)
    | '\x22' :: rest =>
      match quotedText rest with
      | none => none
      | some (name, rest) =>
        match skipGap rest with
        | ':' :: rest =>
          match value fuel rest with
          | none => none
          | some (d, rest) =>
            let before := Register.putItem Prod.fst (name, d) before
            match skipGap rest with
            | ',' :: rest => fields fuel before (skipGap rest)
            | '\x7d' :: rest => some (.object before, rest)
            | _ => none
        | _ => none
    | _ => none

end

/-- The document that a text holds, with nothing but gaps around it. Every two steps take at least
one character, which bounds their number. -/
def parse? (text : String) : Option Document :=
  match value (2 * text.length + 2) text.toList with
  | some (d, rest) => if (skipGap rest).isEmpty then some d else none
  | none => none

end NodeRelief.Document
