import NodeRelief.Register
import NodeRelief.Text.Blank

/-!
# Environments

Values under names that are told apart regardless of case. An environment is made from a file of
lines `NAME=value` and from variables; a later entry hides an earlier one, and a variable hides the
file.
-/

namespace NodeRelief

open NodeRelief.Text

/-- Names and values, from the first to the last that counts. -/
structure Environment where
  entries : List (String × String)
deriving DecidableEq, Repr

namespace Environment

/-- A letter in lower case, as far as that is a letter of ASCII. -/
def lowerLetter (c : Char) : Char := if c = '\u212a' then 'k' else c.toLower

def lower (s : String) : String := String.ofList (s.toList.map lowerLetter)

/-- The value of the last entry under a name given in lower case. -/
def get? (env : Environment) (name : String) : Option String :=
  (env.entries.reverse.find? (lower ·.1 = name)).map Prod.snd

/-! ## Lines -/

/-- A text without the mark of the byte order in front. -/
def withoutMark : List Char → List Char
  | '\ufeff' :: s => s
  | s => s

/-- The lines of a text, divided by line feeds and carriage returns. -/
def lines : List Char → List (List Char)
  | [] => [[]]
  | c :: rest =>
    if c = '\n' ∨ c = '\r' then [] :: lines rest
    else match lines rest with
      | line :: others => (c :: line) :: others
      | [] => [[c]]

/-- Cuts off a remark: a number sign behind a blank, and all that follows. -/
def cutRemark : List Char → List Char
  | [] => []
  | c :: rest =>
    if isBlank c ∧ (rest.dropWhile isBlank).head? = some '#' then [] else c :: cutRemark rest

def endsName (c : Char) : Bool := c == '=' || c == '#' || isBlank c

/-- The entry on a line; none on an empty line or a remark. -/
def entry? (line : List Char) : Option (String × List Char) :=
  let line := line.dropWhile isBlank
  let name := line.takeWhile (!endsName ·)
  match (line.dropWhile (!endsName ·)).dropWhile isBlank with
  | '=' :: value =>
    if name.isEmpty then none else some (String.ofList name, strip isBlank (cutRemark value))
  | _ => none

/-! ## References -/

/-- A reference to a value, by its name and with what stands for it where there is none. -/
structure Reference where
  name : String
  standIn : String
  /-- How many characters it takes, the dollar sign not counted. -/
  length : Nat
deriving DecidableEq, Repr

def closes (c : Char) : Bool := c == '\x7d'

/-- The reference behind a dollar sign: a name in braces, or a name, a colon, a dash and what stands
for the value. -/
def reference? : List Char → Option Reference
  | '\x7b' :: s =>
    let name := s.takeWhile fun c => !closes c && c != ':'
    match s.drop name.length with
    | ':' :: '-' :: t =>
      let standIn := t.takeWhile (!closes ·)
      if standIn.length < t.length then
        some ⟨String.ofList name, String.ofList standIn, name.length + standIn.length + 4⟩
      else none
    | c :: _ => if closes c then some ⟨String.ofList name, "", name.length + 2⟩ else none
    | [] => none
  | _ => none

/-- The text behind its first `skip` characters, each reference replaced by the value it names. -/
def expand (look : String → Option String) (skip : Nat) : List Char → List Char
  | [] => []
  | c :: rest =>
    match skip with
    | n + 1 => expand look n rest
    | 0 =>
      match (if c = '$' then reference? rest else none) with
      | some r => ((look r.name).getD r.standIn).toList ++ expand look r.length rest
      | none => c :: expand look 0 rest

/-! ## Files -/

/-- The entries of a file. A value may refer to values before it and to the variables. -/
def ofFile (text : String) (overrides : List (String × String)) : Entries String :=
  ((lines (withoutMark text.toList)).filterMap entry?).foldl (fun known (name, value) =>
    let look (n : String) : Option String := known.get? n <|> overrides.lookup n
    known.set name (String.ofList (expand look 0 value))) .empty

/-- The environment of a file's text and of variables that override it. -/
def ofParts (file : String) (overrides : List (String × String)) : Environment :=
  ⟨(ofFile file overrides).items ++ overrides⟩

end Environment

end NodeRelief
