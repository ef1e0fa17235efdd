import NodeRelief.Document

/-!
# Printing documents

Documents as text, without gaps. Only quotation marks, backslashes and control characters are
escaped.
-/

namespace NodeRelief.Document

def escaped (c : Char) : List Char :=
  if c == '\x22' || c == '\\' then ['\\', c]
  else if c == '\n' then ['\\', 'n']
  else if c == '\r' then ['\\', 'r']
  else if c == '\t' then ['\\', 't']
  else if c.toNat < 32 then '\\' :: 'u' :: Text.hexPlaces 4 c.toNat
  else [c]

def printText (s : String) : String :=
  "\x22" ++ String.ofList (s.toList.flatMap escaped) ++ "\x22"

def printNumber : Binary64 → String
  | .nan => "NaN"
  | .infinite negative => if negative then "-Infinity" else "Infinity"
  | x => x.text

mutual

def print : Document → String
  | .null => "null"
  | .bool b => if b then "true" else "false"
  | .int i => Text.signedNumeral i
  | .float x => printNumber x
  | .text s => printText s
  | .list ds => "[" ++ ",".intercalate (printItems ds) ++ "]"
  | .object fs => "\x7b" ++ ",".intercalate (printFields fs) ++ "\x7d"
  | .entity fs => "\x7b" ++ ",".intercalate (printFields fs) ++ "\x7d"

def printItems : List Document → List String
  | [] => []
  | d :: rest => d.print :: printItems rest

def printFields : List (String × Document) → List String
  | [] => []
  | (name, d) :: rest => (printText name ++ ":" ++ d.print) :: printFields rest

end

/-- What a document is called as the name of a field. -/
def fieldName : Document → String
  | .text s => s
  | d => d.print

end NodeRelief.Document
