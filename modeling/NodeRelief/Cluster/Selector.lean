import NodeRelief.Cluster.Object
import NodeRelief.Fault

/-!
# Label selectors

A selector is checked as a whole before it is held against any labels. A well-formed one selects the
labels that have all its pairs and meet all its requirements. Pairs and then requirements are looked
at in order, up to the first that fails; one about something that cannot be a key has no answer.
-/

namespace NodeRelief

inductive Operator where
  | isIn
  | notIn
  | hasKey
  | lacksKey
deriving DecidableEq, Repr

namespace Operator

def text : Operator → String
  | .isIn => "In"
  | .notIn => "NotIn"
  | .hasKey => "Exists"
  | .lacksKey => "DoesNotExist"

def all : List Operator := [.isIn, .notIn, .hasKey, .lacksKey]

def ofDocument? (d : Document) : Option Operator := all.find? (.text ·.text = d)

/-- Whether a requirement with this operator lists values. -/
def takesValues : Operator → Bool
  | .isIn | .notIn => true
  | .hasKey | .lacksKey => false

end Operator

/-- Why a selector cannot be held against labels. -/
inductive SelectorFlaw where
  | emptyLabelKey
  | emptyRequirementKey
  | missingValues (op : Operator)
  | needlessValues (op : Operator)
  | unknownOperator (d : Document)
deriving DecidableEq

def SelectorFlaw.message : SelectorFlaw → String
  | .emptyLabelKey => "matchLabels key must not be empty"
  | .emptyRequirementKey => "matchExpressions key must not be empty"
  | .missingValues op => "values must be non-empty for operator " ++ op.text
  | .needlessValues op => "values must be empty for operator " ++ op.text
  | .unknownOperator d => d.quoted ++ " is not a valid label selector operator"

def SelectorFlaw.fault (f : SelectorFlaw) : Fault := .invalidSelector f.message

namespace Requirement

def flaw? (r : Requirement) : Option SelectorFlaw :=
  if !r.key.isTruthy then some .emptyRequirementKey
  else match Operator.ofDocument? r.operator with
    | none => some (.unknownOperator r.operator)
    | some op =>
      if op.takesValues ∧ r.values = [] then some (.missingValues op)
      else if ¬ op.takesValues ∧ r.values ≠ [] then some (.needlessValues op)
      else none

/-- Whether the label under the key of a requirement is one of the values. -/
def lists (r : Requirement) (labels : Holding) : Except Fault Bool :=
  (labels.item r.key).map fun v => r.values.any v.agrees

/-- An unknown operator is met by the absence of the key. -/
def meets (r : Requirement) (labels : Holding) : Except Fault Bool := do
  let there ← labels.has r.key
  match Operator.ofDocument? r.operator, there with
  | some .isIn, true => r.lists labels
  | some .notIn, true => (r.lists labels).map (!·)
  | some .isIn, false => return false
  | some .notIn, false => return true
  | some .hasKey, there => return there
  | _, there => return !there

end Requirement

namespace Selector

/-- The first flaw: of the label keys, then of the requirements in order. -/
def flaw? (s : Selector) : Option SelectorFlaw :=
  if s.labels.items.any (!·.1.isTruthy) then some .emptyLabelKey
  else s.requirements.findSome? Requirement.flaw?

/-- Whether labels have a pair; a missing label counts as `null`. -/
def hasPair (labels : Holding) (pair : Document × Document) : Except Fault Bool :=
  (labels.get pair.1).map (·.equals pair.2)

/-- Whether labels have all pairs and meet all requirements. -/
def meets (s : Selector) (labels : Holding) : Except Fault Bool := do
  if ← s.labels.items.allM (hasPair labels) then s.requirements.allM (·.meets labels)
  else return false

end Selector

/-- Whether a selector selects labels. No selector selects nothing. -/
def selects (selector : Option Selector) (labels : Holding) : Except Fault Bool :=
  match selector with
  | none => .ok false
  | some s =>
    match s.flaw? with
    | some flaw => .error flaw.fault
    | none => s.meets labels

end NodeRelief
