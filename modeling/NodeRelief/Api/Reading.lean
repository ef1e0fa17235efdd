import NodeRelief.Cluster.Object
import NodeRelief.Document.Access

/-!
# Reading API objects

Cluster objects from the documents that the API answers, whose objects are entities. A field that is
absent reads as `null`, and only objects have fields. Most fields are taken over as they are; those
that hold lists, labels or amounts have to have that form.
-/

namespace NodeRelief.Reading

open Document (part elements)

/-- The fields of API objects that hold plain mappings. -/
def mappingFields : List String := ["annotations", "labels", "match_labels", "requests", "limits"]

mutual

/-- A reply with its objects as entities, except for what is in the plain mappings. -/
def entity : Document → Document
  | .object fields => .entity (entityFields fields)
  | .list items => .list (entityItems items)
  | d => d

def entityItems : List Document → List Document
  | [] => []
  | d :: rest => entity d :: entityItems rest

def entityFields : List (String × Document) → List (String × Document)
  | [] => []
  | (name, d) :: rest =>
    (name, if name ∈ mappingFields then d else entity d) :: entityFields rest

end

/-- A field of an object that may be missing; then the field is missing too. -/
def partIfThere (name : String) (d : Document) : Except Fault Document :=
  if d.isTruthy then part name d else .ok .null

/-- The items of a list that may be missing. -/
def optionalItems (d : Document) : Except Fault (List Document) := elements (d.orElse (.list []))

/-- Labels or annotations, which may be missing. -/
def labels (d : Document) : Except Fault Labels :=
  if d.isTruthy then Mapping.ofDocument d else .ok .empty

/-- Amounts of resources, every value as a text. -/
def amounts : Document → Except Fault Document
  | .null => .ok .null
  | .object fields => .ok (.object (fields.map fun (k, v) => (k, .text v.plain)))
  | _ => .error .noField

def reference (d : Document) : Except Fault OwnerReference := do
  return {
    kind := ← part "kind" d
    name := ← part "name" d
    controller := .bool (Document.isTruthy (← part "controller" d))
    apiVersion := (← part "api_version" d).orElse ""
    uid := ← part "uid" d }

def references (d : Document) : Except Fault (List OwnerReference) := do
  (← optionalItems d).mapM reference

def node (d : Document) : Except Fault Node := do
  let metadata ← part "metadata" d
  return {
    name := ← part "name" metadata
    annotations := ← labels (← part "annotations" metadata)
    labels := ← labels (← part "labels" metadata)
    uid := ← part "uid" metadata }

def container (d : Document) : Except Fault Container := do
  let resources ← part "resources" d
  return {
    name := ← part "name" d
    requests := ← amounts (← partIfThere "requests" resources)
    limits := ← amounts (← partIfThere "limits" resources) }

def pod (d : Document) : Except Fault Pod := do
  let metadata ← part "metadata" d
  let spec ← part "spec" d
  let containers ← (← optionalItems (← partIfThere "containers" spec)).mapM container
  return {
    name := ← part "name" metadata
    ns := ← part "namespace" metadata
    node := ← partIfThere "node_name" spec
    phase := .ofDocument (← partIfThere "phase" (← part "status" d))
    containers
    labels := ← labels (← part "labels" metadata)
    owners := ← references (← part "owner_references" metadata)
    uid := ← part "uid" metadata }

def owner (kind : OwnerKind) (d : Document) : Except Fault Owner := do
  let metadata ← part "metadata" d
  return {
    kind
    name := ← part "name" metadata
    ns := ← part "namespace" metadata
    annotations := ← labels (← part "annotations" metadata)
    owners := ← references (← part "owner_references" metadata)
    uid := ← part "uid" metadata
    resourceVersion := ← part "resource_version" metadata }

def requirement (d : Document) : Except Fault Requirement := do
  return {
    key := ← part "key" d
    operator := ← part "operator" d
    values := ← optionalItems (← part "values" d) }

def selector : Document → Except Fault (Option Selector)
  | .null => .ok none
  | d => do
    let own ← labels (← part "match_labels" d)
    let requirements ← (← optionalItems (← part "match_expressions" d)).mapM requirement
    return some ⟨own, requirements⟩

/-- A budget; a number of allowed evictions that is missing is zero. -/
def budget (d : Document) : Except Fault Budget := do
  let status ← part "status" d
  let metadata ← part "metadata" d
  return {
    name := ← part "name" metadata
    ns := ← part "namespace" metadata
    selector := ← selector (← partIfThere "selector" (← part "spec" d))
    allowed := (← partIfThere "disruptions_allowed" status).orElse (.int 0) }

/-- The items of a list answered by the API, each read by `one`. -/
def listOf {α : Type} (one : Document → Except Fault α) (d : Document) : Except Fault (List α) := do
  (← elements (← part "items" d)).mapM one

end NodeRelief.Reading
