import NodeRelief.Profile.Watch
import NodeRelief.Proofs.Api.Reading

/-! # Versions in the metadata of documents

The version of a document is looked for among its metadata. Metadata that count as nothing are read as
an object without fields; any others have to have fields. -/

namespace NodeRelief

namespace Document

/-- The fields of a document that has any: an object or an entity. -/
def fields? : Document → Option (List (String × Document))
  | .object fields | .entity fields => some fields
  | _ => none

def hasFields (d : Document) : Bool := d.fields?.isSome

/-- The field of a name, `null` if there is none. -/
def member (name : String) (d : Document) : Document := (d.fields?.bind (field? name)).getD .null

/-- Whether fields can be looked for: in what has fields, or counts as nothing. -/
def isLegible (d : Document) : Bool := !d.isTruthy || d.hasFields

variable (name : String) (d : Document)

theorem part_eq : part name d = if d.hasFields then .ok (d.member name) else .error .noField := by
  cases d <;> rfl

theorem member_of_not_hasFields {d : Document} (h : d.hasFields = false) : d.member name = .null := by
  rw [member, Option.isSome_eq_false_iff.mp h |> Option.isNone_iff_eq_none.mp]
  rfl

theorem part_orElse :
    part name (d.orElse (.object [])) =
      if d.isLegible then .ok (d.member name) else .error .noField := by
  rw [orElse, isLegible]
  cases there : d.isTruthy with
  | true => exact part_eq name d
  | false =>
      cases d with
      | object fields =>
          obtain rfl : fields = [] := by simpa [isTruthy] using there
          rfl
      | entity => cases there
      | _ => rfl

end Document

namespace Watch

open Document (part)

theorem versionOf_eq {d : Document} (h : d.hasFields = true) :
    versionOf d = if (d.member "metadata").isLegible then
      .ok ((d.member "metadata").member "resourceVersion") else .error .noField := by
  rw [versionOf, Document.part_eq, if_pos h]
  exact Document.part_orElse ..

theorem nextVersion_eq (version d : Document) :
    nextVersion version d = if (d.under "metadata").isLegible then
      .ok (((d.under "metadata").member "resourceVersion").orElse version) else .error .noField := by
  cases d with
  | object fields =>
      have head : (Document.object fields).member "metadata" = (Document.object fields).under "metadata" :=
        rfl
      rw [nextVersion, versionOf_eq rfl, head]
      split <;> rfl
  | _ => rfl

end Watch

end NodeRelief
