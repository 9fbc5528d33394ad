import RecordSchema.Constraint
import RecordSchema.Document.Subschema
import RecordSchema.Value.Access

/-! Derived fields in documents: properties that are marked as read-only. -/

namespace RecordSchema

namespace Document

/-- The keyword under which a document tells how a derived field is computed. -/
def derivedKeyword : String := "x-derived-field"

/-- Whether a property is a derived field. -/
def isReadOnly : Value → Bool
  | .map schema =>
    match Entries.field? schema "readOnly" with
    | some (.bool true) => true
    | _ => false
  | _ => false

/-- What a document tells about the derived fields among its own properties. -/
def derivedFields (document : Value) : Except Fault Entries := do
  let document ← entriesOf document
  let properties := (document.field? "properties").getD .null
  let properties ← if properties.isTrue then entriesOf properties else pure []
  (properties.filter fun (_, schema) => isReadOnly schema).mapM fun (name, schema) => do
    let told := (schema.entries?.bind (Entries.field? · derivedKeyword)).getD .null
    return (name, .map (← if told.isTrue then told.toEntries.mapError Raised.fault else .ok []))

/-- What is required apart from derived fields. -/
def withoutDerived (derived : Entries) : List Value → Except Fault (List Value)
  | [] => .ok []
  | name :: rest => do
    name.requireSearchable.mapError Raised.fault
    let rest ← withoutDerived derived rest
    return if Entries.hasKey derived name then rest else name :: rest

/-- A schema without its derived fields. -/
def stripSchema (schema : Entries) : Except Fault Entries :=
  match schema.field? "properties" with
  | some (.map properties) =>
    let derived := properties.filter fun (_, schema) => isReadOnly schema
    if derived.isEmpty then .ok schema
    else do
      let kept := properties.filter fun (_, schema) => !isReadOnly schema
      let schema := schema.setField "properties" (.map kept)
      match schema.field? "required" with
      | some (.list required) =>
        return schema.setField "required" (.list (← withoutDerived derived required))
      | _ => return schema
  | _ => .ok schema

/-- Strips the definitions under a key. -/
def stripDefinitions (document : Entries) (key : String) : Except Fault Entries :=
  match document.field? key with
  | some (.map definitions) => do
    let stripped ← definitions.mapM fun (name, schema) => do
      return (name, .map (← stripSchema (← entriesOf schema)))
    return document.setField key (.map stripped)
  | _ => .ok document

/-- A document without derived fields, in the definitions as well. -/
def stripDerived (document : Value) : Except Fault Value := do
  let entries ← entriesOf (← document.copy)
  let stripped ← Pointer.definitionsKeys.foldlM stripDefinitions (← stripSchema entries)
  return .map stripped

end Document
end RecordSchema
