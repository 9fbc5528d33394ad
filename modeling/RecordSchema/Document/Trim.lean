import RecordSchema.Document.Subschema

/-! Trimming: limits on what a document says at each of its schemas. -/

namespace RecordSchema

/-- What is trimmed. A negative limit says how many are left out at the end; null is no limit.
Limits are looked at where there is something to be trimmed. -/
structure TrimLimits where
  removeDescriptions : Bool := false
  maxVariants : Value := .null
  maxProperties : Value := .null

/-- Reads limits given by name. -/
def TrimLimits.ofGiven : List (String × Value) → Except Fault TrimLimits
  | [] => .ok {}
  | (name, v) :: rest => do
    let limits ← ofGiven rest
    match name with
    | "remove_descriptions" => return { limits with removeDescriptions := v.isTrue }
    | "max_union_variants" => return { limits with maxVariants := v }
    | "max_properties" => return { limits with maxProperties := v }
    | _ => throw .wrongType

namespace Document

/-- The first items, as many as an integer says. -/
def takeUpTo {α : Type} (limit : Value) (items : List α) : Except Fault (List α) :=
  match limit.integer? with
  | some (.ofNat n) => .ok (items.take n)
  | some (.negSucc n) => .ok (items.take (items.length - (n + 1)))
  | none => .error .wrongType

/-- Keeps the first members of a list of variants. Any number can be exceeded. -/
def trimVariants (limit : Value) (keyword : String) (schema : Entries) : Except Fault Entries :=
  match schema.field? keyword with
  | some (.list members) =>
    match limit.quantity? with
    | none => .error .wrongType
    | some q =>
      if q.lt (.ofInt members.length) then do
        return schema.setField keyword (.list (← takeUpTo limit members))
      else .ok schema
  | _ => .ok schema

/-- Keeps the first properties, and what is required of them. -/
def trimProperties (limit : Value) (schema : Entries) : Except Fault Entries :=
  match schema.field? "properties" with
  | some (.map properties) => do
    let kept ← takeUpTo limit properties
    let schema := schema.setField "properties" (.map kept)
    match schema.field? "required" with
    | some (.list required) =>
      return schema.setField "required"
        (.list (required.filter fun name => Entries.hasKey kept name))
    | _ => return schema
  | _ => .ok schema

/-- Trims one schema. -/
def trimSchema (limits : TrimLimits) (schema : Entries) : Except Fault Entries := do
  let schema := if limits.removeDescriptions then schema.dropField "description" else schema
  let schema ← match limits.maxVariants with
    | .null => pure schema
    | limit => do trimVariants limit "oneOf" (← trimVariants limit "anyOf" schema)
  match limits.maxProperties with
  | .null => return schema
  | limit => trimProperties limit schema

/-- Trims all schemas of a document. -/
def trim (limits : TrimLimits) (document : Value) : Except Fault Value := do
  changeAll (trimSchema limits) (← document.copy)

end Document
end RecordSchema
