import RecordSchema.Constraint
import RecordSchema.Document.Pointer

/-! What documents mean: which data a schema of a document admits, keyword by keyword. A keyword speaks
of data of its own shape and says nothing of other data. A pointer is read from the top of the document,
so that a schema can stand below itself. Main definition: `Document.Admits`. -/

namespace RecordSchema

namespace Value

/-- What one part of a JSON text can be. -/
def isJsonPart : Value → Bool
  | .null | .bool _ | .int _ | .str _ | .list _ => true
  | .float x => match x.quantity with
    | .finite _ => true
    | _ => false
  | .map entries => entries.all fun e => match e.1 with
    | .str _ => true
    | _ => false
  | _ => false

/-- Data that a JSON text can stand for. -/
def isJson (v : Value) : Bool := v.all isJsonPart

/-- What a value is called in documents. A number with no fraction is an integer, however it is written. -/
def documentTypes : Value → List String
  | .null => ["null"]
  | .bool _ => ["boolean"]
  | .int _ => ["integer", "number"]
  | .float x => if x.toInt?.isSome then ["integer", "number"] else ["number"]
  | .str _ => ["string"]
  | .list _ => ["array"]
  | .map _ => ["object"]
  | _ => []

/-- Equality of JSON values. Numbers are compared as numbers, and a boolean is none; the order of the entries
of a map does not count. -/
inductive DocumentEqual : Value → Value → Prop where
  | null : DocumentEqual .null .null
  | bool (b : Bool) : DocumentEqual (.bool b) (.bool b)
  | number {v w x y} (left : v.number? = some x) (right : w.number? = some y) (same : x.eq y = true) :
      DocumentEqual v w
  | text {v w text} (left : v.str? = some text) (right : w.str? = some text) : DocumentEqual v w
  | list {vs ws} (length : vs.length = ws.length) (each : ∀ pair ∈ vs.zip ws, DocumentEqual pair.1 pair.2) :
      DocumentEqual (.list vs) (.list ws)
  | map {es fs} (length : es.length = fs.length)
      (shared : ∀ e ∈ es, ∃ name, e.1.str? = some name ∧ (Entries.field? fs name).isSome)
      (each : ∀ e ∈ es, ∀ name w, e.1.str? = some name → Entries.field? fs name = some w → DocumentEqual e.2 w) :
      DocumentEqual (.map es) (.map fs)

end Value

namespace Pointer

/-- The names in a pointer, from the top of a document down. The fragment is read as it is written, as references are made
and resolved here: a percent sign in it stands for itself, while a reader of URIs would decode it first. -/
def names? (pointer : String) : Option (List String) :=
  match pointer.toList with
  | '#' :: rest =>
    match rest.splitOn '/' with
    | [] :: names => some (names.map fun name => String.ofList (unescape name))
    | _ => none
  | _ => none

/-- What stands below a value under names. -/
def follow? : Value → List String → Option Value
  | v, [] => some v
  | v, name :: rest => do follow? (← (← v.ownEntries?).field? name) rest

/-- What a pointer leads to. -/
def target? (root : Entries) (pointer : String) : Option Value :=
  (names? pointer).bind (follow? (.map root))

theorem not_mem_escape (name : List Char) : '/' ∉ escape name := by
  fun_induction escape name with
  | case1 => exact List.not_mem_nil
  | case2 rest ih => simp [ih]
  | case3 rest ih => simp [ih]
  | case4 c rest _ notSlash ih => simp [ih, Ne.symm notSlash]

/-- The pointer to a definition holds the key of the definitions and the name. -/
theorem names?_ofName {key : String} (known : key ∈ definitionsKeys) (name : String) :
    names? (ofName key name) = some [key, name] := by
  have plain : '/' ∉ key.toList ∧ unescape key.toList = key.toList := by
    revert key
    decide
  have text : (ofName key name).toList = '#' :: ([] ++ '/' :: (key.toList ++ '/' :: escape name.toList)) := by
    simp [ofName, start]
  have cut : ([] ++ '/' :: (key.toList ++ '/' :: escape name.toList)).splitOn '/' = [[], key.toList, escape name.toList] := by
    rw [List.splitOn_append_cons_self_of_not_mem List.not_mem_nil, List.splitOn_append_cons_self_of_not_mem plain.1,
      List.splitOn_eq_singleton (not_mem_escape _)]
  unfold names?
  rw [text]
  simp only [cut, List.map_cons, List.map_nil, plain.2, unescape_escape, String.ofList_toList]

theorem target?_ofName {root definitions : Entries} {key name : String} {v : Value} (known : key ∈ definitionsKeys)
    (under : root.field? key = some (.map definitions)) (defined : definitions.field? name = some v) :
    target? root (ofName key name) = some v := by
  rw [target?, names?_ofName known]
  change ((root.field? key).bind fun v => follow? v [name]) = some v
  rw [under]
  change ((definitions.field? name).bind fun v => follow? v []) = some v
  rw [defined]
  rfl

end Pointer

namespace Document

/-- A size as a number to compare. -/
def counted (size : Option Nat) : Option Quantity := size.map fun n : Nat => .ofInt n

/-- A measure keeps to a bound, if the value has that measure. -/
def Keeps (measure : Option Quantity) (bound : Value) (holds : Quantity → Quantity → Bool) : Prop :=
  ∃ b, bound.number? = some b ∧ ∀ q, measure = some q → holds q b = true

/-- What keywords that hold no schemas say of a value. Other keywords are remarks. -/
def Asserts (keyword : String) (under v : Value) : Prop :=
  match keyword with
  | "type" => ∃ name, under.str? = some name ∧ name ∈ v.documentTypes
  | "enum" => ∃ choices, under.list? = some choices ∧ ∃ choice ∈ choices, Value.DocumentEqual v choice
  | "minimum" => Keeps v.number? under fun x b => b.le x
  | "maximum" => Keeps v.number? under Quantity.le
  | "exclusiveMinimum" => Keeps v.number? under fun x b => b.lt x
  | "exclusiveMaximum" => Keeps v.number? under Quantity.lt
  | "minLength" => Keeps (counted v.length?) under fun n b => b.le n
  | "maxLength" => Keeps (counted v.length?) under Quantity.le
  | "minItems" => Keeps (counted v.itemCount?) under fun n b => b.le n
  | "maxItems" => Keeps (counted v.itemCount?) under Quantity.le
  | "minProperties" => Keeps (counted v.entryCount?) under fun n b => b.le n
  | "maxProperties" => Keeps (counted v.entryCount?) under Quantity.le
  | "pattern" => ∃ pattern, under.str? = some pattern ∧
      ∀ text, v.str? = some text → Constraint.checkPattern (.str text) (.str pattern) = .ok true
  | "required" => ∃ names, under.list? = some names ∧ ∀ entries, v.ownEntries? = some entries →
      ∀ name ∈ names, ∃ text, name.str? = some text ∧ (entries.field? text).isSome
  | _ => True

/-- Keywords that hold schemas or lead to one. -/
def applicators : List String := ["$ref", "properties", "additionalProperties", "propertyNames", "items", "anyOf"]

/-- A schema of a document names a property. -/
def Lists (schema : Entries) (name : String) : Prop :=
  ∃ named, schema.field? "properties" = some (.map named) ∧ (Entries.field? named name).isSome

mutual

/-- A schema of a document admits a value. -/
inductive Admits (root : Entries) : Value → Value → Prop where
  | anything {v} : Admits root (.bool true) v
  | keywords {schema v} (each : ∀ keyword under, Entries.field? schema keyword = some under →
      Obeys root schema keyword under v) : Admits root (.map schema) v

/-- A value obeys a keyword of a schema, by what stands under it. -/
inductive Obeys (root : Entries) : Entries → String → Value → Value → Prop where
  | pointer {schema under v pointer target} (text : Value.str? under = some pointer)
      (leads : Pointer.target? root pointer = some target) (admitted : Admits root target v) :
      Obeys root schema "$ref" under v
  | properties {schema named v} (each : ∀ entries, Value.ownEntries? v = some entries → ∀ name sub w,
      Entries.field? named name = some sub → entries.field? name = some w → Admits root sub w) :
      Obeys root schema "properties" (.map named) v
  | additionalProperties {schema under v} (each : ∀ entries, Value.ownEntries? v = some entries → ∀ e ∈ entries,
      ∀ name, e.1.str? = some name → ¬ Lists schema name → Admits root under e.2) :
      Obeys root schema "additionalProperties" under v
  | propertyNames {schema under v} (each : ∀ entries, Value.ownEntries? v = some entries → ∀ e ∈ entries,
      Admits root under e.1) : Obeys root schema "propertyNames" under v
  | items {schema under v} (each : ∀ items, Value.list? v = some items → ∀ item ∈ items, Admits root under item) :
      Obeys root schema "items" under v
  | anyOf {schema subs v sub} (member : sub ∈ subs) (admitted : Admits root sub v) :
      Obeys root schema "anyOf" (.list subs) v
  | plain {schema keyword under v} (noSchema : keyword ∉ applicators) (asserted : Asserts keyword under v) :
      Obeys root schema keyword under v

end

end Document
end RecordSchema
