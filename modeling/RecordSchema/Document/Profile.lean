import RecordSchema.Catalog
import RecordSchema.Document.Derived
import RecordSchema.Text.LetterCase

/-! Profiles: named changes that fit a document to those who will read it. -/

namespace RecordSchema

namespace Document

/-- Whether a schema describes a record: an object with properties of its own, not a map. -/
def describesRecord (schema : Entries) : Bool :=
  schema.hasField "properties" ||
    ((schema.field? "type").bind Value.str? = some "object" &&
      ((schema.field? "additionalProperties").bind Value.ownEntries?).isNone)

/-- Removes a format that readers do not know. -/
def dropFormats (formats : List String) (schema : Entries) : Except Fault Entries :=
  match schema.field? "format" with
  | none => .ok schema
  | some format => do
    format.requireSearchable.mapError Raised.fault
    return if format.str?.any formats.contains then schema.dropField "format" else schema

/-- Adds a keyword that is absent. -/
def withDefault (schema : Entries) (keyword : String) (v : Value) : Entries :=
  if schema.hasField keyword then schema else schema.setField keyword v

def close (schema : Entries) : Entries := schema.setField "additionalProperties" (.bool false)

/-- Closes records, which then always have properties. -/
def closeWithProperties (schema : Entries) : Except Fault Entries := do
  let schema ← dropFormats ["date", "time", "email"] schema
  if describesRecord schema then return close (withDefault schema "properties" (.map []))
  else return schema

/-- Closes records, which then always say what is required. -/
def closeWithRequired (schema : Entries) : Except Fault Entries := do
  let schema ← dropFormats ["uri", "uuid"] schema
  return if describesRecord schema then withDefault (close schema) "required" (.list []) else schema

/-- Drops extension keywords. Only text can be told to be one. -/
def dropExtensions : List (Value × Value) → Except Fault Entries
  | [] => .ok []
  | (key, v) :: rest => do
    match key.str?, key with
    | some keyword, _ =>
      let rest ← dropExtensions rest
      return if keyword.startsWith "x-" then rest else (key, v) :: rest
    | none, .bytes _ | none, .hostType .str | none, .hostType .bytes => throw .wrongType
    | none, _ => throw (key.lacks "startswith").fault

/-- Closes records, without derived fields and with every property required. -/
def closeStrictly (schema : Entries) : Except Fault Entries := do
  let schema ← dropExtensions schema
  let schema := match schema.field? "properties" with
    | some (.map properties) =>
      let kept := properties.filter fun (_, schema) => !isReadOnly schema
      (schema.setField "properties" (.map kept)).setField "required" (.list (Entries.keys kept))
    | _ => schema
  return if describesRecord schema then close schema else schema

/-! Changes of whole documents for profiles of one's own. -/

/-- Puts a mark into a document. -/
def marked : Value → Except Fault Value
  | .map entries => .ok (.map (Entries.setField entries "x-target" (.str "custom")))
  | _ => .error .wrongType

/-- Empties a document. -/
def cleared : Value → Except Fault Value
  | .map _ => .ok (.map [])
  | .list _ => .ok (.list [])
  | .set _ => .ok (.set [])
  | v => .error (v.lacks "clear").fault

/-- A document without titles. -/
def untitled (document : Value) : Except Fault Value :=
  changeAll (fun entries => .ok (entries.dropField "title")) document

/-- The change of a name; any other name changes nothing. -/
def changeNamed : String → Value → Except Fault Value
  | "marker" => marked
  | "clear" => cleared
  | "untitle" => untitled
  | _ => .ok

end Document

structure Profile where
  name : String
  description : String
  change : Value → Except Fault Value

/-- Profiles by name, each name once. -/
structure Profiles where
  listed : List Profile := []

inductive ProfileError where
  | taken (name : String)
  | absent (name : String)
  | unknown (name : String) (known : List String)
  deriving DecidableEq, Repr

def ProfileError.message : ProfileError → String
  | .taken name =>
    "Profile " ++ name ++ " is already registered. Unregister the existing profile first."
  | .absent name => "Profile " ++ name ++ " is not registered."
  | .unknown name known =>
    "Unknown target profile '" ++ name ++ "'. Registered: " ++
      (Value.list (known.map .str)).literal ++ "."

namespace Profiles

/-- Looks a profile up; case does not count. -/
def get? (profiles : Profiles) (name : String) : Option Profile :=
  profiles.listed.find? (·.name = Text.lower name)

def contains (profiles : Profiles) (name : String) : Bool := (profiles.get? name).isSome

def names (profiles : Profiles) : List String := sortTexts (profiles.listed.map Profile.name)

def register (profiles : Profiles) (name description : String)
    (change : Value → Except Fault Value) : Except ProfileError Profiles :=
  let key := Text.lower name
  if profiles.contains name then .error (.taken key)
  else .ok ⟨profiles.listed ++ [⟨key, description, change⟩]⟩

def unregister (profiles : Profiles) (name : String) : Except ProfileError Profiles :=
  let key := Text.lower name
  if profiles.contains name then .ok ⟨profiles.listed.filter (·.name ≠ key)⟩
  else .error (.absent key)

/-- The profiles that are there from the start. -/
def builtIn : Profiles where
  listed :=
    [⟨"generic", "Identity transform.", .ok⟩,
     ⟨"openai", "Closed records, properties always present, no date/time/email formats.",
       Document.changeAll Document.closeWithProperties⟩,
     ⟨"anthropic", "Closed records, required always present, no uri/uuid formats.",
       Document.changeAll Document.closeWithRequired⟩,
     ⟨"strict_output",
       "Closed records, every property required, no readOnly properties or x- extensions.",
       Document.changeAll Document.closeStrictly⟩]

/-- Fits a document to a profile. -/
def enforce (profiles : Profiles) (name : String) (document : Value) :
    Except (Failing ProfileError) Value :=
  match profiles.get? name with
  | none => .error (.reason (.unknown name profiles.names))
  | some profile => Failing.ofFault (document.copy >>= profile.change)

end Profiles
end RecordSchema
