import RecordSchema.Value.Ring

/-! Equality of data. Numbers are equal by exact value whatever their kind, so 1, 1.0 and true are
one key; text and members are equal by content; lists and tuples differ; maps and sets disregard
order. A number that is none equals nothing, but inside of other data it is the same as itself.
Comparing two values that hold themselves may not come to an end. -/

namespace RecordSchema.Value

mutual

/-- Equality, of values by themselves or `inside` of others. -/
def equalAt (inside : Bool) : Value → Value → Bool
  | .null, .null => true
  | .nan a, .nan b => inside && a == b
  | .bool b, w => w.quantity?.any (Quantity.ofInt (if b then 1 else 0)).eq
  | .int n, w => w.quantity?.any (Quantity.ofInt n).eq
  | .float x, w => w.quantity?.any x.quantity.eq
  | .str s, w => w.str? == some s
  | .member m, w => w.str? == some m.label
  | .bytes b, .bytes c => b == c
  | .list vs, w => match w.unfolded with
    | .list ws => equalLists vs ws
    | _ => false
  | .tuple vs, .tuple ws => equalLists vs ws
  | .set vs, .set ws => vs.length == ws.length && allAmong vs ws
  | .map es, w | .view es, w => match w.unfolded.entries? with
    | some fs => es.length == fs.length && entriesAmong es fs
    | none => false
  | .record .attributes ps, .record .attributes qs => ps.length == qs.length && partsAmong ps qs
  | .record k ps, .record l qs => k.agrees l && equalParts k ps qs
  | .violation a, .violation b => a == b
  | .hostType a, .hostType b => a == b
  | .foreign a, .foreign b => a.isSame b
  | .ring l _, .ring m _ => inside && l == m
  | _, _ => false
  termination_by structural v => v

def equalLists : List Value → List Value → Bool
  | [], [] => true
  | v :: vs, w :: ws => equalAt true v w && equalLists vs ws
  | _, _ => false
  termination_by structural vs => vs

/-- Whether every value of the first list is one of the second. -/
def allAmong : List Value → List Value → Bool
  | [], _ => true
  | v :: vs, ws => ws.any (equalAt true v) && allAmong vs ws
  termination_by structural vs => vs

/-- Whether every entry of the first map has an equal one in the second. -/
def entriesAmong : List (Value × Value) → List (Value × Value) → Bool
  | [], _ => true
  | (k, v) :: es, fs =>
    fs.any (fun (l, w) => equalAt true k l && equalAt true v w) && entriesAmong es fs
  termination_by structural es => es

def equalParts (kind : RecordKind) : List (String × Value) → List (String × Value) → Bool
  | [], [] => true
  | (n, v) :: ps, (m, w) :: qs =>
    n == m && (kind.hides n || equalAt true v w) && equalParts kind ps qs
  | _, _ => false
  termination_by structural ps => ps

def partsAmong : List (String × Value) → List (String × Value) → Bool
  | [], _ => true
  | (n, v) :: ps, qs => qs.any (fun (m, w) => n == m && equalAt true v w) && partsAmong ps qs
  termination_by structural ps => ps

end

def equal (v w : Value) : Bool := equalAt false v w

/-- Equality of values that hold themselves, part by part; a ring inside of others is the same as
itself. There is no answer if it takes more than some levels. -/
def compareTo : Nat → Bool → Value → Value → Option Bool
  | 0, _, _, _ => none
  | levels + 1, inside, v, w =>
    if inside && isRing v w then some true
    else match v.unfolded, w.unfolded with
      | .list vs, .list ws | .tuple vs, .tuple ws =>
        if vs.length = ws.length then
          allOf (vs.zip ws) fun (v, w) => compareTo levels true v w
        else some false
      | .record .attributes ps, .record .attributes qs =>
        if ps.length = qs.length then
          allOf ps fun (name, v) =>
            match qs.lookup name with
            | some w => compareTo levels true v w
            | none => some false
        else some false
      | .record k ps, .record l qs =>
        if k.agrees l && ps.length = qs.length then
          allOf (ps.zip qs) fun ((n, v), (m, w)) =>
            if n ≠ m then some false
            else if k.hides n then some true
            else compareTo levels true v w
        else some false
      | v, w =>
        match v.entries?, w.entries? with
        | some es, some fs =>
          if es.length = fs.length then
            allOf es fun (k, v) =>
              match fs.find? fun (l, _) => equalAt true k l with
              | some (_, w) => compareTo levels true v w
              | none => some false
          else some false
        | _, _ => some (equalAt inside v w)
where
  isRing : Value → Value → Bool
    | .ring l _, .ring m _ => l = m
    | _, _ => false
  /-- Whether all items pass, in order; the first that does not decides. -/
  allOf {α : Type} (items : List α) (holds : α → Option Bool) : Option Bool :=
    items.foldl (fun done item => match done with
      | some true => holds item
      | done => done) (some true)

/-- Equality of any two values, unless comparing them would go on for ever. -/
def equal? (v w : Value) : Option Bool :=
  if v.hasEnd then some (v.equal w)
  else if w.hasEnd then some (w.equal v)
  else compareTo deepest false v w

/-- Whether two values are one inside of other data: as items and as keys. -/
def same (v w : Value) : Bool := equalAt true v w

end RecordSchema.Value

namespace RecordSchema.Entries

open Value

def value? (entries : Entries) (key : Value) : Option Value :=
  (List.find? (fun (k, _) => k.same key) entries).map Prod.snd

def hasKey (entries : Entries) (key : Value) : Bool := entries.any fun (k, _) => k.same key

/-- Replaces the value of an equal key, which keeps its place and spelling, or adds an entry. -/
def put : Entries → Value → Value → Entries
  | [], key, value => [(key, value)]
  | (k, v) :: rest, key, value =>
    if k.same key then (k, value) :: rest else (k, v) :: put rest key value

def eraseKey (entries : Entries) (key : Value) : Entries :=
  List.filter (fun (k, _) => !k.same key) entries

/-- Puts the entries of the second map into the first. -/
def update (entries others : Entries) : Entries :=
  others.foldl (fun done (k, v) => put done k v) entries

/-- A map of entries given one after another. -/
def ofPairs (entries : List (Value × Value)) : Entries := update [] entries

def keys (entries : Entries) : List Value := List.map Prod.fst entries

/-- The value of a text key. -/
def field? : Entries → String → Option Value
  | [], _ => none
  | (k, v) :: rest, name => if k.str? = some name then some v else field? rest name

def hasField (entries : Entries) (name : String) : Bool := (field? entries name).isSome

/-- Replaces the value of a text key, or adds an entry. -/
def setField : Entries → String → Value → Entries
  | [], name, value => [(.str name, value)]
  | (k, v) :: rest, name, value =>
    if k.str? = some name then (k, value) :: rest else (k, v) :: setField rest name value

def dropField (entries : Entries) (name : String) : Entries :=
  List.filter (fun (k, _) => k.str? ≠ some name) entries

theorem field?_setField_self (entries : Entries) (name : String) (v : Value) :
    (setField entries name v).field? name = some v := by
  induction entries with
  | nil => simp [setField, field?, Value.str?]
  | cons entry rest ih =>
    obtain ⟨k, w⟩ := entry
    by_cases here : k.str? = some name
    · simp [setField, field?, here]
    · simp [setField, field?, here, ih]

theorem field?_setField_of_ne (entries : Entries) {name other : String} (v : Value)
    (differ : other ≠ name) : (setField entries name v).field? other = entries.field? other := by
  induction entries with
  | nil => simp [setField, field?, Value.str?, differ.symm]
  | cons entry rest ih =>
    obtain ⟨k, w⟩ := entry
    by_cases here : k.str? = some name
    · simp [setField, field?, here, differ.symm]
    · simp [setField, field?, here, ih]

theorem setField_of_absent {entries : Entries} {name : String} (v : Value) (absent : entries.field? name = none) :
    entries.setField name v = entries ++ [(.str name, v)] := by
  induction entries with
  | nil => rfl
  | cons entry rest ih =>
    obtain ⟨k, w⟩ := entry
    rw [field?] at absent
    split at absent
    next => cases absent
    next other => rw [setField, if_neg other, ih absent, List.cons_append]

theorem field?_dropField_self (entries : Entries) (name : String) :
    (dropField entries name).field? name = none := by
  induction entries with
  | nil => rfl
  | cons entry rest ih =>
    obtain ⟨k, v⟩ := entry
    by_cases here : k.str? = some name <;> simp_all [dropField, field?]

theorem field?_dropField_of_ne (entries : Entries) {name other : String} (differ : other ≠ name) :
    (dropField entries name).field? other = entries.field? other := by
  induction entries with
  | nil => rfl
  | cons entry rest ih =>
    obtain ⟨k, v⟩ := entry
    by_cases here : k.str? = some name
    · simp_all [dropField, field?, differ.symm]
    · simp_all [dropField, field?]

end RecordSchema.Entries
