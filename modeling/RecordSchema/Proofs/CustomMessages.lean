import RecordSchema.Proofs.BuiltSchema
import RecordSchema.Proofs.Completion
import RecordSchema.Proofs.RewordedDocuments
import RecordSchema.Proofs.RewordedRuns
import RecordSchema.Proofs.SizeBounds

/-! Messages that authors give to constraints of fields. Leaving them out changes neither whether a schema can be
built, nor its documents, nor any verdict but for the words in which violated constraints are reported. Main statements:
`messages_inert`, and `code_untold` for a bound of so many digits that only the author's own words can be told. -/

namespace RecordSchema

/-- Messages as they are meant to be given: text by names of constraints. What is not true stands for no messages. -/
def Expr.IsMessages (e : Expr) : Prop :=
  e.isTrue = true → ∃ entries, e.entries? = some entries ∧
    ∀ entry ∈ entries, (∃ kind, ConstraintKind.ofExpr entry.1 = .ok kind) ∧ entry.2.toValue.str?.isSome = true

namespace Messages

/-- Every message is text. -/
def AreTexts (messages : Messages) : Prop := ∀ entry ∈ messages, entry.2.str?.isSome = true

theorem ofEntries_texts {entries : List (Expr × Expr)}
    (sound : ∀ entry ∈ entries, (∃ kind, ConstraintKind.ofExpr entry.1 = .ok kind) ∧ entry.2.toValue.str?.isSome = true)
    {done : Messages} (texts : done.AreTexts) : ∃ messages, ofEntries done entries = .ok messages ∧ AreTexts messages := by
  induction entries generalizing done with
  | nil => exact ⟨done, rfl, texts⟩
  | cons entry rest ih =>
    obtain ⟨⟨⟨kind, named⟩, text⟩, others⟩ := List.forall_mem_cons.mp sound
    have more : AreTexts ((kind, entry.2.toValue) :: done) := List.forall_mem_cons.mpr ⟨text, texts⟩
    obtain ⟨messages, read, all⟩ := ih others more
    refine ⟨messages, ?_, all⟩
    rw [ofEntries, named]
    exact read

theorem ofExpr_texts {e : Expr} (sound : e.IsMessages) : ∃ messages, ofExpr e = .ok messages ∧ AreTexts messages := by
  unfold ofExpr
  cases given : e.isTrue with
  | false => exact ⟨[], rfl, List.forall_mem_nil _⟩
  | true =>
    obtain ⟨entries, mapping, each⟩ := sound given
    rw [mapping]
    exact ofEntries_texts each (List.forall_mem_nil _)

theorem AreTexts.lookup {messages : Messages} (texts : messages.AreTexts) {kind : ConstraintKind} {message : Value}
    (found : messages.lookup kind = some message) : message.str?.isSome = true := by
  obtain ⟨before, after, same, -⟩ := List.lookup_eq_some_iff.mp found
  exact texts (kind, message) (same ▸ List.mem_append_right _ List.mem_cons_self)

end Messages

namespace Constraint

/-- A constraint that may have a text for its message where another, that is the same otherwise, has none. -/
structure Told (c d : Constraint) : Prop where
  kind : d.kind = c.kind
  bound : d.bound = c.bound
  message : c.message = d.message ∨ d.message = .null ∧ c.message.str?.isSome = true

theorem Told.refl (c : Constraint) : c.Told c := ⟨rfl, rfl, .inl rfl⟩

variable {c d : Constraint}

theorem Told.requireBound (told : c.Told d) (type : String) : d.requireBound type = c.requireBound type := by
  unfold Constraint.requireBound
  rw [told.kind, told.bound]

theorem Told.apply (told : c.Told d) {messages : Messages} (texts : messages.AreTexts) : (messages.apply c).Told d := by
  obtain ⟨kind, bound⟩ := messages.apply_kept c
  refine ⟨told.kind.trans kind.symm, told.bound.trans bound.symm, ?_⟩
  unfold Messages.apply
  split
  next message none found =>
    obtain same | ⟨null, -⟩ := told.message
    · exact .inr ⟨same ▸ none, texts.lookup found⟩
    · exact .inr ⟨null, texts.lookup found⟩
  next => exact told.message

theorem Told.defaultMessage (told : c.Told d) : d.defaultMessage = c.defaultMessage := by
  unfold Constraint.defaultMessage
  rw [told.kind, told.bound]

/-- The usual message tells the bound, whatever the kind of the constraint. -/
theorem Bounded.defaultMessage_lost (bounded : c.Bounded) (unwritten : c.bound.hasText = false) :
    c.defaultMessage = .error .badValue := by
  have unread : ¬ c.bound.hasText = true := Bool.eq_false_iff.mp unwritten
  unfold Constraint.defaultMessage
  cases kind : c.kind with
  | choices =>
    obtain ⟨items, bound⟩ := bounded.choices kind
    rw [bound] at unread ⊢
    have lost : (Value.list items).writtenLiteral = .error .badValue := if_neg unread
    show (Value.list items).writtenLiteral >>= _ = _
    rw [lost]
    rfl
  | pattern =>
    have lost : c.bound.writtenLiteral = .error .badValue := if_neg unread
    rw [lost]
    rfl
  | _ =>
    have lost : c.bound.writtenText = .error .badValue := if_neg unread
    rw [lost]
    rfl

/-- A violation can be told in either way, since the bound is one that can be told; unless it has too many digits, and only
the author's own words do without them. -/
theorem Told.reworded {lost : Fault → Prop} (told : c.Told d) (bounded : d.Bounded)
    (excused : c.message.isTrue = true → c.bound.hasText = false → lost .badValue) : c.Reworded lost d := by
  refine ⟨told.kind, told.bound, ?_⟩
  obtain ⟨type, passed⟩ := bounded
  have same : c.Bounded := ⟨type, (told.requireBound type).symm.trans passed⟩
  cases own : c.message.isTrue with
  | false =>
    have silent : d.message.isTrue = false := by
      obtain same | ⟨null, -⟩ := told.message
      · rw [← same, own]
      · rw [null]
        rfl
    have alike : d.violationText = c.violationText := by
      simp only [violationText, violationMessage, own, silent, told.defaultMessage, Bool.false_eq_true, if_false]
    rw [alike]
    exact .both (.of_eq (fun _ => rfl) (fun _ => trivial) _)
  | true =>
    obtain alike | ⟨null, text⟩ := told.message
    · have whole : d.violationText = c.violationText := by
        simp only [violationText, violationMessage, told.defaultMessage, alike]
      rw [whole]
      exact .both (.of_eq (fun _ => rfl) (fun _ => trivial) _)
    · have printable : c.IsPrintable := fun none => by rw [own] at none; cases none
      obtain ⟨said, spoken⟩ := violationText_returns same (IsTold.tellable (.inr text)) printable
      rw [spoken]
      cases written : c.bound.hasText with
      | true =>
        have usual : d.IsPrintable := fun _ => told.bound ▸ written
        obtain ⟨default, silent⟩ := violationText_returns ⟨type, passed⟩ (IsTold.tellable (.inl null)) usual
        rw [silent]
        exact .ok trivial
      | false =>
        have untold : d.violationText = .error .badValue := by
          rw [violationText, violationMessage, null, told.defaultMessage, same.defaultMessage_lost written]
          rfl
        rw [untold]
        exact .lost (excused own written)

/-! Constraints are read alike, whatever the messages. -/

variable {messages : Messages} (texts : messages.AreTexts)
include texts

theorem ofPair_told (name bound : Expr) :
    Except.Related (fun _ _ => True) Told (ofPair messages name bound) (ofPair [] name bound) := by
  unfold ofPair
  refine .bind_same (fun _ => trivial) fun kind => ?_
  refine .ok ⟨rfl, rfl, ?_⟩
  cases found : messages.lookup kind with
  | none => exact .inl rfl
  | some message => exact .inr ⟨rfl, texts.lookup found⟩

theorem ofItem_told (e : Expr) :
    Except.Related (fun _ _ => True) Told (ofItem messages e) (ofItem [] e) := by
  unfold ofItem
  split
  next c =>
    have kept : Messages.apply [] c = c := by unfold Messages.apply; split <;> simp_all
    rw [kept]
    exact .ok ((Told.refl c).apply texts)
  next =>
    split
    next => exact ofPair_told texts _ _
    next => exact .error trivial
    next => exact .error trivial

theorem ofItems_told (items : List Expr) :
    Except.Related (fun _ _ => True) (List.Forall₂ Told) (ofItems messages items) (ofItems [] items) := by
  induction items with
  | nil => exact .ok .nil
  | cons e rest ih =>
    exact (ofItem_told texts e).bind fun _ _ first => ih.bind fun _ _ others => .ok (.cons first others)

theorem ofEntries_told (entries : List (Expr × Expr)) :
    Except.Related (fun _ _ => True) (List.Forall₂ Told) (ofEntries messages entries) (ofEntries [] entries) := by
  induction entries with
  | nil => exact .ok .nil
  | cons entry rest ih =>
    exact (ofPair_told texts entry.1 entry.2).bind fun _ _ first => ih.bind fun _ _ others => .ok (.cons first others)

omit texts in
theorem ofExpr_told (e : Expr) {given : Expr} (sound : given.IsMessages) :
    Except.Related (fun _ _ => True) (List.Forall₂ Told) (ofExpr e given) (ofExpr e .null) := by
  obtain ⟨messages, read, texts⟩ := Messages.ofExpr_texts sound
  unfold ofExpr
  split
  next => exact .ok .nil
  next =>
    have silent : Messages.ofExpr .null = .ok [] := rfl
    rw [read, silent, Except.ok_bind, Except.ok_bind]
    cases e.entries? with
    | some entries => exact ofEntries_told texts entries
    | none =>
      cases e.elements? with
      | some items => exact ofItems_told texts items
      | none => exact .error trivial

end Constraint

namespace SchemaType

variable {cs ds : List Constraint}

theorem requireConstraints_told (t : SchemaType) (each : List.Forall₂ Constraint.Told cs ds) :
    t.requireConstraints ds = t.requireConstraints cs := by
  induction each with
  | nil => rfl
  | cons first _ ih => simp only [requireConstraints, first.kind, first.requireBound, ih]

theorem lastBound?_told (kind : ConstraintKind) (each : List.Forall₂ Constraint.Told cs ds) :
    Constraint.lastBound? kind ds = Constraint.lastBound? kind cs := by
  induction each with
  | nil => rfl
  | cons first _ ih => simp only [Constraint.lastBound?, first.kind, first.bound, ih]

theorem requireOrder_told (type : String) (each : List.Forall₂ Constraint.Told cs ds) :
    Constraint.requireOrder type ds = Constraint.requireOrder type cs := by
  have pairs (rest : List (ConstraintKind × ConstraintKind)) :
      Constraint.requireOrder.go type ds rest = Constraint.requireOrder.go type cs rest := by
    induction rest with
    | nil => rfl
    | cons pair rest ih => simp only [Constraint.requireOrder.go, lastBound?_told _ each, ih]
  exact pairs _

/-- One type with constraints that are told in different words. -/
def Told (t u : SchemaType) : Prop :=
  ∃ base cs ds, List.Forall₂ Constraint.Told cs ds ∧ t = withConstraints base cs ∧ u = withConstraints base ds

private theorem sameWords (cs : List Constraint) : List.Forall₂ Constraint.Told cs cs :=
  List.forall₂_same.mpr fun c _ => .refl c

theorem withConstraints_own (t : SchemaType) : t.withConstraints t.constraints = t := by cases t <;> rfl

theorem attach_told (t : SchemaType) (each : List.Forall₂ Constraint.Told cs ds) :
    Except.Related (fun _ _ => True) Told (t.attach cs) (t.attach ds) := by
  cases each with
  | nil =>
    have own := t.withConstraints_own.symm
    exact .ok ⟨t, t.constraints, t.constraints, sameWords _, own, own⟩
  | @cons c d rest others first more =>
    have all := List.Forall₂.cons first more
    have whole : List.Forall₂ Constraint.Told (t.constraints ++ c :: rest) (t.constraints ++ d :: others) :=
      List.rel_append (sameWords t.constraints) all
    have checked : Except.Related (fun _ _ => True) Told
        (do t.requireConstraints (c :: rest)
            Constraint.requireOrder t.describe (t.constraints ++ c :: rest)
            return t.withConstraints (t.constraints ++ c :: rest))
        (do t.requireConstraints (d :: others)
            Constraint.requireOrder t.describe (t.constraints ++ d :: others)
            return t.withConstraints (t.constraints ++ d :: others)) := by
      rw [t.requireConstraints_told all, requireOrder_told _ whole]
      refine .bind_same (fun _ => trivial) fun _ => .bind_same (fun _ => trivial) fun _ => ?_
      exact .ok ⟨t, _, _, whole, rfl, rfl⟩
    cases t with
    | ref name target => exact .error trivial
    | primitive | array | map | union => exact checked

theorem Told.withMessages {t u : SchemaType} (told : t.Told u) {messages : Messages} (texts : messages.AreTexts) :
    (t.withMessages messages).Told u := by
  obtain ⟨base, cs, ds, each, rfl, rfl⟩ := told
  have mapped : List.Forall₂ Constraint.Told (cs.map messages.apply) ds :=
    List.forall₂_map_left_iff.mpr (each.imp fun _ _ first => first.apply texts)
  exact ⟨base, _, ds, mapped, by cases base <;> rfl, rfl⟩

theorem Told.reworded {lost : Fault → Prop} {t u : SchemaType} (told : t.Told u) (bounded : u.Bounded)
    (excused : ∀ c ∈ t.constraints, c.message.isTrue = true → c.bound.hasText = false → lost .badValue) : t.Reworded lost u := by
  obtain ⟨base, cs, ds, each, rfl, rfl⟩ := told
  have own (all : ∀ d ∈ ds, d.Bounded)
      (unwritten : ∀ c ∈ cs, c.message.isTrue = true → c.bound.hasText = false → lost .badValue) :
      List.Forall₂ (Constraint.Reworded lost) cs ds := by
    clear bounded excused
    induction each with
    | nil => exact .nil
    | cons first _ ih =>
      obtain ⟨here, others⟩ := List.forall_mem_cons.mp all
      obtain ⟨lostHere, lostLater⟩ := List.forall_mem_cons.mp unwritten
      exact .cons (first.reworded here lostHere) (ih others lostLater)
  cases base with
  | primitive => exact .primitive (own bounded excused)
  | array => exact .array (own (List.forall_mem_append.mp bounded).1 excused)
  | map => exact .map (own (List.forall_mem_append.mp bounded).1 excused)
  | union => exact .union (own (List.forall_mem_append.mp bounded).1 excused)
  | ref name target => exact .ref name target

/-- A type can be read with messages exactly if it can be read without, and then it is the same type with other words. -/
theorem normalize_told (e constraints : Expr) {messages : Expr} (sound : messages.IsMessages) :
    Except.Related (fun _ _ => True) (fun t u => t.Told u ∧ u.Bounded) (normalize e constraints messages)
      (normalize e constraints .null) := by
  have told : Except.Related (fun _ _ => True) Told (normalize e constraints messages) (normalize e constraints .null) := by
    unfold normalize
    refine (Constraint.ofExpr_told constraints sound).bind fun cs ds each => ?_
    refine .bind_same (fun _ => trivial) fun base => ?_
    refine (base.attach_told each).bind fun t u told => ?_
    rw [if_neg (show ¬ Expr.null.isTrue = true from Bool.false_ne_true)]
    split
    next =>
      obtain ⟨read, given, texts⟩ := Messages.ofExpr_texts sound
      rw [given]
      exact .ok (told.withMessages texts)
    next => exact .ok told
  generalize normalize e constraints messages = spoken, silent : normalize e constraints .null = plain at told
  cases told with
  | error => exact .error trivial
  | ok told => exact .ok ⟨told, normalize_bounded silent⟩

end SchemaType

/-- A field whose constraints are told in other words, and have bounds that can be told if they can be written. -/
inductive Field.Told (f : Field) : Field → Prop where
  | intro {type : SchemaType} (types : f.type.Told type) (bounded : type.Bounded) : Told f { f with type }

namespace Declaration

/-- Whether an option gives messages. -/
def isMessages (option : Expr × Expr) : Bool := option.1.str? = some "messages"

/-- Options of a definition that do not give messages. -/
def withoutOption (options : List (Expr × Expr)) : List (Expr × Expr) := options.filter (!isMessages ·)

/-- A definition of a field without the messages for its constraints. -/
def withoutMessages : Expr → Expr
  | .list [name, type, options] => .list [name, type, silent options]
  | .tuple [name, type, options] => .tuple [name, type, silent options]
  | definition => definition
where
  silent : Expr → Expr
    | .map options => .map (withoutOption options)
    | .view options => .view (withoutOption options)
    | options => options

/-- Messages among options are as they are meant to be given. -/
def MessagesIn (given : List (Expr × Expr)) : Prop := ∀ option ∈ given, isMessages option = true → option.2.IsMessages

/-- A definition of a field, with such messages for its constraints. -/
def GivesMessages (definition : Expr) : Prop :=
  ∀ name type options given, definition.sequence? = some [name, type, options] → options.entries? = some given →
    MessagesIn given

/-- The parts of two definitions that differ in messages only. -/
structure SameParts (first second : Name × Expr × List (Expr × Expr)) : Prop where
  name : second.1 = first.1
  type : second.2.1 = first.2.1
  given : second.2.2 = withoutOption first.2.2
  sound : MessagesIn first.2.2

theorem parts_options {definition other name type options : Expr} (own : definition.sequence? = some [name, type, options])
    (silenced : other.sequence? = some [name, type, withoutMessages.silent options])
    (sound : ∀ given, options.entries? = some given → MessagesIn given) (position : Nat) :
    Except.Related (fun _ _ => True) SameParts (parts position definition) (parts position other) := by
  unfold parts
  rw [own, silenced]
  refine .bind_same (fun _ => trivial) fun label => ?_
  cases options with
  | map given => exact .ok ⟨rfl, rfl, rfl, sound given rfl⟩
  | view given => exact .ok ⟨rfl, rfl, rfl, sound given rfl⟩
  | data v =>
    cases v with
    | null => exact .ok ⟨rfl, rfl, rfl, List.forall_mem_nil _⟩
    | _ => exact .error trivial
  | _ => exact .error trivial

theorem parts_withoutMessages {definition : Expr} (sound : GivesMessages definition) (position : Nat) :
    Except.Related (fun _ _ => True) SameParts (parts position definition) (parts position (withoutMessages definition)) := by
  unfold withoutMessages
  split
  next name type options => exact parts_options rfl rfl (sound name type options · rfl) position
  next name type options => exact parts_options rfl rfl (sound name type options · rfl) position
  next noList noTuple =>
    unfold parts
    split
    next name type _ =>
      exact .bind_same (fun _ => trivial) fun _ => .ok ⟨rfl, rfl, rfl, List.forall_mem_nil _⟩
    next name type options spelled =>
      cases definition with
      | list items => cases spelled; exact absurd rfl (noList name type options)
      | tuple items => cases spelled; exact absurd rfl (noTuple name type options)
      | _ => cases spelled
    next => exact .error trivial

namespace Options

/-- Options about a field without the messages. -/
def withoutMessages (options : Options) : Options := { options with about := withoutOption options.about }

theorem withoutOption_cons (option : Expr × Expr) (rest : List (Expr × Expr)) :
    withoutOption (option :: rest) = if isMessages option then withoutOption rest else option :: withoutOption rest := by
  unfold withoutOption
  rw [List.filter_cons]
  cases isMessages option <;> rfl

theorem ofEntries_withoutMessages (field : String) (given : List (Expr × Expr)) :
    ofEntries field (withoutOption given) = withoutMessages <$> ofEntries field given := by
  induction given with
  | nil => rfl
  | cons option rest ih =>
    obtain ⟨key, e⟩ := option
    rw [withoutOption_cons, ofEntries]
    cases told : isMessages (key, e) with
    | true =>
      have named : key.str? = some "messages" := of_decide_eq_true told
      have about : key.str?.any fieldOptions.contains = true := by rw [named]; rfl
      simp only [about, ih, Bool.not_true, Bool.false_and, Bool.false_eq_true, if_false, if_true]
      cases ofEntries field rest with
      | error reason => rfl
      | ok options =>
        show Except.ok _ = Except.ok (withoutMessages { options with about := (key, e) :: options.about })
        rw [withoutMessages, withoutMessages, withoutOption_cons, if_pos told]
    | false =>
      rw [if_neg Bool.false_ne_true, ofEntries, ih]
      split
      next => rfl
      next =>
        cases ofEntries field rest with
        | error reason => rfl
        | ok options =>
          cases key.str?.any fieldOptions.contains with
          | true =>
            show Except.ok _ = Except.ok (withoutMessages { options with about := (key, e) :: options.about })
            rw [withoutMessages, withoutMessages, withoutOption_cons, told, if_neg Bool.false_ne_true]
          | false => rfl

variable (options : Options)

theorem option?_withoutMessages {name : String} (other : name ≠ "messages") :
    options.withoutMessages.option? name = options.option? name := by
  unfold option? fieldOf? withoutMessages withoutOption
  rw [List.find?_filter]
  congr 2
  funext option
  by_cases same : option.1.str? = some name
  · simp [same, isMessages, other]
  · simp [same]

theorem messages_withoutMessages : options.withoutMessages.option? "messages" = none := by
  unfold option? fieldOf? withoutMessages withoutOption
  rw [List.find?_filter, Option.map_eq_none_iff]
  simp [isMessages]

theorem isOn_withoutMessages {name : String} (other : name ≠ "messages") :
    options.withoutMessages.isOn name = options.isOn name := by
  rw [isOn, isOn, option?_withoutMessages options other]

theorem description_withoutMessages : options.withoutMessages.description = options.description := by
  rw [description, description, option?_withoutMessages options (by decide)]

theorem examples_withoutMessages (field : String) : options.withoutMessages.examples field = options.examples field := by
  rw [examples, examples, option?_withoutMessages options (by decide), option?_withoutMessages options (by decide)]

theorem extra_withoutMessages (field : String) : options.withoutMessages.extra field = options.extra field := by
  rw [extra, extra, option?_withoutMessages options (by decide)]

theorem about_subset {field : String} {given : List (Expr × Expr)} {options : Options}
    (read : ofEntries field given = .ok options) : options.about ⊆ given := by
  induction given generalizing options with
  | nil => cases read; exact List.nil_subset _
  | cons option rest ih =>
    rw [ofEntries] at read
    obtain ⟨-, read⟩ := Except.guard_eq_ok.mp read
    obtain ⟨others, remaining, same⟩ := Except.bind_eq_ok.mp read
    have inner := ih remaining
    split at same
    next => cases same; exact List.cons_subset_cons _ inner
    next => cases same; exact List.subset_cons_of_subset _ inner

/-- The messages that count are among those that are given. -/
theorem messages_sound {field : String} {given : List (Expr × Expr)} (sound : MessagesIn given) {options : Options}
    (read : ofEntries field given = .ok options) : ((options.option? "messages").getD .null).IsMessages := by
  cases found : options.option? "messages" with
  | none => exact fun impossible => absurd impossible Bool.false_ne_true
  | some e =>
    obtain ⟨option, first, rfl⟩ := Option.map_eq_some_iff.mp found
    exact sound option (about_subset read (List.mem_of_find?_eq_some first)) (List.find?_some first)

end Options

theorem type_told (declared : Declared) (e constraints : Expr) {messages : Expr} (sound : messages.IsMessages) :
    Except.Related (fun _ _ => True) (fun t u => t.Told u ∧ u.Bounded) (Declaration.type declared e constraints messages)
      (Declaration.type declared e constraints .null) := by
  have types := SchemaType.normalize_told e constraints sound
  unfold Declaration.type
  generalize SchemaType.normalize e constraints messages = spoken, SchemaType.normalize e constraints .null = plain at types
  cases types with
  | error => exact .error trivial
  | ok types => exact .ok types

theorem field_withoutMessages (name : Name) (type : Expr) {given : List (Expr × Expr)} (sound : MessagesIn given) :
    Except.Related (fun _ _ => True) Field.Told (field name type given) (field name type (withoutOption given)) := by
  have silenced := Options.ofEntries_withoutMessages name.shown given
  unfold field
  dsimp only
  rw [silenced]
  cases read : Options.ofEntries name.shown given with
  | error => exact .error trivial
  | ok options =>
    show Except.Related _ _ (Declaration.type _ _ _ _ >>= _) (Declaration.type _ _ _ _ >>= _)
    simp only [Options.option?_withoutMessages options (show "default" ≠ "messages" by decide),
      Options.option?_withoutMessages options (show "required" ≠ "messages" by decide),
      Options.isOn_withoutMessages options (show "optional" ≠ "messages" by decide),
      Options.isOn_withoutMessages options (show "required" ≠ "messages" by decide),
      Options.messages_withoutMessages, Options.description_withoutMessages, Options.examples_withoutMessages,
      Options.extra_withoutMessages]
    refine (type_told _ _ _ (Options.messages_sound sound read)).bind fun t u types => ?_
    refine .guard trivial (.guard trivial ?_)
    refine .bind_same (fun _ => trivial) fun examples => ?_
    refine .bind_same (fun _ => trivial) fun extra => ?_
    exact .ok (.intro types.1 types.2)

theorem fields_withoutMessages (schema : String) {items : List Expr} (sound : ∀ definition ∈ items, GivesMessages definition)
    (taken : List String) (position : Nat) :
    Except.Related (fun _ _ => True) (List.Forall₂ Field.Told) (fields schema taken position items)
      (fields schema taken position (items.map withoutMessages)) := by
  induction items generalizing taken position with
  | nil => exact .ok .nil
  | cons definition rest ih =>
    obtain ⟨first, others⟩ := List.forall_mem_cons.mp sound
    rw [List.map_cons, fields, fields]
    refine (parts_withoutMessages first position).bind ?_
    rintro ⟨name, type, given⟩ ⟨_, _, _⟩ ⟨named, typed, left, told⟩
    cases named
    cases typed
    cases left
    refine .guard trivial ((field_withoutMessages name type told).bind fun f g made => ?_)
    exact (ih others _ _).bind fun _ _ remaining => .ok (.cons made remaining)

/-- What is lost without messages: a constraint that has one, with a bound that cannot be written. -/
def Unwritten (schema : String) (items : List Expr) (fault : Fault) : Prop :=
  fault = .badValue ∧ ∃ fs, fields schema [] 1 items = .ok fs ∧
    ∃ f ∈ fs, ∃ c ∈ f.type.constraints, c.message.isTrue = true ∧ c.bound.hasText = false

/-- Fields without messages are fields in other words. -/
theorem fields_reworded {schema : String} {items : List Expr} {fs gs : List Field} (read : fields schema [] 1 items = .ok fs)
    (told : List.Forall₂ Field.Told fs gs) : List.Forall₂ (Field.Reworded (Unwritten schema items)) fs gs := by
  have excused : ∀ f ∈ fs, ∀ c ∈ f.type.constraints, c.message.isTrue = true → c.bound.hasText = false →
      Unwritten schema items .badValue := fun f member c inside own unwritten => ⟨rfl, fs, read, f, member, c, inside, own, unwritten⟩
  clear read
  induction told with
  | nil => exact .nil
  | cons first _ ih =>
    obtain ⟨here, later⟩ := List.forall_mem_cons.mp excused
    cases first with
    | intro types bounded => exact .cons (.intro (types.reworded bounded here)) (ih later)

end Declaration

namespace Schema

variable {lost : Fault → Prop} {catalogs : Catalogs} {s t : Schema}

theorem requireReferences_reworded (same : s.Reworded lost t) :
    Except.Related (fun _ _ => True) (fun _ _ => True) (s.requireReferences catalogs) (t.requireReferences catalogs) := by
  have scopes : Scope.Reworded lost ⟨some s, none⟩ ⟨some t, none⟩ := ⟨.some same, rfl⟩
  have leading (r : Name × Option Target) : (Scope.lookup? catalogs ⟨some t, none⟩ r.1 r.2).isSome =
      (Scope.lookup? catalogs ⟨some s, none⟩ r.1 r.2).isSome := by
    have targets := Scope.lookup?_reworded (.refl catalogs) scopes r.1 r.2
    generalize Scope.lookup? catalogs ⟨some s, none⟩ r.1 r.2 = found, Scope.lookup? catalogs ⟨some t, none⟩ r.1 r.2 = met
      at targets
    cases targets <;> rfl
  have passes : s.requireReferences catalogs = .ok () ↔ t.requireReferences catalogs = .ok () := by
    rw [requireReferences_eq_ok, requireReferences_eq_ok, same.references, same.catalog]
    simp only [leading]
  exact .of_returns_iff ⟨fun ⟨_, passed⟩ => ⟨(), passes.mp passed⟩, fun ⟨_, passed⟩ => ⟨(), passes.mpr passed⟩⟩

/-- Defaults pass the check by types exactly if they pass it by the same types in other words, unless that has an excuse. -/
theorem requireDefaults_reworded (same : s.Reworded lost t) {fs gs : List Field} (fields : List.Forall₂ (Field.Reworded lost) fs gs) :
    Except.RelatedUnless (Failing.Excuses lost) (fun _ _ => True) (fun _ _ => True) (s.requireDefaults catalogs fs)
      (t.requireDefaults catalogs gs) := by
  induction fields with
  | nil => exact .ok trivial
  | @cons f _ _ _ first _ ih =>
    cases first with
    | intro types =>
      rw [requireDefaults, requireDefaults]
      dsimp only
      cases f.default with
      | none => exact ih
      | some default =>
        have scopes : Scope.Reworded lost ⟨some s, s.catalog⟩ ⟨some t, t.catalog⟩ := ⟨.some same, same.catalog⟩
        have checked := Proofs.Rewording.check_reworded (.refl catalogs) scopes types (.full Value.deepest) default []
        refine (Failing.ofFault_related (fun _ => trivial) checked).bind fun c d both => ?_
        rw [both.isClean]
        exact .guard trivial ih

theorem containerClass_reworded (same : s.Reworded lost t) (name : String) : t.containerClass name = s.containerClass name := by
  have parts : t.fields.map (fun f => (f.name, f.description)) = s.fields.map fun f => (f.name, f.description) :=
    same.fields.map_eq fun _ _ fields => by cases fields; rfl
  rw [containerClass, containerClass, parts]

open Declaration (Unwritten GivesMessages withoutMessages) in
/-- Definitions build a schema exactly if they do without their messages, and then it is the same in other words; unless a
default is checked by a constraint that can only be told with its message. -/
theorem build_withoutMessages (catalogs : Catalogs) (modules : Modules) (serial number : Nat) {items : List Expr}
    (options : SchemaOptions) (sound : ∀ definition ∈ items, GivesMessages definition) :
    Except.RelatedUnless (Failing.Excuses (Unwritten options.name items)) (fun _ _ => True) (Reworded (Unwritten options.name items))
      (build catalogs modules serial (.list items) options)
      (build catalogs modules number (.list (items.map withoutMessages)) options) := by
  have declared := Declaration.fields_withoutMessages options.name sound [] 1
  unfold build
  show Except.RelatedUnless _ _ _ (Declaration.fields options.name [] 1 items >>= _) (Declaration.fields options.name [] 1 _ >>= _)
  generalize read : Declaration.fields options.name [] 1 items = spoken,
    Declaration.fields options.name [] 1 (items.map withoutMessages) = silent at declared
  cases declared with
  | error => exact .error trivial
  | @ok fs gs told =>
  simp only [Except.ok_bind]
  have fields := Declaration.fields_reworded read told
  have names : gs.map (·.name.label) = fs.map (·.name.label) := fields.map_eq fun _ _ both => by cases both; rfl
  refine .bind_same (fun _ => trivial) fun hooks => ?_
  rw [names]
  refine .bind_same (fun _ => trivial) fun derived => ?_
  have each : List.Forall₂ (Field.Reworded (Unwritten options.name items)) (fs ++ derived.map Prod.fst) (gs ++ derived.map Prod.fst) :=
    List.rel_append fields (List.forall₂_same.mpr fun f _ => .refl f)
  have same (container : Option ContainerClass) : Reworded (Unwritten options.name items)
      ⟨serial, options.name, _, hooks, derived.map Prod.snd, options.title, options.description, options.strict, container,
        options.catalog⟩
      ⟨number, options.name, _, hooks, derived.map Prod.snd, options.title, options.description, options.strict, container,
        options.catalog⟩ :=
    .intro each
  refine Except.RelatedUnless.bind (.both (requireReferences_reworded (same none))) fun _ _ _ => ?_
  refine (requireDefaults_reworded (same none) (same none).regularFields).bind fun _ _ _ => ?_
  rw [containerClass_reworded (same none)]
  split
  next =>
    refine .bind_same (fun _ => trivial) fun layout => ?_
    exact .ok (same (some layout))
  next => exact .ok (same none)

theorem build_serial {modules : Modules} {serial : Nat} {definitions : Expr} {options : SchemaOptions}
    (built : build catalogs modules serial definitions options = .ok s) : s.serial = serial := by
  obtain ⟨base, ⟨assembly⟩, -, -, same⟩ := build_eq_ok built
  rw [assembly.assembled] at same
  obtain rfl | ⟨layout, -, rfl⟩ := same <;> rfl

open Document Draft Declaration in
/-- Leaving out all messages changes nothing but words, unless a constraint that has a message has a bound that cannot be
written: then what has to tell the bound is lost. Apart from that the definitions build a schema exactly if they do without
messages. Whatever is validated by the two schemas, among the same catalogs or catalogs of such schemas, is accepted as the
same data or rejected for the same violations, of which only those of constraints can be worded differently. And always the
two schemas have the same documents: in the same catalogs if they are known by the same number, and in general wherever
references lead to schemas that are told apart in the same way. -/
theorem messages_inert (catalogs : Catalogs) (modules : Modules) (serial number : Nat) (items : List Expr)
    (options : SchemaOptions) (sound : ∀ definition ∈ items, GivesMessages definition) :
    (((build catalogs modules serial (.list items) options).Returns ↔
        (build catalogs modules number (.list (items.map withoutMessages)) options).Returns) ∨
      ∃ fault, Unwritten options.name items fault ∧
        build catalogs modules number (.list (items.map withoutMessages)) options = .error (.fault fault)) ∧
    ∀ s t, build catalogs modules serial (.list items) options = .ok s →
      build catalogs modules number (.list (items.map withoutMessages)) options = .ok t →
      (∀ now later, now.Reworded (Unwritten options.name items) later → ∀ data,
        Except.RelatedUnless (Failing.Excuses (Unwritten options.name items)) Eq Validation.Verdict.Reworded
          (Validation.validate now s data) (Validation.validate later t data)) ∧
      (number = serial → ∀ now choices, generate now choices t = generate now choices s) ∧
      (∀ now later choices, now.Reworded (Unwritten options.name items) later → Distinguished (Twins now later choices s t) →
        generate later choices t = generate now choices s) := by
  have both := build_withoutMessages catalogs modules serial number options sound
  refine ⟨both.returns_iff.imp_right ?_, fun s t told silent => ?_⟩
  · rintro ⟨reason, excused, failed⟩
    cases reason with
    | reason => exact excused.elim
    | fault fault => exact ⟨fault, excused, failed⟩
  · rw [told, silent] at both
    have same := both.values_of_ok
    refine ⟨fun now later catalogs data => Validation.validate_reworded catalogs same data, fun numbers now choices => ?_,
      fun now later choices catalogs distinguished => generate_reworded catalogs same distinguished⟩
    have numbered : t.serial = s.serial := (build_serial silent).trans (numbers.trans (build_serial told).symm)
    exact generate_reworded (.refl now) same (distinguished_of_serial same numbered)

def nicknameMessage : Value := .str "give at least two letters"

/-- Persons with a short name, which has a message of its own, and someone to ask. -/
def personDefinitions : List Expr :=
  [.tuple [.str "nickname", .str "string", .map [(.str "min_length", .data (.int 2)),
     (.str "messages", .map [(.str "min_length", .data nicknameMessage)])]],
   .tuple [.str "contact", .tuple [.str "ref", .str "Person"], .map [(.str "optional", .data (.bool true))]]]

/-- The schema of persons with a number, and with a message for short names. -/
def person (serial : Nat) (message : Value) : Schema :=
  { serial, name := "Person", crossFieldHooks := [], derivedHooks := [], title := none, description := none,
    strict := false, container := none, catalog := none,
    fields := [
      { name := .text "nickname", type := .primitive .string [⟨.minLength, .int 2, message⟩], required := true,
        default := none, description := .null, examples := [], derived := false, extra := [] },
      { name := .text "contact", type := .ref (.text "Person") none, required := false, default := none,
        description := .null, examples := [], derived := false, extra := [] }] }

theorem givesMessages_minLength (name type least : Expr) {message : Expr} (text : message.toValue.str?.isSome = true) :
    Declaration.GivesMessages (.tuple [name, type, .map [(.str "min_length", least),
      (.str "messages", .map [(.str "min_length", message)])]]) := by
  intro name type options given spelled mapping
  cases spelled
  cases mapping
  have other : ¬ Declaration.isMessages (.str "min_length", least) = true := Bool.eq_false_iff.mp rfl
  refine List.forall_mem_cons.mpr ⟨fun impossible => absurd impossible other, ?_⟩
  refine List.forall_mem_singleton.mpr fun _ _ => ?_
  exact ⟨_, rfl, List.forall_mem_singleton.mpr ⟨⟨.minLength, rfl⟩, text⟩⟩

theorem personDefinitions_sound : ∀ definition ∈ personDefinitions, Declaration.GivesMessages definition := by
  refine List.forall_mem_cons.mpr ⟨givesMessages_minLength _ _ _ rfl, List.forall_mem_singleton.mpr ?_⟩
  · intro name type options given spelled mapping
    cases spelled
    cases mapping
    exact List.forall_mem_singleton.mpr fun impossible => absurd impossible (by decide)

theorem person_built (serial : Nat) : build {} {} serial (.list personDefinitions) { name := "Person" } =
    .ok (person serial nicknameMessage) := by
  have assembly : Assembly {} {} serial (.list personDefinitions) { name := "Person" }
      (person serial nicknameMessage) :=
    ⟨_, (person serial nicknameMessage).fields, [], [], rfl, by with_unfolding_all rfl, rfl, rfl, rfl⟩
  exact assembly.build_eq rfl rfl rfl

theorem person_built_silently (serial : Nat) :
    build {} {} serial (.list (personDefinitions.map Declaration.withoutMessages)) { name := "Person" } =
      .ok (person serial .null) := by
  have assembly : Assembly {} {} serial (.list (personDefinitions.map Declaration.withoutMessages)) { name := "Person" }
      (person serial .null) :=
    ⟨_, (person serial .null).fields, [], [], rfl, by with_unfolding_all rfl, rfl, rfl, rfl⟩
  exact assembly.build_eq rfl rfl rfl

open Document Draft in
/-- Persons refer to persons only. -/
theorem person_twins {first second : Nat} {message other : Value} {choices : DocumentOptions} {u v : Target}
    (both : Twins {} {} choices (person first message) (person second other) u v) :
    u = .schema (person first message) ∧ v = .schema (person second other) := by
  induction both with
  | roots => exact ⟨rfl, rfl⟩
  | @follow u v found met r q name target _ described others shown leads leadsToo ih =>
    obtain ⟨rfl, rfl⟩ := ih
    cases described
    cases others
    have mentioned : (name, target) ∈ [(Name.text "Person", none)] := shownReferences_subset choices _ shown
    cases List.mem_singleton.mp mentioned
    cases leads
    cases leadsToo
    exact ⟨rfl, rfl⟩

/-- The bound of the one constraint that has a message can be written. -/
theorem personDefinitions_written (fault : Fault) : ¬ Declaration.Unwritten "Person" personDefinitions fault := by
  rintro ⟨-, fs, read, f, member, c, inside, own, unwritten⟩
  have spelled : Declaration.fields "Person" [] 1 personDefinitions = .ok (person 0 nicknameMessage).fields := by
    with_unfolding_all rfl
  cases read.symm.trans spelled
  obtain rfl | rfl : f = _ ∨ f = _ := by simpa [person] using member
  · cases List.mem_singleton.mp inside
    have written : (Value.int 2).hasText = true := by decide +kernel
    cases written.symm.trans unwritten
  · cases inside

open Document Draft in
/-- Too short a name is rejected with the message and without it, and either way persons have one document. -/
theorem person_inert :
    (∀ definition ∈ personDefinitions, Declaration.GivesMessages definition) ∧
    Validation.validate {} (person 0 nicknameMessage) (.map [(.str "nickname", .str "A")]) =
      .ok (.rejected [{ path := [.name "nickname"], kind := .constraintViolated, message := "give at least two letters",
                        constraint := some "min_length" }]) ∧
    (∃ x, Validation.validate {} (person 1 .null) (.map [(.str "nickname", .str "A")]) = .ok (.rejected [x]) ∧
      x.path = [.name "nickname"] ∧ x.kind = .constraintViolated ∧ x.constraint = some "min_length") ∧
    (∀ data, Except.Related Eq Validation.Verdict.Reworded
      (Validation.validate {} (person 0 nicknameMessage) data) (Validation.validate {} (person 1 .null) data)) ∧
    (∀ now choices, generate now choices (person 0 .null) = generate now choices (person 0 nicknameMessage)) ∧
    (∀ choices, generate {} choices (person 1 .null) = generate {} choices (person 0 nicknameMessage)) := by
  obtain ⟨-, renamed⟩ := messages_inert {} {} 0 1 personDefinitions { name := "Person" } personDefinitions_sound
  obtain ⟨-, replaced⟩ := messages_inert {} {} 0 0 personDefinitions { name := "Person" } personDefinitions_sound
  obtain ⟨verdicts, -, documents⟩ := renamed _ _ (person_built 0) (person_built_silently 1)
  have kept (reason : Failing ContainerError) : ¬ Failing.Excuses (Declaration.Unwritten "Person" personDefinitions) reason := by
    cases reason with
    | reason => exact id
    | fault fault => exact personDefinitions_written fault
  obtain ⟨-, sameDocuments, -⟩ := replaced _ _ (person_built 0) (person_built_silently 0)
  have alike data := (verdicts {} {} (.refl {}) data).related kept
  have short : Validation.check {} (.full Value.deepest) ⟨some (person 0 nicknameMessage), none⟩
      (.primitive .string [⟨.minLength, .int 2, nicknameMessage⟩]) (.str "A") [.name "nickname"] =
      .ok ⟨.str "A", [{ path := [.name "nickname"], kind := .constraintViolated, message := "give at least two letters",
                        constraint := some "min_length" }]⟩ :=
    Validation.check_primitive_eq_ok.mpr (.inr ⟨rfl, _, (Validation.ownViolations_unmet rfl _ _).trans rfl, rfl⟩)
  have spoken : Validation.validate {} (person 0 nicknameMessage) (.map [(.str "nickname", .str "A")]) =
      .ok (.rejected [{ path := [.name "nickname"], kind := .constraintViolated, message := "give at least two letters",
                        constraint := some "min_length" }]) :=
    Validation.validate_of_violations <| Validation.run_of_report rfl (Validation.fieldReport_of_present rfl short
      (Validation.fieldReport_of_absent rfl rfl Validation.fieldReport_nil)) rfl rfl
  refine ⟨personDefinitions_sound, spoken, ?_, alike, sameDocuments rfl, fun choices => ?_⟩
  · have silent := alike (.map [(.str "nickname", .str "A")])
    rw [spoken] at silent
    generalize Validation.validate {} (person 1 .null) (.map [(.str "nickname", .str "A")]) = verdict at silent ⊢
    cases silent with
    | ok words =>
      cases words with
      | rejected each =>
        cases each with
        | cons first rest =>
          cases rest
          exact ⟨_, rfl, first.path, first.kind, first.named⟩
  · refine documents {} {} choices (.refl {}) fun u v first w x second => ?_
    obtain ⟨rfl, rfl⟩ := person_twins first
    obtain ⟨rfl, rfl⟩ := person_twins second
    exact iff_of_true rfl rfl

/-- Codes with at least so many characters, and words of the author's own for shorter ones. -/
def codeDefinition (least : Nat) : Expr :=
  .tuple [.str "code", .str "string", .map [(.str "min_length", .data (.int least)),
    (.str "messages", .map [(.str "min_length", .str "too short")])]]

def leastLength (least : Nat) (message : Value) : Constraint := ⟨.minLength, .int least, message⟩

def code (least : Nat) (message : Value) : Schema :=
  { serial := 0, name := "Code", crossFieldHooks := [], derivedHooks := [], title := none, description := none,
    strict := false, container := none, catalog := none,
    fields := [{ name := .text "code", type := .primitive .string [leastLength least message], required := true,
                 default := none, description := .null, examples := [], derived := false, extra := [] }] }

theorem code_built (least : Nat) :
    build {} {} 0 (.list [codeDefinition least]) { name := "Code" } = .ok (code least (.str "too short")) := by
  have assembly : Assembly {} {} 0 (.list [codeDefinition least]) { name := "Code" } (code least (.str "too short")) :=
    ⟨_, (code least (.str "too short")).fields, [], [], rfl, by with_unfolding_all rfl, rfl, rfl, rfl⟩
  exact assembly.build_eq rfl rfl rfl

theorem code_built_silently (least : Nat) :
    build {} {} 0 (.list [Declaration.withoutMessages (codeDefinition least)]) { name := "Code" } = .ok (code least .null) := by
  have assembly : Assembly {} {} 0 (.list [Declaration.withoutMessages (codeDefinition least)]) { name := "Code" } (code least .null) :=
    ⟨_, (code least .null).fields, [], [], rfl, by with_unfolding_all rfl, rfl, rfl, rfl⟩
  exact assembly.build_eq rfl rfl rfl

/-- A code that is too short, in some words. -/
def shortCode (message : String) : Violation :=
  { path := [.name "code"], kind := .constraintViolated, message, constraint := some "min_length" }

open Validation in
/-- A code of one character is reported in the words that there are for its constraint. -/
theorem validate_code {least : Nat} (message : Value) (long : 1 < least) :
    validate {} (code least message) (.map [(.str "code", .str "x")]) =
      Failing.ofFault ((leastLength least message).violationText.map fun text => .rejected [shortCode text]) := by
  have short : (leastLength least message).check (.str "x") = .ok false := by
    have measured : (leastLength least message).check (.str "x") = .ok (decide (least ≤ "x".length)) := by
      simp [leastLength, Constraint.check, Constraint.checkSize, Value.quantity?, Value.length?, Value.str?]
    exact measured.trans (congrArg Except.ok (decide_eq_false (Nat.not_le.mpr long)))
  have checked (scope : Scope) : check {} (.full Value.deepest) scope (.primitive .string [leastLength least message]) (.str "x")
      [.name "code"] = (leastLength least message).violationText.map fun text => ⟨.str "x", [shortCode text]⟩ := by
    have text : Primitive.string.admits (.str "x") = true := rfl
    rw [check, if_pos text, ownViolations_unmet short]
    cases (leastLength least message).violationText <;> rfl
  have reported (scope : Scope) : fieldReport {} Value.deepest scope [] [(.str "code", .str "x")] (code least message).regularFields =
      (leastLength least message).violationText.map fun text => { invalid := [shortCode text] } := by
    show fieldReport {} Value.deepest scope [] [(.str "code", .str "x")] [_] = _
    rw [fieldReport_present (v := .str "x") rfl, fieldReport]
    show check {} (.full Value.deepest) scope (.primitive .string [leastLength least message]) (.str "x") [.name "code"] >>= _ = _
    rw [checked]
    cases (leastLength least message).violationText <;> rfl
  have whole : (Value.map [(.str "code", .str "x")]).unfolded = .map [(.str "code", .str "x")] := rfl
  have held : (Value.map [(.str "code", .str "x")]).mapping? = some [(.str "code", .str "x")] := rfl
  have spent : (Value.map [(.str "code", .str "x")]).roundsAfter Value.deepest = some Value.deepest := Value.roundsAfter_of_hasEnd rfl _
  rw [validate, whole, run_eq_stages, fieldStages, held, spent]
  dsimp only
  rw [reported]
  cases (leastLength least message).violationText <;> rfl

/-- Codes must have more characters than can be written. What is too short is reported in the words of the author, and not
at all without them. -/
theorem code_untold :
    Declaration.GivesMessages (codeDefinition Value.longestText) ∧
    build {} {} 0 (.list [codeDefinition Value.longestText]) { name := "Code" } = .ok (code Value.longestText (.str "too short")) ∧
    build {} {} 0 (.list [Declaration.withoutMessages (codeDefinition Value.longestText)]) { name := "Code" } =
      .ok (code Value.longestText .null) ∧
    Validation.validate {} (code Value.longestText (.str "too short")) (.map [(.str "code", .str "x")]) =
      .ok (.rejected [shortCode "too short"]) ∧
    Validation.validate {} (code Value.longestText .null) (.map [(.str "code", .str "x")]) = .error (.fault .badValue) := by
  have long : 1 < Value.longestText := by decide +kernel
  have unwritten : (leastLength Value.longestText .null).bound.hasText = false := by decide +kernel
  have bounded : (leastLength Value.longestText .null).Bounded := ⟨"", by with_unfolding_all rfl⟩
  have untold : (leastLength Value.longestText .null).violationText = .error .badValue := by
    rw [Constraint.violationText, Constraint.violationMessage, bounded.defaultMessage_lost unwritten]
    rfl
  refine ⟨givesMessages_minLength _ _ _ rfl, code_built _, code_built_silently _, ?_, ?_⟩
  · rw [validate_code _ long]
    rfl
  · rw [validate_code _ long, untold]
    rfl

end Schema

end RecordSchema
