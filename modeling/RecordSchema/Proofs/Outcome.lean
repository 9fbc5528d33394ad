/-! Computations that end with a value or a fault: how one that returns is taken apart, and when one
returns. -/

namespace Except

variable {ε α β : Type}

@[simp] theorem ok_bind (a : α) (next : α → Except ε β) : (.ok a >>= next) = next a := rfl

@[simp] theorem error_bind (e : ε) (next : α → Except ε β) : (.error e >>= next) = .error e := rfl

theorem bind_eq_ok {x : Except ε α} {next : α → Except ε β} {b : β} :
    (x >>= next) = .ok b ↔ ∃ a, x = .ok a ∧ next a = .ok b := by
  cases x with
  | error e => exact ⟨fun impossible => (by cases impossible), fun ⟨_, impossible, _⟩ => (by cases impossible)⟩
  | ok a => exact ⟨fun same => ⟨a, rfl, same⟩, fun ⟨_, same, rest⟩ => (by cases same; exact rest)⟩

/-- A check, and what comes after it. -/
theorem check_eq_ok {x : Except ε Unit} {next : Except ε β} {b : β} :
    (x >>= fun _ => next) = .ok b ↔ x = .ok () ∧ next = .ok b :=
  bind_eq_ok.trans ⟨fun ⟨_, passed, rest⟩ => ⟨passed, rest⟩, fun ⟨passed, rest⟩ => ⟨(), passed, rest⟩⟩

theorem map_eq_ok {x : Except ε α} {f : α → β} {b : β} :
    f <$> x = .ok b ↔ ∃ a, x = .ok a ∧ f a = b := by
  cases x with
  | error e => exact ⟨fun impossible => (by cases impossible), fun ⟨_, impossible, _⟩ => (by cases impossible)⟩
  | ok a => exact ⟨fun same => ⟨a, rfl, Except.ok.inj same⟩, fun ⟨_, same, rest⟩ => (by cases same; exact congrArg _ rest)⟩

theorem error_not_ok (e : ε) : ¬ ∃ a, (.error e : Except ε α) = .ok a := by
  rintro ⟨_, impossible⟩
  cases impossible

/-- A check that refuses, and what comes after it. -/
theorem guard_eq_ok {c : Prop} [Decidable c] {e : ε} {next : PUnit → Except ε β} {b : β} :
    (if c then (Except.error e : Except ε PUnit) >>= next else next ⟨⟩) = .ok b ↔ ¬ c ∧ next ⟨⟩ = .ok b := by
  split
  next refused => exact ⟨fun impossible => (nomatch impossible), fun passed => absurd refused passed.1⟩
  next passed => exact ⟨fun same => ⟨passed, same⟩, fun both => both.2⟩

/-- Changing every result of a list of computations changes the list of results. -/
theorem mapM_map {γ : Type} {f : γ → Except ε α} {f' : γ → Except ε β} {g : α → β}
    (changed : ∀ c, f' c = g <$> f c) (items : List γ) :
    items.mapM f' = List.map g <$> items.mapM f := by
  induction items with
  | nil => rfl
  | cons c rest ih =>
    rw [List.mapM_cons, List.mapM_cons, changed, ih]
    cases f c with
    | error e => rfl
    | ok a =>
      show (_ <$> rest.mapM f >>= _) = _ <$> (rest.mapM f >>= _)
      cases rest.mapM f <;> rfl

theorem length_of_mapM {f : α → Except ε β} {items : List α} {results : List β}
    (ended : items.mapM f = .ok results) : results.length = items.length := by
  induction items generalizing results with
  | nil => cases ended; rfl
  | cons a rest ih =>
    rw [List.mapM_cons] at ended
    obtain ⟨b, -, ended⟩ := bind_eq_ok.mp ended
    obtain ⟨others, remaining, same⟩ := bind_eq_ok.mp ended
    cases same
    exact congrArg (· + 1) (ih remaining)

theorem mem_of_mapM {f : α → Except ε β} {items : List α} {results : List β}
    (ended : items.mapM f = .ok results) {b : β} (member : b ∈ results) : ∃ a ∈ items, f a = .ok b := by
  induction items generalizing results with
  | nil => cases ended; cases member
  | cons a rest ih =>
    rw [List.mapM_cons] at ended
    obtain ⟨first, computed, ended⟩ := bind_eq_ok.mp ended
    obtain ⟨others, remaining, same⟩ := bind_eq_ok.mp ended
    cases same
    obtain rfl | member := List.mem_cons.mp member
    · exact ⟨a, List.mem_cons_self, computed⟩
    · obtain ⟨c, inside, computed⟩ := ih remaining member
      exact ⟨c, List.mem_cons_of_mem _ inside, computed⟩

/-- The computation ends with a value. -/
def Returns (x : Except ε α) : Prop := ∃ a, x = .ok a

theorem returns_ok (a : α) : Returns (.ok a : Except ε α) := ⟨a, rfl⟩

theorem Returns.bind {x : Except ε α} {next : α → Except ε β} (first : x.Returns)
    (rest : ∀ a, x = .ok a → (next a).Returns) : (x >>= next).Returns := by
  obtain ⟨a, rfl⟩ := first
  exact rest a rfl

theorem Returns.map {x : Except ε α} (returns : x.Returns) (f : α → β) : (f <$> x).Returns := by
  obtain ⟨a, rfl⟩ := returns
  exact ⟨f a, rfl⟩

theorem Returns.mapM {f : α → Except ε β} {items : List α} (each : ∀ a ∈ items, (f a).Returns) :
    (items.mapM f).Returns := by
  induction items with
  | nil => exact returns_ok []
  | cons a rest ih =>
    rw [List.mapM_cons]
    obtain ⟨first, others⟩ := List.forall_mem_cons.mp each
    exact first.bind fun _ _ => (ih others).bind fun _ _ => returns_ok _

theorem returned_of_mapM {f : α → Except ε β} {items : List α} {results : List β} (ended : items.mapM f = .ok results) :
    ∀ a ∈ items, ∃ b ∈ results, f a = .ok b := by
  induction items generalizing results with
  | nil => exact List.forall_mem_nil _
  | cons a rest ih =>
    rw [List.mapM_cons] at ended
    obtain ⟨first, computed, ended⟩ := bind_eq_ok.mp ended
    obtain ⟨others, remaining, same⟩ := bind_eq_ok.mp ended
    cases same
    refine List.forall_mem_cons.mpr ⟨⟨first, List.mem_cons_self, computed⟩, fun c member => ?_⟩
    obtain ⟨b, inside, computed⟩ := ih remaining c member
    exact ⟨b, List.mem_cons_of_mem _ inside, computed⟩

/-- The computation ends with no other faults than these. -/
def FailsOnly (allowed : ε → Prop) (x : Except ε α) : Prop := ∀ e, x = .error e → allowed e

/-- The computation ends with no other fault than this one. -/
abbrev FailsOnlyWith (fault : ε) (x : Except ε α) : Prop := x.FailsOnly (· = fault)

section FailsOnly
variable {allowed : ε → Prop} {x : Except ε α}

theorem failsOnly_ok (allowed : ε → Prop) (a : α) : FailsOnly allowed (.ok a) := fun _ impossible => nomatch impossible

theorem failsOnly_error {e : ε} (permitted : allowed e) : FailsOnly allowed (.error e : Except ε α) :=
  fun _ same => Except.error.inj same ▸ permitted

theorem FailsOnly.mono {others : ε → Prop} (only : x.FailsOnly allowed) (weaker : ∀ e, allowed e → others e) : x.FailsOnly others :=
  fun e failed => weaker e (only e failed)

theorem Returns.failsOnly (returns : x.Returns) : x.FailsOnly allowed := by
  obtain ⟨a, rfl⟩ := returns
  exact failsOnly_ok allowed a

theorem FailsOnly.bind {next : α → Except ε β} (first : x.FailsOnly allowed) (rest : ∀ a, x = .ok a → (next a).FailsOnly allowed) :
    (x >>= next).FailsOnly allowed := by
  cases x with
  | error e =>
    intro e' failed
    cases failed
    exact first e rfl
  | ok a => exact rest a rfl

theorem FailsOnly.map (only : x.FailsOnly allowed) (f : α → β) : (f <$> x).FailsOnly allowed := by
  rw [map_eq_pure_bind]
  exact only.bind fun a _ => failsOnly_ok allowed (f a)

theorem FailsOnly.mapM {f : α → Except ε β} {items : List α} (each : ∀ a ∈ items, (f a).FailsOnly allowed) :
    (items.mapM f).FailsOnly allowed := by
  induction items with
  | nil => exact failsOnly_ok allowed []
  | cons a rest ih =>
    rw [List.mapM_cons]
    obtain ⟨first, others⟩ := List.forall_mem_cons.mp each
    exact first.bind fun _ _ => (ih others).bind fun _ _ => failsOnly_ok allowed _

/-- A computation returns or ends with one of its faults. -/
theorem FailsOnly.returns_or (only : x.FailsOnly allowed) : x.Returns ∨ ∃ e, allowed e ∧ x = .error e := by
  cases x with
  | ok a => exact .inl ⟨a, rfl⟩
  | error e => exact .inr ⟨e, only e rfl, rfl⟩

end FailsOnly

end Except
