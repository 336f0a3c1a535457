import OatImage.Journal

/-!
# Outcomes of steps

What a step can fail with is a property of faults that its parts share: `FailsOnly P` says
that every failure of a step has the property `P`, and each way of putting steps together
keeps it. The outcome of a step with a journal is the outcome of the same step without
one, so nothing that is proved of outcomes has to mention entries.
-/
namespace OatImage

namespace Fault

/-- The bytes could not be decoded. -/
def IsDecode (e : Fault) : Prop := ∃ d, e = .decode d

/-- The bytes of a module could not be decoded. -/
def IsModule (e : Fault) : Prop := ∃ d, e = .decode d ∧ d.layer = .module

/-- A decoding failure that is attributed to an address and to nothing else. -/
def IsLocal (e : Fault) : Prop :=
  ∃ d, e = .decode d ∧ d.index = none ∧ d.location = none ∧ d.descriptor = none

theorem IsModule.isDecode {e : Fault} (h : e.IsModule) : e.IsDecode := by
  obtain ⟨d, he, _⟩ := h
  exact ⟨d, he⟩

theorem IsLocal.isDecode {e : Fault} (h : e.IsLocal) : e.IsDecode := by
  obtain ⟨d, he, _⟩ := h
  exact ⟨d, he⟩

theorem inImage_isLocal (cause : Cause) (address : Int) : (inImage cause address).IsLocal :=
  ⟨_, rfl, rfl, rfl, rfl⟩

theorem inModule_isLocal (cause : Cause) (address : Int) : (inModule cause address).IsLocal :=
  ⟨_, rfl, rfl, rfl, rfl⟩

theorem inModule_isModule (cause : Cause) (address : Int) : (inModule cause address).IsModule :=
  ⟨_, rfl, rfl⟩

theorem ofIndex_isModule (cause : Cause) (index : Int) : (ofIndex cause index).IsModule :=
  ⟨_, rfl, rfl⟩

theorem IsDecode.asModule {e : Fault} (h : e.IsDecode) :
    e.asModule.IsModule ∧ e.asModule.IsLocal := by
  obtain ⟨d, rfl⟩ := h
  exact ⟨⟨_, rfl, rfl⟩, _, rfl, rfl, rfl, rfl⟩

theorem IsDecode.withContext {e : Fault} (h : e.IsDecode) (index : Option Int)
    (location : Option String) (descriptor : Option Text) :
    (e.withContext index location descriptor).IsDecode := by
  obtain ⟨d, rfl⟩ := h
  exact ⟨_, rfl⟩

end Fault

namespace Decode

variable {α β : Type} {P Q : Fault → Prop}

@[simp] theorem ok_bind (a : α) (f : α → Decode β) : ((.ok a : Decode α) >>= f) = f a := rfl

@[simp] theorem error_bind (e : Fault) (f : α → Decode β) :
    ((.error e : Decode α) >>= f) = .error e := rfl

/-- Two steps answer only if the first answers and the second answers after it. -/
theorem bind_eq_ok {E : Type} {d : Except E α} {f : α → Except E β} {b : β} :
    d >>= f = .ok b ↔ ∃ a, d = .ok a ∧ f a = .ok b := by
  cases d with
  | ok a => exact ⟨fun h => ⟨a, rfl, h⟩, fun ⟨_, ha, h⟩ => by cases ha; exact h⟩
  | error e => exact ⟨fun h => (nomatch h), fun ⟨_, ha, _⟩ => (nomatch ha)⟩

/-- Two steps fail if the first fails, or if it answers and the second fails after it. -/
theorem bind_eq_error {d : Decode α} {f : α → Decode β} {e : Fault} :
    d >>= f = .error e ↔ d = .error e ∨ ∃ a, d = .ok a ∧ f a = .error e := by
  cases d with
  | ok a =>
      constructor
      · exact fun h => .inr ⟨a, rfl, h⟩
      · rintro (h | ⟨_, ha, h⟩)
        · cases h
        · cases ha
          exact h
  | error e' =>
      constructor
      · intro h
        cases h
        exact .inl rfl
      · rintro (h | ⟨_, ha, _⟩)
        · cases h
          rfl
        · cases ha

/-- An answer of a step that can be run is found by running it. -/
theorem exists_of_any {d : Decode α} {p : α → Bool} (h : d.toOption.any p = true) :
    ∃ a, d = .ok a ∧ p a = true := by
  cases d with
  | ok a => exact ⟨a, rfl, h⟩
  | error e => exact nomatch h

theorem eq_ok_of_toOption {d : Decode α} (h : d.toOption = some a) : d = .ok a := by
  cases d with
  | ok b =>
      cases h
      rfl
  | error e => cases h

@[simp] theorem asModule_ok (a : α) : asModule (.ok a : Decode α) = .ok a := rfl

@[simp] theorem withContext_ok (index : Option Int) (location : Option String)
    (descriptor : Option Text) (a : α) :
    withContext index location descriptor (.ok a : Decode α) = .ok a := rfl

theorem asModule_eq_ok {d : Decode α} {a : α} : d.asModule = .ok a ↔ d = .ok a := by
  cases d with
  | ok b => exact Iff.rfl
  | error e => exact ⟨fun h => (nomatch h), fun h => (nomatch h)⟩

theorem withContext_eq_ok {d : Decode α} {a : α} {index : Option Int}
    {location : Option String} {descriptor : Option Text} :
    d.withContext index location descriptor = .ok a ↔ d = .ok a := by
  cases d with
  | ok b => exact Iff.rfl
  | error e => exact ⟨fun h => (nomatch h), fun h => (nomatch h)⟩

/-- Every failure of the step has the property. -/
def FailsOnly (P : Fault → Prop) (d : Decode α) : Prop := ∀ e, d = .error e → P e

theorem FailsOnly.ok (a : α) : FailsOnly P (.ok a : Decode α) := fun _ h => nomatch h

theorem FailsOnly.pure (a : α) : FailsOnly P (Pure.pure a : Decode α) := FailsOnly.ok a

theorem FailsOnly.error {e : Fault} (h : P e) : FailsOnly P (.error e : Decode α) := by
  intro e' he
  cases he
  exact h

theorem FailsOnly.mono {d : Decode α} (hPQ : ∀ e, P e → Q e) (h : FailsOnly P d) :
    FailsOnly Q d := fun e he => hPQ e (h e he)

/-- The second step has to keep the property only on what the first one answers. -/
theorem FailsOnly.bind {d : Decode α} {f : α → Decode β} (hd : FailsOnly P d)
    (hf : ∀ a, d = .ok a → FailsOnly P (f a)) : FailsOnly P (d >>= f) := by
  cases d with
  | ok a => exact hf a rfl
  | error e => exact FailsOnly.error (hd e rfl)

theorem FailsOnly.map {d : Decode α} (f : α → β) (h : FailsOnly P d) :
    FailsOnly P (f <$> d) := by
  cases d with
  | ok a => exact FailsOnly.ok (f a)
  | error e => exact FailsOnly.error (h e rfl)

theorem FailsOnly.ite {c : Prop} [Decidable c] {d₁ d₂ : Decode α}
    (h₁ : c → FailsOnly P d₁) (h₂ : ¬ c → FailsOnly P d₂) : FailsOnly P (if c then d₁ else d₂) := by
  by_cases hc : c
  · rw [if_pos hc]
    exact h₁ hc
  · rw [if_neg hc]
    exact h₂ hc

/-- A failure that is read as one of a module keeps its address and nothing else. -/
theorem FailsOnly.asModule {d : Decode α} (h : FailsOnly Fault.IsDecode d) :
    FailsOnly (fun e => e.IsModule ∧ e.IsLocal) d.asModule := by
  cases d with
  | ok a => exact FailsOnly.ok a
  | error e => exact FailsOnly.error (h e rfl).asModule

theorem FailsOnly.withContext {d : Decode α} (h : FailsOnly Fault.IsDecode d)
    (index : Option Int) (location : Option String) (descriptor : Option Text) :
    FailsOnly Fault.IsDecode (d.withContext index location descriptor) := by
  cases d with
  | ok a => exact FailsOnly.ok a
  | error e => exact FailsOnly.error ((h e rfl).withContext index location descriptor)

/-- A step that fails only in decoding answers or reports a decoding failure. -/
theorem FailsOnly.cases {d : Decode α} (h : FailsOnly Fault.IsDecode d) :
    (∃ a, d = .ok a) ∨ ∃ e, d = .error (.decode e) := by
  cases d with
  | ok a => exact .inl ⟨a, rfl⟩
  | error e =>
      obtain ⟨f, rfl⟩ := h e rfl
      exact .inr ⟨f, rfl⟩

end Decode

namespace Logged

variable {α β : Type}

@[simp] theorem outcome_pure (a : α) : (pure a : Logged α).outcome = .ok a := rfl

@[simp] theorem outcome_fail (e : Fault) : (fail e : Logged α).outcome = .error e := rfl

@[simp] theorem outcome_write (e : Entry) : (write e).outcome = .ok () := rfl

@[simp] theorem outcome_ofDecode (d : Decode α) : (ofDecode d).outcome = d := rfl

@[simp] theorem outcome_liftM (d : Decode α) : (liftM d : Logged α).outcome = d := rfl

@[simp] theorem outcome_bind (x : Logged α) (f : α → Logged β) :
    (x >>= f).outcome = x.outcome >>= fun a => (f a).outcome := by
  show (x.andThen f).outcome = _
  unfold andThen
  cases x.outcome <;> rfl

@[simp] theorem outcome_map (f : α → β) (x : Logged α) :
    (f <$> x).outcome = f <$> x.outcome := by
  show (x.andThen fun a => pure (f a)).outcome = _
  unfold andThen
  cases x.outcome <;> rfl

@[simp] theorem outcome_during (operation : String) (x : Logged α) :
    (x.during operation).outcome = x.outcome := rfl

/-- What a reported failure gains is context; the entry is not part of the outcome. -/
@[simp] theorem outcome_reporting (d : Decode α) (entry : DecodeFault → Entry)
    (index : Option Int) (location : Option String) (descriptor : Option Text) :
    (reporting d entry fun e => e.withContext index location descriptor).outcome =
      d.withContext index location descriptor := by
  cases d with
  | ok a => rfl
  | error e => cases e <;> rfl

end Logged

end OatImage
