import ApiModel.Model.Error

/-!
# Outcomes of steps that may fail

A step that may fail is described from both sides: `Outcome E P x` says that `x` gives a value with
`P` or an error with `E`, and `Outcome.bind` puts two such descriptions together.  To look back from
a success to the steps that led to it there is `bind_eq_ok_iff`.  Where one step succeeds as another
one does, `bind_eq_ok_mono` carries this over to what follows.  Two computations that go on side by
side are `Parallel`: both fail, or both succeed with related values.
-/

namespace ApiModel

variable {ε α β : Type}

/-- A success has `P` and an error has `E`. -/
inductive Outcome (E : ε → Prop) (P : α → Prop) : Except ε α → Prop
  | ok {a : α} (h : P a) : Outcome E P (.ok a)
  | error {e : ε} (h : E e) : Outcome E P (.error e)

namespace Outcome

variable {E : ε → Prop} {P : α → Prop} {Q : β → Prop}

/-- **Two steps in a row**: the second starts from what the first one guarantees. -/
theorem bind {x : Except ε α} {f : α → Except ε β} (hx : Outcome E P x)
    (hf : ∀ a, P a → Outcome E Q (f a)) : Outcome E Q (x >>= f) := by
  cases hx with
  | ok h => exact hf _ h
  | error h => exact .error h

theorem mono {P' : α → Prop} {x : Except ε α} (hx : Outcome E P x) (h : ∀ a, P a → P' a) :
    Outcome E P' x := by
  cases hx with
  | ok ha => exact .ok (h _ ha)
  | error he => exact .error he

/-- The value of a success has what follows from its being the value. -/
theorem mono_of_ok {P' : α → Prop} {x : Except ε α} (hx : Outcome E P x)
    (h : ∀ a, x = .ok a → P a → P' a) : Outcome E P' x := by
  cases hx with
  | ok ha => exact .ok (h _ rfl ha)
  | error he => exact .error he

theorem mono_error {E' : ε → Prop} {x : Except ε α} (hx : Outcome E P x) (h : ∀ e, E e → E' e) :
    Outcome E' P x := by
  cases hx with
  | ok ha => exact .ok ha
  | error he => exact .error (h _ he)

theorem of_ok {x : Except ε α} {a : α} (hx : Outcome E P x) (h : x = .ok a) : P a := by
  subst h
  cases hx with
  | ok h => exact h

theorem of_error {x : Except ε α} {e : ε} (hx : Outcome E P x) (h : x = .error e) : E e := by
  subst h
  cases hx with
  | error h => exact h

theorem and {E' : ε → Prop} {P' : α → Prop} {x : Except ε α} (hx : Outcome E P x)
    (hx' : Outcome E' P' x) : Outcome (fun e => E e ∧ E' e) (fun a => P a ∧ P' a) x := by
  cases hx with
  | ok h => exact .ok ⟨h, hx'.of_ok rfl⟩
  | error h => exact .error ⟨h, hx'.of_error rfl⟩

theorem map {x : Except ε α} (hx : Outcome E P x) (f : α → β) :
    Outcome E (fun b => ∃ a, P a ∧ f a = b) (x.map f) := by
  cases hx with
  | ok h => exact .ok ⟨_, h, rfl⟩
  | error h => exact .error h

theorem of_error_only {x : Except ε α} (hx : Outcome E P x) :
    Outcome E (fun a => x = .ok a) x := by
  cases hx with
  | ok h => exact .ok rfl
  | error h => exact .error h

end Outcome

/-! ### Looking back from a success -/

theorem bind_eq_ok_iff {x : Except ε α} {f : α → Except ε β} {b : β} :
    x >>= f = .ok b ↔ ∃ a, x = .ok a ∧ f a = .ok b := by
  cases x with
  | ok a => simp [bind, Except.bind]
  | error e => simp [bind, Except.bind]

theorem exists_eq_ok {x : Except ε α} (h : x.isOk = true) : ∃ a, x = .ok a := by
  cases x with
  | ok a => exact ⟨a, rfl⟩
  | error e => cases h

theorem isOk_of_eq_ok {x : Except ε α} {a : α} (h : x = .ok a) : x.isOk = true := by
  rw [h]
  rfl

theorem pure_eq_ok_iff {a b : α} : (pure a : Except ε α) = .ok b ↔ a = b := by
  simp [pure, Except.pure]

theorem map_eq_ok_iff {x : Except ε α} {f : α → β} {b : β} :
    x.map f = .ok b ↔ ∃ a, x = .ok a ∧ f a = b := by
  cases x with
  | ok a => simp [Except.map]
  | error e => simp [Except.map]

theorem toOption_eq_some_iff {x : Except ε α} {a : α} : x.toOption = some a ↔ x = .ok a := by
  cases x with
  | ok b => simp [Except.toOption]
  | error e => simp [Except.toOption]

/-! ### Succeeding as another step does -/

variable {x y : Except ε α} {b : β}

theorem bind_eq_ok_mono {f g : α → Except ε β} (hx : ∀ a, x = .ok a → y = .ok a)
    (hf : ∀ a, f a = .ok b → g a = .ok b) (h : x >>= f = .ok b) : y >>= g = .ok b := by
  obtain ⟨a, ha, hb⟩ := bind_eq_ok_iff.1 h
  exact bind_eq_ok_iff.2 ⟨a, hx a ha, hf a hb⟩

theorem map_eq_ok_mono {f : α → β} (hx : ∀ a, x = .ok a → y = .ok a) (h : x.map f = .ok b) :
    y.map f = .ok b := by
  obtain ⟨a, ha, hb⟩ := map_eq_ok_iff.1 h
  exact map_eq_ok_iff.2 ⟨a, hx a ha, hb⟩

/-! ### Two computations side by side -/

section Parallel

variable {α' β' : Type} {R : α → α' → Prop} {S : β → β' → Prop}

/-- Both computations fail, or both succeed with related values. -/
inductive Parallel (R : α → α' → Prop) : Except ε α → Except ε α' → Prop
  | ok {a : α} {a' : α'} (h : R a a') : Parallel R (.ok a) (.ok a')
  | error (e e' : ε) : Parallel R (.error e) (.error e')

namespace Parallel

variable {x : Except ε α} {y : Except ε α'}

/-- **Two steps in a row** beside two others: the second ones start from related values. -/
theorem bind {f : α → Except ε β} {g : α' → Except ε β'} (h : Parallel R x y)
    (hf : ∀ a a', R a a' → Parallel S (f a) (g a')) : Parallel S (x >>= f) (y >>= g) := by
  cases h with
  | ok h => exact hf _ _ h
  | error e e' => exact .error e e'

/-- The same first step, and then steps side by side. -/
theorem bind_eq {x y : Except ε α} {f : α → Except ε β} {g : α → Except ε β'} (h : x = y)
    (hf : ∀ a, x = .ok a → Parallel S (f a) (g a)) : Parallel S (x >>= f) (y >>= g) := by
  subst h
  cases x with
  | ok a => exact hf a rfl
  | error e => exact .error e e

/-- Values that are known to be results are related by what follows from that. -/
theorem mono_of_ok {R' : α → α' → Prop} (h : Parallel R x y)
    (hR : ∀ a a', x = .ok a → R a a' → R' a a') : Parallel R' x y := by
  cases h with
  | ok h => exact .ok (hR _ _ rfl h)
  | error e e' => exact .error e e'

theorem trans {α'' : Type} {R' : α' → α'' → Prop} {R'' : α → α'' → Prop} {z : Except ε α''}
    (h : Parallel R x y) (h' : Parallel R' y z) (hR : ∀ a b c, R a b → R' b c → R'' a c) :
    Parallel R'' x z := by
  cases h with
  | ok h =>
    cases h' with
    | ok h' => exact .ok (hR _ _ _ h h')
  | error e =>
    cases h' with
    | error _ e' => exact .error e e'

theorem liftRef {x : Except RefError α} {y : Except RefError α'} (h : Parallel R x y) :
    Parallel R (liftRef x) (liftRef y) := by
  cases h with
  | ok h => exact .ok h
  | error e e' => exact .error _ _

theorem of_ok_iff {x y : Except ε Unit} (h : x = .ok () ↔ y = .ok ()) : Parallel (· = ·) x y := by
  rcases x with e | ⟨⟩ <;> rcases y with e' | ⟨⟩
  · exact .error e e'
  · cases h.2 rfl
  · cases h.1 rfl
  · exact .ok rfl

end Parallel

end Parallel

end ApiModel
