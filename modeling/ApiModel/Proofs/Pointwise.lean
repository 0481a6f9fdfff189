import Mathlib.Data.List.Forall2

/-!
# Lists that belong together

Two lists belong together when they have as many elements and these are related one by one
(`List.Forall₂`).  What a partial reader makes of a list belongs to it (`mapM_eq_some_iff`), and each
element of one list has a partner in the other one.  Of a step that may fail with an error the error
of the first element counts (`mapM_eq_error_iff`).  What a search finds is the first element of a
list with a property (`First`).
-/

namespace ApiModel

variable {α β γ : Type} {R : α → β → Prop} {as : List α} {bs : List β}

theorem exists_of_mem_left (h : List.Forall₂ R as bs) {a : α} (ha : a ∈ as) :
    ∃ b ∈ bs, R a b := by
  induction h with
  | nil => cases ha
  | cons hab _ ih =>
    rcases List.mem_cons.1 ha with rfl | ha
    · exact ⟨_, List.mem_cons_self, hab⟩
    · obtain ⟨b, hb, hr⟩ := ih ha
      exact ⟨b, List.mem_cons_of_mem _ hb, hr⟩

theorem exists_of_mem_right (h : List.Forall₂ R as bs) {b : β} (hb : b ∈ bs) : ∃ a ∈ as, R a b :=
  exists_of_mem_left (List.Forall₂.flip h) hb

theorem exists_forall₂ (h : ∀ a ∈ as, ∃ b, R a b) : ∃ bs, List.Forall₂ R as bs := by
  induction as with
  | nil => exact ⟨[], .nil⟩
  | cons a as ih =>
    obtain ⟨⟨b, hb⟩, has⟩ := List.forall_mem_cons.1 h
    obtain ⟨bs, hbs⟩ := ih has
    exact ⟨b :: bs, .cons hb hbs⟩

theorem exists_of_forall₂_append_cons {a : α} {as' : List α}
    (h : List.Forall₂ R (as ++ a :: as') bs) :
    ∃ before b after, bs = before ++ b :: after ∧ R a b ∧ List.Forall₂ R as' after := by
  induction as generalizing bs with
  | nil =>
    obtain ⟨b, after, hab, hafter, rfl⟩ := List.forall₂_cons_left_iff.1 h
    exact ⟨[], b, after, rfl, hab, hafter⟩
  | cons c as ih =>
    rw [List.cons_append, List.forall₂_cons_left_iff] at h
    obtain ⟨d, ds, -, hds, rfl⟩ := h
    obtain ⟨before, b, after, rfl, hab, hafter⟩ := ih hds
    exact ⟨d :: before, b, after, rfl, hab, hafter⟩

theorem isEmpty_eq_of_forall₂ (h : List.Forall₂ R as bs) : bs.isEmpty = as.isEmpty := by
  cases h <;> rfl

theorem forall₂_trans {S : β → γ → Prop} {cs : List γ} (h : List.Forall₂ R as bs)
    (h' : List.Forall₂ S bs cs) : List.Forall₂ (fun a c => ∃ b, R a b ∧ S b c) as cs := by
  induction h generalizing cs with
  | nil =>
    cases h'
    exact .nil
  | cons hab _ ih =>
    obtain ⟨c, cs, hbc, hcs, rfl⟩ := List.forall₂_cons_left_iff.1 h'
    exact .cons ⟨_, hab, hbc⟩ (ih hcs)

/-- Where being related in another way says something about the first element only, it is said of
each element of the first list. -/
theorem forall₂_iff_forall_mem {S : α → β → Prop} {P : α → Prop} (h : List.Forall₂ R as bs)
    (hiff : ∀ a ∈ as, ∀ b, R a b → (S a b ↔ P a)) : List.Forall₂ S as bs ↔ ∀ a ∈ as, P a := by
  induction h with
  | nil => simp
  | cons hab _ ih =>
    rw [List.forall_mem_cons] at hiff
    rw [List.forall₂_cons, List.forall_mem_cons, hiff.1 _ hab, ih hiff.2]

theorem forall₂_zipWith {f : α → β → γ} (h : List.Forall₂ R as bs) :
    List.Forall₂ (fun c b => b ∈ bs ∧ ∃ a, R a b ∧ c = f a b) (List.zipWith f as bs) bs := by
  induction h with
  | nil => exact .nil
  | cons hab _ ih =>
    refine .cons ⟨List.mem_cons_self, _, hab, rfl⟩ (ih.imp ?_)
    intro c b ⟨hb, hc⟩
    exact ⟨List.mem_cons_of_mem _ hb, hc⟩

/-- **What is read from a list** is read from its elements one by one. -/
theorem mapM_eq_some_iff {f : α → Option β} :
    as.mapM f = some bs ↔ List.Forall₂ (fun a b => f a = some b) as bs := by
  induction as generalizing bs with
  | nil => simp [eq_comm]
  | cons a as ih =>
    rw [List.mapM_cons]
    simp only [Option.bind_eq_bind, Option.bind_eq_some_iff, Option.pure_def, Option.some.injEq,
      List.forall₂_cons_left_iff, ih]
    constructor
    · rintro ⟨b, hb, bs', hbs, rfl⟩
      exact ⟨b, bs', hb, hbs, rfl⟩
    · rintro ⟨b, bs', hb, hbs, rfl⟩
      exact ⟨b, hb, bs', hbs, rfl⟩

/-! ### Steps that may fail -/

section Errors

variable {ε : Type} {f : α → Except ε β}

/-- The error of the first element of a list that answers with one. -/
def FirstError (Answers : α → Except ε β → Prop) (as : List α) (e : ε) : Prop :=
  ∃ before a after, as = before ++ a :: after ∧ (∀ x ∈ before, ∃ b, Answers x (.ok b)) ∧
    Answers a (.error e)

theorem firstError_cons {Answers : α → Except ε β → Prop} {a : α} {e : ε} :
    FirstError Answers (a :: as) e ↔
      Answers a (.error e) ∨ ((∃ b, Answers a (.ok b)) ∧ FirstError Answers as e) := by
  constructor
  · rintro ⟨_ | ⟨x, before⟩, y, after, hs, hbefore, hy⟩
    · obtain ⟨rfl, rfl⟩ := List.cons.inj hs
      exact .inl hy
    · obtain ⟨rfl, rfl⟩ := List.cons.inj hs
      obtain ⟨ha, hbefore⟩ := List.forall_mem_cons.1 hbefore
      exact .inr ⟨ha, before, y, after, rfl, hbefore, hy⟩
  · rintro (ha | ⟨ha, before, y, after, rfl, hbefore, hy⟩)
    · exact ⟨[], a, as, rfl, by simp, ha⟩
    · exact ⟨a :: before, y, after, rfl, List.forall_mem_cons.2 ⟨ha, hbefore⟩, hy⟩

theorem mapM_eq_ok_iff : as.mapM f = .ok bs ↔ List.Forall₂ (fun a b => f a = .ok b) as bs := by
  induction as generalizing bs with
  | nil => simp [pure, Except.pure, eq_comm]
  | cons a as ih =>
    rw [List.mapM_cons, List.forall₂_cons_left_iff]
    simp only [← ih]
    rcases f a with e | b
    · simp [bind, Except.bind]
    · rcases as.mapM f with e | bs' <;> simp [bind, Except.bind, pure, Except.pure, eq_comm]

/-- **A list fails with the error of the first element that fails.** -/
theorem mapM_eq_error_iff {e : ε} :
    as.mapM f = .error e ↔ FirstError (fun a x => f a = x) as e := by
  induction as with
  | nil => simp [FirstError, pure, Except.pure]
  | cons a as ih =>
    rw [List.mapM_cons, firstError_cons, ← ih]
    rcases f a with e' | b
    · simp [bind, Except.bind]
    · rcases as.mapM f with e' | bs <;> simp [bind, Except.bind, pure, Except.pure]

end Errors

/-! ### The first element -/

/-- The first element of a list with a property. -/
def First (P : α → Prop) (as : List α) (a : α) : Prop :=
  ∃ before after, as = before ++ a :: after ∧ P a ∧ ∀ x ∈ before, ¬ P x

section First

variable {P : α → Prop} {p : α → Bool} {a b : α}

/-- **A search finds the first element.** -/
theorem find?_eq_some_iff_first (hp : ∀ x, p x = true ↔ P x) :
    as.find? p = some a ↔ First P as a := by
  rw [List.find?_eq_some_iff_append, First]
  simp only [← hp, Bool.not_eq_true', Bool.not_eq_true]
  constructor
  · rintro ⟨h, before, after, rfl, hbefore⟩
    exact ⟨before, after, rfl, h, hbefore⟩
  · rintro ⟨before, after, rfl, h, hbefore⟩
    exact ⟨h, before, after, rfl, hbefore⟩

theorem First.mem (h : First P as a) : a ∈ as := by
  obtain ⟨before, after, rfl, -⟩ := h
  simp

theorem First.prop (h : First P as a) : P a := by
  obtain ⟨before, after, -, ha, -⟩ := h
  exact ha

theorem First.eq (h : First P as a) (h' : First P as b) : a = b := by
  classical
  have hp : ∀ x, decide (P x) = true ↔ P x := fun _ => decide_eq_true_iff
  rw [← find?_eq_some_iff_first hp] at h h'
  exact Option.some.inj (h.symm.trans h')

theorem exists_first_iff : (∃ a, First P as a) ↔ ∃ a ∈ as, P a := by
  constructor
  · rintro ⟨a, h⟩
    exact ⟨a, h.mem, h.prop⟩
  · rintro ⟨x, hx, hPx⟩
    classical
    have hp : ∀ x, decide (P x) = true ↔ P x := fun _ => decide_eq_true_iff
    have hfound : (as.find? fun x => decide (P x)).isSome := List.find?_isSome.2 ⟨x, hx, (hp x).2 hPx⟩
    obtain ⟨a, ha⟩ := Option.isSome_iff_exists.1 hfound
    exact ⟨a, (find?_eq_some_iff_first hp).1 ha⟩

end First

/-! ### Reading back -/

theorem mapM_map_eq_some {f : β → Option α} {g : α → β} (h : ∀ a ∈ as, f (g a) = some a) :
    (as.map g).mapM f = some as :=
  mapM_eq_some_iff.2 (List.forall₂_map_left_iff.2 (List.forall₂_same.2 h))

end ApiModel
