import ApiModel.Proofs.Entries
import ApiModel.Proofs.Schemas.Reference

/-!
# Allocated names are free

What the allocator gives is neither taken nor reserved, and stands in a pointer as it is
(`Allocation.allocateWith_outcome`); its only error is that the names are exhausted.  So registering
never meets a taken name (`Draft.register_outcome`): it only adds at the end, under new names
(`Draft.Adds`), and a registry that holds every name once and no reserved one stays so
(`Draft.Adds.sound`).
-/

namespace ApiModel

/-- An error other than that a schema name is given twice. -/
def BuildError.NotTaken (e : BuildError) : Prop :=
  ∀ name, e ≠ .nameTaken name

namespace BuildError

@[simp] theorem notTaken_badRef (e : RefError) : (badRef e).NotTaken := fun _ h => nomatch h

@[simp] theorem notTaken_missingField (scheme field : String) :
    (missingField scheme field).NotTaken := fun _ h => nomatch h

@[simp] theorem notTaken_namesExhausted (base : String) : (namesExhausted base).NotTaken :=
  fun _ h => nomatch h

@[simp] theorem notTaken_unknownAnalyzer (name : String) : (unknownAnalyzer name).NotTaken :=
  fun _ h => nomatch h

end BuildError

theorem liftRef_outcome {α : Type} (x : Except RefError α) :
    Outcome BuildError.NotTaken (fun a => x = .ok a) (liftRef x) := by
  cases x with
  | ok a => exact .ok rfl
  | error e => exact .error (BuildError.notTaken_badRef e)

/-- **What is allocated is free**, and failing to allocate is no conflict. -/
theorem Allocation.allocateWith_outcome (isTaken : String → Bool) (reserved : Reserved)
    (candidates : List String) :
    Outcome BuildError.NotTaken
      (fun name => isTaken name = false ∧ reserved.contains name = false ∧ Pointer.Literal name)
      (allocateWith isTaken reserved candidates) := by
  have hfree : Outcome BuildError.NotTaken
      (fun name => isTaken name = false ∧ reserved.contains name = false)
      (allocateWith isTaken reserved candidates) := by
    unfold allocateWith
    simp only
    split
    · rename_i name h
      exact .ok (by simpa using List.find?_some h)
    · split
      · rename_i name h
        exact .ok (by simpa using List.find?_some h)
      · exact .error (BuildError.notTaken_namesExhausted _)
  exact hfree.mono_of_ok fun name h ⟨ht, hr⟩ => ⟨ht, hr, literal_of_allocateWith h⟩

theorem Allocation.exhausted_of_allocateWith {isTaken : String → Bool} {reserved : Reserved}
    {candidates : List String} {err : BuildError}
    (h : allocateWith isTaken reserved candidates = .error err) :
    ∃ base, err = .namesExhausted base := by
  simp only [allocateWith] at h
  split at h
  · cases h
  · split at h
    · cases h
    · cases h
      exact ⟨_, rfl⟩

namespace Draft

variable {d d' d'' : Draft}

/-- Every name is registered once, and none is reserved. -/
structure Sound (d : Draft) : Prop where
  /-- No name is registered twice. -/
  nodup : (Entries.keys d.registry.entries).Nodup
  /-- No registered name is reserved. -/
  free : ∀ name ∈ Entries.keys d.registry.entries, d.reserved.contains name = false

/-- The second draft is the first with schemas synthesized under new names, and with diagnostics
noted at the end. -/
structure Adds (d d' : Draft) (names : List String) : Prop where
  /-- The new schemas stand behind the others. -/
  entries : ∃ new, d'.registry.entries = d.registry.entries ++ new ∧ Entries.keys new = names
  /-- No new name was registered before. -/
  fresh : ∀ name ∈ names, name ∉ Entries.keys d.registry.entries
  /-- No name is new twice. -/
  nodup : names.Nodup
  /-- No new name is reserved. -/
  free : ∀ name ∈ names, d.reserved.contains name = false
  /-- The new names stand in pointers as they are. -/
  literal : ∀ name ∈ names, Pointer.Literal name
  /-- The new names are known as synthesized. -/
  synthesized : d'.registry.synthesized = d.registry.synthesized ++ names
  /-- The same names are reserved. -/
  reserved : d'.reserved = d.reserved
  /-- Nothing that was noted is lost. -/
  noted : d.diagnostics <+: d'.diagnostics

namespace Adds

variable {names names' : List String}

theorem entries_prefix (h : d.Adds d' names) : d.registry.entries <+: d'.registry.entries := by
  obtain ⟨new, he, -⟩ := h.entries
  exact ⟨new, he.symm⟩

theorem keys_eq (h : d.Adds d' names) :
    Entries.keys d'.registry.entries = Entries.keys d.registry.entries ++ names := by
  obtain ⟨new, he, hk⟩ := h.entries
  rw [he, Entries.keys_append, hk]

theorem trans (h : d.Adds d' names) (h' : d'.Adds d'' names') : d.Adds d'' (names ++ names') := by
  obtain ⟨new, he, hk⟩ := h.entries
  obtain ⟨new', he', hk'⟩ := h'.entries
  -- what is new the second time was not there after the first
  have hf : ∀ name ∈ names', name ∉ Entries.keys d.registry.entries ∧ name ∉ names := by
    intro name hm
    have := h'.fresh name hm
    rw [h.keys_eq, List.mem_append, not_or] at this
    exact this
  refine ⟨⟨new ++ new', ?_, ?_⟩, ?_, ?_, ?_, ?_, ?_, h'.reserved.trans h.reserved,
    h.noted.trans h'.noted⟩
  · rw [he', he, List.append_assoc]
  · rw [Entries.keys_append, hk, hk']
  · intro name hm
    rcases List.mem_append.1 hm with hm | hm
    · exact h.fresh name hm
    · exact (hf name hm).1
  · refine List.nodup_append.2 ⟨h.nodup, h'.nodup, ?_⟩
    rintro a ha _ hb rfl
    exact (hf a hb).2 ha
  · intro name hm
    rcases List.mem_append.1 hm with hm | hm
    · exact h.free name hm
    · rw [← h.reserved]
      exact h'.free name hm
  · intro name hm
    exact (List.mem_append.1 hm).elim (h.literal name) (h'.literal name)
  · rw [h'.synthesized, h.synthesized, List.append_assoc]

/-- **Adding keeps a draft sound.** -/
theorem sound (h : d.Adds d' names) (hd : d.Sound) : d'.Sound := by
  refine ⟨?_, fun name hm => ?_⟩
  · rw [h.keys_eq]
    refine List.nodup_append.2 ⟨hd.nodup, h.nodup, ?_⟩
    rintro a ha _ hb rfl
    exact h.fresh a hb ha
  · rw [h.reserved]
    rw [h.keys_eq, List.mem_append] at hm
    exact hm.elim (hd.free name) (h.free name)

end Adds

theorem adds_note (d : Draft) (ds : List Diagnostic) : d.Adds (d.note ds) [] where
  entries := ⟨[], by simp [note]⟩
  fresh := by simp
  nodup := List.nodup_nil
  free := by simp
  literal := by simp
  synthesized := by simp [note]
  reserved := rfl
  noted := List.prefix_append _ _

theorem Adds.refl (d : Draft) : d.Adds d [] where
  entries := ⟨[], by simp⟩
  fresh := by simp
  nodup := List.nodup_nil
  free := by simp
  literal := by simp
  synthesized := by simp
  reserved := rfl
  noted := List.prefix_rfl

/-- The draft with one more synthesized schema. -/
def push (d : Draft) (name : String) (s : OrRef Schema) : Draft :=
  { d with registry := ⟨d.registry.entries ++ [(name, s)], d.registry.synthesized ++ [name]⟩ }

theorem adds_push {name : String} (hn : name ∉ Entries.keys d.registry.entries)
    (hr : d.reserved.contains name = false) (hl : Pointer.Literal name) (s : OrRef Schema) :
    d.Adds (d.push name s) [name] where
  entries := ⟨[(name, s)], rfl, rfl⟩
  fresh := by simpa using hn
  nodup := List.nodup_singleton name
  free := by simpa using hr
  literal := by simpa using hl
  synthesized := rfl
  reserved := rfl
  noted := List.prefix_rfl

/-- **Registering takes a free name** and adds the schema under it; it never meets a taken name. -/
theorem register_outcome (d : Draft) (candidates : List String) (s : OrRef Schema) :
    Outcome BuildError.NotTaken (fun r => d.Adds r.2 [r.1] ∧ r.2 = d.push r.1 s)
      (d.register candidates s) := by
  refine (Allocation.allocateWith_outcome _ _ candidates).bind fun name ⟨ht, hr, hl⟩ => ?_
  have hn : name ∉ Entries.keys d.registry.entries := by
    rw [← Entries.has_iff, ← Registry.contains, ht]
    exact Bool.false_ne_true
  simp only [Registry.synthesize, Registry.declare, ht, Bool.false_eq_true, if_false, Except.map]
  exact .ok ⟨adds_push hn hr hl s, rfl⟩

/-- Registering fails only when the names are exhausted. -/
theorem exhausted_of_register {candidates : List String} {s : OrRef Schema} {err : BuildError}
    (h : d.register candidates s = .error err) : ∃ base, err = .namesExhausted base := by
  rcases ha : d.allocate candidates with err' | name
  · rw [register, ha] at h
    cases h
    exact Allocation.exhausted_of_allocateWith ha
  · -- a name that was allocated is free, so that the schema can be added
    have ht := ((Allocation.allocateWith_outcome _ _ _).of_ok ha).1
    rw [register, ha] at h
    simp [Registry.synthesize, Registry.declare, ht, bind, Except.bind, Except.map, pure,
      Except.pure] at h

end Draft

end ApiModel
