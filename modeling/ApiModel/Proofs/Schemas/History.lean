import ApiModel.Proofs.Schemas.Allocation

/-!
# Registries that only grow

Three calls write to the registry of a draft: a schema is declared under its name, or synthesized
under a name, or registered under a name that is allocated for it.  Each call is a row of steps, and
each may stop at an error between two of them.  Here the steps are taken in place, so that an error
leaves behind what was done before it (`InPlace`).  What is left behind turns out to be nothing: a call
in place does what the functions on registries and drafts say, and where they fail the draft stays as
it is (`Call.perform_eq`).

So one call adds one schema at the end or changes nothing (`Call.appendOnly`), which keeps that the
synthesized names are listed as their schemas are (`Draft.Listed`), and this is what every history of
calls does, however many of them fail (`Call.appendOnly_after`).
-/

namespace ApiModel

/-- A computation that changes a draft in place: an error leaves what was done before it. -/
abbrev InPlace := ExceptT BuildError (StateM Draft)

namespace InPlace

/-- Puts a schema under a name: in the place of the one that has it, or at the end. -/
def put (name : String) (s : OrRef Schema) : InPlace Unit :=
  modify fun d =>
    { d with registry := { d.registry with entries := Entries.insert name s d.registry.entries } }

/-- Lists a name as synthesized unless it is listed. -/
def mark (name : String) : InPlace Unit :=
  modify fun d =>
    { d with registry :=
        { d.registry with
          synthesized :=
            if name ∈ d.registry.synthesized then d.registry.synthesized
            else d.registry.synthesized ++ [name] } }

/-- Adds a schema of the document: the name is looked up, then the schema is put under it. -/
def declare (name : String) (s : OrRef Schema) : InPlace Unit := do
  if (← get).registry.contains name then
    throw (.nameTaken name)
  put name s

/-- Adds a synthesized schema: it is put under the name, then the name is marked. -/
def synthesize (name : String) (s : OrRef Schema) : InPlace Unit := do
  declare name s
  mark name

/-- Adds a synthesized schema under a name that is allocated for it, and gives the name. -/
def register (candidates : List String) (s : OrRef Schema) : InPlace String := do
  let name ← liftExcept ((← get).allocate candidates)
  synthesize name s
  return name

end InPlace

namespace Draft

variable {d : Draft}

/-- The synthesized names are those of some entries, in the order of these, and each entry has a name
of its own. -/
structure Listed (d : Draft) : Prop where
  /-- No name is registered twice. -/
  nodup : (Entries.keys d.registry.entries).Nodup
  /-- The synthesized names stand among the names, in their order. -/
  synthesized : d.registry.synthesized.Sublist (Entries.keys d.registry.entries)

theorem listed_start (extra : List String) : (start extra).Listed :=
  ⟨List.nodup_nil, List.Sublist.slnil⟩

/-- What a step on values does to a draft: where the step fails, the draft stays as it is. -/
def commit {α : Type} (d : Draft) : Except BuildError (α × Draft) → Except BuildError α × Draft
  | .ok (a, d') => (.ok a, d')
  | .error e => (.error e, d)

/-- The draft with another registry. -/
def withRegistry (d : Draft) (r : Registry) : Draft :=
  { d with registry := r }

end Draft

namespace InPlace

variable {α β : Type} {d : Draft} {name : String} {s : OrRef Schema}

/-- The answer of a computation that starts with a draft, and the draft that it leaves. -/
def on (x : InPlace α) (d : Draft) : Except BuildError α × Draft :=
  x.run.run d

theorem on_get_bind (f : Draft → InPlace α) (d : Draft) : (get >>= f).on d = (f d).on d := rfl

theorem on_bind (x : InPlace α) (f : α → InPlace β) (d : Draft) :
    (x >>= f).on d =
      match x.on d with
      | (.ok a, d') => (f a).on d'
      | (.error e, d') => (.error e, d') := by
  rw [on, ExceptT.run_bind, StateT.run_bind, ← on]
  rcases x.on d with ⟨_ | _, d'⟩ <;> rfl

theorem on_declare (d : Draft) (name : String) (s : OrRef Schema) :
    (declare name s).on d =
      d.commit ((d.registry.declare name s).map fun r => ((), d.withRegistry r)) := by
  rw [declare, on_get_bind]
  by_cases h : d.registry.contains name = true
  · rw [if_pos h, Registry.declare, if_pos h]
    rfl
  · have hn : name ∉ Entries.keys d.registry.entries := by
      rwa [← Entries.has_iff]
    rw [if_neg h, Registry.declare, if_neg h, ← Entries.insert_of_notMem hn]
    rfl

/-- Synthesizing in place is synthesizing: the name that is marked is that of a new entry. -/
theorem on_synthesize (h : d.Listed) (name : String) (s : OrRef Schema) :
    (synthesize name s).on d =
      d.commit ((d.registry.synthesize name s).map fun r => ((), d.withRegistry r)) := by
  rw [synthesize, on_bind, on_declare, Registry.synthesize, Registry.declare]
  by_cases hc : d.registry.contains name = true
  · rw [if_pos hc]
    rfl
  · have hn : name ∉ d.registry.synthesized := by
      intro hm
      exact hc (Entries.has_iff.2 (h.synthesized.subset hm))
    have hmark : (if name ∈ d.registry.synthesized then d.registry.synthesized
        else d.registry.synthesized ++ [name]) = d.registry.synthesized ++ [name] := if_neg hn
    rw [if_neg hc]
    exact congrArg (fun names => (Except.ok (), d.withRegistry ⟨_, names⟩)) hmark

theorem on_register (h : d.Listed) (candidates : List String) (s : OrRef Schema) :
    (register candidates s).on d = d.commit (d.register candidates s) := by
  rw [register, on_get_bind, on_bind, Draft.register]
  rcases d.allocate candidates with e | name
  · rfl
  · have hbind := on_bind (synthesize name s) (fun _ => pure name) d
    rw [on_synthesize h] at hbind
    refine hbind.trans ?_
    change _ = d.commit (d.registry.synthesize name s >>= fun r => pure (name, d.withRegistry r))
    rcases d.registry.synthesize name s with e | r <;> rfl

end InPlace

/-- A call that writes to the registry of a draft. -/
inductive Call where
  /-- Declaring a schema under its name. -/
  | declare (name : String) (s : OrRef Schema)
  /-- Synthesizing a schema under a name. -/
  | synthesize (name : String) (s : OrRef Schema)
  /-- Registering a synthesized schema under a name that is allocated for it. -/
  | register (candidates : List String) (s : OrRef Schema)

namespace Call

variable {d : Draft}

/-- The schema that a call adds. -/
def schema : Call → OrRef Schema
  | declare _ s | synthesize _ s | register _ s => s

/-- The names that a call marks as synthesized when it adds its schema under a name. -/
def marks : Call → String → List String
  | declare _ _, _ => []
  | synthesize _ _, name | register _ _, name => [name]

/-- What a call does to a draft in place; it gives the name under which the schema stands. -/
def perform : Call → InPlace String
  | declare name s => do
    InPlace.declare name s
    return name
  | synthesize name s => do
    InPlace.synthesize name s
    return name
  | register candidates s => InPlace.register candidates s

/-- What a call is on values: the name and the draft after it, or why it fails. -/
def value (d : Draft) : Call → Except BuildError (String × Draft)
  | declare name s => (d.registry.declare name s).map fun r => (name, d.withRegistry r)
  | synthesize name s => (d.registry.synthesize name s).map fun r => (name, d.withRegistry r)
  | register candidates s => d.register candidates s

/-- The name under which a call may put its schema, or why it may not. -/
def answer (d : Draft) : Call → Except BuildError String
  | declare name _ | synthesize name _ =>
    if d.registry.contains name then .error (.nameTaken name) else .ok name
  | register candidates _ => d.allocate candidates

/-- The draft with the schema of a call at the end of its registry. -/
def added (d : Draft) (call : Call) (name : String) : Draft :=
  d.withRegistry
    ⟨d.registry.entries ++ [(name, call.schema)], d.registry.synthesized ++ call.marks name⟩

/-- The draft after a row of calls, whether they fail or not. -/
def after (d : Draft) (calls : List Call) : Draft :=
  calls.foldl (fun d call => (call.perform.on d).2) d

/-- **A call in place does what it does on values**, and changes nothing where it fails. -/
theorem perform_eq (h : d.Listed) (call : Call) : call.perform.on d = d.commit (call.value d) := by
  cases call with
  | declare name s =>
    rw [perform, InPlace.on_bind, InPlace.on_declare, value]
    rcases d.registry.declare name s with e | r <;> rfl
  | synthesize name s =>
    rw [perform, InPlace.on_bind, InPlace.on_synthesize h, value]
    rcases d.registry.synthesize name s with e | r <;> rfl
  | register candidates s => exact InPlace.on_register h candidates s

theorem value_eq (d : Draft) (call : Call) :
    call.value d = (call.answer d).map fun name => (name, added d call name) := by
  cases call with
  | declare name s =>
    rw [value, answer, Registry.declare]
    split_ifs
    · rfl
    · simp [Except.map, added, marks, schema, Draft.withRegistry]
  | synthesize name s =>
    rw [value, answer, Registry.synthesize, Registry.declare]
    split_ifs <;> rfl
  | register candidates s =>
    rw [value, answer, Draft.register]
    rcases ha : d.allocate candidates with e | name
    · rfl
    · have ht := ((Allocation.allocateWith_outcome _ _ _).of_ok ha).1
      have hs : d.registry.synthesize name s =
          .ok ⟨d.registry.entries ++ [(name, s)], d.registry.synthesized ++ [name]⟩ := by
        rw [Registry.synthesize, Registry.declare, ht]
        rfl
      change (d.registry.synthesize name s >>= fun r => pure (name, d.withRegistry r)) = _
      rw [hs]
      rfl

theorem notMem_of_answer {call : Call} {name : String} (h : call.answer d = .ok name) :
    name ∉ Entries.keys d.registry.entries := by
  have hfree : d.registry.contains name = false → name ∉ Entries.keys d.registry.entries := by
    intro hc hm
    rw [Registry.contains, Entries.has_iff.2 hm] at hc
    cases hc
  cases call with
  | declare name' s | synthesize name' s =>
    rw [answer] at h
    split_ifs at h with hc
    cases h
    exact hfree (Bool.eq_false_iff.2 hc)
  | register candidates s => exact hfree ((Allocation.allocateWith_outcome _ _ _).of_ok h).1

theorem listed_added (h : d.Listed) {name : String} (hn : name ∉ Entries.keys d.registry.entries)
    (call : Call) : (added d call name).Listed := by
  have hkeys : Entries.keys (added d call name).registry.entries =
      Entries.keys d.registry.entries ++ [name] := Entries.keys_append _ _
  constructor
  case nodup =>
    rw [hkeys, ← List.concat_eq_append]
    exact h.nodup.concat hn
  case synthesized =>
    rw [hkeys]
    refine h.synthesized.append ?_
    cases call with
    | declare => exact List.nil_sublist _
    | synthesize | register => exact List.Sublist.refl _

/-- What a call on a draft may do: `result` is what it gives, and `d'` is the draft that it leaves. -/
structure AppendOnly (d : Draft) (call : Call) (result : Except BuildError String) (d' : Draft) :
    Prop where
  /-- In place the call does what it does on values. -/
  onValues : (result, d') = d.commit (call.value d)
  /-- It gives the name that it is asked for or that is allocated, and fails if the name is taken or
  there is none. -/
  answered : result = call.answer d
  /-- The entries stay, with their names and schemas and in their order. -/
  kept : d.registry.entries <+: d'.registry.entries
  /-- If the call succeeds, one entry is added, at the end and under a name that was not there. -/
  added : ∀ name, result = .ok name → name ∉ Entries.keys d.registry.entries ∧
    d'.registry.entries = d.registry.entries ++ [(name, call.schema)] ∧
    d'.registry.synthesized = d.registry.synthesized ++ call.marks name
  /-- If the call fails, the draft is as it was. -/
  refused : ∀ e, result = .error e → d' = d
  /-- The synthesized names are names of entries, in the order of these. -/
  listed : d'.Listed
  /-- A name that a schema gets by being registered is not reserved. -/
  free : ∀ candidates s name, call = .register candidates s → result = .ok name →
    d.reserved.contains name = false
  /-- The same names are reserved. -/
  reserved : d'.reserved = d.reserved
  /-- Nothing is noted. -/
  noted : d'.diagnostics = d.diagnostics

/-- **One call** adds one entry or changes nothing. -/
theorem appendOnly (h : d.Listed) (call : Call) :
    AppendOnly d call (call.perform.on d).1 (call.perform.on d).2 := by
  have hperform := perform_eq h call
  have hvalue := value_eq d call
  rcases ha : call.answer d with e | name
  · -- a refused call gives back the registry as it was
    have hon : call.perform.on d = (.error e, d) := by
      rw [hperform, hvalue, ha]
      rfl
    rw [hon]
    constructor
    case onValues => exact hon.symm.trans hperform
    case answered => exact ha.symm
    case kept => exact List.prefix_rfl
    case added => exact fun _ h => nomatch h
    case refused => exact fun _ _ => rfl
    case listed => exact h
    case free => exact fun _ _ _ _ h => nomatch h
    case reserved => rfl
    case noted => rfl
  · -- an answered one has put its entry behind the others
    have hon : call.perform.on d = (.ok name, added d call name) := by
      rw [hperform, hvalue, ha]
      rfl
    have hn := notMem_of_answer ha
    rw [hon]
    constructor
    case onValues => exact hon.symm.trans hperform
    case answered => exact ha.symm
    case kept => exact List.prefix_append _ _
    case added =>
      rintro _ ⟨⟩
      exact ⟨hn, rfl, rfl⟩
    case refused => exact fun _ h => nomatch h
    case listed => exact listed_added h hn call
    case free =>
      rintro candidates s _ rfl ⟨⟩
      exact ((Allocation.allocateWith_outcome _ _ _).of_ok ha).2.1
    case reserved => rfl
    case noted => rfl

/-- What holds along every history: the names are listed, and the same ones are reserved. -/
theorem listed_after (calls : List Call) (h : d.Listed) :
    (after d calls).Listed ∧ (after d calls).reserved = d.reserved := by
  induction calls generalizing d with
  | nil => exact ⟨h, rfl⟩
  | cons call calls ih =>
    have hcall := appendOnly h call
    obtain ⟨hl, hr⟩ := ih hcall.listed
    exact ⟨hl, hr.trans hcall.reserved⟩

/-- **Registries only grow, and what fails leaves no trace**: this is what a call does after any
history of calls, whether those succeeded or failed. -/
theorem appendOnly_after (extra : List String) (calls : List Call) (call : Call) :
    let d := after (.start extra) calls
    AppendOnly d call (call.perform.on d).1 (call.perform.on d).2 ∧
      d.Listed ∧ d.reserved = ⟨extra⟩ := by
  have h := listed_after calls (Draft.listed_start extra)
  exact ⟨appendOnly h.1 call, h⟩

end Call

end ApiModel
