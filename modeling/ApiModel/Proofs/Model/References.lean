import ApiModel.Proofs.Model.Carried

/-!
# References to schemas

Where the finished document wants a schema and has a reference, the reference should lead to a schema
in the registry (`Model.SchemasResolve`).  The check does not say so: it looks each pointer up in the
section that the pointer itself names.  Since everything that is checked leads somewhere, references
lead to schemas exactly when they name the section of the schemas
(`Model.schemasResolve_iff_finished`), and that depends only on what the document wrote
(`Model.schemasResolve_iff`).
-/

namespace ApiModel

/-- The section that a pointer names. -/
def Pointer.sectionOf? (p : String) : Option Section :=
  (target? p).map (·.1)

theorem Pointer.sectionOf?_eq_some_iff {p : String} {sec : Section} :
    sectionOf? p = some sec ↔ ∃ name, target? p = some (sec, name) := by
  simp [sectionOf?]

namespace Model

variable {options : Options} {analyzers : Analyzers} {d : Document} {m : Model}
  {renames : List (String × String)}

/-- Every reference that stands where a schema is wanted leads to a schema of the registry. -/
def SchemasResolve (m : Model) : Prop :=
  ∀ p, ⟨.ref .schemas, p⟩ ∈ m.document.mentions →
    ∃ s name, m.resolver.schemaAt p = .ok s ∧ (name, .inline s) ∈ m.registry.entries

/-- **The references of a finished document lead to schemas exactly if they name the section of the
schemas.** -/
theorem schemasResolve_iff_finished (h : build options analyzers d = .ok m) :
    m.SchemasResolve ↔ ∀ p, ⟨.ref .schemas, p⟩ ∈ m.document.mentions →
      Pointer.sectionOf? p = some .schemas := by
  obtain ⟨t⟩ := exists_trace h
  constructor
  · intro hres p hp
    obtain ⟨s, -, hs, -⟩ := hres p hp
    exact Pointer.sectionOf?_eq_some_iff.2 (exists_target?_of_follow hs)
  · intro hsec p hp
    -- the reference has been checked, so that it leads somewhere
    have hc := Document.check_eq_ok_iff.1 t.checked _ hp
    rw [t.resolver_document] at hc
    have hf := (Resolver.findsIn_iff_of_checkPointer hc .schemas).2
      (Pointer.sectionOf?_eq_some_iff.1 (hsec p hp))
    obtain ⟨s, hs⟩ := exists_eq_ok hf
    obtain ⟨name, hm⟩ := Resolver.mem_of_schemaAt hs
    exact ⟨s, name, hs, hm⟩

theorem Trace.sectionOf?_synthesized (t : Trace options analyzers d m) {name : String}
    (hn : name ∈ m.registry.synthesized) :
    Pointer.sectionOf? (Schema.pointerPrefix ++ name) = some .schemas := by
  rw [t.synthesized_eq] at hn
  have hl := t.run.adds.literal name hn
  exact Pointer.sectionOf?_eq_some_iff.2 ⟨name, Pointer.target?_reference hl⟩

/-- **The references of a finished document lead to schemas exactly if those of the document name the
section of the schemas**, after reserved schemas have been renamed.  What is taken apart and left out
does not count. -/
theorem schemasResolve_iff (h : build options analyzers d = .ok m)
    (hd : (Entries.keys d.componentsD.schemas).Nodup) :
    ∃ renames, d.componentsD.newNames ⟨options.reserved⟩ = .ok renames ∧
      (m.SchemasResolve ↔ ∀ p, ⟨.ref .schemas, p⟩ ∈ d.mentions →
        Pointer.sectionOf? (Renaming.pointer renames .ref p) = some .schemas ∨
          ⟨.ref .schemas, p⟩ ∈ d.looseMentions ∧
            ⟨.ref .schemas, Renaming.pointer renames .ref p⟩ ∉ m.document.mentions) := by
  obtain ⟨t⟩ := exists_trace h
  obtain ⟨renames, hren, hs⟩ := t.exists_renamed
  refine ⟨renames, hren, (schemasResolve_iff_finished h).trans ?_⟩
  constructor
  · intro hsec p hp
    by_cases hm : ⟨.ref .schemas, Renaming.pointer renames .ref p⟩ ∈ m.document.mentions
    · exact .inl (hsec _ hm)
    · rcases Document.mem_mentions_iff.1 hp with hfirm | hloose
      · -- what is firm and not mentioned any more has been looked up as a schema
        have hf := (t.carries_under hren hs hd hfirm).resolve_left hm
        exact .inl (Pointer.sectionOf?_eq_some_iff.2 (Resolver.exists_target?_of_findsIn hf))
      · exact .inr ⟨hloose, hm⟩
  · intro hsec p hp
    rcases t.mentions_subset _ hp with hsource | ⟨name, hn, he⟩
    · rw [hs] at hsource
      obtain ⟨⟨place, q⟩, hq, he⟩ := Document.exists_of_mem_mentions_renamed hren hd hsource
      obtain ⟨rfl, rfl⟩ := Mention.mk.inj he
      exact (hsec q hq).resolve_right fun hlost => hlost.2 hp
    · obtain rfl : p = Schema.pointerPrefix ++ name := congrArg Mention.pointer he
      exact t.sectionOf?_synthesized hn

/-- A document with an operation that answers with what a pointer leads to. -/
def listing (p : String) : Document where
  openapi := "3.0.0"
  info := { title := "Items", version := "1" }
  paths :=
    [("/items",
      { operations :=
          [(.get,
            { responses :=
                [("200", .inline
                  { content := [("application/json", { schema := some (.ref p) })] })] })] })]
  components := some
    { schemas := [("Object", .inline {})]
      parameters := [("Limit", .inline { name := "limit", location := .query })] }

theorem schemasResolve_listing :
    ∃ m, build {} [] (listing "#/components/schemas/Object") = .ok m ∧ m.SchemasResolve := by
  have hok : (build {} [] (listing "#/components/schemas/Object")).isOk = true := by
    decide +kernel
  obtain ⟨m, hm⟩ := exists_eq_ok hok
  obtain ⟨renames, hren, hiff⟩ := schemasResolve_iff hm (by decide)
  have hr : renames = [("Object", "Object2")] := by
    have he : (listing "#/components/schemas/Object").componentsD.newNames ⟨[]⟩ =
        .ok [("Object", "Object2")] := by decide +kernel
    exact Except.ok.inj (hren.symm.trans he)
  have hsec : ∀ u ∈ (listing "#/components/schemas/Object").mentions,
      Pointer.sectionOf? (Renaming.pointer [("Object", "Object2")] .ref u.pointer) =
        some .schemas := by
    decide +kernel
  subst hr
  refine ⟨m, hm, hiff.2 fun p hp => .inl ?_⟩
  exact hsec ⟨.ref .schemas, p⟩ hp

/-- **A reference where a schema is wanted leads to a parameter**, and the document passes. -/
theorem not_schemasResolve_listing :
    ∃ m, build {} [] (listing "#/components/parameters/Limit") = .ok m ∧ ¬ m.SchemasResolve := by
  have hparts : (build {} [] (listing "#/components/parameters/Limit")).toOption.map (fun m =>
      (decide (⟨.ref .schemas, "#/components/parameters/Limit"⟩ ∈ m.document.mentions),
        (m.resolver.schemaAt "#/components/parameters/Limit").isOk)) = some (true, false) := by
    decide +kernel
  rcases hb : build {} [] (listing "#/components/parameters/Limit") with err | m
  · rw [hb] at hparts
    cases hparts
  · rw [hb] at hparts
    obtain ⟨hmem, hno⟩ := Prod.mk.inj (Option.some.inj hparts)
    refine ⟨m, rfl, fun hres => ?_⟩
    obtain ⟨s, -, hs, -⟩ := hres _ (of_decide_eq_true hmem)
    rw [isOk_of_eq_ok hs] at hno
    cases hno

end Model

end ApiModel
