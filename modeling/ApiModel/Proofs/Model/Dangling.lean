import ApiModel.Proofs.Follow
import ApiModel.Proofs.Model.Carried

/-!
# Dangling pointers

The pointers of a document are checked when its model is finished.  Until then schemas have got new
names, others have been added, and the bodies and parameters of operations have been taken apart.  So
a pointer that led nowhere in the document may pass: it is captured by a new name, or lost
(`Model.unchecked_answering`).  Nothing else passes (`Model.mentions_checked`).

Following a pointer in the registry and in the document goes in step (`Model.Trace.step_schemas`), up
to the pointers that are captured; and what is not in a piece that was taken apart is still in the
finished document, or it has been looked up on the way (`Model.Trace.carries`).
-/

namespace ApiModel

namespace Model

/-- After the renaming a pointer names a schema that it did not name in the document: one that has
been synthesized, or one that has got this name by the renaming. -/
def Captures (m : Model) (renames : List (String × String)) (kind : PointerKind) (p : String) :
    Prop :=
  ∃ name, Pointer.Names kind (Renaming.pointer renames kind p) name ∧
    (name ∈ m.registry.synthesized ∨ Renaming.Captures renames kind p name)

/-- A mention is captured, or a reference among the component schemas is to which it leads. -/
def Misleads (m : Model) (renames : List (String × String)) (d : Document) (u : Mention) : Prop :=
  m.Captures renames u.place.kind u.pointer ∨
    ∃ q, Relation.TransGen (Next .schemas d.componentsD.schemas) u.pointer q ∧
      m.Captures renames .ref q

variable {options : Options} {analyzers : Analyzers} {d : Document} {m : Model}
  {renames : List (String × String)} {reserved : Reserved} {kind : PointerKind} {p : String}
  {sec : Section} {u : Mention}

theorem Trace.check_of_mem_mentions (t : Trace options analyzers d m)
    (hu : u ∈ m.document.mentions) : m.resolver.check u = .ok () := by
  rw [← t.resolver_document]
  exact Document.check_eq_ok_iff.1 t.checked u hu

section Trace

variable (t : Trace options analyzers d m) (h : d.componentsD.newNames reserved = .ok renames)
  (hs : t.source = d.renamed renames)

include h hs

theorem Trace.findsIn_other (hsec : sec ≠ .schemas)
    (hf : m.resolver.findsIn sec (Renaming.pointer renames kind p) = true) :
    d.resolver.findsIn sec p = true := by
  have hfits := Components.fits_of_newNames h
  have hsame : ∀ kind p name,
      Pointer.target? (Renaming.pointer renames kind p) = some (sec, name) →
        Renaming.pointer renames kind p = p := fun _ _ _ ht => hfits.pointer_eq_self hsec ht
  have htables := Document.tablesInStep_renamed renames d
  rw [← hs] at htables
  have hc : m.resolver.components = { t.components with schemas := m.registry.entries } :=
    t.componentsD_eq
  cases sec with
  | schemas => exact absurd rfl hsec
  | securitySchemes =>
    -- no chains here: the scheme itself is looked up, and the schemes are the same ones
    obtain ⟨name, ht⟩ := Resolver.exists_target?_of_findsIn hf
    rw [hsame kind p name ht] at hf
    have hschemes : m.resolver.securityScheme = d.resolver.securityScheme := by
      have he : m.resolver.components.securitySchemes = d.componentsD.securitySchemes := by
        rw [hc]
        exact htables.securitySchemes
      funext name
      rw [Resolver.securityScheme, he]
      rfl
    simp only [Resolver.findsIn, Resolver.securitySchemeAt, hschemes] at hf ⊢
    exact hf
  | parameters =>
    simp only [Resolver.findsIn, Resolver.parameterAt, hc] at hf
    exact isOk_follow_of_inStep htables.parameters hsame hf
  | requestBodies =>
    simp only [Resolver.findsIn, Resolver.requestBodyAt, hc] at hf
    exact isOk_follow_of_inStep htables.requestBodies hsame hf
  | responses =>
    simp only [Resolver.findsIn, Resolver.responseAt, hc] at hf
    exact isOk_follow_of_inStep htables.responses hsame hf

variable (hd : (Entries.keys d.componentsD.schemas).Nodup)

include hd

theorem Trace.exists_of_find?_entries {name : String} {x : OrRef Schema}
    (hx : Entries.find? name m.registry.entries = some x) :
    name ∈ m.registry.synthesized ∨ ∃ old y, Entries.find? old d.componentsD.schemas = some y ∧
      name = Renaming.renamed renames old ∧
        OrRef.Repointed (Renaming.pointer renames) (Schema.Repointed (Renaming.pointer renames))
          y x := by
  obtain ⟨new, he, hk⟩ := t.run.adds.entries
  rw [t.registry_eq, he, Entries.find?_append, Option.or_eq_some_iff] at hx
  rcases hx with hx | ⟨-, hx⟩
  · have hc : t.components = (d.renamed renames).componentsD := congrArg Document.componentsD hs
    rw [hc] at hx
    exact .inr (Document.exists_of_find?_schemas h hd hx)
  · left
    rw [t.synthesized_eq, ← hk]
    exact Entries.mem_keys_of_find? hx

/-- **What a pointer names in the registry it named in the document**, or it is captured. -/
theorem Trace.step_schemas (kind : PointerKind) (p name : String) (x : OrRef Schema)
    (hp : Pointer.target? (Renaming.pointer renames kind p) = some (.schemas, name))
    (hx : Entries.find? name m.registry.entries = some x) :
    m.Captures renames kind p ∨ ∃ old y, Pointer.target? p = some (.schemas, old) ∧
      Entries.find? old d.componentsD.schemas = some y ∧
        OrRef.Repointed (Renaming.pointer renames) (Schema.Repointed (Renaming.pointer renames))
          y x := by
  have hf := Components.fits_of_newNames h
  rcases t.exists_of_find?_entries h hs hd hx with hsyn | ⟨old, y, hy, rfl, he⟩
  · exact .inl ⟨name, .inl hp, .inl hsyn⟩
  · have hold : old ∈ Entries.keys d.componentsD.schemas :=
      Entries.mem_keys_of_find? hy
    rcases hf.names_or_captured hold (.inl hp) with (ht | ⟨-, hb, -⟩) | hcap
    · exact .inr ⟨old, y, ht, hy, he⟩
    · -- a bare name has not become a pointer
      have hb' : (Renaming.pointer renames kind p).startsWith "#" = false :=
        hf.startsWith_pointer hb
      rw [Pointer.startsWith_of_target? hp] at hb'
      cases hb'
    · exact .inl ⟨_, .inl hp, .inr hcap⟩

/-- **Where a pointer leads in the registry it led in the document**, up to its own pointers, or it
misleads. -/
theorem Trace.leads_or_misleads {s' : Schema}
    (hl : Leads .schemas m.registry.entries (Renaming.pointer renames u.place.kind u.pointer) s') :
    m.Misleads renames d u ∨ ∃ s, Leads .schemas d.componentsD.schemas u.pointer s ∧
      s.Repointed (Renaming.pointer renames) s' :=
  hl.in_step (t.step_schemas h hs hd) u.place.kind u.pointer rfl

theorem Trace.findsIn_schemas
    (hf : m.resolver.findsIn .schemas (Renaming.pointer renames u.place.kind u.pointer) = true) :
    m.Misleads renames d u ∨ d.resolver.findsIn .schemas u.pointer = true := by
  obtain ⟨s, hfound⟩ := exists_eq_ok hf
  refine (t.leads_or_misleads h hs hd (follow_eq_ok_iff.1 hfound)).imp_right ?_
  rintro ⟨v, hv, -⟩
  exact isOk_of_eq_ok (follow_eq_ok_iff.2 hv)

theorem Trace.check_or_misleads
    (hc : m.resolver.check (u.under (Renaming.pointer renames)) = .ok ()) :
    d.resolver.check u = .ok () ∨ m.Misleads renames d u := by
  have hf := Components.fits_of_newNames h
  rcases Resolver.checkPointer_eq_ok_iff.1 hc with ⟨sec, name, -, hfound⟩ | ⟨hk, hb, hmem⟩
  · -- only a pointer to a schema can be found by chance, all others are left as they are
    by_cases hsec : sec = .schemas
    · subst hsec
      rcases t.findsIn_schemas h hs hd hfound with hm | hfound
      · exact .inr hm
      · obtain ⟨name, ht⟩ := Resolver.exists_target?_of_findsIn hfound
        exact .inl (Resolver.checkPointer_eq_ok_iff.2 (.inl ⟨_, name, ht, hfound⟩))
    · have hfound := t.findsIn_other h hs hsec hfound
      obtain ⟨name, ht⟩ := Resolver.exists_target?_of_findsIn hfound
      exact .inl (Resolver.checkPointer_eq_ok_iff.2 (.inl ⟨_, name, ht, hfound⟩))
  · -- the bare name of a schema
    obtain ⟨x, hx⟩ := Entries.exists_find?_iff.2 hmem
    rcases t.exists_of_find?_entries h hs hd hx with hsyn | ⟨old, y, hy, he, -⟩
    · exact .inr (.inl ⟨_, .inr ⟨hk, hb, rfl⟩, .inl hsyn⟩)
    · have hold : old ∈ Entries.keys d.componentsD.schemas :=
        Entries.mem_keys_of_find? hy
      have hnames : Pointer.Names u.place.kind (Renaming.pointer renames u.place.kind u.pointer)
          (Renaming.renamed renames old) := .inr ⟨hk, hb, he⟩
      rcases hf.names_or_captured hold hnames with (ht | ⟨-, hb', he'⟩) | hcap
      · -- a pointer to a schema has not become a bare name
        have hb' : (Renaming.pointer renames u.place.kind u.pointer).startsWith "#" = true :=
          Renaming.startsWith_pointer_of_target? ht
        cases hb'.symm.trans hb
      · rw [← he'] at hold
        exact .inl (Resolver.checkPointer_eq_ok_iff.2 (.inr ⟨hk, hb', hold⟩))
      · exact .inr (.inl ⟨_, hnames, .inr hcap⟩)

theorem Trace.check_of_mem_firmMentions (hu : u ∈ d.firmMentions) :
    m.resolver.check (u.under (Renaming.pointer renames)) = .ok () := by
  rcases t.carries_under h hs hd hu with hm | hf
  · exact t.check_of_mem_mentions hm
  · exact Resolver.check_of_finds hf

end Trace

/-- **Which dangling pointers a model can be built over.**  Every mention of the document passes the
check of the document itself, before anything was added to it, unless it misleads or stands in a
piece of an operation that was taken apart and left out. -/
theorem mentions_checked (h : build options analyzers d = .ok m)
    (hd : (Entries.keys d.componentsD.schemas).Nodup) :
    ∃ renames, d.componentsD.newNames ⟨options.reserved⟩ = .ok renames ∧
      ∀ u ∈ d.mentions, d.resolver.check u = .ok () ∨ m.Misleads renames d u ∨
        u ∈ d.looseMentions ∧ u.under (Renaming.pointer renames) ∉ m.document.mentions := by
  obtain ⟨t⟩ := exists_trace h
  obtain ⟨renames, hren, hs⟩ := t.exists_renamed
  refine ⟨renames, hren, fun u hu => ?_⟩
  rw [← or_assoc]
  rcases Document.mem_mentions_iff.1 hu with hfirm | hloose
  · exact .inl (t.check_or_misleads hren hs hd (t.check_of_mem_firmMentions hren hs hd hfirm))
  · by_cases hm : u.under (Renaming.pointer renames) ∈ m.document.mentions
    · exact .inl (t.check_or_misleads hren hs hd (t.check_of_mem_mentions hm))
    · exact .inr ⟨hloose, hm⟩

/-- A document with a schema under a reserved name.  One operation answers with a schema, the other
takes an object whose further properties are given by a second schema. -/
def answering (answer further : String) : Document where
  openapi := "3.0.0"
  info := { title := "Things", version := "1" }
  paths :=
    [("/things",
      { operations :=
          [(.get,
            { responses :=
                [("200", .inline
                  { content :=
                      [("application/json", { schema := some (Schema.reference answer) })] })] }),
            (.post,
              { requestBody := some (.inline
                  { content :=
                      [("application/json",
                        { schema := some (.inline
                            { type := some (.single .object)
                              properties := [("name", .inline {})]
                              additionalProperties :=
                                some (.schema (Schema.reference further)) }) })] }) })] })]
  components := some { schemas := [("Object", .inline {})] }

theorem mentions_checked_answering :
    (Entries.keys (answering "Object2" "Missing").componentsD.schemas).Nodup ∧
      ∃ m, build {} [] (answering "Object2" "Missing") = .ok m ∧
        ∃ renames, (answering "Object2" "Missing").componentsD.newNames ⟨[]⟩ = .ok renames ∧
          ∀ u ∈ (answering "Object2" "Missing").mentions,
            (answering "Object2" "Missing").resolver.check u = .ok () ∨
              m.Misleads renames (answering "Object2" "Missing") u ∨
              u ∈ (answering "Object2" "Missing").looseMentions ∧
                u.under (Renaming.pointer renames) ∉ m.document.mentions := by
  have hok : (build {} [] (answering "Object2" "Missing")).isOk = true := by decide +kernel
  have hd : (Entries.keys (answering "Object2" "Missing").componentsD.schemas).Nodup := by decide
  obtain ⟨m, hm⟩ := exists_eq_ok hok
  exact ⟨hd, m, hm, mentions_checked hm hd⟩

/-- **Pointers that lead nowhere in the document and pass**: to the name of a synthesized input, to
the new name of a schema, and out of a piece that is left out. -/
theorem unchecked_answering :
    ((build {} [] (answering "GetThingsInput" "Object")).isOk = true ∧
        (answering "GetThingsInput" "Object").check.isOk = false) ∧
      ((build {} [] (answering "Object2" "Object")).isOk = true ∧
        (answering "Object2" "Object").check.isOk = false) ∧
      (build {} [] (answering "Object" "Missing")).isOk = true ∧
        (answering "Object" "Missing").check.isOk = false := by
  refine ⟨⟨?_, ?_⟩, ⟨?_, ?_⟩, ?_, ?_⟩ <;> decide +kernel

end Model

end ApiModel
