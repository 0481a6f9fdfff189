import ApiModel.Proofs.Model.Extends
import ApiModel.Proofs.Schemas.Longer

/-!
# Documents with more paths

The operations are settled in the order of the document, and each step knows only what was there
before it.  So the paths that are put behind the others of a document change nothing that was given
out for those: the model of the longer document begins with the endpoints, the schemas and the
diagnostics of the model of the shorter one (`Model.build_append`).  The named schemas are analyzed
after all operations, over more schemas than in the shorter document.  What is found out about them
is the same nevertheless, since the schemas that are there in addition are inputs, about which nothing
is found out (`Input.analysis_toSchema`), and the others do not depend on them
(`Analysis.ofEntries_of_prefix`).
-/

namespace ApiModel

theorem Input.kind_toSchema (i : Input) : Kind.ofSchema i.toSchema = .object := rfl

theorem Input.analysis_toSchema (r : Resolver) (name : String) (i : Input) :
    Analysis.ofSchema r name (.inline i.toSchema) = .ok {} := by
  rw [Analysis.ofSchema, i.kind_toSchema]

/-! ### Renaming -/

theorem Document.exists_renameReserved_append {reserved : Reserved} {d renamed : Document}
    {c : Components} (h : d.renameReserved reserved = .ok (renamed, c))
    (more : List (String × PathItem)) :
    ∃ more', ({ d with paths := d.paths ++ more } : Document).renameReserved reserved =
      .ok ({ renamed with paths := renamed.paths ++ more' }, c) := by
  obtain ⟨renames, hren, hd⟩ := bind_eq_ok_iff.1 h
  have hd := pure_eq_ok_iff.1 hd
  suffices hs : ∃ more', ({ d with paths := d.paths ++ more, components := none } : Document).rename
      renames d.componentsD = ({ renamed with paths := renamed.paths ++ more' }, c) by
    obtain ⟨more', hs⟩ := hs
    exact ⟨more', bind_eq_ok_iff.2 ⟨renames, hren, congrArg Except.ok hs⟩⟩
  rw [rename] at hd ⊢
  split_ifs at hd ⊢
  · obtain ⟨rfl, rfl⟩ := Prod.mk.inj hd
    exact ⟨more, rfl⟩
  · obtain ⟨rfl, rfl⟩ := Prod.mk.inj hd
    let walk := PathItem.walk (Visit.replace fun _ => Renaming.pointer renames)
    obtain ⟨s, hs⟩ := exists_walkEntries_append walk d.paths more 0
    refine ⟨((walkEntries walk more).run s).1, Prod.ext ?_ rfl⟩
    exact congrArg (fun paths => ({ d with paths, components := none } : Document)) hs

/-! ### Settling -/

namespace Build

variable {setting : Setting} {s s' : State} {ps more : List (String × PathItem)}
  {es : List Endpoint} {items : List (String × PathItem)}

theorem paths_append_eq_ok (h : paths setting s (ps ++ more) = .ok (es, items, s')) :
    ∃ es₁ items₁ s₁ es₂ items₂, paths setting s ps = .ok (es₁, items₁, s₁) ∧
      paths setting s₁ more = .ok (es₂, items₂, s') ∧ es = es₁ ++ es₂ := by
  induction ps generalizing s es items with
  | nil => exact ⟨[], [], s, es, items, rfl, h, rfl⟩
  | cons p rest ih =>
    obtain ⟨path, item⟩ := p
    rw [List.cons_append, paths] at h
    simp only [bind_eq_ok_iff] at h
    obtain ⟨⟨here, ops, t⟩, hops, ⟨later, items', t'⟩, hrest, h⟩ := h
    cases pure_eq_ok_iff.1 h
    obtain ⟨es₁, items₁, s₁, es₂, items₂, h₁, h₂, rfl⟩ := ih hrest
    have hfirst : paths setting s ((path, item) :: rest) =
        .ok (here ++ es₁, (path, { item with operations := ops }) :: items₁, s₁) := by
      rw [paths]
      simp only [bind_eq_ok_iff]
      exact ⟨_, hops, _, h₁, rfl⟩
    exact ⟨_, _, s₁, es₂, items₂, hfirst, h₂, (List.append_assoc _ _ _).symm⟩

end Build

/-! ### Models -/

namespace Model

variable {options : Options} {analyzers : Analyzers} {d : Document} {m m' : Model}

/-- A model begins as another one, and the same was found out about its schemas. -/
structure Continues (m m' : Model) : Prop where
  /-- The endpoints come first. -/
  endpoints_prefix : m.endpoints <+: m'.endpoints
  /-- The schemas come first, under the same names. -/
  entries_prefix : m.registry.entries <+: m'.registry.entries
  /-- What was noted comes first. -/
  diagnostics_prefix : m.diagnostics <+: m'.diagnostics
  /-- The unions are the same. -/
  unions_eq : m'.unions = m.unions
  /-- The compositions are the same. -/
  compositions_eq : m'.compositions = m.compositions

/-- **The run of the longer document goes through the end of the run of the shorter one.** -/
theorem Trace.exists_rest {more : List (String × PathItem)} (t : Trace options analyzers d m)
    (t' : Trace options analyzers { d with paths := d.paths ++ more } m') :
    t'.components = t.components ∧ ∃ places es ops, m'.endpoints = m.endpoints ++ es ∧
      Build.Run t.setting t.final places es ops t'.final := by
  obtain ⟨renamed, components, analyzer, operations, items, final, renamed_eq, -, -, -, -, -, -, -,
    analyzer_eq, settled, -, -⟩ := t'
  -- both runs start alike
  obtain ⟨more', hmore⟩ := Document.exists_renameReserved_append t.renamed_eq more
  rw [hmore] at renamed_eq
  cases renamed_eq
  cases t.analyzer_eq.symm.trans analyzer_eq
  obtain ⟨es₁, items₁, s₁, es₂, items₂, hfirst, hsecond, hes⟩ := Build.paths_append_eq_ok settled
  cases t.settled.symm.trans hfirst
  exact ⟨rfl, _, es₂, _, hes, ((Build.paths_outcome _ _ _).of_ok hsecond).1⟩

/-- **A run that goes on changes nothing of the analysis**, since it only adds inputs. -/
theorem Trace.analysis_eq {d' : Document} (t : Trace options analyzers d m)
    (t' : Trace options analyzers d' m') (hc : t'.components = t.components)
    {places : List Build.Site} {es : List Endpoint} {ops : List Operation}
    (run : Build.Run t.setting t.final places es ops t'.final) :
    (⟨m'.unions, m'.compositions⟩ : Analysis) = ⟨m.unions, m.compositions⟩ := by
  let r := t'.final.draft.resolver { t.components with schemas := [] }
  obtain ⟨added, hentries, -, hinputs⟩ := run.exists_added
  have hadded : ∀ e ∈ added, Analysis.ofSchema r e.1 e.2 = .ok {} := by
    rintro ⟨name, x⟩ he
    obtain ⟨i, rfl⟩ := hinputs _ he
    exact i.analysis_toSchema _ name
  have hbefore : Analysis.ofEntries r t.final.draft.registry.entries =
      .ok ⟨m.unions, m.compositions⟩ :=
    Analysis.ofEntries_of_prefix run.adds.entries_prefix t.analyzed
  have hafter := t'.analyzed
  rw [hentries, hc, Analysis.ofEntries_append_of_empty hadded hbefore] at hafter
  exact (Except.ok.inj hafter).symm

/-- **Prefix stability.**  Paths that are added at the end of a document change nothing that its model
has already given out: the endpoints, the schemas with their names, the diagnostics, and what was
found out about unions and compositions. -/
theorem build_append {more : List (String × PathItem)} (h : build options analyzers d = .ok m)
    (h' : build options analyzers { d with paths := d.paths ++ more } = .ok m') :
    Continues m m' := by
  obtain ⟨t⟩ := exists_trace h
  obtain ⟨t'⟩ := exists_trace h'
  obtain ⟨hc, places, es, ops, hes, run⟩ := t.exists_rest t'
  have hanalysis := t.analysis_eq t' hc run
  constructor
  case endpoints_prefix =>
    rw [hes]
    exact List.prefix_append _ _
  case entries_prefix =>
    rw [t.registry_eq, t'.registry_eq]
    exact run.adds.entries_prefix
  case diagnostics_prefix =>
    rw [t.diagnostics_eq, t'.diagnostics_eq]
    exact run.adds.noted
  case unions_eq => exact congrArg Analysis.unions hanalysis
  case compositions_eq => exact congrArg Analysis.compositions hanalysis

/-- A document with a union and a composition, one of which has a reserved name. -/
def shelter : Document where
  openapi := "3.0.0"
  info := { title := "Shelter", version := "1" }
  paths :=
    [("/pets",
      { operations :=
          [(.post,
            { operationId := some "addPet"
              parameters := [.inline { name := "id", location := .query }]
              requestBody := some (.inline
                { content :=
                    [("application/json", { schema := some (.ref "#/components/schemas/any") })] })
              responses := [("200", .inline {})] })] })]
  components := some
    { schemas :=
        [("Cat", .inline
          { allOf := [.ref "#/components/schemas/Dog"]
            properties := [("id", .inline {})]
            required := ["id"] }),
          ("Dog", .inline { properties := [("friend", .ref "#/components/schemas/Cat")] }),
          ("any", .inline
            { oneOf := [.ref "#/components/schemas/Cat", .ref "#/components/schemas/Dog"]
              discriminator := some { propertyName := "kind" } })] }

/-- A path whose operation has the id of another one. -/
def shelterExtension : List (String × PathItem) :=
  [("/pets/{id}",
    { parameters := [.inline { name := "id", location := .path }]
      operations :=
        [(.put,
          { operationId := some "addPet"
            requestBody := some (.inline
              { content :=
                  [("application/json", { schema := some (.ref "#/components/schemas/Cat") })] })
            responses := [("200", .inline {})] })] })]

theorem build_append_shelter :
    ∃ m m', build {} [] shelter = .ok m ∧
      build {} [] { shelter with paths := shelter.paths ++ shelterExtension } = .ok m' ∧
      Continues m m' := by
  have hok : (build {} [] shelter).isOk = true := by decide +kernel
  have hok' :
      (build {} [] { shelter with paths := shelter.paths ++ shelterExtension }).isOk = true := by
    decide +kernel
  obtain ⟨m, hm⟩ := exists_eq_ok hok
  obtain ⟨m', hm'⟩ := exists_eq_ok hok'
  exact ⟨m, m', hm, hm', build_append hm hm'⟩

end Model

end ApiModel
