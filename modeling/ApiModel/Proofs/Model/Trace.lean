import ApiModel.Proofs.Model.Run
import ApiModel.Proofs.Schemas.Renaming

/-!
# How models come about

Around the run over the operations building a model does a few things: reserved schemas are renamed,
the component schemas are declared, and at the end the model is put together.  `Model.Trace` holds
all of it, every model that is built has a trace, and building never meets a taken schema name
(`Model.build_outcome`).
-/

namespace ApiModel

/-- A document without components, and the components, after the schemas with reserved names have got
new ones. -/
def Document.renameReserved (reserved : Reserved) (d : Document) :
    Except BuildError (Document × Components) := do
  let renames ← d.componentsD.newNames reserved
  return { d with components := none }.rename renames d.componentsD

/-- **Declaring schemas puts them behind the others**, and goes wrong only when a name is given
twice. -/
theorem Registry.declareAll_outcome (r : Registry) (schemas : List (String × OrRef Schema)) :
    Outcome (fun _ => ¬ (Entries.keys (r.entries ++ schemas)).Nodup)
      (fun r' => r' = { r with entries := r.entries ++ schemas }) (r.declareAll schemas) := by
  induction schemas generalizing r with
  | nil => exact .ok (by simp)
  | cons e rest ih =>
    obtain ⟨name, s⟩ := e
    rw [declareAll, declare]
    split_ifs with hc
    · refine .error fun hd => ?_
      rw [Entries.keys_append, List.nodup_append] at hd
      exact hd.2.2 name (Entries.has_iff.1 hc) name List.mem_cons_self rfl
    · have h := ih { r with entries := r.entries ++ [(name, s)] }
      simp only [List.append_assoc, List.singleton_append] at h
      exact h

theorem Build.getD_finalComponents (c : Components) (r : Registry) :
    (finalComponents c r).getD {} = { c with schemas := r.entries } := by
  rw [finalComponents]
  split_ifs with h
  · exact h.symm
  · rfl

theorem Build.schemas_finalComponents (c : Components) (r : Registry) :
    ((finalComponents c r).getD {}).schemas = r.entries := by
  rw [getD_finalComponents]

/-- Only a name that no analyzer has ends the selection. -/
theorem Analyzers.select_outcome (analyzers : Analyzers) (wanted : Option String) :
    Outcome BuildError.NotTaken (fun _ => True) (analyzers.select wanted) := by
  cases wanted with
  | none => exact .ok trivial
  | some name =>
    rw [select]
    split
    · exact .ok trivial
    · exact .error (BuildError.notTaken_unknownAnalyzer _)

namespace Model

/-- What building a model goes through. -/
structure Trace (options : Options) (analyzers : Analyzers) (d : Document) (m : Model) where
  /-- The document after the renaming, without its components. -/
  renamed : Document
  /-- The components after the renaming. -/
  components : Components
  /-- The analyzer for the sources of handlers. -/
  analyzer : Option Analyzer
  /-- The operations in their final form. -/
  operations : List Operation
  /-- The paths in their final form. -/
  items : List (String × PathItem)
  /-- The state in the end. -/
  final : Build.State
  /-- The reserved schemas are renamed. -/
  renamed_eq : d.renameReserved ⟨options.reserved⟩ = .ok (renamed, components)
  /-- The operations are settled one after the other, starting from the declared schemas. -/
  run : Build.Run
    ⟨{ components with schemas := [] }, renamed.defaultSecurity, analyzer, options.handlers⟩
    ⟨{ registry := ⟨components.schemas, []⟩, reserved := ⟨options.reserved⟩ },
      { strategy := options.strategy, aliases := options.aliases }⟩
    (Build.sites renamed.paths) m.endpoints operations final
  /-- The paths hold the operations in their final form. -/
  operations_eq : Build.operationsOf items = operations
  /-- Nothing else of the paths is changed. -/
  frames_eq : Build.frames items = Build.frames renamed.paths
  /-- The document holds the settled paths and the registered schemas. -/
  document_eq : m.document =
    { renamed with
      paths := items
      components := Build.finalComponents { components with schemas := [] } final.draft.registry }
  /-- The registry is that of the end of the run. -/
  registry_eq : m.registry = final.draft.registry
  /-- The pointers of the document lead somewhere. -/
  checked : m.document.check = .ok ()
  /-- Paging is found out from the endpoints. -/
  paging_eq : m.paging = Analysis.paging options.paging
    (final.draft.resolver { components with schemas := [] }) m.endpoints
  /-- The analyzer is the selected one. -/
  analyzer_eq : analyzers.select options.analyzer = .ok analyzer
  /-- The paths are settled, starting from the declared schemas. -/
  settled : Build.paths
    ⟨{ components with schemas := [] }, renamed.defaultSecurity, analyzer, options.handlers⟩
    ⟨{ registry := ⟨components.schemas, []⟩, reserved := ⟨options.reserved⟩ },
      { strategy := options.strategy, aliases := options.aliases }⟩
    renamed.paths = .ok (m.endpoints, items, final)
  /-- The named schemas are analyzed at the end of the run. -/
  analyzed : Analysis.ofEntries (final.draft.resolver { components with schemas := [] })
    final.draft.registry.entries = .ok ⟨m.unions, m.compositions⟩
  /-- What is noted was noted in the run. -/
  diagnostics_eq : m.diagnostics = final.draft.diagnostics

/-- **Every model that is built has a trace**, and building never meets a taken schema name when the
document declares none twice. -/
theorem build_outcome (options : Options) (analyzers : Analyzers) (d : Document) :
    Outcome (fun err => (Entries.keys d.componentsD.schemas).Nodup → err.NotTaken)
      (fun m => Nonempty (Trace options analyzers d m)) (build options analyzers d) := by
  have hkeep {α : Type} {P : α → Prop} {x : Except BuildError α}
      (hx : Outcome BuildError.NotTaken P x) :
      Outcome (fun err => (Entries.keys d.componentsD.schemas).Nodup → err.NotTaken) P x :=
    hx.mono_error fun _ h _ => h
  unfold build
  -- the analyzer is chosen
  refine (hkeep (Analyzers.select_outcome _ _).of_error_only).bind fun analyzer hselect => ?_
  -- reserved schemas are renamed
  refine (hkeep (Renaming.newNames_outcome _ _ _).of_error_only).bind fun renames hren => ?_
  rcases hdoc : ({ d with components := none } : Document).rename renames d.componentsD with
    ⟨renamed, components⟩
  -- the component schemas are declared: the only place that could find a name taken
  refine Outcome.bind (P := fun r => r = ⟨components.schemas, []⟩) ?_ fun registry hreg => ?_
  · refine ((Registry.declareAll_outcome {} components.schemas).mono_error ?_).mono
      fun _ h => by simpa using h
    intro err hd hn
    have hk := (Document.keys_schemas_rename { d with components := none } hren hn).1
    rw [hdoc] at hk
    exact absurd hk hd
  subst hreg
  -- the operations are settled, and the model is put together
  refine (hkeep ((Build.paths_outcome _ _ _).mono_of_ok fun _ => And.intro)).bind ?_
  rintro ⟨es, items, final⟩ ⟨hsettled, run, hframes⟩
  refine (hkeep (liftRef_outcome _)).mono fun m hm => ?_
  unfold Build.finish at hm
  simp only [bind_eq_ok_iff] at hm
  obtain ⟨analysis, hanalysis, ⟨⟩, hcheck, hm⟩ := hm
  cases pure_eq_ok_iff.1 hm
  refine ⟨⟨renamed, components, analyzer, _, items, final, ?_, run, rfl, hframes, rfl, rfl, hcheck,
    rfl, hselect, hsettled, hanalysis, rfl⟩⟩
  exact bind_eq_ok_iff.2 ⟨renames, hren, congrArg Except.ok hdoc⟩

variable {options : Options} {analyzers : Analyzers} {d : Document} {m : Model}

theorem exists_trace (h : build options analyzers d = .ok m) :
    Nonempty (Trace options analyzers d m) :=
  (build_outcome options analyzers d).of_ok h

/-- What stays the same while the operations are settled. -/
def Trace.setting (t : Trace options analyzers d m) : Build.Setting :=
  ⟨{ t.components with schemas := [] }, t.renamed.defaultSecurity, t.analyzer, options.handlers⟩

theorem Trace.nameSources_eq (t : Trace options analyzers d m) :
    t.renamed.nameSources = d.nameSources := by
  obtain ⟨renames, -, h⟩ := bind_eq_ok_iff.1 t.renamed_eq
  have hs := Document.nameSources_rename renames { d with components := none } d.componentsD
  rw [pure_eq_ok_iff.1 h] at hs
  exact hs

theorem Trace.synthesized_eq (t : Trace options analyzers d m) :
    m.registry.synthesized = m.endpoints.flatMap fun e => e.inputs.map (·.2) := by
  rw [t.registry_eq, t.run.adds.synthesized, List.nil_append]

theorem Trace.componentsD_eq (t : Trace options analyzers d m) :
    m.document.componentsD = { t.components with schemas := m.registry.entries } := by
  rw [t.document_eq, t.registry_eq, Document.componentsD]
  exact Build.getD_finalComponents _ _

theorem Trace.resolver_eq (t : Trace options analyzers d m) :
    m.document.resolver =
      ⟨{ t.components with schemas := m.registry.entries }, m.registry.entries⟩ := by
  rw [Document.resolver, t.componentsD_eq]

/-- The resolver over what a model has left of the components and its registry. -/
def resolver (m : Model) : Resolver :=
  ⟨m.document.componentsD, m.registry.entries⟩

theorem Trace.resolver_document (t : Trace options analyzers d m) :
    m.document.resolver = m.resolver := by
  have hs : m.document.resolver.schemas = m.registry.entries := by rw [t.resolver_eq]
  exact congrArg (Resolver.mk m.document.componentsD) hs

end Model

end ApiModel
