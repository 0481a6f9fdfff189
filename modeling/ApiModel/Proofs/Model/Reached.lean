import ApiModel.Proofs.Model.Agreement
import ApiModel.Proofs.Model.Carried

/-!
# Pointers that a generator reaches

The check at the end of the build looks at the pointers of the document.  A generator also reads the
schemas of endpoints, of unions and of compositions, and those are copies that were made before: of
merged parameters, of responses, of what an analyzer gives, and of the properties and branches of
named schemas.  Each copy is traced to something that was checked.  Parameters, responses, variants
and properties mention only what the finished document mentions.  What an analyzer gives was checked
against the schemas of that moment, with which the schemas of the model begin
(`Model.Trace.check_of_prefix`).  So every pointer that a generator reaches leads somewhere
(`Model.build_resolves`).
-/

namespace ApiModel

namespace ResponseCase

variable {r r' : Resolver}

theorem checkBodies_eq_ok_iff {cs : List ResponseCase} :
    checkBodies r cs = .ok () ↔ ∀ c ∈ cs, ∀ u ∈ c.mentions, r.check u = .ok () := by
  induction cs with
  | nil => simp [checkBodies]
  | cons c cs ih =>
    rw [List.forall_mem_cons, ← ih, checkBodies, mentions]
    cases c.body with
    | none => simp
    | some s =>
      rw [Option.elim_some, ← Resolver.checkSchema_eq_ok_iff]
      refine bind_eq_ok_iff.trans ⟨?_, ?_⟩
      · rintro ⟨_, hs, hcs⟩
        exact ⟨hs, hcs⟩
      · rintro ⟨hs, hcs⟩
        exact ⟨(), hs, hcs⟩

theorem ofDocument_congr (h : r.components.responses = r'.components.responses)
    (responses : List (String × OrRef Response)) :
    ofDocument r responses = ofDocument r' responses := by
  have hresponse : r.response = r'.response := by
    unfold Resolver.response Resolver.responseAt
    rw [h]
  induction responses with
  | nil => rfl
  | cons x rest ih => rw [ofDocument, ofDocument, hresponse, ih]

end ResponseCase

namespace Build

variable {setting : Setting} {s s' : State} {site : Site} {e : Endpoint} {op : Operation}

theorem Settles.mentions_parameters (h : Settles setting s site e op s') :
    ∀ p ∈ e.parameters, p.schema.elim [] Schema.mentionsOfRef ⊆ op.mentions := by
  obtain ⟨-, -, -, -⟩ := h
  intro p hp u hu
  obtain ⟨q, hq, rfl⟩ := List.mem_map.1 hp
  refine List.mem_append_left _ (List.mem_append_left _ (List.mem_flatMap.2 ?_))
  exact ⟨.inline q, List.mem_map_of_mem hq, hu⟩

/-- The responses of an endpoint are those of the settled operation, or they have been checked. -/
theorem Settles.responses_cases (h : Settles setting s site e op s') :
    ResponseCase.ofDocument (s.draft.resolver setting.components) op.responses = .ok e.responses ∨
      ResponseCase.checkBodies (s.draft.resolver setting.components) e.responses = .ok () := by
  obtain ⟨-, -, answered, -⟩ := h
  unfold Build.responses at answered
  split at answered
  · obtain ⟨⟨⟩, hcheck, hcases⟩ := bind_eq_ok_iff.1 answered
    cases pure_eq_ok_iff.1 hcases
    exact .inr hcheck
  · exact .inl answered

end Build

namespace Model

variable {options : Options} {analyzers : Analyzers} {d : Document} {m : Model}

/-- Every pointer that a generator reaches from the model passes the check against the model. -/
structure Resolves (m : Model) : Prop where
  /-- Those in the parameters of endpoints. -/
  parameters : ∀ e ∈ m.endpoints, ∀ p ∈ e.parameters, ∀ s ∈ p.schema,
    m.resolver.checkSchema s = .ok ()
  /-- Those in the bodies of responses. -/
  responses : ∀ e ∈ m.endpoints, ∀ c ∈ e.responses, ∀ s ∈ c.body, m.resolver.checkSchema s = .ok ()
  /-- The inputs of endpoints are named schemas. -/
  inputs : ∀ e ∈ m.endpoints, ∀ input ∈ e.inputs, input.2 ∈ Entries.keys m.registry.entries
  /-- Those in the variants of unions. -/
  variants : ∀ u ∈ m.unions, ∀ v ∈ u.2.variants, m.resolver.checkSchema v.schema = .ok ()
  /-- Those in the properties of compositions. -/
  properties : ∀ c ∈ m.compositions, ∀ p ∈ c.2.properties, m.resolver.checkSchema p.2 = .ok ()
  /-- Those in the variants of the unions that are branches of compositions. -/
  branches : ∀ c ∈ m.compositions, ∀ u ∈ c.2.unions, ∀ v ∈ u.variants,
    m.resolver.checkSchema v.schema = .ok ()

/-! ### What has been checked -/

theorem Trace.components_eq (t : Trace options analyzers d m) :
    t.setting.components = { m.document.componentsD with schemas := [] } := by
  rw [t.componentsD_eq]
  rfl

theorem Trace.checkSchema_of_subset (t : Trace options analyzers d m) {s : OrRef Schema}
    (h : Schema.mentionsOfRef s ⊆ m.document.mentions) : m.resolver.checkSchema s = .ok () := by
  rw [Resolver.checkSchema_eq_ok_iff, ← t.resolver_document]
  intro u hu
  exact Document.check_eq_ok_iff.1 t.checked u (h hu)

theorem Trace.check_of_prefix (t : Trace options analyzers d m) {draft : Draft} {u : Mention}
    (hp : draft.registry.entries <+: m.registry.entries)
    (h : (draft.resolver t.setting.components).check u = .ok ()) :
    m.resolver.check u = .ok () := by
  have hc : { (draft.resolver t.setting.components).components with schemas := [] } =
      { m.resolver.components with schemas := [] } := by
    rw [Draft.resolver, t.components_eq]
    rfl
  exact Resolver.check_of_prefix hc hp h

/-! ### Endpoints -/

/-- **Every endpoint comes from a step** that settles an operation of the finished document. -/
theorem Trace.exists_step (t : Trace options analyzers d m) :
    ∀ e ∈ m.endpoints, ∃ op site s s', op.mentions ⊆ m.document.mentions ∧
      Build.Settles t.setting s site e op s' ∧
        s'.draft.registry.entries <+: m.registry.entries := by
  have hops : m.document.operations.map (·.2.2) = t.operations := by
    rw [Build.map_operation_operations, t.document_eq]
    exact t.operations_eq
  intro e he
  obtain ⟨o, ho, site, s, s', more, -, -, step, hadds⟩ :=
    exists_of_mem_right (t.run.forall₂_operations hops t.place_operations) he
  refine ⟨o.2.2, site, s, s', ?_, step, ?_⟩
  · -- the operation stands in the document
    have hmem : o.2.2 ∈ Build.operationsOf m.document.paths := by
      rw [← Build.map_operation_operations]
      exact List.mem_map_of_mem ho
    intro u hu
    exact List.mem_append_left _ (Build.mem_mentions_paths.2 (.inr ⟨_, hmem, hu⟩))
  · rw [t.registry_eq]
    exact hadds.entries_prefix

theorem Trace.checkSchema_body (t : Trace options analyzers d m) {s s' : Build.State}
    {site : Build.Site} {e : Endpoint} {op : Operation}
    (step : Build.Settles t.setting s site e op s') (hop : op.mentions ⊆ m.document.mentions)
    (hp : s'.draft.registry.entries <+: m.registry.entries) :
    ∀ c ∈ e.responses, ∀ x ∈ c.body, m.resolver.checkSchema x = .ok () := by
  intro c hc x hx
  have hbody : c.mentions = Schema.mentionsOfRef x := by
    rw [ResponseCase.mentions, Option.mem_def.1 hx, Option.elim_some]
  rcases step.responses_cases with hdoc | hcheck
  · -- the shared responses are those of the finished document
    have hresponses : (s.draft.resolver t.setting.components).components.responses =
        m.document.resolver.components.responses :=
      (congrArg Components.responses t.components_eq :)
    rw [ResponseCase.ofDocument_congr hresponses] at hdoc
    have hdeclared : ∀ x ∈ op.responses,
        x.2.mentions .responses Response.mentions ⊆ m.document.mentions := by
      intro x hx u hu
      exact hop (List.mem_append_right _ (List.mem_flatMap.2 ⟨x, hx, hu⟩))
    have hcases := ((Resolver.Extends.refl m.document).ofDocument_outcome hdeclared).of_ok hdoc
    exact t.checkSchema_of_subset (hbody ▸ hcases c hc)
  · rw [Resolver.checkSchema_eq_ok_iff, ← hbody]
    intro u hu
    have hu' := ResponseCase.checkBodies_eq_ok_iff.1 hcheck c hc u hu
    exact t.check_of_prefix (step.adds.entries_prefix.trans hp) hu'

/-! ### Named schemas -/

/-- **What was found out about named schemas** mentions only what the finished document mentions. -/
theorem Trace.coversAnalysis (t : Trace options analyzers d m) :
    m.document.CoversAnalysis ⟨m.unions, m.compositions⟩ := by
  have hs : m.document.componentsD.schemas = t.final.draft.registry.entries := by
    rw [t.componentsD_eq, t.registry_eq]
  have hr : (t.final.draft.resolver t.setting.components).Extends m.document := by
    refine ⟨?_, ?_, ?_⟩
    · rw [Draft.resolver, t.components_eq]
    · rw [hs]
      exact List.prefix_rfl
    · have hcovers := m.document.covers_schemas
      rw [hs] at hcovers
      exact hcovers
  exact (hr.analysis_ofEntries_outcome hr.covers).of_ok t.analyzed

/-- **Nothing that a generator reaches dangles.**  In every model that is built the pointers in the
parameters and responses of endpoints, in the variants of unions, and in the properties and variants
of merged compositions pass the check against the components and the named schemas of the model, and
the inputs of endpoints are named schemas. -/
theorem build_resolves (h : build options analyzers d = .ok m) : Resolves m := by
  obtain ⟨t⟩ := exists_trace h
  have hanalysis := t.coversAnalysis
  constructor
  case parameters =>
    intro e he p hp s hs
    obtain ⟨op, site, before, after, hop, step, -⟩ := t.exists_step e he
    have hsub := step.mentions_parameters p hp
    rw [Option.mem_def.1 hs, Option.elim_some] at hsub
    exact t.checkSchema_of_subset (List.Subset.trans hsub hop)
  case responses =>
    intro e he
    obtain ⟨op, site, before, after, hop, step, hprefix⟩ := t.exists_step e he
    exact t.checkSchema_body step hop hprefix
  case inputs =>
    intro e he input hi
    have hn : input.2 ∈ m.endpoints.flatMap fun e => e.inputs.map (·.2) :=
      List.mem_flatMap.2 ⟨e, he, List.mem_map_of_mem hi⟩
    -- the registry lists the inputs behind the named schemas
    rw [t.registry_eq, t.run.adds.keys_eq]
    exact List.mem_append_right _ hn
  case variants =>
    intro u hu v hv
    exact t.checkSchema_of_subset (hanalysis.unions u hu v hv)
  case properties =>
    intro c hc p hp
    exact t.checkSchema_of_subset ((hanalysis.compositions c hc).properties p hp)
  case branches =>
    intro c hc u hu v hv
    exact t.checkSchema_of_subset ((hanalysis.compositions c hc).unions u hu v hv)

/-- A document with a composition of a union and of an object, and shared responses. -/
def garage : Document where
  openapi := "3.0.0"
  info := { title := "Garage", version := "1" }
  paths :=
    [("/cars/\x7bid\x7d",
      { parameters := [.inline
          { name := "id", location := .path, schema := some (.ref "#/components/schemas/Id") }]
        operations :=
          [(.get,
            { operationId := some "readCar"
              responses := [("200", .ref "#/components/responses/Car")] }),
            (.put,
              { operationId := some "writeCar"
                requestBody := some (.inline
                  { content :=
                      [("application/json",
                        { schema := some (.ref "#/components/schemas/Car") })] })
                responses := [("200", .ref "#/components/responses/Car")] })] })]
  components := some
    { schemas :=
        [("Id", .inline {}),
          ("Motor", .inline
            { oneOf := [.ref "#/components/schemas/Diesel", .ref "#/components/schemas/Electric"]
              discriminator := some { propertyName := "kind" } }),
          ("Diesel", .inline {}),
          ("Electric", .inline {}),
          ("Car", .inline
            { allOf := [.ref "#/components/schemas/Motor"]
              properties := [("id", .ref "#/components/schemas/Id")] })]
      responses :=
        [("Car", .inline
          { content :=
              [("application/json", { schema := some (.ref "#/components/schemas/Car") })] })] }

/-- An analyzer that finds one response, which has an input as its body. -/
def echoing : Analyzer := fun _ =>
  [{ status := "200", body := some (.ref "#/components/schemas/ReadCarInput") }]

theorem build_resolves_garage :
    ∃ m, build { analyzer := some "echo", handlers := [("writeCar", "")] } [("echo", echoing)]
        garage = .ok m ∧ Resolves m := by
  have hok : (build { analyzer := some "echo", handlers := [("writeCar", "")] }
      [("echo", echoing)] garage).isOk = true := by decide +kernel
  obtain ⟨m, hm⟩ := exists_eq_ok hok
  exact ⟨m, hm, build_resolves hm⟩

end Model

end ApiModel
