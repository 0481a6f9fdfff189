import ApiModel.Proofs.Endpoint.Body
import ApiModel.Proofs.Endpoint.Input
import ApiModel.Proofs.Model.Trace

/-!
# Required fields of models

Every endpoint of a model has one input schema for each content type of its request body, and in each
of them exactly those names are required that the body requires and that required parameters are
called (`Model.required_law`).  Everything is said over the document of the model: the pointers of
the document are followed there, although the inputs were made when fewer schemas were registered.
-/

namespace ApiModel

theorem Parameter.mergeInto_congr {r r' : Resolver}
    (h : r.components.parameters = r'.components.parameters) (merged : List Parameter)
    (declared : List (OrRef Parameter)) :
    mergeInto r merged declared = mergeInto r' merged declared := by
  induction declared generalizing merged with
  | nil => rfl
  | cons p rest ih =>
    have hp : r.parameter p = r'.parameter p := by
      unfold Resolver.parameter Resolver.parameterAt
      rw [h]
    simp only [mergeInto, hp, ih]

/-- The request body that an operation declares, or an empty one. -/
def Operation.HasBody (r : Resolver) (op : Operation) (body : RequestBody) : Prop :=
  match op.requestBody with
  | none => body = {}
  | some declared => r.requestBody declared = .ok body

theorem Operation.hasBody_of_declaredBody {r : Resolver} {draft : Draft} {c : Components}
    {op : Operation} {declared : Option RequestBody}
    (hc : r.components.requestBodies = c.requestBodies)
    (h : Endpoint.declaredBody draft c op = .ok declared) :
    op.HasBody r (declared.getD {}) := by
  rw [Endpoint.declaredBody] at h
  rw [HasBody]
  rcases hs : op.requestBody with _ | s
  · rw [hs] at h
    cases h
    rfl
  · rw [hs] at h
    obtain ⟨body, hb, rfl⟩ := map_eq_ok_iff.1 h
    have hr : r.requestBody s = (draft.resolver c).requestBody s := by
      unfold Resolver.requestBody Resolver.requestBodyAt
      rw [hc, Draft.resolver]
    exact hr.trans hb

namespace Model

variable {options : Options} {analyzers : Analyzers} {d : Document} {m : Model}

/-- The required-set law for the inputs of one endpoint of a model, which comes from an operation of
the document. -/
structure InputLaw (m : Model) (site : Build.Site) (e : Endpoint) : Prop where
  /-- The endpoint is at the path of the operation. -/
  path : e.path = site.path
  /-- It has the method of the operation. -/
  method : e.method = site.method
  /-- Its parameters are those of the path and of the operation, merged. -/
  merged : ∃ parameters, Parameter.merge m.document.resolver site.parameters
    site.operation.parameters = .ok parameters ∧ e.parameters = parameters.map (·.toEndpoint)
  /-- Each content type of the request body has an input that keeps the law. -/
  inputs : ∃ body, site.operation.HasBody m.document.resolver body ∧
    List.Forall₂ (fun content input => input.1 = content.1 ∧
      ∃ s, m.registry.find? input.2 = some (.inline s) ∧
        Input.RequiredLaw (content.2.Requires m.document.resolver body.required) e.parameters s)
      (Endpoint.inputContent body) e.inputs

theorem requiredLaw_of_hasInput {e : Endpoint} {c : Components} {required : Bool} {draft : Draft}
    {r : Resolver} {content : String × MediaType} {input : String × String}
    (h : e.HasInput c required draft content input) (hr : draft.registry.entries = r.schemas)
    (hp : ∀ p ∈ e.parameters, p.location = .path → p.required = true) :
    input.1 = content.1 ∧ ∃ s, draft.registry.find? input.2 = some (.inline s) ∧
      Input.RequiredLaw (content.2.Requires r required) e.parameters s := by
  obtain ⟨hc, table, fields, notes, ht, hb, hf⟩ := h
  have hreq := Endpoint.mem_required_bodyFields hb (hr ▸ ht : table <+: r.schemas)
  exact ⟨hc, _, hf, Input.requiredLaw_toSchema hreq hp⟩

/-- **The required-set law.**  In every input of every endpoint of a model the required names are
those that the body requires and the field names of the required parameters.  None of them is that of
a credential, each is that of a property, the parameters in the path are among them, and the
locations are told of exactly the properties. -/
theorem required_law (h : build options analyzers d = .ok m) :
    ∃ renamed components, d.renameReserved ⟨options.reserved⟩ = .ok (renamed, components) ∧
      List.Forall₂ m.InputLaw (Build.sites renamed.paths) m.endpoints := by
  obtain ⟨t⟩ := exists_trace h
  refine ⟨t.renamed, t.components, t.renamed_eq, t.run.forall₂.imp ?_⟩
  rintro site e ⟨s, s', op, before, after, -, step, ha⟩
  have hres := t.resolver_eq
  have hschemas : m.document.resolver.schemas = t.final.draft.registry.entries := by
    rw [hres, t.registry_eq]
  obtain ⟨merged, -, -, registered⟩ := step
  obtain ⟨-, declared, hdecl, hall⟩ :=
    (Endpoint.registerInputs_outcome _ _ _ _).of_ok registered
  refine ⟨rfl, rfl, ⟨_, ?_, rfl⟩, declared.getD {}, ?_, hall.imp fun content input hi => ?_⟩
  · refine (Parameter.mergeInto_congr ?_ _ _).trans merged
    rw [hres]
    rfl
  · exact Operation.hasBody_of_declaredBody (by rw [hres]) hdecl
  · rw [t.registry_eq]
    refine requiredLaw_of_hasInput (hi.adds ha) hschemas.symm ?_
    -- a parameter in the path is required, whatever the document says
    intro p hp hl
    obtain ⟨q, -, rfl⟩ := List.mem_map.1 hp
    have hq : q.location = .path := hl
    simp [Parameter.toEndpoint, Parameter.isRequired, hq]

/-- A document with a composed body, one property of which a parameter in the path replaces. -/
def composedBody : Document where
  openapi := "3.0.0"
  info := { title := "Pets", version := "1" }
  paths :=
    [("/pets/\x7bid\x7d",
      { parameters := [.inline { name := "id", location := .path }]
        operations :=
          [(.put,
            { parameters := [.inline { name := "id", location := .header, required := true }]
              requestBody := some (.inline
                { content :=
                    [("application/json", { schema := some (.ref "#/components/schemas/Pet") })]
                  required := true }) })] })]
  components := some
    { schemas :=
        [("Base", .inline { properties := [("id", .inline {})], required := ["id", "name"] }),
          ("Pet", .inline
            { allOf := [.ref "#/components/schemas/Base"]
              properties := [("name", .inline {}), ("age", .inline {})] })] }

theorem required_law_composedBody :
    ∃ m, build {} [] composedBody = .ok m ∧
      ∃ renamed components, composedBody.renameReserved ⟨[]⟩ = .ok (renamed, components) ∧
        List.Forall₂ m.InputLaw (Build.sites renamed.paths) m.endpoints := by
  have hok : (build {} [] composedBody).isOk = true := by decide +kernel
  obtain ⟨m, hm⟩ := exists_eq_ok hok
  exact ⟨m, hm, required_law hm⟩

end Model

end ApiModel
