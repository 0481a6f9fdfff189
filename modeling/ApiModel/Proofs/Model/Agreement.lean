import ApiModel.Proofs.Endpoint.Parameters
import ApiModel.Proofs.Model.Trace

/-!
# Documents and endpoints agree

Settling an operation changes three things at once: the operation in the document, its endpoint, and
the registry.  `Model.document_agrees` says that they go together in every model: the operations of
the document are those that were declared, each has the parameters of its endpoint, and the media
types of its request body refer to the inputs of its endpoint, which are exactly the synthesized
schemas of the registry.
-/

namespace ApiModel

/-- A parameter of an endpoint says what an inline parameter of an operation says. -/
def EndpointParameter.Matches (p : EndpointParameter) : OrRef Parameter → Prop
  | .ref _ => False
  | .inline q =>
    p.name = .ofText q.name ∧ p.wireName = q.name ∧ p.location = q.location ∧
      p.schema = q.schema ∧ p.required = q.required

theorem EndpointParameter.matches_of_settled {q : Parameter} (h : q.isRequired = q.required) :
    q.toEndpoint.Matches (.inline q) :=
  ⟨rfl, rfl, rfl, rfl, h⟩

/-! ### Places of operations -/

namespace Build

theorem map_place_operations (d : Document) :
    d.operations.map (fun o => (o.1, o.2.1)) =
      (frames d.paths).flatMap fun p => p.2.operations.map fun o => (p.1, o.1) := by
  simp only [Document.operations, frames, frame, List.map_flatMap, List.flatMap_map, List.map_map]
  rfl

theorem map_place_sites (d : Document) :
    (sites d.paths).map (fun site => (site.path, site.method)) =
      d.operations.map fun o => (o.1, o.2.1) := by
  simp only [sites, sitesOfItem, Document.operations, List.map_flatMap, List.map_map]
  rfl

theorem map_operation_operations (d : Document) :
    d.operations.map (·.2.2) = operationsOf d.paths := by
  simp only [Document.operations, operationsOf, List.map_flatMap, List.map_map]
  rfl

theorem map_place_nameSources (d : Document) :
    d.nameSources.map (fun s => (s.1, s.2.1)) = d.operations.map fun o => (o.1, o.2.1) := by
  simp only [Document.nameSources, PathItem.nameSources, Document.operations, List.map_flatMap,
    List.map_map]
  rfl

/-- **Every operation that a run settles goes with an endpoint**, and comes from a step of its own,
after which schemas are only added. -/
theorem Run.forall₂_operations {setting : Setting} {s s' : State} {places : List Site}
    {es : List Endpoint} {ops : List Operation} (h : Run setting s places es ops s')
    {os : List (String × Method × Operation)} (hops : os.map (·.2.2) = ops)
    (hplaces : os.map (fun o => (o.1, o.2.1)) = places.map fun site => (site.path, site.method)) :
    List.Forall₂ (fun o e => ∃ site t t' after, site.path = o.1 ∧ site.method = o.2.1 ∧
      Settles setting t site e o.2.2 t' ∧ t'.draft.Adds s'.draft after) os es := by
  induction h generalizing os with
  | nil =>
    obtain rfl := List.map_eq_nil_iff.1 hops
    exact .nil
  | @cons t t' t'' here x o rest xs ops step run ih =>
    obtain ⟨⟨path, method, op⟩, os, rfl, rfl, rfl⟩ := List.map_eq_cons_iff.1 hops
    simp only [List.map_cons, List.cons.injEq, Prod.mk.injEq] at hplaces
    obtain ⟨⟨rfl, rfl⟩, hplaces⟩ := hplaces
    exact .cons ⟨here, t, t', _, rfl, rfl, step, run.adds⟩ (ih rfl hplaces)

end Build

namespace Model

variable {options : Options} {analyzers : Analyzers} {d : Document} {m : Model}

/-- A media type of the document and an input of an endpoint go together: the media type refers to
the synthesized schema that the input names, and the reference leads to that schema. -/
structure Points (m : Model) (content : String × MediaType) (input : String × String) : Prop where
  /-- They are for the same content type. -/
  contentType : content.1 = input.1
  /-- The media type refers to the schema of the input. -/
  schema_eq : content.2.schema = some (Schema.reference input.2)
  /-- The schema is synthesized. -/
  synthesized : m.registry.isSynthesized input.2 = true
  /-- The reference leads to the schema with that name. -/
  stored : ∃ s, m.registry.find? input.2 = some (.inline s) ∧
    m.resolver.schema (Schema.reference input.2) = .ok s

/-- An operation of the document and an endpoint of the model say the same. -/
structure Agrees (m : Model) (o : String × Method × Operation) (e : Endpoint) : Prop where
  /-- They are at the same path. -/
  path : e.path = o.1
  /-- They have the same method. -/
  method : e.method = o.2.1
  /-- They have the same parameters in the same order. -/
  parameters : List.Forall₂ (fun declared p => p.Matches declared) o.2.2.parameters e.parameters
  /-- The request body has the inputs of the endpoint in the same order. -/
  body : ∃ body, o.2.2.requestBody = some (.inline body) ∧
    List.Forall₂ m.Points body.content e.inputs

theorem Trace.place_operations (t : Trace options analyzers d m) :
    m.document.operations.map (fun o => (o.1, o.2.1)) =
      (Build.sites t.renamed.paths).map fun site => (site.path, site.method) := by
  rw [Build.map_place_sites, Build.map_place_operations, Build.map_place_operations, t.document_eq]
  exact congrArg (List.flatMap _) t.frames_eq

theorem Trace.place_eq (t : Trace options analyzers d m) :
    m.document.operations.map (fun o => (o.1, o.2.1)) =
      d.operations.map fun o => (o.1, o.2.1) := by
  rw [t.place_operations, Build.map_place_sites, ← Build.map_place_nameSources, t.nameSources_eq,
    Build.map_place_nameSources]

/-- What an operation registers stays in the registry, and the references to it lead to it. -/
theorem Trace.points (t : Trace options analyzers d m) {e : Endpoint} {c : Components}
    {required : Bool} {before after : Draft} {names more : List String}
    {media : String × MediaType} {input : String × String} (ha : before.Adds after names)
    (hf : after.Adds t.final.draft more) (hi : e.HasInput c required after media input)
    (hn : input.2 ∈ names) : m.Points (media.1, Endpoint.pointAt media.2 input.2) input := by
  obtain ⟨hc, -, fields, -, -, -, hfind⟩ := hi.adds hf
  have hreg : m.registry.find? input.2 = _ := (congrArg (·.find? input.2) t.registry_eq).trans hfind
  have hsyn : input.2 ∈ t.final.draft.registry.synthesized := by
    rw [hf.synthesized, ha.synthesized]
    exact List.mem_append_left _ (List.mem_append_right _ hn)
  refine ⟨hc.symm, rfl, ?_, _, hreg, Resolver.schemaAt_reference (ha.literal _ hn) hreg⟩
  rw [Registry.isSynthesized, t.registry_eq]
  exact List.contains_iff_mem.2 hsyn

/-- **What one step settles agrees**, in the operation and in the endpoint. -/
theorem Trace.agrees (t : Trace options analyzers d m) {setting : Build.Setting}
    {s s' : Build.State} {site : Build.Site} {e : Endpoint} {op : Operation} {more : List String}
    (step : Build.Settles setting s site e op s') (hf : s'.draft.Adds t.final.draft more) :
    m.Agrees (site.path, site.method, op) e := by
  have ha := step.adds
  obtain ⟨merged, -, -, registered⟩ := step
  obtain ⟨-, declared, -, hall, hcontent⟩ :=
    (Endpoint.registerInputs_content _ _ _ _).of_ok registered
  refine ⟨rfl, rfl, ?_, _, rfl, ?_⟩
  · -- both lists of parameters are made from the merged parameters
    rw [List.forall₂_map_left_iff]
    refine List.forall₂_map_right_iff.2 (List.forall₂_same.2 fun q hq => ?_)
    obtain ⟨-, -, p, -, rfl⟩ := Parameter.exists_of_merge merged hq
    exact EndpointParameter.matches_of_settled p.isRequired_settled
  · rw [hcontent]
    refine (forall₂_zipWith hall).imp ?_
    rintro _ input ⟨hmem, media, hi, rfl⟩
    exact t.points ha hf hi (List.mem_map_of_mem hmem)

/-- **The document and the endpoints of a model agree.**  The operations of the document are the
declared ones, in their order.  One by one they have the parameters of the endpoints, inline, and the
media types of their request bodies refer to the inputs of the endpoints, which the registry holds.
Taken together the inputs of all endpoints are the synthesized schemas, none of them twice. -/
theorem document_agrees (h : build options analyzers d = .ok m) :
    m.document.operations.map (fun o => (o.1, o.2.1)) = d.operations.map (fun o => (o.1, o.2.1)) ∧
      List.Forall₂ m.Agrees m.document.operations m.endpoints ∧
      m.endpoints.flatMap (fun e => e.inputs.map (·.2)) = m.registry.synthesized ∧
      m.registry.synthesized.Nodup := by
  obtain ⟨t⟩ := exists_trace h
  have hsyn := t.synthesized_eq
  have hops : m.document.operations.map (·.2.2) = t.operations := by
    rw [Build.map_operation_operations, t.document_eq]
    exact t.operations_eq
  refine ⟨t.place_eq, ?_, hsyn.symm, hsyn ▸ t.run.adds.nodup⟩
  refine (t.run.forall₂_operations hops t.place_operations).imp ?_
  rintro ⟨path, method, op⟩ e ⟨site, s, s', more, rfl, rfl, step, hf⟩
  exact t.agrees step hf

/-- A document in which two operations share a request body with two content types, a third one has
none, and the first name for an input is declared already. -/
def sharedBody : Document where
  openapi := "3.0.0"
  info := { title := "Shared", version := "1" }
  paths :=
    [("/things/\x7bid\x7d",
      { parameters := [.inline { name := "id", location := .path }]
        operations :=
          [(.get, { operationId := some "readThing" }),
            (.put,
              { operationId := some "writeThing"
                requestBody := some (.ref "#/components/requestBodies/Thing") }),
            (.post,
              { operationId := some "makeThing"
                parameters := [.inline { name := "id", location := .path, required := true }]
                requestBody := some (.ref "#/components/requestBodies/Thing") })] })]
  components := some
    { schemas := [("WriteThingInput", .inline {}), ("Thing", .inline {})]
      requestBodies :=
        [("Thing", .inline
          { content :=
              [("application/json", { schema := some (.ref "#/components/schemas/Thing") }),
                ("text/plain", {})] })] }

theorem document_agrees_sharedBody :
    ∃ m, build {} [] sharedBody = .ok m ∧
      m.document.operations.map (fun o => (o.1, o.2.1)) =
        sharedBody.operations.map (fun o => (o.1, o.2.1)) ∧
      List.Forall₂ m.Agrees m.document.operations m.endpoints ∧
      m.endpoints.flatMap (fun e => e.inputs.map (·.2)) = m.registry.synthesized ∧
      m.registry.synthesized.Nodup := by
  have hok : (build {} [] sharedBody).isOk = true := by decide +kernel
  obtain ⟨m, hm⟩ := exists_eq_ok hok
  exact ⟨m, hm, document_agrees hm⟩

end Model

end ApiModel
