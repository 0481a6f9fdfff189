import ApiModel.Proofs.Model.Trace

/-!
# What building leaves alone

Building a model takes the components out of the document, reads them in every step, and puts them
back in the end.  Of the document it changes what a request of an operation carries, and nothing
else: a step settles the parameters and the request body of one operation
(`Build.Settles.withoutRequest_eq`), and so does a run with all operations
(`Build.Run.withoutRequest_eq`).  Shared parameters and request bodies are settled where they are
used, and stay as they are in the components.  The schemas of the document stay, too, and what comes
behind them is marked as synthesized (`Model.build_frame`).
-/

namespace ApiModel

/-- An operation without what a request carries: its parameters and its request body. -/
def Operation.withoutRequest (op : Operation) : Operation :=
  { op with parameters := [], requestBody := none }

/-- A path without what the requests of its operations carry. -/
def PathItem.withoutRequests (item : PathItem) : PathItem :=
  { item with operations := item.operations.map fun (method, op) => (method, op.withoutRequest) }

/-- Paths without what the requests of their operations carry. -/
def Document.withoutRequests (ps : List (String × PathItem)) : List (String × PathItem) :=
  ps.map fun (path, item) => (path, item.withoutRequests)

namespace Build

variable {setting : Setting} {s s' : State} {site : Site} {e : Endpoint} {op : Operation}

theorem Settles.withoutRequest_eq (h : Settles setting s site e op s') :
    op.withoutRequest = site.operation.withoutRequest := by
  obtain ⟨-, -, -, -⟩ := h
  rfl

theorem Run.withoutRequest_eq {places : List Site} {es : List Endpoint} {ops : List Operation}
    (h : Run setting s places es ops s') :
    ops.map Operation.withoutRequest = places.map fun site => site.operation.withoutRequest := by
  induction h with
  | nil => rfl
  | cons step _ ih => exact congrArg₂ List.cons step.withoutRequest_eq ih

theorem map_operation_sites (ps : List (String × PathItem)) :
    (sites ps).map Site.operation = operationsOf ps := by
  simp only [sites, sitesOfItem, operationsOf, List.map_flatMap, List.map_map]
  rfl

theorem withoutRequests_eq_of_frame {item item' : PathItem} (hf : frame item = frame item')
    (ho : item.operations.map (·.2.withoutRequest) = item'.operations.map (·.2.withoutRequest)) :
    item.withoutRequests = item'.withoutRequests := by
  have hmethods : item.operations.map (·.1) = item'.operations.map (·.1) := by
    have h := congrArg (fun i : PathItem => i.operations.map (·.1)) hf
    simp only [frame, List.map_map] at h
    exact h
  have hops : item.withoutRequests.operations = item'.withoutRequests.operations := by
    simp only [PathItem.withoutRequests, ← List.zip_map', hmethods, ho]
  have hrest : { frame item with operations := item.withoutRequests.operations } =
      { frame item' with operations := item'.withoutRequests.operations } := by rw [hf, hops]
  exact hrest

/-- **Paths with the same frames agree** without the requests of their operations if the operations
do. -/
theorem withoutRequests_eq_of_frames {items ps : List (String × PathItem)}
    (hf : frames items = frames ps)
    (ho : (operationsOf items).map Operation.withoutRequest =
      (operationsOf ps).map Operation.withoutRequest) :
    Document.withoutRequests items = Document.withoutRequests ps := by
  induction items generalizing ps with
  | nil =>
    cases ps with
    | nil => rfl
    | cons p ps => cases hf
  | cons p items ih =>
    cases ps with
    | nil => cases hf
    | cons q ps =>
      obtain ⟨hhead, hrest⟩ := List.cons.inj hf
      obtain ⟨hpath, hframe⟩ := Prod.mk.inj hhead
      -- both paths have as many operations
      have hlength : p.2.operations.length = q.2.operations.length := by
        have h := congrArg (fun i : PathItem => i.operations.length) hframe
        simpa [frame] using h
      simp only [operationsOf, List.flatMap_cons, List.map_append, List.map_map] at ho
      obtain ⟨hhere, hlater⟩ := List.append_inj ho (by simpa using hlength)
      have hitem := withoutRequests_eq_of_frame hframe hhere
      exact congrArg₂ List.cons (congrArg₂ Prod.mk hpath hitem) (ih hrest hlater)

end Build

namespace Model

variable {options : Options} {analyzers : Analyzers} {d : Document} {m : Model}

/-- What building leaves as it is, when it starts from a document and its components. -/
structure Keeps (m : Model) (d : Document) (c : Components) : Prop where
  /-- The version of OpenAPI. -/
  openapi_eq : m.document.openapi = d.openapi
  /-- What the document is about. -/
  info_eq : m.document.info = d.info
  /-- Where the service runs. -/
  servers_eq : m.document.servers = d.servers
  /-- The groups of operations. -/
  tags_eq : m.document.tags = d.tags
  /-- The security requirements of operations that state none. -/
  security_eq : m.document.security = d.security
  /-- The paths in their order, but for what the requests of their operations carry. -/
  paths_eq : Document.withoutRequests m.document.paths = Document.withoutRequests d.paths
  /-- The shared parameters. -/
  parameters_eq : m.document.componentsD.parameters = c.parameters
  /-- The shared request bodies. -/
  requestBodies_eq : m.document.componentsD.requestBodies = c.requestBodies
  /-- The shared responses. -/
  responses_eq : m.document.componentsD.responses = c.responses
  /-- The security schemes. -/
  securitySchemes_eq : m.document.componentsD.securitySchemes = c.securitySchemes
  /-- The schemas come first, and exactly those behind them are marked as synthesized. -/
  entries_eq : ∃ added, m.registry.entries = c.schemas ++ added ∧
    (∀ name ∈ Entries.keys added, m.registry.isSynthesized name = true) ∧
    ∀ name ∈ Entries.keys c.schemas, m.registry.isSynthesized name = false

theorem Trace.withoutRequests_eq (t : Trace options analyzers d m) :
    Document.withoutRequests t.items = Document.withoutRequests t.renamed.paths := by
  refine Build.withoutRequests_eq_of_frames t.frames_eq ?_
  rw [t.operations_eq, t.run.withoutRequest_eq, ← Build.map_operation_sites, List.map_map]
  rfl

/-- The marks of the registry tell the schemas of the document from those that are synthesized. -/
theorem Trace.exists_added (t : Trace options analyzers d m) :
    ∃ added, m.registry.entries = t.components.schemas ++ added ∧
      (∀ name ∈ Entries.keys added, m.registry.isSynthesized name = true) ∧
      ∀ name ∈ Entries.keys t.components.schemas, m.registry.isSynthesized name = false := by
  have hadds := t.run.adds
  obtain ⟨added, hentries, hkeys⟩ := hadds.entries
  have hmarks : m.registry.synthesized = Entries.keys added := by
    rw [t.registry_eq, hadds.synthesized, hkeys, List.nil_append]
  refine ⟨added, ?_, fun name hn => ?_, fun name hn => ?_⟩
  · rw [t.registry_eq]
    exact hentries
  · rw [Registry.isSynthesized, hmarks, List.contains_iff_mem]
    exact hn
  · rw [Registry.isSynthesized, hmarks, hkeys, ← Bool.not_eq_true, List.contains_iff_mem]
    -- a new name is not that of a schema of the document
    intro hmem
    exact hadds.fresh name hmem hn

theorem Trace.keeps (t : Trace options analyzers d m) : Keeps m t.renamed t.components where
  openapi_eq := (congrArg Document.openapi t.document_eq :)
  info_eq := (congrArg Document.info t.document_eq :)
  servers_eq := (congrArg Document.servers t.document_eq :)
  tags_eq := (congrArg Document.tags t.document_eq :)
  security_eq := (congrArg Document.security t.document_eq :)
  paths_eq := by
    rw [t.document_eq]
    exact t.withoutRequests_eq
  parameters_eq := (congrArg Components.parameters t.componentsD_eq :)
  requestBodies_eq := (congrArg Components.requestBodies t.componentsD_eq :)
  responses_eq := (congrArg Components.responses t.componentsD_eq :)
  securitySchemes_eq := (congrArg Components.securitySchemes t.componentsD_eq :)
  entries_eq := t.exists_added

/-- **Frame of the build.**  Compared with the document after the renaming, the document of a model
differs in the parameters and the request bodies of operations and in the schemas that are added
behind those of the document. -/
theorem build_frame (h : build options analyzers d = .ok m) :
    ∃ renamed components, d.renameReserved ⟨options.reserved⟩ = .ok (renamed, components) ∧
      Keeps m renamed components := by
  obtain ⟨t⟩ := exists_trace h
  exact ⟨t.renamed, t.components, t.renamed_eq, t.keeps⟩

/-- A document with a shared parameter and a shared request body, and a schema with a reserved
name. -/
def library : Document where
  openapi := "3.1.0"
  info := { title := "Library", version := "2" }
  servers := [{ url := "https://library.example" }]
  tags := [{ name := "books" }]
  security := some [[("key", [])]]
  paths :=
    [("/books/\x7bid\x7d",
      { summary := some "A book"
        parameters := [.ref "#/components/parameters/Id"]
        operations :=
          [(.put,
            { operationId := some "putBook"
              tags := ["books"]
              requestBody := some (.ref "#/components/requestBodies/Book")
              responses := [("200", .ref "#/components/responses/Book")] })] })]
  components := some
    { schemas := [("class", .inline { properties := [("title", .inline {})] })]
      responses :=
        [("Book", .inline
          { content :=
              [("application/json", { schema := some (.ref "#/components/schemas/class") })] })]
      parameters := [("Id", .inline { name := "id", location := .path })]
      requestBodies :=
        [("Book", .inline
          { content :=
              [("application/json", { schema := some (.ref "#/components/schemas/class") })] })]
      securitySchemes := [("key", { type := .apiKey, name := some "k", location := some .header })] }

theorem build_frame_library :
    ∃ m, build {} [] library = .ok m ∧
      ∃ renamed components, library.renameReserved ⟨[]⟩ = .ok (renamed, components) ∧
        Keeps m renamed components := by
  have hok : (build {} [] library).isOk = true := by decide +kernel
  obtain ⟨m, hm⟩ := exists_eq_ok hok
  exact ⟨m, hm, build_frame hm⟩

end Model

end ApiModel
