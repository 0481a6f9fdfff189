import ApiModel.Proofs.Endpoint.Extends
import ApiModel.Proofs.Model.Trace

/-!
# What finished documents mention

Settling an operation registers schemas that are made from pieces of the document, and puts references
to them into the operation; a run does nothing else to the pointers of the document.  So what a
finished document mentions was mentioned before, or it is a reference to a synthesized schema
(`Build.Run.mentions_finished`, `Model.Trace.mentions_subset`).
-/

namespace ApiModel

/-- The mention that refers to a named schema. -/
def Mention.toSchema (name : String) : Mention :=
  ⟨.ref .schemas, Schema.pointerPrefix ++ name⟩

/-- Mentions of the document, and references to schemas with given names. -/
def Document.Allows (d : Document) (names : List String) (u : Mention) : Prop :=
  u ∈ d.mentions ∨ ∃ name ∈ names, u = .toSchema name

namespace Build

variable {setting : Setting} {s s' : State} {site : Site} {e : Endpoint} {op : Operation}
  {d : Document}

/-- The mentions in an operation and in the parameters of its path. -/
def Site.mentions (site : Site) : List Mention :=
  Parameter.mentionsOfList site.parameters ++ site.operation.mentions

theorem mem_sites_iff {ps : List (String × PathItem)} :
    site ∈ sites ps ↔ ∃ item, (site.path, item) ∈ ps ∧ site.parameters = item.parameters ∧
      (site.method, site.operation) ∈ item.operations := by
  obtain ⟨path, parameters, method, op⟩ := site
  simp only [sites, sitesOfItem, List.mem_flatMap, List.mem_map, Prod.exists, Site.mk.injEq]
  constructor
  · rintro ⟨_, item, hitem, _, _, hop, rfl, rfl, rfl, rfl⟩
    exact ⟨item, hitem, rfl, hop⟩
  · rintro ⟨item, hitem, rfl, hop⟩
    exact ⟨path, item, hitem, method, op, hop, rfl, rfl, rfl, rfl⟩

theorem Site.mentions_subset (h : site ∈ sites d.paths) : site.mentions ⊆ d.mentions := by
  obtain ⟨item, hitem, hps, hop⟩ := mem_sites_iff.1 h
  intro u hu
  refine List.mem_append_left _ (List.mem_flatMap.2 ⟨_, hitem, ?_⟩)
  rw [Site.mentions, hps] at hu
  rcases List.mem_append.1 hu with hu | hu
  · exact List.mem_append_left _ hu
  · exact List.mem_append_right _ (List.mem_flatMap.2 ⟨_, hop, hu⟩)

/-! ### One operation -/

theorem Settles.stored (h : Settles setting s site e op s') :
    ∀ input ∈ e.inputs, ∃ i : Input,
      s'.draft.registry.find? input.2 = some (.inline i.toSchema) := by
  obtain ⟨-, -, -, registered⟩ := h
  obtain ⟨-, declared, -, hall⟩ := (Endpoint.registerInputs_outcome _ _ _ _).of_ok registered
  intro input hi
  obtain ⟨content, -, -, -, fields, -, -, -, hfind⟩ := exists_of_mem_right hall hi
  exact ⟨_, hfind⟩

theorem mentions_parameters_subset (hs : site.mentions ⊆ d.mentions) :
    Parameter.mentionsOfList site.parameters ⊆ d.mentions ∧
      Parameter.mentionsOfList site.operation.parameters ⊆ d.mentions := by
  refine ⟨fun u hu => hs (List.mem_append_left _ hu), fun u hu => hs ?_⟩
  exact List.mem_append_right _ (List.mem_append_left _ (List.mem_append_left _ hu))

theorem mentions_requestBody_subset (hs : site.mentions ⊆ d.mentions) :
    site.operation.requestBody.elim [] (OrRef.mentions .requestBodies RequestBody.mentions) ⊆
      d.mentions := by
  intro u hu
  refine hs (List.mem_append_right _ (List.mem_append_left _ (List.mem_append_right _ hu)))

theorem mentions_responses_subset (hs : site.mentions ⊆ d.mentions) :
    ∀ x ∈ site.operation.responses, x.2.mentions .responses Response.mentions ⊆ d.mentions := by
  intro x hx u hu
  refine hs (List.mem_append_right _ (List.mem_append_right _ ?_))
  exact List.mem_flatMap.2 ⟨x, hx, hu⟩

theorem coversParameters_of_merged {parameters : List Parameter}
    (hp : ∀ p ∈ parameters, p.mentions ⊆ d.mentions) {e : Endpoint}
    (he : e.parameters = parameters.map (·.toEndpoint)) :
    Resolver.Extends.CoversParameters d e := by
  intro p hm
  rw [he] at hm
  obtain ⟨q, hq, rfl⟩ := List.mem_map.1 hm
  exact hp q hq

/-- **A step keeps the registry to what the document mentions**, and so the operation, up to the
references to the new schemas. -/
theorem Settles.keeps (h : Settles setting s site e op s')
    (hr : (s.draft.resolver setting.components).Extends d) (hs : site.mentions ⊆ d.mentions) :
    (s'.draft.resolver setting.components).Extends d ∧
      ∀ u ∈ op.mentions, d.Allows (e.inputs.map (·.2)) u := by
  obtain @⟨parameters, notes, credentials, responses, inputs, body, draft, merged, -, -,
    registered⟩ := h
  obtain ⟨hpath, hop⟩ := mentions_parameters_subset hs
  have hp := (hr.merge_parameters_outcome hpath hop).of_ok merged
  refine ⟨?_, fun u hu => ?_⟩
  · have hnote : ((s.draft.note notes).resolver setting.components).Extends d := hr
    exact (hnote.registerInputs_outcome (coversParameters_of_merged hp rfl)
      (mentions_requestBody_subset hs)).of_ok registered
  · obtain ⟨-, declared, -, hall, hcontent⟩ :=
      (Endpoint.registerInputs_content _ _ _ _).of_ok registered
    rcases List.mem_append.1 hu with hu | hu
    · rcases List.mem_append.1 hu with hu | hu
      · obtain ⟨_, hm, hu⟩ := List.mem_flatMap.1 hu
        obtain ⟨q, hq, rfl⟩ := List.mem_map.1 hm
        exact .inl (hp q hq hu)
      · -- the media types of the new body refer to the new schemas
        obtain ⟨content, hc, hu⟩ := List.mem_flatMap.1 hu
        rw [hcontent] at hc
        obtain ⟨input, -, hi, media, -, rfl⟩ := exists_of_mem_left (forall₂_zipWith hall) hc
        obtain rfl := List.mem_singleton.1 hu
        exact .inr ⟨input.2, List.mem_map_of_mem hi, rfl⟩
    · obtain ⟨x, hx, hu⟩ := List.mem_flatMap.1 hu
      exact .inl (mentions_responses_subset hs x hx hu)

/-! ### Runs -/

variable {places : List Site} {es : List Endpoint} {ops : List Operation}

theorem Run.stored (h : Run setting s places es ops s') :
    ∀ name ∈ es.flatMap (fun e => e.inputs.map (·.2)), ∃ i : Input,
      s'.draft.registry.find? name = some (.inline i.toSchema) := by
  intro name hn
  obtain ⟨e, he, hn⟩ := List.mem_flatMap.1 hn
  obtain ⟨input, hi, rfl⟩ := List.mem_map.1 hn
  obtain ⟨site, -, t, t', op, before, after, -, step, ha⟩ := exists_of_mem_right h.forall₂ he
  obtain ⟨i, hfind⟩ := step.stored input hi
  obtain ⟨new, hnew, -⟩ := ha.entries
  refine ⟨i, ?_⟩
  rw [Registry.find?, hnew]
  exact Entries.find?_append_of_some hfind

/-- **The schemas that a run adds** are the inputs of its endpoints, in their order. -/
theorem Run.exists_added (h : Run setting s places es ops s') :
    ∃ added, s'.draft.registry.entries = s.draft.registry.entries ++ added ∧
      Entries.keys added = (es.flatMap fun e => e.inputs.map (·.2)) ∧
      ∀ x ∈ added, ∃ i : Input, x.2 = .inline i.toSchema := by
  obtain ⟨added, hentries, hkeys⟩ := h.adds.entries
  refine ⟨added, hentries, hkeys, ?_⟩
  rintro ⟨name, x⟩ hx
  have hn : name ∈ es.flatMap fun e => e.inputs.map (·.2) := hkeys ▸ Entries.mem_keys_of_mem hx
  obtain ⟨i, hi⟩ := h.stored name hn
  -- a new name was not there before, and it is given once
  have hbefore : Entries.find? name s.draft.registry.entries = none :=
    Entries.find?_eq_none_iff.2 (h.adds.fresh name hn)
  have hnodup : (Entries.keys added).Nodup := hkeys ▸ h.adds.nodup
  rw [Registry.find?, hentries, Entries.find?_append, hbefore, Option.none_or,
    Entries.find?_of_mem hnodup hx] at hi
  exact ⟨i, Option.some.inj hi⟩

/-- **A run keeps the registry to what the document mentions**, and so the operations, up to the
references to the new schemas. -/
theorem Run.keeps (h : Run setting s places es ops s')
    (hr : (s.draft.resolver setting.components).Extends d)
    (hs : ∀ site ∈ places, site ∈ sites d.paths) :
    (s'.draft.resolver setting.components).Extends d ∧
      ∀ op ∈ ops, ∀ u ∈ op.mentions, d.Allows (es.flatMap fun e => e.inputs.map (·.2)) u := by
  induction h with
  | nil => exact ⟨hr, by simp⟩
  | cons step run ih =>
    rw [List.forall_mem_cons] at hs
    obtain ⟨hr', hop⟩ := step.keeps hr (Site.mentions_subset hs.1)
    obtain ⟨hr'', hops⟩ := ih hr' hs.2
    refine ⟨hr'', List.forall_mem_cons.2 ⟨fun u hu => ?_, fun op hm u hu => ?_⟩⟩
    · refine (hop u hu).imp_right fun ⟨name, hn, he⟩ => ⟨name, ?_, he⟩
      exact List.mem_append_left _ hn
    · refine (hops op hm u hu).imp_right fun ⟨name, hn, he⟩ => ⟨name, ?_, he⟩
      exact List.mem_append_right _ hn

/-- The document after its operations have been settled. -/
def finished (d : Document) (items : List (String × PathItem)) (c : Components) (r : Registry) :
    Document :=
  { d with paths := items, components := finalComponents c r }

theorem componentsD_finished (d : Document) (items : List (String × PathItem)) (c : Components)
    (r : Registry) : (finished d items c r).componentsD = { c with schemas := r.entries } :=
  getD_finalComponents c r

theorem mem_mentions_paths {items : List (String × PathItem)} {u : Mention} :
    (u ∈ items.flatMap fun p => p.2.mentions) ↔
      (∃ p ∈ frames items, u ∈ Parameter.mentionsOfList p.2.parameters) ∨
        ∃ op ∈ operationsOf items, u ∈ op.mentions := by
  simp only [List.mem_flatMap, PathItem.mentions, List.mem_append, operationsOf, frames, frame,
    List.mem_map]
  constructor
  · rintro ⟨p, hp, hu | ⟨o, ho, hu⟩⟩
    · exact .inl ⟨_, ⟨p, hp, rfl⟩, hu⟩
    · exact .inr ⟨o.2, ⟨p, hp, o, ho, rfl⟩, hu⟩
  · rintro (⟨_, ⟨p, hp, rfl⟩, hu⟩ | ⟨_, ⟨p, hp, o, ho, rfl⟩, hu⟩)
    · exact ⟨p, hp, .inl hu⟩
    · exact ⟨p, hp, .inr ⟨o, ho, hu⟩⟩

/-- **What a finished document mentions** the document mentions, or it is a reference to an input of
an endpoint. -/
theorem Run.mentions_finished {items : List (String × PathItem)}
    (h : Run setting s (sites d.paths) es (operationsOf items) s')
    (hf : frames items = frames d.paths)
    (hr : (s.draft.resolver setting.components).Extends d) :
    ∀ u ∈ (finished d items setting.components s'.draft.registry).mentions,
      d.Allows (es.flatMap fun e => e.inputs.map (·.2)) u := by
  obtain ⟨hr', hops⟩ := h.keeps hr fun _ hsite => hsite
  intro u hu
  rcases List.mem_append.1 hu with hu | hu
  · rcases mem_mentions_paths.1 hu with ⟨p, hp, hu⟩ | ⟨op, hop, hu⟩
    · -- the parameters of paths are the same as before
      have hp : p ∈ frames d.paths := hf ▸ hp
      exact .inl (List.mem_append_left _ (mem_mentions_paths.2 (.inl ⟨p, hp, hu⟩)))
    · exact hops op hop u hu
  · left
    rw [componentsD_finished] at hu
    rcases Components.mem_mentions_iff.1 hu with
      ⟨x, hx, hu⟩ | ⟨x, hx, hu⟩ | ⟨x, hx, hu⟩ | ⟨x, hx, hu⟩
    · exact hr'.covers x hx hu
    · exact d.mentions_parameters_subset x (hr'.parameters_eq ▸ hx) hu
    · exact d.mentions_requestBodies_subset x (hr'.requestBodies_eq ▸ hx) hu
    · exact d.mentions_responses_subset x (hr'.responses_eq ▸ hx) hu

theorem Run.schemaAt_input (h : Run setting s places es ops s') (c : Components) {name : String}
    (hn : name ∈ es.flatMap fun e => e.inputs.map (·.2)) :
    ∃ t, (s'.draft.resolver c).schemaAt (Schema.pointerPrefix ++ name) = .ok t := by
  have hl := h.adds.literal name hn
  obtain ⟨i, hi⟩ := h.stored name hn
  exact ⟨i.toSchema, Resolver.schemaAt_reference hl hi⟩

end Build

namespace Model

variable {options : Options} {analyzers : Analyzers} {d : Document} {m : Model}

/-- The document from which the operations are settled: reserved schemas have new names. -/
def Trace.source (t : Trace options analyzers d m) : Document :=
  { t.renamed with components := some t.components }

theorem Trace.extends_start (t : Trace options analyzers d m) :
    Resolver.Extends ⟨{ t.components with schemas := [] }, t.components.schemas⟩ t.source :=
  ⟨rfl, List.prefix_rfl, t.source.covers_schemas⟩

/-- **What the document of a model mentions** the document mentions after the renaming, or it is a
reference to a synthesized schema. -/
theorem Trace.mentions_subset (t : Trace options analyzers d m) :
    ∀ u ∈ m.document.mentions, t.source.Allows m.registry.synthesized u := by
  have hrun := t.run
  rw [← t.operations_eq] at hrun
  have hdoc : m.document = Build.finished t.source t.items { t.components with schemas := [] }
      t.final.draft.registry := t.document_eq
  have hfin := Build.Run.mentions_finished (d := t.source) hrun t.frames_eq t.extends_start
  rw [t.synthesized_eq, hdoc]
  exact hfin

end Model

end ApiModel
