import ApiModel.Proofs.Model.Extends
import ApiModel.Proofs.Schemas.Renamed

/-!
# What a run carries over

Settling an operation takes its own parameters and the schemas of its own request body apart, and
what they mention may be lost.  Everything else that an operation mentions is mentioned afterwards,
or it has been looked up on the way (`Build.Settles.carries`).  So each firm mention of a document is
mentioned by the finished document, or it leads to what its place wants (`Model.Trace.carries`).
-/

namespace ApiModel

namespace Build

variable {setting : Setting} {s s' : State} {site : Site} {e : Endpoint} {op : Operation}

theorem finds_of_longer {c : Components} {table table' : List (String × OrRef Schema)}
    {u : Mention} (h : table <+: table') (hf : (⟨c, table⟩ : Resolver).finds u = true) :
    (⟨c, table'⟩ : Resolver).finds u = true := by
  have hc : { (⟨c, table⟩ : Resolver).components with schemas := [] } =
      { (⟨c, table'⟩ : Resolver).components with schemas := [] } := rfl
  exact Resolver.finds_of_prefix hc h hf

/-- An input was made from a body that could be looked up. -/
theorem finds_of_bodyFields {r : Resolver} {required : Bool} {contentType p : String}
    {media : MediaType} {fields : BodyFields × List Diagnostic} (hm : media.schema = some (.ref p))
    (h : e.bodyFields r required contentType media = .ok fields) :
    r.finds ⟨.ref .schemas, p⟩ = true := by
  simp only [Endpoint.bodyFields, hm] at h
  obtain ⟨b, hb, -⟩ := map_eq_ok_iff.1 h
  rw [BodyFields.ofBody, bind_eq_ok_iff] at hb
  obtain ⟨t, ht, -⟩ := hb
  exact isOk_of_eq_ok ht

theorem finds_of_registerInputs {c : Components} {d d' : Draft} {inputs : List (String × String)}
    {body b : RequestBody} (h : e.registerInputs c d op = .ok (inputs, body, d'))
    (hb : op.requestBody = some (.inline b)) :
    ∀ u ∈ b.firmMentions, (d'.resolver c).finds u = true := by
  obtain ⟨-, declared, hdecl, hall⟩ := (Endpoint.registerInputs_outcome _ _ _ _).of_ok h
  have hd : declared = some b := by
    rw [Endpoint.declaredBody, hb] at hdecl
    cases hdecl
    rfl
  intro u hu
  obtain ⟨content, hc, hu⟩ := List.mem_flatMap.1 hu
  have hin : content ∈ Endpoint.inputContent (declared.getD {}) := by
    rw [hd, Option.getD_some, Endpoint.inputContent, if_neg]
    · exact hc
    · rw [List.isEmpty_iff]
      exact List.ne_nil_of_mem hc
  obtain ⟨input, -, -, table, fields, notes, htable, hfields, -⟩ := exists_of_mem_left hall hin
  rcases hs : content.2.schema with _ | _ | _
  · simp [hs] at hu
  · simp only [hs, Option.elim_some, OrRef.mentions, List.mem_singleton] at hu
    subst hu
    exact finds_of_longer htable (finds_of_bodyFields hs hfields)
  · simp [hs, OrRef.mentions] at hu

/-- **A step carries over what it does not take apart**: the operation still mentions it, or it has
been looked up. -/
theorem Settles.carries (h : Settles setting s site e op s') :
    ∀ u ∈ site.operation.firmMentions,
      u ∈ op.mentions ∨ (s'.draft.resolver setting.components).finds u = true := by
  have hprefix := h.adds.entries_prefix
  obtain @⟨parameters, notes, credentials, responses, inputs, body, draft, merged, -, -,
    registered⟩ := h
  intro u hu
  rcases List.mem_append.1 hu with hu | hu
  · right
    rcases List.mem_append.1 hu with hu | hu
    · -- a reference to a parameter has been looked up when the parameters were merged
      obtain ⟨x, hx, hu⟩ := List.mem_flatMap.1 hu
      cases x with
      | inline q => cases hu
      | ref p =>
        obtain rfl := List.mem_singleton.1 hu
        have hmem := List.mem_append_right site.parameters hx
        obtain ⟨q, hq⟩ := Parameter.found_of_merge merged _ hmem
        have hf : (s.draft.resolver setting.components).finds ⟨.ref .parameters, p⟩ = true :=
          isOk_of_eq_ok hq
        exact finds_of_longer hprefix hf
    · rcases hb : site.operation.requestBody with _ | _ | b
      · simp [hb] at hu
      · -- and so has one to a request body
        rename_i p
        simp only [hb, Option.elim_some, OrRef.mentions, List.mem_singleton] at hu
        subst hu
        obtain ⟨-, declared, hdecl, -⟩ :=
          (Endpoint.registerInputs_outcome _ _ _ _).of_ok registered
        simp only [Endpoint.declaredBody, hb] at hdecl
        obtain ⟨b, hb, -⟩ := map_eq_ok_iff.1 hdecl
        have hf : (s.draft.resolver setting.components).finds ⟨.ref .requestBodies, p⟩ = true :=
          isOk_of_eq_ok hb
        exact finds_of_longer hprefix hf
      · simp only [hb, Option.elim_some, OrRef.mentions] at hu
        exact finds_of_registerInputs registered hb u hu
  · -- the responses stay as they are
    exact .inl (List.mem_append_right _ hu)

theorem Run.carries {places : List Site} {es : List Endpoint} {ops : List Operation}
    (h : Run setting s places es ops s') :
    ∀ site ∈ places, ∀ u ∈ site.operation.firmMentions,
      (∃ op ∈ ops, u ∈ op.mentions) ∨ (s'.draft.resolver setting.components).finds u = true := by
  induction h with
  | nil => simp
  | cons step run ih =>
    refine List.forall_mem_cons.2 ⟨fun u hu => ?_, fun site hsite u hu => ?_⟩
    · rcases step.carries u hu with hop | hf
      · exact .inl ⟨_, List.mem_cons_self, hop⟩
      · exact .inr (finds_of_longer run.adds.entries_prefix hf)
    · refine (ih site hsite u hu).imp_left ?_
      rintro ⟨op, hop, hu⟩
      exact ⟨op, List.mem_cons_of_mem _ hop, hu⟩

end Build

namespace Model

variable {options : Options} {analyzers : Analyzers} {d : Document} {m : Model}

theorem Trace.exists_renamed (t : Trace options analyzers d m) :
    ∃ renames, d.componentsD.newNames ⟨options.reserved⟩ = .ok renames ∧
      t.source = d.renamed renames := by
  obtain ⟨renames, h, he⟩ := bind_eq_ok_iff.1 t.renamed_eq
  refine ⟨renames, h, ?_⟩
  rw [source, Document.renamed, pure_eq_ok_iff.1 he]

theorem Trace.schemas_prefix (t : Trace options analyzers d m) :
    t.components.schemas <+: m.registry.entries := by
  rw [t.registry_eq]
  exact t.run.adds.entries_prefix

theorem Trace.finds_of_final (t : Trace options analyzers d m) {u : Mention}
    (h : (t.final.draft.resolver { t.components with schemas := [] }).finds u = true) :
    m.resolver.finds u = true := by
  have hc : { t.components with schemas := [] } = { m.resolver.components with schemas := [] } := by
    rw [resolver, t.componentsD_eq]
  have hs : t.final.draft.registry.entries <+: m.resolver.schemas :=
    t.registry_eq ▸ List.prefix_rfl
  exact Resolver.finds_of_prefix hc hs h

theorem Trace.mem_mentions_of_components (t : Trace options analyzers d m) {u : Mention}
    (h : u ∈ t.components.mentions) : u ∈ m.document.mentions := by
  refine m.document.mentions_componentsD_subset ?_
  rw [t.componentsD_eq]
  simp only [Components.mentions, List.mem_append, or_assoc] at h ⊢
  refine h.imp_left fun hs => ?_
  obtain ⟨e, he, hu⟩ := List.mem_flatMap.1 hs
  exact List.mem_flatMap.2 ⟨e, t.schemas_prefix.subset he, hu⟩

/-- **Each firm mention is still there in the end**, or it leads to what its place wants. -/
theorem Trace.carries (t : Trace options analyzers d m) :
    ∀ u ∈ t.source.firmMentions, u ∈ m.document.mentions ∨ m.resolver.finds u = true := by
  have hpaths : ∀ u ∈ t.items.flatMap fun p => p.2.mentions, u ∈ m.document.mentions := by
    intro u hu
    rw [t.document_eq]
    exact List.mem_append_left _ hu
  intro u hu
  rcases List.mem_append.1 hu with hu | hu
  · obtain ⟨p, hp, hu⟩ := List.mem_flatMap.1 hu
    rcases List.mem_append.1 hu with hu | hu
    · -- the parameters of paths stay as they are
      have hframe : (p.1, Build.frame p.2) ∈ Build.frames t.items := by
        rw [t.frames_eq]
        exact List.mem_map_of_mem hp
      exact .inl (hpaths u (Build.mem_mentions_paths.2 (.inl ⟨_, hframe, hu⟩)))
    · obtain ⟨o, ho, hu⟩ := List.mem_flatMap.1 hu
      have hsite : ⟨p.1, p.2.parameters, o.1, o.2⟩ ∈ Build.sites t.renamed.paths :=
        Build.mem_sites_iff.2 ⟨p.2, hp, rfl, ho⟩
      rcases t.run.carries _ hsite u hu with ⟨op, hop, hu⟩ | hf
      · rw [← t.operations_eq] at hop
        exact .inl (hpaths u (Build.mem_mentions_paths.2 (.inr ⟨op, hop, hu⟩)))
      · exact .inr (t.finds_of_final hf)
  · exact .inl (t.mem_mentions_of_components hu)

theorem Trace.carries_under (t : Trace options analyzers d m) {reserved : Reserved}
    {renames : List (String × String)} (h : d.componentsD.newNames reserved = .ok renames)
    (hs : t.source = d.renamed renames) (hd : (Entries.keys d.componentsD.schemas).Nodup)
    {u : Mention} (hu : u ∈ d.firmMentions) :
    u.under (Renaming.pointer renames) ∈ m.document.mentions ∨
      m.resolver.finds (u.under (Renaming.pointer renames)) = true := by
  refine t.carries _ ?_
  rw [hs, Document.firmMentions_renamed h hd]
  exact List.mem_map_of_mem hu

end Model

end ApiModel
