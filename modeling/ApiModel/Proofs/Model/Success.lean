import ApiModel.Proofs.Model.Extends

/-!
# When a model can be built

A document whose mentions lead to what their places want, whose security requirements count on
complete schemes, and none of whose schemas has a reserved name, has nothing that building its model
could complain about: it succeeds, or there is no free name left for an input
(`Model.build_succeeds`).

Every step looks something up, while the registry grows and the document is rewritten.  What keeps
the lookups going is that the resolver over the registry extends the document
(`Resolver.Extends`); each step preserves this (`Build.Settles.keeps`), and from it each step goes
wrong only for a reason that the document gives (`Document.Accounts`).
-/

namespace ApiModel

namespace Resolver.Extends

variable {r : Resolver} {d : Document}

theorem grants_eq (h : r.Extends d) (name : String) : r.grants name = d.resolver.grants name := by
  simp only [grants, h.securitySchemes_eq]
  rfl

end Resolver.Extends

namespace Build

variable {setting : Setting} {s s' : State} {site : Site} {d : Document}

/-- The setting in which the operations of a document are settled without an analyzer. -/
structure Setting.Plain (setting : Setting) (d : Document) : Prop where
  /-- The security requirements are those of the document. -/
  security_eq : setting.security = d.defaultSecurity
  /-- No analyzer is used. -/
  analyzer_eq : setting.analyzer = none

/-! ### One operation -/

theorem firstSchemes_subset (h : site ∈ sites d.paths) :
    firstSchemes (site.operation.security.getD []) ⊆ d.requiredSchemes := by
  obtain ⟨item, hitem, -, hop⟩ := mem_sites_iff.1 h
  intro name hn
  have ho : (site.path, site.method, site.operation) ∈ d.operations :=
    List.mem_flatMap.2 ⟨_, hitem, List.mem_map.2 ⟨_, hop, rfl⟩⟩
  exact List.mem_append_right _ (List.mem_flatMap.2 ⟨_, ho, hn⟩)

theorem compose_accounts (hset : setting.Plain d)
    (hr : (s.draft.resolver setting.components).Extends d) (hsite : site ∈ sites d.paths)
    (name : String) :
    Outcome d.Accounts (fun _ => True)
      (Credential.compose (s.draft.resolver setting.components) setting.security
        site.operation.security name).2 := by
  have hok := Credential.isOk_compose (s.draft.resolver setting.components) setting.security
    site.operation.security name
  rcases hx : (Credential.compose (s.draft.resolver setting.components) setting.security
    site.operation.security name).2 with err | credentials
  · refine .error (.inr (.inr ?_))
    by_contra hno
    -- then every scheme that counts would be granted
    have hall : ∀ name ∈ d.requiredSchemes,
        (s.draft.resolver setting.components).grants name = true := by
      intro name hn
      rw [hr.grants_eq]
      exact Bool.of_not_eq_false fun hf => hno ⟨name, hn, hf⟩
    have hsecurity : firstSchemes setting.security ⊆ d.requiredSchemes := by
      rw [hset.security_eq]
      exact List.subset_append_left _ _
    rw [hx, List.all_eq_true.2 fun name hn => hall name (hsecurity hn),
      List.all_eq_true.2 fun name hn => hall name (firstSchemes_subset hsite hn)] at hok
    cases hok
  · exact .ok trivial

/-- **One operation goes wrong only for a reason that the document gives.** -/
theorem operation_accounts (hset : setting.Plain d)
    (hr : (s.draft.resolver setting.components).Extends d) (hsite : site ∈ sites d.paths) :
    Outcome d.Accounts (fun _ => True)
      (operation setting s site.path site.parameters site.method site.operation) := by
  have hs := Site.mentions_subset hsite
  obtain ⟨hpath, hop⟩ := mentions_parameters_subset hs
  unfold operation tune
  refine ((Document.liftRef_outcome (hr.merge_parameters_outcome hpath hop)).map _).bind ?_
  rintro _ ⟨parameters, hp, rfl⟩
  refine (compose_accounts hset hr hsite _).bind fun credentials _ => ?_
  refine Outcome.bind (P := fun _ => True) ?_ fun responses _ => ?_
  · simp only [Build.responses, hset.analyzer_eq]
    exact Document.liftRef_outcome
      ((hr.ofDocument_outcome (mentions_responses_subset hs)).mono fun _ _ => trivial)
  · refine (Resolver.Extends.registerInputs_outcome ?_ (coversParameters_of_merged hp rfl)
      (mentions_requestBody_subset hs)).bind ?_
    · exact hr
    · rintro ⟨inputs, body, draft⟩ -
      exact .ok trivial

/-! ### All operations -/

theorem operations_accounts (hset : setting.Plain d) {path : String}
    {ofPath : List (OrRef Parameter)} {os : List (Method × Operation)}
    (hr : (s.draft.resolver setting.components).Extends d)
    (hos : ∀ site ∈ sitesOfItem path ofPath os, site ∈ sites d.paths) :
    Outcome d.Accounts (fun _ => True) (operations setting path ofPath s os) := by
  induction os generalizing s with
  | nil => exact .ok trivial
  | cons o rest ih =>
    obtain ⟨method, op⟩ := o
    obtain ⟨hsite, hrest⟩ := List.forall_mem_cons.1 hos
    have hstep := (operation_outcome setting s ⟨path, ofPath, method, op⟩).and
      (operation_accounts hset hr hsite)
    refine (hstep.mono_error fun _ h => h.2).bind ?_
    rintro ⟨e, op', s₁⟩ ⟨step, -⟩
    have hr₁ := (step.keeps hr (Site.mentions_subset hsite)).1
    refine (ih hr₁ hrest).bind ?_
    rintro ⟨es, ops, s₂⟩ -
    exact .ok trivial

/-- **Settling paths goes wrong only for a reason that the document gives.** -/
theorem paths_accounts (hset : setting.Plain d) {ps : List (String × PathItem)}
    (hr : (s.draft.resolver setting.components).Extends d)
    (hps : ∀ site ∈ sites ps, site ∈ sites d.paths) :
    Outcome d.Accounts (fun _ => True) (paths setting s ps) := by
  induction ps generalizing s with
  | nil => exact .ok trivial
  | cons p rest ih =>
    obtain ⟨path, item⟩ := p
    have hitem : ∀ site ∈ sitesOfItem path item.parameters item.operations,
        site ∈ sites d.paths := fun site h => hps site (List.mem_append_left _ h)
    have hrun := (operations_outcome setting path item.parameters s item.operations).and
      (operations_accounts hset hr hitem)
    refine (hrun.mono_error fun _ h => h.2).bind ?_
    rintro ⟨es, ops, s₁⟩ ⟨⟨run, -⟩, -⟩
    have hr₁ := (run.keeps hr hitem).1
    refine (ih hr₁ fun site h => hps site (List.mem_append_right _ h)).bind ?_
    rintro ⟨es', items, s₂⟩ -
    exact .ok trivial

/-! ### The end -/

variable {items : List (String × PathItem)} {c : Components} {draft : Draft}

theorem extends_finished (hr : (draft.resolver c).Extends d) :
    (finished d items c draft.registry).resolver.Extends d := by
  have hc := componentsD_finished d items c draft.registry
  refine ⟨?_, ?_, ?_⟩
  · rw [Document.resolver, hc]
    exact hr.components_eq
  · rw [Document.resolver, hc]
    exact hr.schemas_prefix
  · rw [Document.resolver, hc]
    exact hr.covers

/-- **A finished document passes its check** unless the document dangles. -/
theorem check_finished {es : List Endpoint} {places : List Site} {ops : List Operation}
    (hr : (s'.draft.resolver c).Extends d) (run : Run setting s places es ops s')
    (hm : ∀ u ∈ (finished d items c s'.draft.registry).mentions,
      d.Allows (es.flatMap fun e => e.inputs.map (·.2)) u) :
    Outcome (fun _ => d.Dangles) (fun _ => True) (finished d items c s'.draft.registry).check := by
  by_cases hd : d.Dangles
  · cases (finished d items c s'.draft.registry).check with
    | error err => exact .error hd
    | ok _ => exact .ok trivial
  · have hcheck : (finished d items c s'.draft.registry).check = .ok () := by
      rw [Document.check_eq_ok_iff]
      intro u hu
      refine Resolver.check_of_finds ?_
      rcases hm u hu with hu | ⟨name, hn, rfl⟩
      · have hf : d.resolver.finds u = true := Bool.of_not_eq_false fun hf => hd ⟨u, hu, hf⟩
        exact (extends_finished hr).finds hf
      · obtain ⟨t, ht⟩ := run.schemaAt_input c hn
        have hs : (finished d items c s'.draft.registry).resolver.schemaAt
            (Schema.pointerPrefix ++ name) = .ok t := by
          rw [Document.resolver, componentsD_finished]
          exact ht
        exact isOk_of_eq_ok hs
    rw [hcheck]
    exact .ok trivial

end Build

/-! ### Names that are not reserved -/

theorem Renaming.newNames_of_free {reserved : Reserved} {taken names : List String}
    (h : ∀ name ∈ names, reserved.contains name = false) :
    newNames reserved taken names = .ok [] := by
  induction names with
  | nil => rfl
  | cons name rest ih =>
    rw [List.forall_mem_cons] at h
    rw [newNames, h.1]
    exact ih h.2

namespace Model

variable {options : Options} {analyzers : Analyzers} {d : Document}

theorem build_accounts (ha : options.analyzer = none)
    (hd : (Entries.keys d.componentsD.schemas).Nodup)
    (hfree : ∀ name ∈ Entries.keys d.componentsD.schemas,
      (Reserved.mk options.reserved).contains name = false) :
    Outcome d.Accounts (fun _ => True) (build options analyzers d) := by
  have hselect : analyzers.select options.analyzer = .ok none := by
    rw [ha]
    rfl
  have hnames : d.componentsD.newNames (Draft.start options.reserved).reserved = .ok [] :=
    Renaming.newNames_of_free hfree
  unfold build
  simp only [hselect, hnames]
  -- nothing is renamed, and no schema is declared twice
  have hdeclare : Outcome d.Accounts (fun r => r = ⟨d.componentsD.schemas, []⟩)
      ((Draft.start options.reserved).registry.declareAll d.componentsD.schemas) := by
    refine ((Registry.declareAll_outcome {} _).mono_error fun _ hno => ?_).mono fun _ h => by
      simpa using h
    exact absurd (by simpa using hd) hno
  refine hdeclare.bind ?_
  rintro _ rfl
  let setting : Build.Setting :=
    ⟨{ d.componentsD with schemas := [] }, d.defaultSecurity, none, options.handlers⟩
  have hset : setting.Plain d := ⟨rfl, rfl⟩
  have hr : Resolver.Extends ⟨{ d.componentsD with schemas := [] }, d.componentsD.schemas⟩ d :=
    ⟨rfl, List.prefix_rfl, d.covers_schemas⟩
  have hpaths := (Build.paths_outcome setting
    ⟨{ Draft.start options.reserved with registry := ⟨d.componentsD.schemas, []⟩ },
      { strategy := options.strategy, aliases := options.aliases }⟩ d.paths).and
    (Build.paths_accounts hset hr fun _ h => h)
  refine (hpaths.mono_error fun _ h => h.2).bind ?_
  rintro ⟨es, items, final⟩ ⟨⟨run, hf⟩, -⟩
  have hr' := (run.keeps hr fun _ h => h).1
  have hm := run.mentions_finished hf hr
  refine Document.liftRef_outcome ?_
  unfold Build.finish
  refine (hr'.analysis_ofEntries_outcome hr'.covers).bind fun analysis _ => ?_
  exact (Build.check_finished hr' run hm).bind fun _ _ => .ok trivial

/-- **No spurious errors.**  Suppose that no schema of the document has a reserved name, that every
mention leads to what its place wants, and that every scheme that counts in a security requirement is
there with all that its kind needs.  Then, without an analyzer, the model is built, or there is no
free name left for an input. -/
theorem build_succeeds (options : Options) (analyzers : Analyzers) (d : Document)
    (ha : options.analyzer = none) (hd : (Entries.keys d.componentsD.schemas).Nodup)
    (hfree : ∀ name ∈ Entries.keys d.componentsD.schemas,
      name ∉ Reserved.words ∧ name ∉ options.reserved)
    (hfinds : ∀ u ∈ d.mentions, d.resolver.finds u = true)
    (hgrants : ∀ name ∈ d.requiredSchemes, d.resolver.grants name = true) :
    (∃ m, build options analyzers d = .ok m) ∨
      ∃ base, build options analyzers d = .error (.namesExhausted base) := by
  have hcontains : ∀ name ∈ Entries.keys d.componentsD.schemas,
      (Reserved.mk options.reserved).contains name = false := by
    intro name hn
    rw [Reserved.contains, Bool.or_eq_false_iff]
    exact ⟨by simpa using (hfree name hn).1, by simpa using (hfree name hn).2⟩
  have hbuild : Outcome d.Accounts (fun _ => True) (build options analyzers d) :=
    build_accounts ha hd hcontains
  rcases hx : build options analyzers d with err | m
  · rcases hbuild.of_error hx with ⟨base, rfl⟩ | ⟨u, hu, hf⟩ | ⟨name, hn, hf⟩
    · exact .inr ⟨base, rfl⟩
    · rw [hfinds u hu] at hf
      cases hf
    · rw [hgrants name hn] at hf
      cases hf
  · exact .inl ⟨m, rfl⟩

/-- A document in which two compositions lead to each other, a schema refers to itself, and a mapping
gives the bare name of a schema. -/
def cyclic : Document where
  openapi := "3.0.0"
  info := { title := "Cycles", version := "1" }
  paths :=
    [("/trees/\x7bid\x7d",
      { parameters := [.ref "#/components/parameters/Id"]
        operations :=
          [(.put,
            { requestBody := some (.ref "#/components/requestBodies/Tree")
              responses := [("200", .ref "#/components/responses/Tree")]
              security := some [[("key", [])]] })] })]
  components := some
    { schemas :=
        [("Left", .inline
          { allOf := [.ref "#/components/schemas/Right"]
            properties := [("child", .ref "#/components/schemas/Left")] }),
          ("Right", .inline
            { allOf := [.ref "#/components/schemas/Left"]
              properties := [("tree", .ref "#/components/schemas/Tree")] }),
          ("Tree", .inline
            { oneOf := [.ref "#/components/schemas/Left", .ref "#/components/schemas/Right"]
              discriminator := some
                { propertyName := "side"
                  mapping := [("l", "Left"), ("r", "#/components/schemas/Right")] } })]
      responses :=
        [("Tree", .inline
          { content :=
              [("application/json", { schema := some (.ref "#/components/schemas/Tree") })] })]
      parameters :=
        [("Id", .ref "#/components/parameters/Key"),
          ("Key", .inline { name := "id", location := .path })]
      requestBodies :=
        [("Tree", .inline
          { content :=
              [("application/json", { schema := some (.ref "#/components/schemas/Left") })] })]
      securitySchemes := [("key", { type := .apiKey, name := some "k", location := some .query })] }

theorem build_succeeds_cyclic :
    (∀ u ∈ cyclic.mentions, cyclic.resolver.finds u = true) ∧
      (∀ name ∈ cyclic.requiredSchemes, cyclic.resolver.grants name = true) ∧
      ((∃ m, build {} [] cyclic = .ok m) ∨
        ∃ base, build {} [] cyclic = .error (.namesExhausted base)) := by
  have hfinds : ∀ u ∈ cyclic.mentions, cyclic.resolver.finds u = true := by decide +kernel
  have hgrants : ∀ name ∈ cyclic.requiredSchemes, cyclic.resolver.grants name = true := by
    decide +kernel
  exact ⟨hfinds, hgrants, build_succeeds {} [] cyclic rfl (by decide +kernel) (by decide +kernel)
    hfinds hgrants⟩

end Model

end ApiModel
