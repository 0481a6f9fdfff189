import ApiModel.Proofs.Document.Check
import ApiModel.Proofs.Endpoint.Shuffled
import ApiModel.Proofs.Model.Success

/-!
# Components in another order

The definitions among the components of a document are found by name, so their order does not matter:
of two documents that differ in it (`Document.Shuffles`) either neither has a model, or both have, and
the models are the same but for the order in which they list the declared schemas
(`Model.build_shuffles`).  This needs that no schema has a reserved name, since new names are given
out in the order of the schemas.

Both runs are followed side by side (`Parallel`).  What keeps them together is that their drafts hold
the same schemas (`Draft.Shuffles`).  Only in the end, where the named schemas are analyzed and the
pointers of the components are checked, do they meet different things first, so that they may fail
with different errors.
-/

namespace ApiModel

/-! ### Documents -/

/-- Documents that differ in the order of the definitions among their components. -/
structure Document.Shuffles (d d' : Document) : Prop where
  /-- Everything else is the same. -/
  rest_eq : { d with components := none } = { d' with components := none }
  /-- The definitions are the same. -/
  components : d.componentsD.Shuffles d'.componentsD

namespace Document.Shuffles

variable {d d' : Document} (h : d.Shuffles d')
include h

theorem symm : d'.Shuffles d :=
  ⟨h.rest_eq.symm, h.components.symm⟩

theorem paths_eq : d.paths = d'.paths :=
  (congrArg Document.paths h.rest_eq :)

theorem defaultSecurity_eq : d.defaultSecurity = d'.defaultSecurity :=
  (congrArg Document.defaultSecurity h.rest_eq :)

theorem mentions_perm : d.mentions.Perm d'.mentions := by
  have hc := h.components
  rw [mentions, mentions, h.paths_eq, Components.mentions, Components.mentions]
  exact ((((hc.schemas.flatMap_perm _).append (hc.parameters.flatMap_perm _)).append
    (hc.requestBodies.flatMap_perm _)).append (hc.responses.flatMap_perm _)).append_left _

theorem check_iff : d.check = .ok () ↔ d'.check = .ok () := by
  have hcheck : d.resolver.check = d'.resolver.check := by
    funext u
    rw [Resolver.check, Resolver.check]
    exact congrFun₂ (h.components.agrees h.components.schemas).checkPointer_eq _ _
  rw [check_eq_ok_iff, check_eq_ok_iff, hcheck]
  exact forall_congr' fun u => imp_congr_left h.mentions_perm.mem_iff

end Document.Shuffles

/-! ### Operations -/

namespace Build

/-- Settings that differ in the order of the components. -/
structure Setting.Shuffles (setting setting' : Setting) : Prop where
  /-- The components are the same. -/
  components : setting.components.Shuffles setting'.components
  /-- Everything else is the same. -/
  rest_eq : { setting with components := {} } = { setting' with components := {} }

/-- States that differ in the order of the schemas. -/
structure State.Shuffles (s s' : State) : Prop where
  /-- The drafts hold the same. -/
  draft : s.draft.Shuffles s'.draft
  /-- The same names are given. -/
  namer : s.namer = s'.namer

variable {setting setting' : Setting} {s s' : State}

theorem operation_parallel (hset : setting.Shuffles setting') (h : s.Shuffles s') (path : String)
    (ofPath : List (OrRef Parameter)) (method : Method) (op : Operation) :
    Parallel (Beside (Beside State.Shuffles)) (operation setting s path ofPath method op)
      (operation setting' s' path ofPath method op) := by
  obtain ⟨c, security, analyzer, handlers⟩ := setting
  obtain ⟨c', _, _, _⟩ := setting'
  obtain ⟨hc, hrest⟩ := hset
  cases hrest
  obtain ⟨draft, namer⟩ := s
  obtain ⟨draft', _⟩ := s'
  obtain ⟨hdraft, rfl⟩ := h
  have hr := hdraft.agrees hc
  unfold operation
  simp only [tune, hr.mergeParameters_eq, hr.compose_eq]
  refine .bind_eq rfl fun ⟨e, parameters⟩ _ => ?_
  refine .bind_eq rfl fun credentials _ => ?_
  refine .bind_eq (by rw [hr.responses_eq]; rfl) fun responses _ => ?_
  refine ((hdraft.note _).registerInputs hc _ op).bind ?_
  rintro ⟨inputs, body, last⟩ ⟨_, _, last'⟩ ⟨rfl, rfl, hlast⟩
  exact .ok ⟨rfl, rfl, hlast, rfl⟩

theorem operations_parallel (hset : setting.Shuffles setting') (h : s.Shuffles s') (path : String)
    (ofPath : List (OrRef Parameter)) (ops : List (Method × Operation)) :
    Parallel (Beside (Beside State.Shuffles)) (operations setting path ofPath s ops)
      (operations setting' path ofPath s' ops) := by
  induction ops generalizing s s' with
  | nil => exact .ok ⟨rfl, rfl, h⟩
  | cons op rest ih =>
    rw [operations, operations]
    refine (operation_parallel hset h path ofPath op.1 op.2).bind ?_
    rintro ⟨e, op, t⟩ ⟨_, _, t'⟩ ⟨rfl, rfl, ht⟩
    refine (ih ht).bind ?_
    rintro ⟨es, ops, u⟩ ⟨_, _, u'⟩ ⟨rfl, rfl, hu⟩
    exact .ok ⟨rfl, rfl, hu⟩

/-- **The whole run goes alike.** -/
theorem paths_parallel (hset : setting.Shuffles setting') (h : s.Shuffles s')
    (items : List (String × PathItem)) :
    Parallel (Beside (Beside State.Shuffles)) (paths setting s items)
      (paths setting' s' items) := by
  induction items generalizing s s' with
  | nil => exact .ok ⟨rfl, rfl, h⟩
  | cons item rest ih =>
    rw [paths, paths]
    refine (operations_parallel hset h item.1 item.2.parameters item.2.operations).bind ?_
    rintro ⟨es, ops, t⟩ ⟨_, _, t'⟩ ⟨rfl, rfl, ht⟩
    refine (ih ht).bind ?_
    rintro ⟨more, items, u⟩ ⟨_, _, u'⟩ ⟨rfl, rfl, hu⟩
    exact .ok ⟨rfl, rfl, hu⟩

end Build

/-! ### Models -/

namespace Model

variable {options : Options} {analyzers : Analyzers} {d d' : Document}

/-- Models that differ in the order of the declared schemas. -/
structure Shuffles (m m' : Model) : Prop where
  /-- The documents differ in the order of their definitions. -/
  document : m.document.Shuffles m'.document
  /-- The endpoints are the same. -/
  endpoints_eq : m.endpoints = m'.endpoints
  /-- The named schemas are the same. -/
  entries : Entries.Shuffles m.registry.entries m'.registry.entries
  /-- The same ones are synthesized. -/
  synthesized_eq : m.registry.synthesized = m'.registry.synthesized
  /-- The unions are the same. -/
  unions : Entries.Shuffles m.unions m'.unions
  /-- The compositions are the same. -/
  compositions : Entries.Shuffles m.compositions m'.compositions
  /-- Endpoints are paged alike. -/
  paging_eq : m.paging = m'.paging
  /-- The groups are the same. -/
  groups_eq : m.groups = m'.groups
  /-- The same was noted. -/
  diagnostics_eq : m.diagnostics = m'.diagnostics

theorem finish_parallel {c c' : Components} (hc : c.Shuffles c') {draft draft' : Draft}
    (h : draft.Shuffles draft')
    (hd : { d with components := none } = { d' with components := none }) (options : Options)
    (es : List Endpoint) :
    Parallel Shuffles (Build.finish options d c es draft)
      (Build.finish options d' c' es draft') := by
  have hr := h.agrees hc
  have hdoc : Document.Shuffles { d with components := Build.finalComponents c draft.registry }
      { d' with components := Build.finalComponents c' draft'.registry } := by
    refine ⟨hd, ?_⟩
    rw [Document.componentsD, Document.componentsD, Build.getD_finalComponents,
      Build.getD_finalComponents]
    exact hc.withSchemas h.entries
  unfold Build.finish
  refine (Analysis.ofEntries_shuffles hr h.entries).bind fun a a' ha => ?_
  refine (Parallel.of_ok_iff hdoc.check_iff).bind fun _ _ _ => ?_
  refine .ok ⟨hdoc, rfl, h.entries, h.synthesized, ha.unions, ha.compositions, ?_, rfl,
    h.diagnostics⟩
  exact congrFun (hr.paging_eq options.paging) es

/-- What building a model of a document comes to that has no reserved schema names. -/
theorem build_of_free (hd : (Entries.keys d.componentsD.schemas).Nodup)
    (hfree : ∀ name ∈ Entries.keys d.componentsD.schemas,
      (Reserved.mk options.reserved).contains name = false) :
    build options analyzers d = (do
      let analyzer ← analyzers.select options.analyzer
      let c := { d.componentsD with schemas := [] }
      let (es, paths, state) ← Build.paths ⟨c, d.defaultSecurity, analyzer, options.handlers⟩
        ⟨{ registry := ⟨d.componentsD.schemas, []⟩, reserved := ⟨options.reserved⟩ },
          { strategy := options.strategy, aliases := options.aliases }⟩ d.paths
      liftRef (Build.finish options { d with paths, components := none } c es state.draft)) := by
  have hnames : d.componentsD.newNames (Draft.start options.reserved).reserved = .ok [] :=
    Renaming.newNames_of_free hfree
  have hdeclare : (Draft.start options.reserved).registry.declareAll d.componentsD.schemas =
      .ok ⟨d.componentsD.schemas, []⟩ := by
    have ho := Registry.declareAll_outcome (Draft.start options.reserved).registry
      d.componentsD.schemas
    rcases hx : (Draft.start options.reserved).registry.declareAll d.componentsD.schemas
      with err | registry
    · exact absurd hd (ho.of_error hx)
    · rw [ho.of_ok hx]
      rfl
  unfold build
  refine congrArg (analyzers.select options.analyzer >>= ·) (funext fun analyzer => ?_)
  simp only [hnames]
  -- without new names the document stays as it is
  change (Draft.start options.reserved).registry.declareAll d.componentsD.schemas >>= _ = _
  rw [hdeclare]
  rfl

/-- **The order of component definitions does not matter.**  Take two documents that differ in it, none
of whose schemas has a reserved name.  Either neither has a model, or both have, and the models are
the same up to the order of what is kept by schema name. -/
theorem build_shuffles (h : d.Shuffles d')
    (hfree : ∀ name ∈ Entries.keys d.componentsD.schemas,
      (Reserved.mk options.reserved).contains name = false) :
    Parallel Shuffles (build options analyzers d) (build options analyzers d') := by
  have hc := h.components
  have hfree' : ∀ name ∈ Entries.keys d'.componentsD.schemas,
      (Reserved.mk options.reserved).contains name = false :=
    fun name hn => hfree name (hc.schemas.mem_keys_iff.2 hn)
  have hbare : Components.Shuffles { d.componentsD with schemas := [] }
      { d'.componentsD with schemas := [] } := hc.withSchemas ⟨.nil, List.nodup_nil⟩
  rw [build_of_free hc.schemas.nodup hfree, build_of_free hc.schemas.symm.nodup hfree']
  refine .bind_eq rfl fun analyzer _ => ?_
  rw [← h.paths_eq, ← h.defaultSecurity_eq]
  have hset : Build.Setting.Shuffles
      ⟨{ d.componentsD with schemas := [] }, d.defaultSecurity, analyzer, options.handlers⟩
      ⟨{ d'.componentsD with schemas := [] }, d.defaultSecurity, analyzer, options.handlers⟩ :=
    ⟨hbare, rfl⟩
  have hstart (namer : Namer) : Build.State.Shuffles
      ⟨{ registry := ⟨d.componentsD.schemas, []⟩, reserved := ⟨options.reserved⟩ }, namer⟩
      ⟨{ registry := ⟨d'.componentsD.schemas, []⟩, reserved := ⟨options.reserved⟩ }, namer⟩ :=
    ⟨⟨hc.schemas, rfl, rfl, rfl⟩, rfl⟩
  refine (Build.paths_parallel hset (hstart _) d.paths).bind ?_
  rintro ⟨es, paths, s⟩ ⟨_, _, s'⟩ ⟨rfl, rfl, hs⟩
  have hdoc := congrArg (fun d : Document => { d with paths }) h.rest_eq
  exact (finish_parallel hbare hs.draft hdoc options es).liftRef

/-- `cyclic` with its definitions listed backwards. -/
def cyclicBackwards : Document :=
  { cyclic with
    components := cyclic.components.map fun c =>
      { c with schemas := c.schemas.reverse, parameters := c.parameters.reverse } }

theorem build_shuffles_cyclic :
    cyclic.Shuffles cyclicBackwards ∧
      (∀ name ∈ Entries.keys cyclic.componentsD.schemas,
        (Reserved.mk []).contains name = false) ∧
      (∃ m, build {} [] cyclic = .ok m) ∧
      Parallel Shuffles (build {} [] cyclic) (build {} [] cyclicBackwards) := by
  have hd : cyclic.Shuffles cyclicBackwards := by
    refine ⟨rfl, ⟨(List.reverse_perm _).symm, ?_⟩, ⟨.refl _, ?_⟩, ⟨(List.reverse_perm _).symm, ?_⟩,
      ⟨.refl _, ?_⟩, ⟨.refl _, ?_⟩⟩ <;> decide
  have hfree : ∀ name ∈ Entries.keys cyclic.componentsD.schemas,
      (Reserved.mk []).contains name = false := by decide +kernel
  have hok : (build {} [] cyclic).isOk = true := by decide +kernel
  exact ⟨hd, hfree, exists_eq_ok hok, build_shuffles hd hfree⟩

end Model

end ApiModel
