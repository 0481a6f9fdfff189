import ApiModel.Model.Analysis
import ApiModel.Proofs.Document.Check
import ApiModel.Proofs.Schemas.Kind
import ApiModel.Proofs.Schemas.Reach

/-!
# Resolvers that extend a document

While a model is built schemas are added to those of the document, and they are made from pieces of
it.  A resolver that extends a document (`Resolver.Extends`) leads wherever the document leads, and
its schemas mention nothing that the document does not mention.  Then following a mention of the
document leads to something with that property, and goes wrong only when the document itself has a
mention that does not lead to what its place wants (`Document.Dangles`).  From the lookups
(`Resolver.Extends.schema_outcome`) this is passed on to unions and to merged compositions
(`Resolver.Extends.merge_outcome`): their variants and their properties mention nothing new, either.
So does whatever is found out about named schemas (`Resolver.Extends.analysis_ofEntries_outcome`).
-/

namespace ApiModel

/-- What a branch of a union mentions the union mentions. -/
theorem Schema.mentionsOfRef_subset_of_mem_unionBranches {s : Schema} {b : OrRef Schema}
    (h : b ∈ s.unionBranches) : mentionsOfRef b ⊆ s.mentions := by
  unfold unionBranches at h
  split_ifs at h
  · exact mentionsOfRef_subset_of_mem_anyOf h
  · exact mentionsOfRef_subset_of_mem_oneOf h

namespace Document

/-- Some mention of the document does not lead to what its place wants. -/
def Dangles (d : Document) : Prop :=
  ∃ u ∈ d.mentions, d.resolver.finds u = false

/-- Named schemas that mention only what the document mentions. -/
def Covers (d : Document) (es : List (String × OrRef Schema)) : Prop :=
  ∀ e ∈ es, Schema.mentionsOfRef e.2 ⊆ d.mentions

/-- The variants of a union mention only what the document mentions. -/
def CoversUnion (d : Document) (u : VariantSet) : Prop :=
  ∀ v ∈ u.variants, Schema.mentionsOfRef v.schema ⊆ d.mentions

/-- A merged composition mentions only what the document mentions. -/
structure CoversShape (d : Document) (shape : Shape) : Prop where
  /-- Its properties do. -/
  properties : d.Covers shape.properties
  /-- The unions among its branches do. -/
  unions : ∀ u ∈ shape.unions, d.CoversUnion u

/-- What is found out about named schemas mentions only what the document mentions. -/
structure CoversAnalysis (d : Document) (a : Analysis) : Prop where
  /-- The unions do. -/
  unions : ∀ u ∈ a.unions, d.CoversUnion u.2
  /-- The compositions do. -/
  compositions : ∀ c ∈ a.compositions, d.CoversShape c.2

theorem covers_nil (d : Document) : d.Covers [] :=
  List.forall_mem_nil _

theorem coversAnalysis_empty {d : Document} : d.CoversAnalysis {} :=
  ⟨by simp, by simp⟩

variable {d : Document}

theorem mentions_componentsD_subset (d : Document) : d.componentsD.mentions ⊆ d.mentions :=
  List.subset_append_right _ _

theorem covers_schemas (d : Document) : d.Covers d.componentsD.schemas := fun e he _ hu =>
  d.mentions_componentsD_subset (Components.mem_mentions_iff.2 (.inl ⟨e, he, hu⟩))

theorem mentions_parameters_subset (d : Document) : ∀ e ∈ d.componentsD.parameters,
    e.2.mentions .parameters Parameter.mentions ⊆ d.mentions := fun e he _ hu =>
  d.mentions_componentsD_subset (Components.mem_mentions_iff.2 (.inr (.inl ⟨e, he, hu⟩)))

theorem mentions_requestBodies_subset (d : Document) : ∀ e ∈ d.componentsD.requestBodies,
    e.2.mentions .requestBodies RequestBody.mentions ⊆ d.mentions := fun e he _ hu =>
  d.mentions_componentsD_subset (Components.mem_mentions_iff.2 (.inr (.inr (.inl ⟨e, he, hu⟩))))

theorem mentions_responses_subset (d : Document) : ∀ e ∈ d.componentsD.responses,
    e.2.mentions .responses Response.mentions ⊆ d.mentions := fun e he _ hu =>
  d.mentions_componentsD_subset (Components.mem_mentions_iff.2 (.inr (.inr (.inr ⟨e, he, hu⟩))))

/-- **Following a mention of a document** in a table that mentions what the document mentions. -/
theorem follow_outcome {α : Type} {sec : Section} {table : List (String × OrRef α)}
    {inside : α → List Mention} {p : String} (hp : ⟨.ref sec, p⟩ ∈ d.mentions)
    (hfind : d.resolver.findsIn sec p = true → (follow sec table p).isOk = true)
    (htable : ∀ e ∈ table, e.2.mentions sec inside ⊆ d.mentions) :
    Outcome (fun _ => d.Dangles) (fun v => inside v ⊆ d.mentions) (follow sec table p) := by
  rcases hx : follow sec table p with err | v
  · refine .error ⟨_, hp, ?_⟩
    by_contra hf
    have hok := hfind (Bool.of_not_eq_false hf)
    rw [hx] at hok
    cases hok
  · obtain ⟨name, hm⟩ := mem_of_followFrom hx
    exact .ok (htable _ hm)

/-- **What stands in a document or behind a pointer of it** mentions what the document mentions. -/
theorem deref_outcome {α : Type} {sec : Section} {table : List (String × OrRef α)}
    {inside : α → List Mention} {s : OrRef α} (hs : s.mentions sec inside ⊆ d.mentions)
    (hfind : ∀ p, d.resolver.findsIn sec p = true → (follow sec table p).isOk = true)
    (htable : ∀ e ∈ table, e.2.mentions sec inside ⊆ d.mentions) :
    Outcome (fun _ => d.Dangles) (fun v => inside v ⊆ d.mentions) (s.deref (follow sec table)) := by
  cases s with
  | inline v => exact .ok hs
  | ref p => exact follow_outcome (hs List.mem_cons_self) (hfind p) htable

end Document

/-- The resolver leads wherever the document leads, and its schemas mention nothing that the document
does not mention. -/
structure Resolver.Extends (r : Resolver) (d : Document) : Prop where
  /-- Of the components only the schemas differ. -/
  components_eq : { r.components with schemas := [] } = { d.componentsD with schemas := [] }
  /-- The schemas of the document come first. -/
  schemas_prefix : d.componentsD.schemas <+: r.schemas
  /-- The other schemas mention nothing new, either. -/
  covers : d.Covers r.schemas

namespace Resolver.Extends

variable {r : Resolver} {d : Document} {sec : Section} {p : String} {s : Schema}

theorem refl (d : Document) : d.resolver.Extends d :=
  ⟨rfl, List.prefix_rfl, d.covers_schemas⟩

/-! ### Lookups -/

theorem parameters_eq (h : r.Extends d) : r.components.parameters = d.componentsD.parameters :=
  (congrArg Components.parameters h.components_eq :)

theorem requestBodies_eq (h : r.Extends d) :
    r.components.requestBodies = d.componentsD.requestBodies :=
  (congrArg Components.requestBodies h.components_eq :)

theorem responses_eq (h : r.Extends d) : r.components.responses = d.componentsD.responses :=
  (congrArg Components.responses h.components_eq :)

theorem securitySchemes_eq (h : r.Extends d) :
    r.components.securitySchemes = d.componentsD.securitySchemes :=
  (congrArg Components.securitySchemes h.components_eq :)

theorem findsIn (h : r.Extends d) (hf : d.resolver.findsIn sec p = true) :
    r.findsIn sec p = true :=
  findsIn_of_prefix h.components_eq.symm h.schemas_prefix hf

/-- **What the document finds is found.** -/
theorem finds (h : r.Extends d) {u : Mention} (hf : d.resolver.finds u = true) :
    r.finds u = true :=
  finds_of_prefix h.components_eq.symm h.schemas_prefix hf

/-- **A schema that the document mentions** is found. -/
theorem schema_outcome (h : r.Extends d) {s : OrRef Schema}
    (hs : Schema.mentionsOfRef s ⊆ d.mentions) :
    Outcome (fun _ => d.Dangles) (fun t => t.mentions ⊆ d.mentions) (r.schema s) := by
  have hcovers := h.covers
  rw [Document.Covers, Schema.mentionsOfRef_eq] at hcovers
  rw [Schema.mentionsOfRef_eq] at hs
  exact Document.deref_outcome hs (fun _ => h.findsIn) hcovers

theorem parameter_outcome (h : r.Extends d) {s : OrRef Parameter}
    (hs : s.mentions .parameters Parameter.mentions ⊆ d.mentions) :
    Outcome (fun _ => d.Dangles) (fun t => t.mentions ⊆ d.mentions) (r.parameter s) :=
  Document.deref_outcome hs (fun _ => h.findsIn) (h.parameters_eq ▸ d.mentions_parameters_subset)

theorem requestBody_outcome (h : r.Extends d) {s : OrRef RequestBody}
    (hs : s.mentions .requestBodies RequestBody.mentions ⊆ d.mentions) :
    Outcome (fun _ => d.Dangles) (fun t => t.mentions ⊆ d.mentions) (r.requestBody s) :=
  Document.deref_outcome hs (fun _ => h.findsIn)
    (h.requestBodies_eq ▸ d.mentions_requestBodies_subset)

theorem response_outcome (h : r.Extends d) {s : OrRef Response}
    (hs : s.mentions .responses Response.mentions ⊆ d.mentions) :
    Outcome (fun _ => d.Dangles) (fun t => t.mentions ⊆ d.mentions) (r.response s) :=
  Document.deref_outcome hs (fun _ => h.findsIn) (h.responses_eq ▸ d.mentions_responses_subset)

/-! ### Unions -/

theorem variantOf_outcome (h : r.Extends d) (disc : Option Discriminator) {b : OrRef Schema}
    (hb : Schema.mentionsOfRef b ⊆ d.mentions) :
    Outcome (fun _ => d.Dangles) (fun v => Schema.mentionsOfRef v.schema ⊆ d.mentions)
      (VariantSet.variantOf r disc b) := by
  cases disc with
  | none => exact .ok hb
  | some disc =>
    have htag : Outcome (fun _ => d.Dangles) (fun _ => True) (disc.tagOf r b) := by
      rw [Discriminator.tagOf]
      split
      · exact .ok trivial
      · exact ((h.schema_outcome hb).map _).mono fun _ _ => trivial
    refine (htag.map _).mono ?_
    rintro _ ⟨tag, -, rfl⟩
    exact hb

theorem variantsOf_outcome (h : r.Extends d) (disc : Option Discriminator)
    {bs : List (OrRef Schema)} (hbs : ∀ b ∈ bs, Schema.mentionsOfRef b ⊆ d.mentions) :
    Outcome (fun _ => d.Dangles) (fun vs => ∀ v ∈ vs, Schema.mentionsOfRef v.schema ⊆ d.mentions)
      (VariantSet.variantsOf r disc bs) := by
  induction bs with
  | nil => exact .ok (by simp)
  | cons b bs ih =>
    rw [List.forall_mem_cons] at hbs
    refine (h.variantOf_outcome disc hbs.1).bind fun v hv => ?_
    exact (ih hbs.2).bind fun vs hvs => .ok (List.forall_mem_cons.2 ⟨hv, hvs⟩)

/-- The branches of a union are branches of its schema. -/
theorem subset_of_union {kind : UnionKind} {branches : List (OrRef Schema)}
    (hk : Kind.ofSchema s = .union kind branches) (hs : s.mentions ⊆ d.mentions) :
    ∀ b ∈ branches, Schema.mentionsOfRef b ⊆ d.mentions := by
  intro b hb
  obtain ⟨-, rfl⟩ := Kind.exists_ofSchema_eq_union_iff.1 ⟨kind, hk⟩
  exact List.Subset.trans (Schema.mentionsOfRef_subset_of_mem_unionBranches hb) hs

theorem ofBranches_outcome (h : r.Extends d) {kind : UnionKind} {branches : List (OrRef Schema)}
    (hk : Kind.ofSchema s = .union kind branches) (hs : s.mentions ⊆ d.mentions)
    (disc : Option Discriminator) :
    Outcome (fun _ => d.Dangles) d.CoversUnion (VariantSet.ofBranches r kind branches disc) := by
  refine ((h.variantsOf_outcome disc (subset_of_union hk hs)).map _).mono ?_
  rintro _ ⟨vs, hvs, rfl⟩
  exact hvs

theorem ofSchema_outcome (h : r.Extends d) (hs : s.mentions ⊆ d.mentions) :
    Outcome (fun _ => d.Dangles) (fun u => ∀ w ∈ u, d.CoversUnion w) (VariantSet.ofSchema r s) := by
  rw [VariantSet.ofSchema]
  split
  · rename_i kind branches hk
    refine ((h.ofBranches_outcome hk hs s.discriminator).map _).mono ?_
    rintro _ ⟨u, hu, rfl⟩ w hw
    cases hw
    exact hu
  · exact .ok (by simp)

/-! ### Compositions -/

theorem coversShape_addUnion {shape : Shape} (hshape : d.CoversShape shape)
    {u : Option VariantSet} (hu : ∀ w ∈ u, d.CoversUnion w) : d.CoversShape (shape.addUnion u) := by
  cases u with
  | none => exact hshape
  | some u =>
    rw [Shape.addUnion]
    split_ifs
    · exact hshape
    · refine ⟨hshape.properties, fun w hw => ?_⟩
      rcases List.mem_append.1 hw with hw | hw
      · exact hshape.unions w hw
      · rw [List.mem_singleton.1 hw]
        exact hu u rfl

theorem addOwn_outcome (h : r.Extends d) (hs : s.mentions ⊆ d.mentions) {shape : Shape}
    (hshape : d.CoversShape shape) :
    Outcome (fun _ => d.Dangles) d.CoversShape (shape.addOwn r s) := by
  refine (h.ofSchema_outcome hs).bind fun u hu => ?_
  have hunion := coversShape_addUnion hshape hu
  refine .ok ⟨fun e he => ?_, hunion.unions⟩
  -- a property is one of the schema or was there before
  rcases Entries.mem_of_mem_foldl_insert s.properties he with he | he
  · exact hunion.properties e he
  · exact List.Subset.trans (Schema.mentionsOfRef_subset_of_mem_properties he) hs

/-- The way that references are followed keeps to what the document mentions. -/
def Keeps (d : Document) (desc : Composition.Descend) : Prop :=
  ∀ way p shape, ⟨.ref .schemas, p⟩ ∈ d.mentions → d.CoversShape shape →
    Outcome (fun _ => d.Dangles) d.CoversShape (desc way p shape)

theorem mergeBranches_outcome {desc : Composition.Descend} {way : List String}
    {bs : List (OrRef Schema)} {shape : Shape} (hshape : d.CoversShape shape)
    (hb : ∀ b ∈ bs, ∀ shape, d.CoversShape shape →
      Outcome (fun _ => d.Dangles) d.CoversShape (Composition.mergeBranch r desc way b shape)) :
    Outcome (fun _ => d.Dangles) d.CoversShape (Composition.mergeBranches r desc way bs shape) := by
  induction bs generalizing shape with
  | nil => exact .ok hshape
  | cons b bs ih =>
    rw [List.forall_mem_cons] at hb
    exact (hb.1 shape hshape).bind fun shape' hshape' => ih hshape' hb.2

theorem mergeSchema_outcome (h : r.Extends d) {desc : Composition.Descend} (hdesc : Keeps d desc)
    {way : List String} {shape : Shape} (hs : s.mentions ⊆ d.mentions)
    (hshape : d.CoversShape shape) :
    Outcome (fun _ => d.Dangles) d.CoversShape (Composition.mergeSchema r desc way s shape) := by
  induction s using Composition.inline_induction generalizing shape with
  | step s ih =>
    rw [Composition.mergeSchema_eq]
    refine (mergeBranches_outcome hshape ?_).bind fun shape' hshape' => h.addOwn_outcome hs hshape'
    intro b hb shape' hshape'
    have hsub := List.Subset.trans (Schema.mentionsOfRef_subset_of_mem_allOf hb) hs
    cases b with
    | inline t => exact ih t hb hsub hshape'
    | ref p =>
      rw [Composition.mergeBranch]
      split_ifs
      · exact .ok hshape'
      · exact hdesc way p shape' (hsub List.mem_cons_self) hshape'

theorem keeps_descend (h : r.Extends d) (depth : Nat) : Keeps d (Composition.descend r depth) := by
  induction depth with
  | zero =>
    intro way p shape _ hshape
    exact .ok hshape
  | succ depth ih =>
    intro way p shape hp hshape
    have hsub : Schema.mentionsOfRef (.ref p) ⊆ d.mentions :=
      List.cons_subset.2 ⟨hp, List.nil_subset _⟩
    refine (h.schema_outcome hsub).bind fun t ht => ?_
    exact h.mergeSchema_outcome ih ht hshape

/-- **Merging a composition** that the document mentions gives a shape that mentions nothing else. -/
theorem merge_outcome (h : r.Extends d) (hs : s.mentions ⊆ d.mentions) :
    Outcome (fun _ => d.Dangles) d.CoversShape (Composition.merge r s) := by
  have hempty : d.CoversShape {} := ⟨d.covers_nil, by simp⟩
  refine ((h.mergeSchema_outcome (h.keeps_descend _) hs hempty).map _).mono ?_
  rintro _ ⟨shape, hshape, rfl⟩
  exact ⟨hshape.properties, hshape.unions⟩

/-! ### Named schemas -/

/-- **What is found out about a named schema** mentions only what the document mentions. -/
theorem analysis_ofSchema_outcome (h : r.Extends d) (name : String) {s : OrRef Schema}
    (hs : Schema.mentionsOfRef s ⊆ d.mentions) :
    Outcome (fun _ => d.Dangles) d.CoversAnalysis (Analysis.ofSchema r name s) := by
  cases s with
  | ref p => exact .ok Document.coversAnalysis_empty
  | inline s =>
    rw [Analysis.ofSchema]
    split
    · rename_i kind branches hk
      refine ((h.ofBranches_outcome hk hs s.discriminator).map _).mono ?_
      rintro _ ⟨u, hu, rfl⟩
      exact ⟨by simpa using hu, by simp⟩
    · refine ((h.merge_outcome hs).map _).mono ?_
      rintro _ ⟨shape, hshape, rfl⟩
      exact ⟨by simp, by simpa using hshape⟩
    · exact .ok Document.coversAnalysis_empty

theorem analysis_ofEntries_outcome (h : r.Extends d) {es : List (String × OrRef Schema)}
    (hes : d.Covers es) :
    Outcome (fun _ => d.Dangles) d.CoversAnalysis (Analysis.ofEntries r es) := by
  induction es with
  | nil => exact .ok Document.coversAnalysis_empty
  | cons e es ih =>
    obtain ⟨hs, hes⟩ := List.forall_mem_cons.1 hes
    refine (h.analysis_ofSchema_outcome e.1 hs).bind fun one hone => ?_
    refine (ih hes).bind fun others hothers => .ok ⟨?_, ?_⟩
    · exact List.forall_mem_append.2 ⟨hone.unions, hothers.unions⟩
    · exact List.forall_mem_append.2 ⟨hone.compositions, hothers.compositions⟩

end Resolver.Extends

end ApiModel
