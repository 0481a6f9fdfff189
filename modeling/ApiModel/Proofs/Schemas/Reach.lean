import ApiModel.Proofs.Outcome
import ApiModel.Proofs.Resolver
import ApiModel.Schemas.Composition
import Mathlib.Data.List.Perm.Subperm
import Mathlib.Logic.Relation

/-!
# What a composition is merged from

A composition is made from every schema that can be reached through `allOf`, by inline branches and
by references (`Composition.Reaches`).  Merging walks down with a bounded depth and follows no
reference twice on its way.  Neither loses anything: a reference that is on the way was followed
before, and the way never gets longer than there are pointers
(`Composition.exists_visit_iff`).  So the properties and the required names of a merged shape are
those that reached schemas list (`Composition.merge_spec`).
-/

namespace ApiModel

namespace Composition

/-- A schema is a branch of another one, itself or by reference. -/
inductive Branch (r : Resolver) (s : Schema) : Schema → Prop
  | inline {u : Schema} (h : .inline u ∈ s.allOf) : Branch r s u
  | ref {p : String} {u : Schema} (h : .ref p ∈ s.allOf) (hp : r.schemaAt p = .ok u) : Branch r s u

/-- A schema is reached from another one through `allOf`. -/
abbrev Reaches (r : Resolver) : Schema → Schema → Prop :=
  Relation.ReflTransGen (Branch r)

/-- Some schema that is reached lists a property. -/
def Offers (r : Resolver) (s : Schema) (name : String) : Prop :=
  ∃ t, Reaches r s t ∧ name ∈ Entries.keys t.properties

/-- Some schema that is reached requires a name. -/
def Demands (r : Resolver) (s : Schema) (name : String) : Prop :=
  ∃ t, Reaches r s t ∧ name ∈ t.required

/-- A place of the walk: a schema, the pointers on the way down to it, and how many more may be
followed. -/
structure Visit where
  /-- How many references may still be followed. -/
  depth : Nat
  /-- The pointers on the way. -/
  way : List String
  /-- The schema. -/
  schema : Schema

/-- Where the walk goes from a branch. -/
inductive Enters (r : Resolver) : Nat → List String → OrRef Schema → Visit → Prop
  | inline {d : Nat} {w : List String} {u : Schema} : Enters r d w (.inline u) ⟨d, w, u⟩
  | ref {d : Nat} {w : List String} {p : String} {u : Schema} (hw : p ∉ w)
    (hp : r.schemaAt p = .ok u) : Enters r (d + 1) w (.ref p) ⟨d, p :: w, u⟩

/-- One step of the walk. -/
def Step (r : Resolver) (v v' : Visit) : Prop :=
  ∃ b ∈ v.schema.allOf, Enters r v.depth v.way b v'

/-- The walk comes from a place to another one. -/
abbrev Visits (r : Resolver) : Visit → Visit → Prop :=
  Relation.ReflTransGen (Step r)

/-- Where the walk from a schema starts. -/
abbrev Visit.start (r : Resolver) (root : Schema) : Visit :=
  ⟨maxDepth r root, [], root⟩

variable {r r' : Resolver} {desc : Descend} {d : Nat} {way : List String} {s u : Schema}
  {shape shape' : Shape}

/-! ### The walk -/

theorem sizeOf_lt_of_mem_allOf (h : .inline u ∈ s.allOf) : sizeOf u < sizeOf s := by
  cases s
  have hm := List.sizeOf_lt_of_mem h
  simp only [OrRef.inline.sizeOf_spec] at hm
  simp only [Schema.mk.sizeOf_spec]
  omega

theorem mergeSchema_eq (r : Resolver) (desc : Descend) (way : List String) (s : Schema)
    (shape : Shape) :
    mergeSchema r desc way s shape =
      mergeBranches r desc way s.allOf shape >>= fun shape => shape.addOwn r s := by
  cases s
  rfl

/-- **Induction on schemas** through their inline branches, which are smaller. -/
@[elab_as_elim]
theorem inline_induction {P : Schema → Prop}
    (step : ∀ s, (∀ u, .inline u ∈ s.allOf → P u) → P s) (s : Schema) : P s := by
  induction hn : sizeOf s using Nat.strongRecOn generalizing s with
  | _ n ih =>
    subst hn
    exact step s fun u hu => ih (sizeOf u) (sizeOf_lt_of_mem_allOf hu) u rfl

/-- **Induction on places of the walk**: references lower the depth, inline branches keep it. -/
@[elab_as_elim]
theorem walk_induction {P : Nat → Schema → Prop}
    (step : ∀ d s, (∀ u, .inline u ∈ s.allOf → P d u) → (∀ e < d, ∀ u, P e u) → P d s)
    (d : Nat) (s : Schema) : P d s := by
  induction d using Nat.strongRecOn generalizing s with
  | _ d ihd =>
    induction s using inline_induction with
    | step s ihs => exact step d s ihs ihd

theorem mergeBranches_congr {desc' : Descend} {way' : List String} {bs : List (OrRef Schema)}
    (h : ∀ b ∈ bs, ∀ shape, mergeBranch r desc way b shape = mergeBranch r' desc' way' b shape)
    (shape : Shape) : mergeBranches r desc way bs shape = mergeBranches r' desc' way' bs shape := by
  induction bs generalizing shape with
  | nil => rfl
  | cons b bs ih =>
    rw [List.forall_mem_cons] at h
    rw [mergeBranches, mergeBranches, h.1]
    exact congrArg (_ >>= ·) (funext (ih h.2))

theorem exists_of_mergeBranches {bs : List (OrRef Schema)}
    (h : mergeBranches r desc way bs shape = .ok shape') :
    ∀ b ∈ bs, ∃ before after, mergeBranch r desc way b before = .ok after := by
  induction bs generalizing shape with
  | nil => simp
  | cons b bs ih =>
    rw [mergeBranches, bind_eq_ok_iff] at h
    obtain ⟨mid, hb, hbs⟩ := h
    exact List.forall_mem_cons.2 ⟨⟨shape, mid, hb⟩, ih hbs⟩

theorem mergeBranch_ref_eq {p : String} (hp : p ∉ way) (shape : Shape) :
    mergeBranch r (descend r (d + 1)) way (.ref p) shape =
      r.schemaAt p >>= fun u => mergeSchema r (descend r d) (p :: way) u shape := by
  rw [mergeBranch, if_neg hp, descend]

theorem mergeBranch_ref_eq_ok_iff {p : String} :
    mergeBranch r (descend r d) way (.ref p) shape = .ok shape' ↔
      (p ∈ way ∨ d = 0) ∧ shape = shape' ∨
        p ∉ way ∧ ∃ d' u, d = d' + 1 ∧ r.schemaAt p = .ok u ∧
          mergeSchema r (descend r d') (p :: way) u shape = .ok shape' := by
  rw [mergeBranch]
  split_ifs with hp
  · simp [hp]
  · cases d with
    | zero => simp [hp, descend]
    | succ d => simp [hp, descend, bind_eq_ok_iff]

/-- The walk comes to its end from a place. -/
def Merges (r : Resolver) (v : Visit) : Prop :=
  ∃ before after, mergeSchema r (descend r v.depth) v.way v.schema before = .ok after

theorem Merges.exists_branch {v : Visit} (h : Merges r v) {b : OrRef Schema}
    (hb : b ∈ v.schema.allOf) :
    ∃ before after, mergeBranch r (descend r v.depth) v.way b before = .ok after := by
  obtain ⟨before, after, h⟩ := h
  rw [mergeSchema_eq, bind_eq_ok_iff] at h
  obtain ⟨mid, h, -⟩ := h
  exact exists_of_mergeBranches h b hb

/-- **Where the walk goes it comes to its end.** -/
theorem Merges.step {v v' : Visit} (h : Merges r v) (hs : Step r v v') : Merges r v' := by
  obtain ⟨b, hb, he⟩ := hs
  obtain ⟨before, after, hm⟩ := h.exists_branch hb
  obtain ⟨d, way, s⟩ := v
  cases he with
  | inline => exact ⟨before, after, hm⟩
  | ref hw hp =>
    rcases mergeBranch_ref_eq_ok_iff.1 hm with ⟨hw' | h0, -⟩ | ⟨-, d', u, hd, hu, hm⟩
    · exact absurd hw' hw
    · cases h0
    · cases hd
      cases hp.symm.trans hu
      exact ⟨before, after, hm⟩

theorem Merges.of_visit {v v' : Visit} (h : Merges r v)
    (hv : Visits r v v') : Merges r v' := by
  induction hv with
  | refl => exact h
  | tail _ hs ih => exact ih.step hs

/-! ### The order in which schemas are merged -/

/-- Adds what schemas themselves say, one after another. -/
def addAll (r : Resolver) : List Schema → Shape → Except RefError Shape
  | [], shape => .ok shape
  | t :: ts, shape => shape.addOwn r t >>= addAll r ts

theorem addAll_append (ts us : List Schema) (shape : Shape) :
    addAll r (ts ++ us) shape = addAll r ts shape >>= addAll r us := by
  induction ts generalizing shape with
  | nil => rfl
  | cons t ts ih =>
    simp only [List.cons_append, addAll, bind_assoc]
    exact congrArg _ (funext ih)

theorem addAll_induction {P : Shape → Prop} {ts : List Schema}
    (step : ∀ t ∈ ts, ∀ {before after}, before.addOwn r t = .ok after → P before → P after)
    (h : addAll r ts shape = .ok shape') (h0 : P shape) : P shape' := by
  induction ts generalizing shape with
  | nil =>
    cases h
    exact h0
  | cons t ts ih =>
    rw [addAll, bind_eq_ok_iff] at h
    obtain ⟨mid, ht, hts⟩ := h
    exact ih (fun u hu => step u (List.mem_cons_of_mem _ hu)) hts
      (step t List.mem_cons_self ht h0)

theorem addAll_singleton (t : Schema) (shape : Shape) : addAll r [t] shape = shape.addOwn r t := by
  rw [addAll]
  cases shape.addOwn r t <;> rfl

/-- A step of merging adds the schemas of a list to any shape, and these are the schemas that meet a
condition. -/
def Follows (r : Resolver) (step : Shape → Except RefError Shape) (met : Schema → Prop) : Prop :=
  ∃ ts, (∀ shape, step shape = addAll r ts shape) ∧ ∀ t, t ∈ ts ↔ met t

theorem mergeBranches_follows {bs : List (OrRef Schema)} {met : OrRef Schema → Schema → Prop}
    (hb : ∀ b ∈ bs, ∀ before after, mergeBranch r desc way b before = .ok after →
      Follows r (mergeBranch r desc way b) (met b))
    (h : mergeBranches r desc way bs shape = .ok shape') :
    Follows r (mergeBranches r desc way bs) fun t => ∃ b ∈ bs, met b t := by
  induction bs generalizing shape with
  | nil => exact ⟨[], fun _ => rfl, by simp⟩
  | cons b bs ih =>
    rw [mergeBranches, bind_eq_ok_iff] at h
    obtain ⟨mid, hm, h⟩ := h
    obtain ⟨ts, hts, hmem⟩ := hb b List.mem_cons_self _ _ hm
    obtain ⟨us, hus, humem⟩ := ih (fun b hm => hb b (List.mem_cons_of_mem _ hm)) h
    refine ⟨ts ++ us, fun shape => ?_, fun t => ?_⟩
    · rw [mergeBranches, hts, addAll_append]
      exact congrArg (addAll r ts shape >>= ·) (funext hus)
    · simp only [List.mem_append, hmem, humem, List.mem_cons, exists_eq_or_imp]

/-- A schema stands at a place that the walk comes to from a branch. -/
def Meets (r : Resolver) (d : Nat) (way : List String) (b : OrRef Schema) (t : Schema) : Prop :=
  ∃ v, Enters r d way b v ∧ ∃ v', Visits r v v' ∧ v'.schema = t

variable {t : Schema}

theorem meets_inline_iff :
    Meets r d way (.inline u) t ↔ ∃ v, Visits r ⟨d, way, u⟩ v ∧ v.schema = t := by
  constructor
  · rintro ⟨v, ⟨⟩, hv⟩
    exact hv
  · intro hv
    exact ⟨_, .inline, hv⟩

theorem meets_ref_iff {p : String} (hw : p ∉ way) (hu : r.schemaAt p = .ok u) :
    Meets r (d + 1) way (.ref p) t ↔ ∃ v, Visits r ⟨d, p :: way, u⟩ v ∧ v.schema = t := by
  constructor
  · rintro ⟨v, he, hv⟩
    cases he with
    | ref _ hp =>
      cases hu.symm.trans hp
      exact hv
  · intro hv
    exact ⟨_, .ref hw hu, hv⟩

theorem not_meets_ref {p : String} (h : p ∈ way ∨ d = 0) : ¬ Meets r d way (.ref p) t := by
  rintro ⟨v, he, -⟩
  cases he with
  | ref hw _ => exact h.elim hw (Nat.succ_ne_zero _)

/-- The walk comes to a schema behind a branch or starts from it. -/
theorem visits_iff_meets :
    (∃ v, Visits r ⟨d, way, s⟩ v ∧ v.schema = t) ↔
      (∃ b ∈ s.allOf, Meets r d way b t) ∨ t = s := by
  constructor
  · rintro ⟨v', hv, ht⟩
    rcases hv.cases_head with rfl | ⟨v, ⟨b, hb, he⟩, hv⟩
    · exact .inr ht.symm
    · exact .inl ⟨b, hb, v, he, v', hv, ht⟩
  · rintro (⟨b, hb, v, he, v', hv, ht⟩ | rfl)
    · exact ⟨v', .head ⟨b, hb, he⟩ hv, ht⟩
    · exact ⟨_, .refl, rfl⟩

/-- **Merging adds the schemas that the walk visits**, the one that it starts from at the end.  They
are the same ones whatever the shape is to which they are added. -/
theorem exists_addAll_of_mergeSchema
    (h : mergeSchema r (descend r d) way s shape = .ok shape') :
    ∃ ts, (∀ shape, mergeSchema r (descend r d) way s shape = addAll r (ts ++ [s]) shape) ∧
      ∀ t, t ∈ ts ++ [s] ↔ ∃ v, Visits r ⟨d, way, s⟩ v ∧ v.schema = t := by
  induction d, s using walk_induction generalizing way shape shape' with
  | step d s ihs ihd =>
    have hbranch : ∀ b ∈ s.allOf, ∀ before after,
        mergeBranch r (descend r d) way b before = .ok after →
          Follows r (mergeBranch r (descend r d) way b) (Meets r d way b) := by
      intro b hb before after hm
      cases b with
      | inline u =>
        obtain ⟨ts, hts, hmem⟩ := ihs u hb hm
        exact ⟨_, hts, fun t => (hmem t).trans meets_inline_iff.symm⟩
      | ref p =>
        rcases mergeBranch_ref_eq_ok_iff.1 hm with ⟨hno, -⟩ | ⟨hw, d', u, rfl, hu, hm⟩
        · -- it is on the way or no depth is left: nothing is added and nothing is met
          refine ⟨[], fun shape => ?_, fun t => by simp [not_meets_ref hno]⟩
          exact mergeBranch_ref_eq_ok_iff.2 (.inl ⟨hno, rfl⟩)
        · obtain ⟨ts, hts, hmem⟩ := ihd d' d'.lt_succ_self u hm
          refine ⟨_, fun shape => ?_, fun t => (hmem t).trans (meets_ref_iff hw hu).symm⟩
          rw [mergeBranch_ref_eq hw, hu]
          exact hts shape
    rw [mergeSchema_eq, bind_eq_ok_iff] at h
    obtain ⟨mid, hm, -⟩ := h
    obtain ⟨ts, hts, hmem⟩ := mergeBranches_follows hbranch hm
    refine ⟨ts, fun shape => ?_, fun t => ?_⟩
    · rw [mergeSchema_eq, hts, addAll_append]
      exact congrArg (addAll r ts shape >>= ·) (funext fun _ => (addAll_singleton s _).symm)
    · rw [visits_iff_meets, List.mem_append, List.mem_singleton, hmem]

/-! ### Nothing that can be reached is missed -/

theorem mem_pointersOfList {b : OrRef Schema} {bs : List (OrRef Schema)} (hb : b ∈ bs) :
    pointersOfRef b ⊆ pointersOfList bs := by
  induction bs with
  | nil => cases hb
  | cons c bs ih =>
    rw [pointersOfList]
    rcases List.mem_cons.1 hb with rfl | hb
    · exact List.subset_append_left _ _
    · exact List.Subset.trans (ih hb) (List.subset_append_right _ _)

theorem pointers_eq (s : Schema) : pointers s = pointersOfList s.allOf := by
  cases s
  rfl

/-- The pointers that the walk from a schema can meet. -/
def allPointers (r : Resolver) (s : Schema) : List String :=
  pointers s ++ tablePointers r.schemas

/-- The invariant of the walk from `root`: the way has no pointer twice, only pointers that can
be met are met, and the depth is what the way leaves of it. -/
structure Walks (r : Resolver) (root : Schema) (v : Visit) : Prop where
  /-- No pointer is on the way twice. -/
  nodup : v.way.Nodup
  /-- The way is among those that can be met. -/
  way_subset : v.way ⊆ allPointers r root
  /-- The pointers of the schema are among those that can be met. -/
  pointers_subset : pointers v.schema ⊆ allPointers r root
  /-- The way and the depth have a constant sum. -/
  length_add : v.way.length + v.depth = (allPointers r root).length
  /-- What a pointer on the way leads to was visited. -/
  visited : ∀ p ∈ v.way, ∃ v', r.schemaAt p = .ok v'.schema ∧
    Visits r (.start r root) v'

theorem pointers_subset_of_schemaAt {p : String} (root : Schema) (h : r.schemaAt p = .ok u) :
    pointers u ⊆ allPointers r root := by
  obtain ⟨name, hm⟩ := Resolver.mem_of_schemaAt h
  intro q hq
  exact List.mem_append_right _ (List.mem_flatMap.2 ⟨_, hm, hq⟩)

theorem Walks.step {root : Schema} {v v' : Visit} (h : Walks r root v)
    (hr : Visits r (.start r root) v) (hs : Step r v v') :
    Walks r root v' := by
  obtain ⟨b, hb, he⟩ := hs
  obtain ⟨d, way, s⟩ := v
  have hsub : pointersOfRef b ⊆ allPointers r root := by
    have := h.pointers_subset
    rw [pointers_eq] at this
    exact List.Subset.trans (mem_pointersOfList hb) this
  cases he with
  | inline => exact ⟨h.nodup, h.way_subset, hsub, h.length_add, h.visited⟩
  | @ref d way p u hw hp =>
    -- the way is longer by what the depth is less
    refine ⟨List.nodup_cons.2 ⟨hw, h.nodup⟩, ?_, pointers_subset_of_schemaAt root hp, ?_, ?_⟩
    · exact List.cons_subset.2 ⟨hsub (by simp [pointersOfRef]), h.way_subset⟩
    · have := h.length_add
      simp only [List.length_cons, Nat.add_eq, Nat.add_zero] at this ⊢
      omega
    · refine List.forall_mem_cons.2 ⟨⟨⟨d, p :: way, u⟩, hp, hr.tail ⟨_, hb, .ref hw hp⟩⟩, h.visited⟩

theorem walks_of_visit {root : Schema} {v : Visit}
    (hr : Visits r (.start r root) v) : Walks r root v := by
  induction hr with
  | refl =>
    refine ⟨List.nodup_nil, List.nil_subset _, List.subset_append_left _ _, ?_, by simp⟩
    simp [allPointers, maxDepth]
  | tail hr hs ih => exact ih.step hr hs

/-- There is depth left where a pointer is met that is not on the way. -/
theorem Walks.depth_ne_zero {root : Schema} {v : Visit} (h : Walks r root v) {p : String}
    (hb : .ref p ∈ v.schema.allOf) (hw : p ∉ v.way) : v.depth ≠ 0 := by
  intro hd
  have hp : p ∈ allPointers r root := by
    refine h.pointers_subset ?_
    rw [pointers_eq]
    exact mem_pointersOfList hb (by simp [pointersOfRef])
  have hl := ((List.nodup_cons.2 ⟨hw, h.nodup⟩).subperm
    (List.cons_subset.2 ⟨hp, h.way_subset⟩)).length_le
  have := h.length_add
  simp only [List.length_cons] at hl
  omega

/-- **The walk visits exactly the schemas that can be reached**, also over a longer table. -/
theorem exists_visit_iff {root t : Schema} (hm : Merges r (.start r root))
    (ht : r.schemas <+: r'.schemas) :
    (∃ v, Visits r (.start r root) v ∧ v.schema = t) ↔
      Reaches r' root t := by
  constructor
  · rintro ⟨v, hv, rfl⟩
    induction hv with
    | refl => exact .refl
    | @tail v v' _ hs ih =>
      obtain ⟨b, hb, he⟩ := hs
      obtain ⟨d, way, s⟩ := v
      cases he with
      | inline => exact ih.tail (.inline hb)
      | ref _ hp => exact ih.tail (.ref hb (Resolver.schemaAt_of_prefix ht hp))
  · intro h
    induction h with
    | refl => exact ⟨_, .refl, rfl⟩
    | tail _ hb ih =>
      obtain ⟨v, hv, rfl⟩ := ih
      cases hb with
      | inline hb => exact ⟨_, hv.tail ⟨_, hb, .inline⟩, rfl⟩
      | @ref p u hb hu =>
        by_cases hw : p ∈ v.way
        · -- the reference was followed before
          obtain ⟨v', hp, hv'⟩ := (walks_of_visit hv).visited p hw
          cases (Resolver.schemaAt_of_prefix ht hp).symm.trans hu
          exact ⟨v', hv', rfl⟩
        · -- the walk went on there, because it has come to its end and had depth left
          have hmv := hm.of_visit hv
          obtain ⟨before, after, hb'⟩ := hmv.exists_branch hb
          rcases mergeBranch_ref_eq_ok_iff.1 hb' with ⟨hw' | hd, -⟩ | ⟨-, d', u', hd, hp, -⟩
          · exact absurd hw' hw
          · exact absurd hd ((walks_of_visit hv).depth_ne_zero hb hw)
          · cases (Resolver.schemaAt_of_prefix ht hp).symm.trans hu
            obtain ⟨d, way, s⟩ := v
            cases hd
            exact ⟨_, hv.tail ⟨_, hb, .ref hw hp⟩, rfl⟩

/-! ### The merged shape -/

/-- **A merge adds exactly the schemas that are reached**, the merged one itself at the end. -/
theorem exists_addAll_of_merge (h : merge r s = .ok shape) (ht : r.schemas <+: r'.schemas) :
    ∃ ts whole, addAll r (ts ++ [s]) {} = .ok whole ∧ whole.restrict = shape ∧
      ∀ t, t ∈ ts ++ [s] ↔ Reaches r' s t := by
  obtain ⟨whole, hm, hw⟩ := map_eq_ok_iff.1 h
  obtain ⟨ts, hts, hmem⟩ := exists_addAll_of_mergeSchema hm
  refine ⟨ts, whole, (hts {}).symm.trans hm, hw, fun t => ?_⟩
  exact (hmem t).trans (exists_visit_iff ⟨{}, whole, hm⟩ ht)

theorem addOwn_eq_ok_iff {t : Schema} :
    shape.addOwn r t = .ok shape' ↔ ∃ u, VariantSet.ofSchema r t = .ok u ∧
      ((shape.addUnion u).addProperties t.properties).addRequired t.required = shape' := by
  rw [Shape.addOwn, bind_eq_ok_iff]
  exact exists_congr fun u => and_congr_right fun _ => pure_eq_ok_iff

/-- Something that shapes can hold and that schemas add by themselves. -/
def Collects (r : Resolver) (holds : Shape → Prop) (own : Schema → Prop) : Prop :=
  ∀ {s : Schema} {shape shape' : Shape}, shape.addOwn r s = .ok shape' →
    (holds shape' ↔ holds shape ∨ own s)

/-- **A shape holds what it held before and what the added schemas add.** -/
theorem addAll_iff {holds : Shape → Prop} {own : Schema → Prop} (hc : Collects r holds own)
    {ts : List Schema} (h : addAll r ts shape = .ok shape') :
    holds shape' ↔ holds shape ∨ ∃ t ∈ ts, own t := by
  induction ts generalizing shape with
  | nil =>
    cases h
    simp
  | cons t ts ih =>
    rw [addAll, bind_eq_ok_iff] at h
    obtain ⟨mid, ht, hts⟩ := h
    rw [ih hts, hc ht, or_assoc]
    simp only [List.mem_cons, exists_eq_or_imp]

theorem properties_addUnion (shape : Shape) (u : Option VariantSet) :
    (shape.addUnion u).properties = shape.properties ∧
      (shape.addUnion u).required = shape.required := by
  cases u with
  | none => exact ⟨rfl, rfl⟩
  | some u =>
    rw [Shape.addUnion]
    split_ifs <;> exact ⟨rfl, rfl⟩

theorem collects_properties (r : Resolver) (name : String) :
    Collects r (fun shape => name ∈ Entries.keys shape.properties)
      (fun s => name ∈ Entries.keys s.properties) := by
  intro s shape shape' h
  obtain ⟨u, -, rfl⟩ := addOwn_eq_ok_iff.1 h
  refine (Entries.mem_keys_foldl_insert s.properties).trans (or_congr_left ?_)
  rw [(properties_addUnion shape u).1]

theorem mem_foldl_addNew {name : String} (names rs : List String) :
    name ∈ names.foldl (fun rs n => if n ∈ rs then rs else rs ++ [n]) rs ↔
      name ∈ rs ∨ name ∈ names := by
  induction names generalizing rs with
  | nil => simp
  | cons n names ih =>
    rw [List.foldl_cons, ih, List.mem_cons]
    split_ifs with hn
    · refine ⟨fun h => h.imp_right .inr, fun h => ?_⟩
      rcases h with h | rfl | h
      exacts [.inl h, .inl hn, .inr h]
    · simp [or_assoc]

theorem collects_required (r : Resolver) (name : String) :
    Collects r (fun shape => name ∈ shape.required) (fun s => name ∈ s.required) := by
  intro s shape shape' h
  obtain ⟨u, -, rfl⟩ := addOwn_eq_ok_iff.1 h
  refine (mem_foldl_addNew s.required (shape.addUnion u).required).trans (or_congr_left ?_)
  rw [(properties_addUnion shape u).2]

/-- **A merged shape has the properties that reached schemas list, and requires those of them that
some reached schema requires.** -/
theorem merge_spec (h : merge r s = .ok shape) (ht : r.schemas <+: r'.schemas) (name : String) :
    (name ∈ Entries.keys shape.properties ↔ Offers r' s name) ∧
      (name ∈ shape.required ↔ Demands r' s name ∧ Offers r' s name) := by
  obtain ⟨ts, whole, hts, rfl, hreach⟩ := exists_addAll_of_merge h ht
  have hp := addAll_iff (collects_properties r name) hts
  have hr := addAll_iff (collects_required r name) hts
  simp only [Entries.keys_nil, List.not_mem_nil, false_or, hreach] at hp hr
  refine ⟨hp, ?_⟩
  rw [Shape.restrict, List.mem_filter, Entries.has_iff, hp, hr]
  rfl

end Composition

end ApiModel
