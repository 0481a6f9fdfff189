import ApiModel.Proofs.Entries
import ApiModel.Proofs.Pointwise
import ApiModel.Proofs.Schemas.Longer

/-!
# The last branch wins

Merging a composition threads one shape through all its branches and keeps the pointers on the way
down, so that a branch seems to be merged differently in different places.  It is not, as long as no
cycle of `allOf` can be reached: then no reference is ever met on its own way, and a branch is merged
as it is by itself (`Composition.mergeSchema_unhindered`).  What it adds does not depend on the shape
either.  So each property of a composition is that of the schema itself, or else that of the last
branch whose own merged shape has it (`Composition.merge_lastWins`).
-/

namespace ApiModel

namespace Composition

variable {r : Resolver} {d d' : Nat} {way way' : List String} {s t u : Schema}
  {b : OrRef Schema} {shape shape' : Shape} {v v' : Visit}

/-! ### Compositions without cycles -/

/-- No cycle of `allOf` can be reached from a schema. -/
def Acyclic (r : Resolver) (s : Schema) : Prop :=
  ∀ t, Reaches r s t → ¬ Relation.TransGen (Branch r) t t

theorem branch_iff : Branch r s u ↔ ∃ b ∈ s.allOf, r.schema b = .ok u := by
  constructor
  · intro h
    cases h with
    | inline h => exact ⟨_, h, rfl⟩
    | ref h hp => exact ⟨_, h, hp⟩
  · rintro ⟨b, hb, hu⟩
    cases b with
    | inline u' =>
      cases hu
      exact .inline hb
    | ref p => exact .ref hb hu

theorem Acyclic.branch (h : Acyclic r s) (hb : Branch r s u) : Acyclic r u :=
  fun t ht => h t (.head hb ht)

theorem acyclic_of_branches (h : ∀ b ∈ s.allOf, ∀ u, r.schema b = .ok u → Acyclic r u) :
    Acyclic r s := by
  intro t ht hcycle
  rcases ht.cases_head with rfl | ⟨u, hu, ht⟩
  · -- a cycle through the schema is one through the branch with which it begins
    obtain ⟨u, hu, hback⟩ := Relation.TransGen.head'_iff.1 hcycle
    obtain ⟨b, hb, hbu⟩ := branch_iff.1 hu
    exact h b hb u hbu u .refl (Relation.TransGen.tail' hback hu)
  · obtain ⟨b, hb, hbu⟩ := branch_iff.1 hu
    exact h b hb u hbu t ht hcycle

/-! ### The way does not matter -/

/-- The walk follows every reference that it meets from a place: none is on its way, and it never
runs out of depth. -/
structure Unhindered (r : Resolver) (v : Visit) : Prop where
  /-- The schema leads to no cycle. -/
  acyclic : Acyclic r v.schema
  /-- No reference that can be met is on the way. -/
  clear : ∀ t, Reaches r v.schema t → ∀ p, .ref p ∈ t.allOf → p ∉ v.way
  /-- There is depth left wherever a reference is met. -/
  ample : Ample r v

namespace Unhindered

theorem start (h : Acyclic r s) : Unhindered r (.start r s) :=
  ⟨h, fun _ _ _ _ => List.not_mem_nil, ample_start r s⟩

/-- **One step of the walk** keeps it unhindered. -/
theorem step (h : Unhindered r v) (hs : Step r v v') : Unhindered r v' := by
  have hample := h.ample.step hs
  obtain ⟨b, hb, he⟩ := hs
  obtain ⟨d, way, s⟩ := v
  cases he with
  | inline =>
    have hu : Branch r s _ := .inline hb
    exact ⟨h.acyclic.branch hu, fun t ht => h.clear t (.head hu ht), hample⟩
  | @ref d way p u hw hp =>
    have hu : Branch r s u := .ref hb hp
    have hacyclic := h.acyclic.branch hu
    refine ⟨hacyclic, fun t ht q hq hm => ?_, hample⟩
    rcases List.mem_cons.1 hm with rfl | hm
    · -- the reference leads back to where it led before, which makes a cycle
      exact hacyclic u .refl (Relation.TransGen.tail' ht (.ref hq hp))
    · exact h.clear t (.head hu ht) q hq hm

theorem ref (h : Unhindered r ⟨d, way, s⟩) {p : String} (hp : .ref p ∈ s.allOf) :
    p ∉ way ∧ ∃ e, d = e + 1 := by
  have hw := h.clear s .refl p hp
  exact ⟨hw, Nat.exists_eq_succ_of_ne_zero (h.ample _ .refl p hp hw)⟩

end Unhindered

/-- **A schema is merged in the same way at all places where the walk is unhindered.** -/
theorem mergeSchema_unhindered (h : Unhindered r ⟨d, way, s⟩) (h' : Unhindered r ⟨d', way', s⟩)
    (shape : Shape) :
    mergeSchema r (descend r d) way s shape = mergeSchema r (descend r d') way' s shape := by
  induction d, s using walk_induction generalizing d' way way' shape with
  | step d s ihs ihd =>
    rw [mergeSchema_eq, mergeSchema_eq]
    refine congrArg (· >>= _) (mergeBranches_congr (fun b hb shape => ?_) shape)
    cases b with
    | inline u =>
      exact ihs u hb (h.step ⟨_, hb, .inline⟩) (h'.step ⟨_, hb, .inline⟩) shape
    | ref p =>
      obtain ⟨hw, e, rfl⟩ := h.ref hb
      obtain ⟨hw', e', rfl⟩ := h'.ref hb
      rw [mergeBranch_ref_eq hw, mergeBranch_ref_eq hw']
      rcases hu : r.schemaAt p with err | u
      · rfl
      · exact ihd e e.lt_succ_self u (h.step ⟨_, hb, .ref hw hu⟩) (h'.step ⟨_, hb, .ref hw' hu⟩)
          shape

theorem mergeBranch_unhindered (h : Unhindered r ⟨d, way, s⟩) (hb : b ∈ s.allOf)
    (hm : mergeBranch r (descend r d) way b shape = .ok shape') :
    ∃ t, r.schema b = .ok t ∧
      mergeSchema r (descend r (maxDepth r t)) [] t shape = .ok shape' := by
  cases b with
  | inline u =>
    have hu := h.step ⟨_, hb, .inline⟩
    exact ⟨u, rfl, (mergeSchema_unhindered (.start hu.acyclic) hu shape).trans hm⟩
  | ref p =>
    obtain ⟨hw, e, rfl⟩ := h.ref hb
    rw [mergeBranch_ref_eq hw, bind_eq_ok_iff] at hm
    obtain ⟨u, hp, hm⟩ := hm
    have hu := h.step ⟨_, hb, .ref hw hp⟩
    exact ⟨u, hp, (mergeSchema_unhindered (.start hu.acyclic) hu shape).trans hm⟩

/-! ### The shape does not matter -/

theorem properties_addAll {ts : List Schema} (h : addAll r ts shape = .ok shape') :
    shape'.properties =
      (ts.flatMap (·.properties)).foldl (fun ps p => Entries.insert p.1 p.2 ps)
        shape.properties := by
  induction ts generalizing shape with
  | nil =>
    cases h
    rfl
  | cons t ts ih =>
    rw [addAll, bind_eq_ok_iff] at h
    obtain ⟨mid, ht, hts⟩ := h
    obtain ⟨o, -, rfl⟩ := addOwn_eq_ok_iff.1 ht
    rw [List.flatMap_cons, List.foldl_append, ih hts, ← (properties_addUnion shape o).1]
    rfl

/-- Schemas that can be added to one shape can be added to any other. -/
theorem exists_addAll {ts : List Schema} (h : addAll r ts shape = .ok shape') (other : Shape) :
    ∃ other', addAll r ts other = .ok other' := by
  induction ts generalizing shape other with
  | nil => exact ⟨other, rfl⟩
  | cons t ts ih =>
    rw [addAll, bind_eq_ok_iff] at h
    obtain ⟨mid, ht, hts⟩ := h
    obtain ⟨o, ho, -⟩ := addOwn_eq_ok_iff.1 ht
    obtain ⟨other', hother⟩ :=
      ih hts (((other.addUnion o).addProperties t.properties).addRequired t.required)
    exact ⟨other', bind_eq_ok_iff.2 ⟨_, addOwn_eq_ok_iff.2 ⟨o, ho, rfl⟩, hother⟩⟩

/-- **A schema that is merged into a shape covers it with the shape that it has by itself.** -/
theorem exists_merge_of_mergeSchema
    (h : mergeSchema r (descend r (maxDepth r t)) [] t shape = .ok shape') :
    ∃ m, merge r t = .ok m ∧ ∀ name, Entries.find? name shape'.properties =
      (Entries.find? name m.properties).or (Entries.find? name shape.properties) := by
  obtain ⟨ts, hts, -⟩ := exists_addAll_of_mergeSchema h
  rw [hts] at h
  obtain ⟨whole, hwhole⟩ := exists_addAll h {}
  refine ⟨whole.restrict, map_eq_ok_iff.2 ⟨whole, (hts {}).trans hwhole, rfl⟩, fun name => ?_⟩
  rw [properties_addAll h, Entries.find?_foldl_insert_ofPairs, Entries.ofPairs]
  exact congrArg (Option.or · _) (congrArg (Entries.find? name) (properties_addAll hwhole).symm)

/-! ### The law -/

/-- The shape that a branch has by itself. -/
def MergesTo (r : Resolver) (b : OrRef Schema) (m : Shape) : Prop :=
  ∃ t, r.schema b = .ok t ∧ merge r t = .ok m

/-- The value that the last of some shapes with a property gives it. -/
def lastFind? (name : String) (ms : List Shape) : Option (OrRef Schema) :=
  ms.reverse.findSome? fun m => Entries.find? name m.properties

theorem lastFind?_eq_none {name : String} {ms : List Shape}
    (h : ∀ m ∈ ms, name ∉ Entries.keys m.properties) : lastFind? name ms = none := by
  rw [lastFind?, List.findSome?_eq_none_iff]
  intro m hm
  exact Entries.find?_eq_none_iff.2 (h m (List.mem_reverse.1 hm))

theorem lastFind?_append_cons {name : String} {before after : List Shape} {m : Shape}
    (hm : name ∈ Entries.keys m.properties)
    (hafter : ∀ m' ∈ after, name ∉ Entries.keys m'.properties) :
    lastFind? name (before ++ m :: after) = Entries.find? name m.properties := by
  obtain ⟨p, hp⟩ := Entries.exists_find?_iff.2 hm
  have hnone := lastFind?_eq_none hafter
  rw [lastFind?] at hnone ⊢
  simp [List.findSome?_append, hnone, hp]

theorem exists_mergesTo {bs : List (OrRef Schema)} (hbs : bs ⊆ s.allOf)
    (h : Unhindered r ⟨d, way, s⟩)
    (hm : mergeBranches r (descend r d) way bs shape = .ok shape') :
    ∃ ms, List.Forall₂ (MergesTo r) bs ms ∧ ∀ name, Entries.find? name shape'.properties =
      (lastFind? name ms).or (Entries.find? name shape.properties) := by
  induction bs generalizing shape with
  | nil =>
    cases hm
    exact ⟨[], .nil, fun _ => rfl⟩
  | cons b bs ih =>
    obtain ⟨hb, hbs⟩ := List.cons_subset.1 hbs
    rw [mergeBranches, bind_eq_ok_iff] at hm
    obtain ⟨mid, hmid, hrest⟩ := hm
    obtain ⟨t, ht, hmt⟩ := mergeBranch_unhindered h hb hmid
    obtain ⟨m, hmerge, hfind⟩ := exists_merge_of_mergeSchema hmt
    obtain ⟨ms, hms, hlast⟩ := ih hbs hrest
    refine ⟨m :: ms, .cons ⟨t, ht, hmerge⟩ hms, fun name => ?_⟩
    rw [hlast, hfind, ← Option.or_assoc, lastFind?, lastFind?, List.reverse_cons,
      List.findSome?_append, List.findSome?_singleton]

/-- **The properties of a composition**: its own ones, and then those of the last branch. -/
theorem find?_merge (hs : (Entries.keys s.properties).Nodup) (hc : Acyclic r s)
    (h : merge r s = .ok shape) :
    ∃ ms, List.Forall₂ (MergesTo r) s.allOf ms ∧ ∀ name, Entries.find? name shape.properties =
      (Entries.find? name s.properties).or (lastFind? name ms) := by
  obtain ⟨whole, hwhole, rfl⟩ := map_eq_ok_iff.1 h
  rw [mergeSchema_eq, bind_eq_ok_iff] at hwhole
  obtain ⟨mid, hmid, hown⟩ := hwhole
  obtain ⟨o, -, rfl⟩ := addOwn_eq_ok_iff.1 hown
  obtain ⟨ms, hms, hfind⟩ := exists_mergesTo (List.Subset.refl _) (.start hc) hmid
  refine ⟨ms, hms, fun name => ?_⟩
  rw [← Option.or_none (o := lastFind? name ms)]
  refine (Entries.find?_foldl_insert hs).trans (congrArg _ ?_)
  rw [(properties_addUnion mid o).1]
  exact hfind name

/-- Whose properties the merged shape of a composition has.  The shapes that the branches have by
themselves are `ms`. -/
structure LastWins (r : Resolver) (s : Schema) (shape : Shape) (ms : List Shape) : Prop where
  /-- Each branch, itself or behind its pointer, is merged by itself. -/
  branches : List.Forall₂ (MergesTo r) s.allOf ms
  /-- A property of the schema itself is as the schema says. -/
  own : ∀ name ∈ Entries.keys s.properties,
    Entries.find? name shape.properties = Entries.find? name s.properties
  /-- Any other property is that of the last branch that has it. -/
  last : ∀ name ∉ Entries.keys s.properties, ∀ before m after, ms = before ++ m :: after →
    name ∈ Entries.keys m.properties → (∀ m' ∈ after, name ∉ Entries.keys m'.properties) →
      Entries.find? name shape.properties = Entries.find? name m.properties
  /-- There are no more properties. -/
  absent : ∀ name ∉ Entries.keys s.properties, (∀ m ∈ ms, name ∉ Entries.keys m.properties) →
    name ∉ Entries.keys shape.properties
  /-- The last branch that reaches a schema with a property decides about it, also if an earlier
  branch has reached the same schema. -/
  again : ∀ name ∉ Entries.keys s.properties, ∀ before b after t base,
    s.allOf = before ++ b :: after → r.schema b = .ok t → Reaches r t base →
    name ∈ Entries.keys base.properties →
    (∀ c ∈ after, ∀ u, r.schema c = .ok u → ¬ Offers r u name) →
      ∃ m, merge r t = .ok m ∧
        Entries.find? name shape.properties = Entries.find? name m.properties

/-- **In a composition without cycles the last branch wins.** -/
theorem merge_lastWins (hs : (Entries.keys s.properties).Nodup) (hc : Acyclic r s)
    (h : merge r s = .ok shape) : ∃ ms, LastWins r s shape ms := by
  obtain ⟨ms, hms, hfind⟩ := find?_merge hs hc h
  have hother : ∀ name ∉ Entries.keys s.properties,
      Entries.find? name shape.properties = lastFind? name ms := by
    intro name hn
    rw [hfind, Entries.find?_eq_none_iff.2 hn, Option.none_or]
  refine ⟨ms, ?_⟩
  constructor
  case branches => exact hms
  case own =>
    intro name hn
    obtain ⟨p, hp⟩ := Entries.exists_find?_iff.2 hn
    rw [hfind, hp, Option.some_or]
  case last =>
    rintro name hn before m after rfl hm hafter
    rw [hother name hn, lastFind?_append_cons hm hafter]
  case absent =>
    intro name hn hno
    rw [← Entries.find?_eq_none_iff, hother name hn, lastFind?_eq_none hno]
  case again =>
    intro name hn before b after t base hsplit ht hbase hname hafter
    -- the branch with the base is the last one that has the name, since no later one offers it
    rw [hsplit] at hms
    obtain ⟨ms₁, m, ms₂, rfl, ⟨t', ht', hm⟩, hms₂⟩ := exists_of_forall₂_append_cons hms
    cases ht.symm.trans ht'
    refine ⟨m, hm, ?_⟩
    rw [hother name hn]
    refine lastFind?_append_cons ?_ fun m' hm' hn' => ?_
    · exact (merge_spec hm List.prefix_rfl name).1.2 ⟨base, hbase, hname⟩
    · obtain ⟨c, hcmem, u, hu, hmu⟩ := exists_of_mem_right hms₂ hm'
      exact hafter c hcmem u hu ((merge_spec hmu List.prefix_rfl name).1.1 hn')

/-- A schema with a property. -/
def base : Schema where
  properties := [("size", .inline { title := "the size of anything" })]

/-- A schema made from `base` that says something else about the property. -/
def left : Schema where
  allOf := [.ref "#/components/schemas/Base"]
  properties := [("size", .inline { title := "the size on the left" })]

/-- A schema made from `base` alone. -/
def right : Schema where
  allOf := [.ref "#/components/schemas/Base"]

/-- A schema made from `left` and `right`, which reaches `base` through both. -/
def top : Schema where
  allOf := [.ref "#/components/schemas/Left", .ref "#/components/schemas/Right"]

/-- The table of these schemas. -/
def diamond : Resolver where
  schemas := [("Base", .inline base), ("Left", .inline left), ("Right", .inline right)]

theorem merge_lastWins_diamond : (Entries.keys top.properties).Nodup ∧ Acyclic diamond top ∧
    ∃ shape, merge diamond top = .ok shape ∧ (∃ ms, LastWins diamond top shape ms) ∧
      Entries.find? "size" shape.properties =
        some (.inline { title := "the size of anything" }) := by
  have hbase : Acyclic diamond base := acyclic_of_branches (by simp [base])
  have hside : ∀ s : Schema, s.allOf = [.ref "#/components/schemas/Base"] → Acyclic diamond s := by
    intro s hs
    refine acyclic_of_branches fun b hb u hu => ?_
    rw [hs, List.mem_singleton] at hb
    subst hb
    have he : diamond.schema (.ref "#/components/schemas/Base") = .ok base := by decide +kernel
    cases he.symm.trans hu
    exact hbase
  have htop : Acyclic diamond top := by
    refine acyclic_of_branches fun b hb u hu => ?_
    have hl : diamond.schema (.ref "#/components/schemas/Left") = .ok left := by decide +kernel
    have hr : diamond.schema (.ref "#/components/schemas/Right") = .ok right := by decide +kernel
    rcases List.mem_pair.1 hb with rfl | rfl
    · cases hl.symm.trans hu
      exact hside left rfl
    · cases hr.symm.trans hu
      exact hside right rfl
  have hm : merge diamond top = .ok { properties := base.properties } := by decide +kernel
  have hkeys : (Entries.keys top.properties).Nodup := List.nodup_nil
  have hlast := merge_lastWins hkeys htop hm
  exact ⟨hkeys, htop, _, hm, hlast, rfl⟩

end Composition

end ApiModel
