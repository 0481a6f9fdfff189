import ApiModel.Model.Analysis
import ApiModel.Proofs.Schemas.Reach

/-!
# Analysis over longer tables

The named schemas are analyzed when all of them are there.  What is found out about one of them over
some table is found out about it over every longer one (`Analysis.ofEntries_of_prefix`).  For unions
this follows from the lookups.  Merging a composition also counts how many references it may still
follow, and a longer table allows more of them; but the walk never meets a reference that it may no
longer follow (`Composition.Ample`), so it takes the same way over both tables
(`Composition.merge_of_prefix`).
-/

namespace ApiModel

variable {r r' : Resolver}

/-! ### Unions -/

theorem Discriminator.tagOf_of_prefix (ht : r.schemas <+: r'.schemas) {disc : Discriminator}
    {branch : OrRef Schema} {tag : Option String} (h : disc.tagOf r branch = .ok tag) :
    disc.tagOf r' branch = .ok tag := by
  rw [tagOf] at h ⊢
  split at h
  · exact h
  · exact map_eq_ok_mono (fun _ => Resolver.schema_of_prefix ht) h

namespace VariantSet

theorem variantOf_of_prefix (ht : r.schemas <+: r'.schemas) {disc : Option Discriminator}
    {branch : OrRef Schema} {v : Variant} (h : variantOf r disc branch = .ok v) :
    variantOf r' disc branch = .ok v := by
  cases disc with
  | none => exact h
  | some disc =>
    exact map_eq_ok_mono (fun _ => disc.tagOf_of_prefix ht) h

theorem variantsOf_of_prefix (ht : r.schemas <+: r'.schemas) {disc : Option Discriminator}
    {branches : List (OrRef Schema)} {vs : List Variant} (h : variantsOf r disc branches = .ok vs) :
    variantsOf r' disc branches = .ok vs := by
  induction branches generalizing vs with
  | nil => exact h
  | cons b bs ih =>
    rw [variantsOf] at h ⊢
    refine bind_eq_ok_mono (fun _ => variantOf_of_prefix ht) (fun v hvs => ?_) h
    exact bind_eq_ok_mono (fun _ => ih) (fun _ => id) hvs

theorem ofBranches_of_prefix (ht : r.schemas <+: r'.schemas) {kind : UnionKind}
    {branches : List (OrRef Schema)} {disc : Option Discriminator} {u : VariantSet}
    (h : ofBranches r kind branches disc = .ok u) : ofBranches r' kind branches disc = .ok u := by
  rw [ofBranches] at h ⊢
  exact map_eq_ok_mono (fun _ => variantsOf_of_prefix ht) h

/-- **The variants of a schema** stay what they are when the table grows. -/
theorem ofSchema_of_prefix (ht : r.schemas <+: r'.schemas) {s : Schema} {u : Option VariantSet}
    (h : ofSchema r s = .ok u) : ofSchema r' s = .ok u := by
  rw [ofSchema] at h ⊢
  split at h
  · exact map_eq_ok_mono (fun _ => ofBranches_of_prefix ht) h
  · exact h

end VariantSet

/-! ### Compositions -/

theorem Shape.addOwn_of_prefix (ht : r.schemas <+: r'.schemas) {s : Schema} {shape shape' : Shape}
    (h : shape.addOwn r s = .ok shape') : shape.addOwn r' s = .ok shape' := by
  rw [addOwn] at h ⊢
  exact bind_eq_ok_mono (fun _ => VariantSet.ofSchema_of_prefix ht) (fun _ => id) h

namespace Composition

variable {desc desc' : Descend} {d d' : Nat} {way : List String} {s : Schema}
  {shape shape' : Shape} {v v' : Visit}

/-- Wherever the walk comes from a place, it may follow each reference that is not on its way. -/
def Ample (r : Resolver) (v : Visit) : Prop :=
  ∀ v', Visits r v v' → ∀ p, .ref p ∈ v'.schema.allOf → p ∉ v'.way → v'.depth ≠ 0

theorem ample_start (r : Resolver) (root : Schema) : Ample r (.start r root) :=
  fun _ hv _ hb hw => (walks_of_visit hv).depth_ne_zero hb hw

theorem Ample.step (h : Ample r v) (hs : Step r v v') : Ample r v' :=
  fun w hw => h w (.head hs hw)

theorem mergeBranches_of_prefix {bs : List (OrRef Schema)}
    (hb : ∀ b ∈ bs, ∀ before after, mergeBranch r desc way b before = .ok after →
      mergeBranch r' desc' way b before = .ok after)
    (h : mergeBranches r desc way bs shape = .ok shape') :
    mergeBranches r' desc' way bs shape = .ok shape' := by
  induction bs generalizing shape with
  | nil => exact h
  | cons b bs ih =>
    rw [List.forall_mem_cons] at hb
    rw [mergeBranches] at h ⊢
    exact bind_eq_ok_mono (hb.1 _) (fun _ => ih hb.2) h

/-- **A walk takes the same way over a longer table**, even if it may go deeper there. -/
theorem mergeSchema_of_prefix (ht : r.schemas <+: r'.schemas) (hd : d ≤ d')
    (ha : Ample r ⟨d, way, s⟩) (h : mergeSchema r (descend r d) way s shape = .ok shape') :
    mergeSchema r' (descend r' d') way s shape = .ok shape' := by
  induction d, s using walk_induction generalizing d' way shape shape' with
  | step d s ihs ihd =>
    have hbranch : ∀ b ∈ s.allOf, ∀ before after,
        mergeBranch r (descend r d) way b before = .ok after →
          mergeBranch r' (descend r' d') way b before = .ok after := by
      intro b hb before after hm
      cases b with
      | inline u =>
        have hstep : Step r ⟨d, way, s⟩ ⟨d, way, u⟩ := ⟨_, hb, .inline⟩
        exact ihs u hb hd (ha.step hstep) hm
      | ref p =>
        rcases mergeBranch_ref_eq_ok_iff.1 hm with ⟨hno, rfl⟩ | ⟨hw, e, u, rfl, hu, hm⟩
        · -- the reference is on the way, since there is depth left
          have hw : p ∈ way := by
            by_contra hw
            exact hno.elim hw (ha _ .refl p hb hw)
          exact mergeBranch_ref_eq_ok_iff.2 (.inl ⟨.inl hw, rfl⟩)
        · obtain ⟨e', rfl⟩ := Nat.exists_eq_add_of_le' (Nat.lt_of_lt_of_le e.succ_pos hd)
          have hstep : Step r ⟨e + 1, way, s⟩ ⟨e, p :: way, u⟩ := ⟨_, hb, .ref hw hu⟩
          have hu' := Resolver.schemaAt_of_prefix ht hu
          have hm' := ihd e e.lt_succ_self u (Nat.le_of_succ_le_succ hd) (ha.step hstep) hm
          exact mergeBranch_ref_eq_ok_iff.2 (.inr ⟨hw, e', u, rfl, hu', hm'⟩)
    rw [mergeSchema_eq] at h ⊢
    exact bind_eq_ok_mono (fun _ => mergeBranches_of_prefix hbranch)
      (fun _ => Shape.addOwn_of_prefix ht) h

theorem maxDepth_le (ht : r.schemas <+: r'.schemas) (s : Schema) :
    maxDepth r s ≤ maxDepth r' s := by
  obtain ⟨more, hmore⟩ := ht
  rw [maxDepth, maxDepth, tablePointers, tablePointers, ← hmore, List.flatMap_append,
    List.length_append]
  omega

theorem merge_of_prefix (ht : r.schemas <+: r'.schemas) (h : merge r s = .ok shape) :
    merge r' s = .ok shape := by
  rw [merge] at h ⊢
  exact map_eq_ok_mono (fun _ => mergeSchema_of_prefix ht (maxDepth_le ht s) (ample_start r s)) h

end Composition

/-! ### Named schemas -/

namespace Analysis

variable {es fs : List (String × OrRef Schema)} {a : Analysis}

theorem ofSchema_of_prefix (ht : r.schemas <+: r'.schemas) {name : String} {s : OrRef Schema}
    (h : ofSchema r name s = .ok a) : ofSchema r' name s = .ok a := by
  cases s with
  | ref p => exact h
  | inline s =>
    rw [ofSchema] at h ⊢
    split at h
    · exact map_eq_ok_mono (fun _ => VariantSet.ofBranches_of_prefix ht) h
    · exact map_eq_ok_mono (fun _ => Composition.merge_of_prefix ht) h
    · exact h

/-- **What is found out about named schemas** stays what it is when the table grows. -/
theorem ofEntries_of_prefix (ht : r.schemas <+: r'.schemas) (h : ofEntries r es = .ok a) :
    ofEntries r' es = .ok a := by
  induction es generalizing a with
  | nil => exact h
  | cons e es ih =>
    rw [ofEntries] at h ⊢
    refine bind_eq_ok_mono (fun _ => ofSchema_of_prefix ht) (fun one hothers => ?_) h
    exact bind_eq_ok_mono (fun _ => ih) (fun _ => id) hothers

/-- Schemas about which nothing is found out change nothing behind the others. -/
theorem ofEntries_append_of_empty (hf : ∀ e ∈ fs, ofSchema r e.1 e.2 = .ok {})
    (h : ofEntries r es = .ok a) : ofEntries r (es ++ fs) = .ok a := by
  induction es generalizing a with
  | nil =>
    cases h
    induction fs with
    | nil => rfl
    | cons e fs ih =>
      rw [List.forall_mem_cons] at hf
      rw [List.nil_append] at ih ⊢
      rw [ofEntries, hf.1, ih hf.2]
      rfl
  | cons e es ih =>
    rw [List.cons_append, ofEntries]
    rw [ofEntries] at h
    refine bind_eq_ok_mono (fun _ => id) (fun one hothers => ?_) h
    exact bind_eq_ok_mono (fun _ => ih) (fun _ => id) hothers

end Analysis

end ApiModel
