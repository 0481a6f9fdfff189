import ApiModel.Proofs.Entries
import ApiModel.Proofs.Schemas.Reach

/-!
# The closure of a composition

Merging a composition computes its closure (`Composition.merge_closure`): the properties, required
names and unions of all the schemas that are reached through `allOf`, whether the branches stand
inline or behind pointers, and also where the pointers lead back.  A merge adds the reached schemas
one after another, so each part of the closure is a law of adding one schema.

Unions are compared like the reader of a document would, `VariantSet.alike`, so the closure has one
of those that are alike.
-/

namespace ApiModel

namespace Shape

variable {r : Resolver} {t : Schema} {shape shape' : Shape} {u w : VariantSet}

/-! ### Unions -/

theorem unions_addOwn (h : shape.addOwn r t = .ok shape') :
    ∃ o, VariantSet.ofSchema r t = .ok o ∧ shape'.unions = (shape.addUnion o).unions := by
  obtain ⟨o, ho, rfl⟩ := Composition.addOwn_eq_ok_iff.1 h
  exact ⟨o, ho, rfl⟩

theorem mem_unions_addUnion_some : w ∈ (shape.addUnion (some u)).unions ↔
    w ∈ shape.unions ∨ w = u ∧ ∀ x ∈ shape.unions, ¬ x.alike u := by
  have hany : shape.unions.any (·.alike u) = true ↔ ¬ ∀ x ∈ shape.unions, ¬ x.alike u := by simp
  rw [addUnion]
  split_ifs with h
  · exact (or_iff_left fun hw => hany.1 h hw.2).symm
  · have hno := not_not.1 fun hx => h (hany.2 hx)
    rw [List.mem_append, List.mem_singleton, and_iff_left hno]

/-- A shape has a union, or one like it. -/
def Covers (shape : Shape) (u : VariantSet) : Prop :=
  u ∈ shape.unions ∨ ∃ w ∈ shape.unions, w.alike u

theorem covers_addUnion_self (shape : Shape) (u : VariantSet) :
    (shape.addUnion (some u)).Covers u := by
  by_cases h : ∃ x ∈ shape.unions, x.alike u
  · obtain ⟨x, hx, ha⟩ := h
    exact .inr ⟨x, mem_unions_addUnion_some.2 (.inl hx), ha⟩
  · exact .inl (mem_unions_addUnion_some.2 (.inr ⟨rfl, fun x hx ha => h ⟨x, hx, ha⟩⟩))

theorem unions_subset_addOwn (h : shape.addOwn r t = .ok shape') :
    shape.unions ⊆ shape'.unions := by
  obtain ⟨o, -, ho⟩ := unions_addOwn h
  intro w hw
  rw [ho]
  cases o with
  | none => exact hw
  | some u => exact mem_unions_addUnion_some.2 (.inl hw)

theorem Covers.addOwn (hu : shape.Covers u) (h : shape.addOwn r t = .ok shape') :
    shape'.Covers u := by
  have hsub := unions_subset_addOwn h
  exact hu.imp (fun hm => hsub hm) fun ⟨w, hw, ha⟩ => ⟨w, hsub hw, ha⟩

theorem covers_of_addOwn (h : shape.addOwn r t = .ok shape')
    (hu : VariantSet.ofSchema r t = .ok (some u)) : shape'.Covers u := by
  obtain ⟨o, ho, hunions⟩ := unions_addOwn h
  cases hu.symm.trans ho
  rw [Covers, hunions]
  exact covers_addUnion_self shape u

/-- No union of a shape is like a later one. -/
def Distinct (shape : Shape) : Prop :=
  shape.unions.Pairwise fun w u => ¬ w.alike u

theorem Distinct.addOwn (hd : shape.Distinct) (h : shape.addOwn r t = .ok shape') :
    shape'.Distinct := by
  obtain ⟨o, -, hunions⟩ := unions_addOwn h
  rw [Distinct, hunions]
  cases o with
  | none => exact hd
  | some u =>
    rw [addUnion]
    split_ifs with hu
    · exact hd
    · refine List.pairwise_append.2 ⟨hd, List.pairwise_singleton _ _, fun w hw x hx => ?_⟩
      cases List.mem_singleton.1 hx
      simp only [List.any_eq_true, not_exists, not_and] at hu
      exact hu w hw

/-! ### Properties and required names -/

theorem nodup_keys_addOwn (hs : (Entries.keys shape.properties).Nodup)
    (h : shape.addOwn r t = .ok shape') : (Entries.keys shape'.properties).Nodup := by
  obtain ⟨u, -, rfl⟩ := Composition.addOwn_eq_ok_iff.1 h
  rw [← (Composition.properties_addUnion shape u).1] at hs
  exact Entries.nodup_foldl_insert _ hs

theorem nodup_required_addOwn (hs : shape.required.Nodup) (h : shape.addOwn r t = .ok shape') :
    shape'.required.Nodup := by
  obtain ⟨u, -, rfl⟩ := Composition.addOwn_eq_ok_iff.1 h
  rw [← (Composition.properties_addUnion shape u).2] at hs
  refine List.foldlRecOn t.required _ hs fun rs hrs n _ => ?_
  split_ifs with hn
  · exact hrs
  · refine List.nodup_append.2 ⟨hrs, List.nodup_singleton n, fun m hm k hk => ?_⟩
    cases List.mem_singleton.1 hk
    exact fun he => hn (he ▸ hm)

/-- The schema that is added last has its own properties in the shape. -/
theorem find?_addOwn {name : String} {p : OrRef Schema} (ht : (Entries.keys t.properties).Nodup)
    (h : shape.addOwn r t = .ok shape') (hp : Entries.find? name t.properties = some p) :
    Entries.find? name shape'.properties = some p := by
  obtain ⟨u, -, rfl⟩ := Composition.addOwn_eq_ok_iff.1 h
  exact (Entries.find?_foldl_insert ht).trans (by rw [hp, Option.some_or])

end Shape

namespace Composition

variable {r : Resolver} {s : Schema} {shape shape' : Shape}

/-- A schema that is added was added to some shape, and others were added after it. -/
theorem exists_addOwn_of_mem {ts : List Schema} {t : Schema}
    (h : addAll r ts shape = .ok shape') (ht : t ∈ ts) :
    ∃ us, ∃ before after : Shape, before.addOwn r t = .ok after ∧ addAll r us after = .ok shape' := by
  obtain ⟨as, us, rfl⟩ := List.append_of_mem ht
  rw [addAll_append, bind_eq_ok_iff] at h
  obtain ⟨before, -, h⟩ := h
  obtain ⟨after, ht, hus⟩ := bind_eq_ok_iff.1 h
  exact ⟨us, before, after, ht, hus⟩

/-- What makes a shape the closure of a schema. -/
structure IsClosure (r : Resolver) (s : Schema) (shape : Shape) : Prop where
  /-- The properties are those that reached schemas list. -/
  mem_properties : ∀ name, name ∈ Entries.keys shape.properties ↔ Offers r s name
  /-- No property stands there twice. -/
  nodup_properties : (Entries.keys shape.properties).Nodup
  /-- Required are those properties that some reached schema requires. -/
  mem_required : ∀ name, name ∈ shape.required ↔ Demands r s name ∧ Offers r s name
  /-- No required name stands there twice. -/
  nodup_required : shape.required.Nodup
  /-- A union is that of a reached schema. -/
  of_mem_unions : ∀ u ∈ shape.unions, ∃ t, Reaches r s t ∧ VariantSet.ofSchema r t = .ok (some u)
  /-- The union of a reached schema is there, or one like it. -/
  covers : ∀ t, Reaches r s t →
    ∃ o, VariantSet.ofSchema r t = .ok o ∧ ∀ u ∈ o, shape.Covers u
  /-- No two unions are alike. -/
  distinct : shape.Distinct
  /-- The properties of the schema itself are as it says. -/
  own : ∀ name p, Entries.find? name s.properties = some p →
    Entries.find? name shape.properties = some p

/-- **Merging a composition computes its closure.** -/
theorem merge_closure (hs : (Entries.keys s.properties).Nodup) (h : merge r s = .ok shape) :
    IsClosure r s shape := by
  obtain ⟨ts, whole, hts, rfl, hreach⟩ := exists_addAll_of_merge h List.prefix_rfl
  have hkeys : (Entries.keys whole.properties).Nodup :=
    addAll_induction (P := fun shape => (Entries.keys shape.properties).Nodup)
      (fun _ _ _ _ ht hd => Shape.nodup_keys_addOwn hd ht) hts List.nodup_nil
  have hrequired : whole.required.Nodup :=
    addAll_induction (P := fun shape => shape.required.Nodup)
      (fun _ _ _ _ ht hd => Shape.nodup_required_addOwn hd ht) hts List.nodup_nil
  have hdistinct : whole.Distinct :=
    addAll_induction (P := Shape.Distinct) (fun _ _ _ _ ht hd => hd.addOwn ht) hts
      List.Pairwise.nil
  constructor
  case mem_properties => exact fun name => (merge_spec h List.prefix_rfl name).1
  case mem_required => exact fun name => (merge_spec h List.prefix_rfl name).2
  case nodup_properties => exact hkeys
  case nodup_required => exact hrequired.filter _
  case distinct => exact hdistinct
  case of_mem_unions =>
    change ∀ u ∈ whole.unions, ∃ t, Reaches r s t ∧ VariantSet.ofSchema r t = .ok (some u)
    refine addAll_induction (P := fun shape => ∀ u ∈ shape.unions,
      ∃ t, Reaches r s t ∧ VariantSet.ofSchema r t = .ok (some u)) ?_ hts (by simp)
    intro t ht before after hadd hbefore u hu
    obtain ⟨o, ho, hunions⟩ := Shape.unions_addOwn hadd
    rw [hunions] at hu
    cases o with
    | none => exact hbefore u hu
    | some w =>
      rcases Shape.mem_unions_addUnion_some.1 hu with hu | ⟨rfl, -⟩
      · exact hbefore u hu
      · exact ⟨t, (hreach t).1 ht, ho⟩
  case covers =>
    intro t ht
    obtain ⟨us, before, after, hadd, hus⟩ := exists_addOwn_of_mem hts ((hreach t).2 ht)
    obtain ⟨o, ho, -⟩ := Shape.unions_addOwn hadd
    refine ⟨o, ho, fun u hu => ?_⟩
    cases hu
    -- what comes after the schema leaves its union covered
    have hcovers : whole.Covers u :=
      addAll_induction (P := fun shape => shape.Covers u)
        (fun _ _ _ _ ht hc => hc.addOwn ht) hus (Shape.covers_of_addOwn hadd ho)
    exact hcovers
  case own =>
    intro name p hp
    -- the schema itself is added last
    rw [addAll_append, bind_eq_ok_iff] at hts
    obtain ⟨before, -, hlast⟩ := hts
    obtain ⟨after, hadd, hafter⟩ := bind_eq_ok_iff.1 hlast
    cases hafter
    have hfind : Entries.find? name whole.properties = some p := Shape.find?_addOwn hs hadd hp
    exact hfind

/-- Schemas that lead back to each other, by a chain of names and from within inline branches. -/
def kennel : Resolver where
  schemas :=
    [("Named", .inline { required := ["name", "tag"]
                         properties := [("name", .inline { title := "a name" })]
                         allOf := [.ref "#/components/schemas/Pet"] }),
      ("Pet", .inline { oneOf := [.ref "#/components/schemas/Named"]
                        required := ["name"]
                        properties := [("owner", .ref "#/components/schemas/Alias")] }),
      ("Alias", .ref "#/components/schemas/Dog"),
      ("Dog", .inline { allOf := [.ref "#/components/schemas/Alias"] })]

/-- A composition over `kennel` that reaches itself. -/
def dog : Schema where
  allOf :=
    [.ref "#/components/schemas/Alias",
      .inline { allOf := [.ref "#/components/schemas/Named", .ref "#/components/schemas/Pet"]
                required := ["name"] }]
  properties := [("name", .inline { title := "the name of a dog" })]

theorem merge_closure_dog : (Entries.keys dog.properties).Nodup ∧
    ∃ shape, merge kennel dog = .ok shape ∧ IsClosure kennel dog shape := by
  have hd : (Entries.keys dog.properties).Nodup := by decide
  have hok : (merge kennel dog).isOk = true := by decide +kernel
  obtain ⟨shape, hm⟩ := exists_eq_ok hok
  exact ⟨hd, shape, hm, merge_closure hd hm⟩

end Composition

end ApiModel
