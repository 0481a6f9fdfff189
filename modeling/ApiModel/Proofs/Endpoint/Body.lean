import ApiModel.Endpoint.Input
import ApiModel.Proofs.Schemas.Reach

/-!
# What bodies require

The names that a media type requires of an input, said by the schemas that its own schema leads to
(`MediaType.Requires`): those of an object, those of all schemas that a composition reaches, or the
name of the field that holds the body as a whole.  `Endpoint.mem_required_bodyFields` says that the
body fields require exactly these names, over the table of schemas at that time and every longer
one.
-/

namespace ApiModel

/-- A body with a schema requires a name; `required` says whether there must be a body. -/
def Schema.BodyRequires (r : Resolver) (required : Bool) (s : Schema) (name : String) : Prop :=
  match Kind.ofSchema s with
  | .composition _ => Composition.Demands r s name ∧ Composition.Offers r s name
  | .object =>
    if BodyFields.listsProperties s then name ∈ s.required ∧ name ∈ Entries.keys s.properties
    else required = true ∧ name = BodyFields.wrappedField
  | _ => required = true ∧ name = BodyFields.wrappedField

/-- The body of a media type requires a name. -/
def MediaType.Requires (r : Resolver) (required : Bool) (media : MediaType) (name : String) : Prop :=
  ∃ s resolved, media.schema = some s ∧ r.schema s = .ok resolved ∧
    resolved.BodyRequires r required name

namespace BodyFields

variable {r r' : Resolver} {required : Bool} {name : String}

theorem mem_required_wrapped (s : OrRef Schema) :
    name ∈ (wrapped s required).required ↔ required = true ∧ name = wrappedField := by
  cases required <;> simp [wrapped]

theorem mem_required_ofObject (s : Schema) :
    name ∈ (ofObject s).required ↔ name ∈ s.required ∧ name ∈ Entries.keys s.properties := by
  simp [ofObject]

theorem ofComposition_eq_ok_iff {s : Schema} {b : BodyFields} :
    ofComposition r s = .ok b ↔ ∃ shape, Composition.merge r s = .ok shape ∧
      b.properties = shape.properties ∧ b.required = shape.required := by
  unfold ofComposition
  split
  · rename_i err h
    simp [h]
  · rename_i shape h
    constructor
    · rintro ⟨⟩
      exact ⟨shape, h, rfl, rfl⟩
    · rintro ⟨shape', h', hp, hr⟩
      cases h.symm.trans h'
      cases b
      cases hp
      cases hr
      rfl

theorem ofComposition_congr {s : Schema} (h : Composition.merge r s = Composition.merge r' s) :
    ofComposition r s = ofComposition r' s := by
  unfold ofComposition
  -- only by cases: each side carries a proof about its own merge
  split <;> split <;> rename_i hm _ hm' <;> cases hm.symm.trans (h.trans hm') <;> rfl

/-- **What a body requires** is what its schema says. -/
theorem mem_required_ofBody {s : OrRef Schema} {b : BodyFields} (h : ofBody r s required = .ok b)
    (ht : r.schemas <+: r'.schemas) (name : String) :
    ∃ resolved, r'.schema s = .ok resolved ∧
      (name ∈ b.required ↔ resolved.BodyRequires r' required name) := by
  rw [ofBody, bind_eq_ok_iff] at h
  obtain ⟨resolved, hs, h⟩ := h
  refine ⟨resolved, Resolver.schema_of_prefix ht hs, ?_⟩
  split at h
  · -- a composition requires what the merge requires, over the longer table as well
    rename_i branches hk
    obtain ⟨shape, hm, -, hr⟩ := ofComposition_eq_ok_iff.1 h
    rw [hr]
    simp only [Schema.BodyRequires, hk]
    exact (Composition.merge_spec hm ht name).2
  · rename_i hk
    cases pure_eq_ok_iff.1 h
    by_cases hl : listsProperties resolved = true
    · simp only [hl, if_true, Schema.BodyRequires, hk]
      exact mem_required_ofObject resolved
    · simp only [hl, Bool.false_eq_true, if_false, Schema.BodyRequires, hk]
      exact mem_required_wrapped s
  · rename_i hc ho
    cases pure_eq_ok_iff.1 h
    rw [mem_required_wrapped, Schema.BodyRequires]
    split
    · rename_i branches hk
      exact absurd hk (hc branches)
    · rename_i hk
      exact absurd hk ho
    · rfl

end BodyFields

namespace Endpoint

variable {e : Endpoint} {r r' : Resolver} {required : Bool}

/-- **The body fields of a media type require exactly what the media type requires.** -/
theorem mem_required_bodyFields {contentType : String} {media : MediaType} {b : BodyFields}
    {notes : List Diagnostic} (h : e.bodyFields r required contentType media = .ok (b, notes))
    (ht : r.schemas <+: r'.schemas) (name : String) :
    name ∈ b.required ↔ media.Requires r' required name := by
  rw [bodyFields] at h
  split at h
  · rename_i s hs
    obtain ⟨fields, hb, hf⟩ := map_eq_ok_iff.1 h
    cases hf
    obtain ⟨resolved, hres, hr⟩ := BodyFields.mem_required_ofBody hb ht name
    refine hr.trans ⟨fun hq => ⟨s, resolved, hs, hres, hq⟩, ?_⟩
    rintro ⟨s', resolved', hs', hres', hq⟩
    cases hs.symm.trans hs'
    cases hres.symm.trans hres'
    exact hq
  · rename_i hs
    cases h
    simp [MediaType.Requires, hs]

end Endpoint

end ApiModel
