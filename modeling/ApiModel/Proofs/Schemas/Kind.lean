import ApiModel.Schemas.Kind
import Mathlib.Tactic.SplitIfs

/-!
# What makes a schema one of its kind

The kinds are tried one after another, so a schema is of a kind if it has what the kind asks for and
nothing that an earlier one asks for.
-/

namespace ApiModel

/-- The branches of a union. -/
def Schema.unionBranches (s : Schema) : List (OrRef Schema) :=
  if s.oneOf.isEmpty then s.anyOf else s.oneOf

namespace Kind

variable {s : Schema} {kind : UnionKind} {branches : List (OrRef Schema)}

/-- Types alone make a primitive or anything at all. -/
theorem ofTypes_cases (types : Option TypeSet) :
    (∃ t, ofTypes types = .primitive t) ∨ ofTypes types = .any := by
  unfold ofTypes
  split
  · exact .inl ⟨_, rfl⟩
  · split
    · exact .inl ⟨_, rfl⟩
    · exact .inr rfl
  · exact .inr rfl

theorem ofSchema_of_oneOf (h : s.oneOf ≠ []) : ofSchema s = .union .oneOf s.oneOf := by
  simp [ofSchema, h]

theorem ofSchema_of_anyOf (h1 : s.oneOf = []) (h : s.anyOf ≠ []) :
    ofSchema s = .union .anyOf s.anyOf := by
  simp [ofSchema, h1, h]

theorem ofSchema_of_allOf (h1 : s.oneOf = []) (h2 : s.anyOf = []) (h : s.allOf ≠ []) :
    ofSchema s = .composition s.allOf := by
  simp [ofSchema, h1, h2, h]

theorem ofSchema_ne_union (h1 : s.oneOf = []) (h2 : s.anyOf = []) :
    ofSchema s ≠ .union kind branches := by
  intro h
  simp only [ofSchema, h1, h2, List.isEmpty_nil, Bool.not_true, Bool.false_eq_true,
    if_false] at h
  split_ifs at h
  rcases ofTypes_cases s.type with ⟨t, ht⟩ | ht <;> rw [ht] at h <;> cases h

/-- **A union** has branches of `oneOf`, or else of `anyOf`. -/
theorem ofSchema_eq_union_iff :
    ofSchema s = .union kind branches ↔ branches ≠ [] ∧
      (kind = .oneOf ∧ s.oneOf = branches ∨ kind = .anyOf ∧ s.oneOf = [] ∧ s.anyOf = branches) := by
  by_cases h1 : s.oneOf = []
  · by_cases h2 : s.anyOf = []
    · simp only [ofSchema_ne_union h1 h2, h1, h2, false_iff]
      rintro ⟨hne, ⟨-, rfl⟩ | ⟨-, -, rfl⟩⟩ <;> exact hne rfl
    · rw [ofSchema_of_anyOf h1 h2]
      constructor
      · rintro ⟨⟩
        exact ⟨h2, .inr ⟨rfl, h1, rfl⟩⟩
      · rintro ⟨hne, ⟨-, rfl⟩ | ⟨rfl, -, rfl⟩⟩
        · exact absurd h1 hne
        · rfl
  · rw [ofSchema_of_oneOf h1]
    constructor
    · rintro ⟨⟩
      exact ⟨h1, .inl ⟨rfl, rfl⟩⟩
    · rintro ⟨-, ⟨rfl, rfl⟩ | ⟨-, hno, -⟩⟩
      · rfl
      · exact absurd hno h1

theorem exists_ofSchema_eq_union_iff :
    (∃ kind, ofSchema s = .union kind branches) ↔ branches ≠ [] ∧ s.unionBranches = branches := by
  simp only [ofSchema_eq_union_iff, exists_and_left, Schema.unionBranches]
  refine and_congr_right fun hne => ?_
  by_cases h1 : s.oneOf = []
  · constructor
    · rintro ⟨_, ⟨-, rfl⟩ | ⟨-, -, h⟩⟩
      · exact absurd h1 hne
      · simpa [h1] using h
    · intro h
      exact ⟨.anyOf, .inr ⟨rfl, h1, by simpa [h1] using h⟩⟩
  · constructor
    · rintro ⟨_, ⟨-, h⟩ | ⟨-, h, -⟩⟩
      · simpa [h1] using h
      · exact absurd h h1
    · intro h
      exact ⟨.oneOf, .inl ⟨rfl, by simpa [h1] using h⟩⟩

theorem branches_of_object (h : ofSchema s = .object) :
    s.oneOf = [] ∧ s.anyOf = [] ∧ s.allOf = [] := by
  by_cases h1 : s.oneOf = []
  · by_cases h2 : s.anyOf = []
    · by_cases h3 : s.allOf = []
      · exact ⟨h1, h2, h3⟩
      · cases (ofSchema_of_allOf h1 h2 h3).symm.trans h
    · cases (ofSchema_of_anyOf h1 h2).symm.trans h
  · cases (ofSchema_of_oneOf h1).symm.trans h

end Kind

end ApiModel
