import ApiModel.Naming.Groups
import Mathlib.Data.List.Nodup
import Mathlib.Data.String.Basic

/-!
# Groups are a partition

The groups that are made from tags divide the places of the tags among themselves: every place is in
exactly one group, that of its tag.  `Group.Partitions` says so, and `Group.partitions_ofTags` that
it holds for all tags.  It rests on two facts.  The tags are sorted without repetition
(`Group.pairwise_sortTags`, `Group.mem_sortTags`), and the places of a tag are exactly those where it
stands, in their order (`Group.mem_placesFrom`, `Group.pairwise_placesFrom`).
-/

namespace ApiModel

namespace Group

/-- Groups divide the places of tags among themselves. -/
structure Partitions (groups : List Group) (tags : List String) : Prop where
  /-- The groups are strictly ordered by tag. -/
  sorted : groups.Pairwise fun g g' => g.name.text < g'.name.text
  /-- The name of a group is that of its tag. -/
  named : ∀ g ∈ groups, g.name = .ofText g.name.text
  /-- The places in a group are strictly increasing. -/
  increasing : ∀ g ∈ groups, g.members.Pairwise (· < ·)
  /-- No group is empty. -/
  nonempty : ∀ g ∈ groups, g.members ≠ []
  /-- A group has the places of its tag, and no others. -/
  mem_iff : ∀ g ∈ groups, ∀ i, i ∈ g.members ↔ tags[i]? = some g.name.text
  /-- Every place is in exactly one group. -/
  perm : (groups.flatMap (·.members)).Perm (List.range tags.length)

variable {tag t : String} {tags sorted : List String} {i k : Nat}

/-! ### Sorted tags -/

theorem mem_insertTag : t ∈ insertTag tag sorted ↔ t = tag ∨ t ∈ sorted := by
  induction sorted with
  | nil => simp [insertTag]
  | cons s rest ih =>
    rw [insertTag]
    split_ifs with hlt heq
    · simp
    · simp [heq]
    · simp only [List.mem_cons, ih]
      tauto

theorem pairwise_insertTag (h : sorted.Pairwise (· < ·)) :
    (insertTag tag sorted).Pairwise (· < ·) := by
  induction sorted with
  | nil => simp [insertTag]
  | cons s rest ih =>
    have hs := List.pairwise_cons.1 h
    rw [insertTag]
    split_ifs with hlt heq
    · refine List.pairwise_cons.2 ⟨List.forall_mem_cons.2 ⟨hlt, fun t ht => ?_⟩, h⟩
      exact hlt.trans (hs.1 t ht)
    · exact h
    · refine List.pairwise_cons.2 ⟨fun t ht => ?_, ih hs.2⟩
      rcases mem_insertTag.1 ht with rfl | ht
      · exact lt_of_le_of_ne (not_lt.1 hlt) (Ne.symm heq)
      · exact hs.1 t ht

theorem mem_foldl_insertTag (tags : List String) :
    t ∈ tags.foldl (fun sorted tag => insertTag tag sorted) sorted ↔ t ∈ sorted ∨ t ∈ tags := by
  induction tags generalizing sorted with
  | nil => simp
  | cons tag tags ih =>
    rw [List.foldl_cons, ih, mem_insertTag, List.mem_cons]
    tauto

theorem mem_sortTags : t ∈ sortTags tags ↔ t ∈ tags := by
  simp [sortTags, mem_foldl_insertTag]

theorem pairwise_foldl_insertTag (tags : List String) (h : sorted.Pairwise (· < ·)) :
    (tags.foldl (fun sorted tag => insertTag tag sorted) sorted).Pairwise (· < ·) := by
  induction tags generalizing sorted with
  | nil => exact h
  | cons tag tags ih => exact ih (pairwise_insertTag h)

/-- **Sorted tags are strictly increasing**, so none of them comes twice. -/
theorem pairwise_sortTags (tags : List String) : (sortTags tags).Pairwise (· < ·) :=
  pairwise_foldl_insertTag tags List.Pairwise.nil

/-! ### Places of a tag -/

theorem mem_placesFrom : i ∈ placesFrom tag k tags ↔ ∃ j, tags[j]? = some tag ∧ i = k + j := by
  induction tags generalizing k with
  | nil => simp [placesFrom]
  | cons t rest ih =>
    have hcons : (∃ j, (t :: rest)[j]? = some tag ∧ i = k + j) ↔
        t = tag ∧ i = k ∨ ∃ j, rest[j]? = some tag ∧ i = k + 1 + j := by
      rw [← Nat.or_exists_add_one]
      simp [Nat.add_assoc, Nat.add_comm 1]
    rw [hcons, placesFrom]
    split_ifs with h
    · simp [ih, h]
    · simp [ih, h]

theorem pairwise_placesFrom (tag : String) (k : Nat) (tags : List String) :
    (placesFrom tag k tags).Pairwise (· < ·) := by
  induction tags generalizing k with
  | nil => simp [placesFrom]
  | cons t rest ih =>
    rw [placesFrom]
    split_ifs
    · refine List.pairwise_cons.2 ⟨fun i hi => ?_, ih (k + 1)⟩
      obtain ⟨j, -, rfl⟩ := mem_placesFrom.1 hi
      omega
    · exact ih (k + 1)

theorem mem_places : i ∈ placesFrom tag 0 tags ↔ tags[i]? = some tag := by
  simp [mem_placesFrom]

/-! ### Groups -/

theorem mem_ofTags {g : Group} :
    g ∈ ofTags tags ↔ ∃ tag ∈ tags, g = ⟨.ofText tag, placesFrom tag 0 tags⟩ := by
  simp only [ofTags, List.mem_map, mem_sortTags, eq_comm]

theorem flatMap_members_ofTags (tags : List String) :
    (ofTags tags).flatMap (·.members) =
      (sortTags tags).flatMap fun tag => placesFrom tag 0 tags := by
  rw [ofTags, List.flatMap_map]

theorem nodup_flatMap_members (tags : List String) :
    ((ofTags tags).flatMap (·.members)).Nodup := by
  rw [flatMap_members_ofTags, List.nodup_flatMap]
  refine ⟨fun tag _ => (pairwise_placesFrom tag 0 tags).imp Nat.ne_of_lt, ?_⟩
  refine (pairwise_sortTags tags).imp fun {tag tag'} hlt i hi hi' => ?_
  -- one place has only one tag
  have htags := (mem_places.1 hi).symm.trans (mem_places.1 hi')
  exact hlt.ne (Option.some.inj htags)

theorem mem_flatMap_members : i ∈ (ofTags tags).flatMap (·.members) ↔ i < tags.length := by
  simp only [flatMap_members_ofTags, List.mem_flatMap, mem_sortTags, mem_places]
  constructor
  · rintro ⟨tag, -, hi⟩
    exact (List.getElem?_eq_some_iff.1 hi).1
  · intro hi
    exact ⟨tags[i], List.getElem_mem hi, List.getElem?_eq_getElem hi⟩

/-- **Grouping by tag is a partition** of the places into groups that are ordered by tag. -/
theorem partitions_ofTags (tags : List String) : Partitions (ofTags tags) tags := by
  constructor
  case sorted => exact List.pairwise_map.2 (pairwise_sortTags tags)
  case named =>
    intro g hg
    obtain ⟨tag, -, rfl⟩ := mem_ofTags.1 hg
    rfl
  case increasing =>
    intro g hg
    obtain ⟨tag, -, rfl⟩ := mem_ofTags.1 hg
    exact pairwise_placesFrom tag 0 tags
  case nonempty =>
    intro g hg
    obtain ⟨tag, htag, rfl⟩ := mem_ofTags.1 hg
    obtain ⟨i, hi⟩ := List.mem_iff_getElem?.1 htag
    exact List.ne_nil_of_mem (mem_places.2 hi)
  case mem_iff =>
    intro g hg i
    obtain ⟨tag, -, rfl⟩ := mem_ofTags.1 hg
    exact mem_places
  case perm =>
    refine (List.perm_ext_iff_of_nodup (nodup_flatMap_members tags) List.nodup_range).2 fun i => ?_
    rw [mem_flatMap_members, List.mem_range]

end Group

end ApiModel
