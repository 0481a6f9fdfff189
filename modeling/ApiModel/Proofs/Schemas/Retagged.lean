import ApiModel.Proofs.Schemas.Tags
import Mathlib.Data.List.Find

/-!
# Tags after a renaming

A renaming replaces the references of a union and the targets of its mapping alike, so a target that
spelled a branch still spells it, unless one of the two is captured by a new name
(`Renaming.Fits.spells_iff`).  Hence a branch that the mapping gives a tag keeps it, and so does one
whose schema has a title.  The others get their tags from the text of the reference: what is renamed
there is renamed in the tag as well (`Discriminator.Spelled.renamed_iff`).
-/

namespace ApiModel

open Discriminator (Spells)

namespace Renaming

variable {reserved : Reserved} {names : List String} {renames : List (String × String)}
  {kind : PointerKind} {p target old new : String}

/-- No new name captures a pointer. -/
def Clear (renames : List (String × String)) (kind : PointerKind) (p : String) : Prop :=
  ∀ name, Pointer.Names kind (pointer renames kind p) name → ¬ Captures renames kind p name

section Fits

variable (h : Fits reserved (names.filter (!reserved.contains ·)) names renames)

include h

theorem Fits.find?_inj {old' : String} (hf : Entries.find? old renames = some new)
    (hf' : Entries.find? old' renames = some new) : old = old' := by
  refine h.eq_of_find? (h.mem_of_mem_keys (Entries.mem_keys_of_find? hf')) ?_
  rw [renamed, hf', Option.getD_some, hf]

theorem Fits.not_clear (hf : Entries.find? old renames = some new) (hn : Pointer.Names kind p new)
    (hkept : pointer renames kind p = p) : ¬ Clear renames kind p := by
  intro hclear
  refine hclear new (hkept.symm ▸ hn) ⟨old, Entries.mem_of_find? hf, fun hold => ?_⟩
  have hne := h.renamed_ne (Entries.mem_keys_of_find? hf)
  rw [renamed, hf, Option.getD_some] at hne
  exact hne (hn.eq hold)

theorem Fits.spells_pointer (hclear : Clear renames .mapping target)
    (hsign : (pointer renames .ref p).startsWith "#" = true) (hs : Spells p target) :
    Spells (pointer renames .ref p) (pointer renames .mapping target) := by
  rcases hs with rfl | ⟨hb, rfl⟩
  · left
    rcases hr : Pointer.afterPrefix? Schema.pointerPrefix.toList target.toList with _ | rest
    · have hkept : pointer renames .ref target = target := by simp [pointer, hr]
      rw [hkept] at hsign
      rw [hkept, pointer_bare hr, renamed]
      rcases hf : Entries.find? target renames with _ | new
      · rfl
      · -- the target would be captured by a new name
        have hl := h.literal_of_find? hf
        have hnew : pointer renames .mapping target = new := by
          rw [pointer_bare hr, renamed, hf, Option.getD_some]
        have hnames : Pointer.Names .mapping (pointer renames .mapping target) new :=
          .inr ⟨rfl, hnew.symm ▸ hl.startsWith_eq_false, hnew⟩
        refine absurd ⟨target, Entries.mem_of_find? hf, ?_⟩ (hclear new hnames)
        rintro (ht | ⟨-, hb, -⟩)
        · exact Pointer.target?_ne_of_afterPrefix?_eq_none hr ht
        · rw [hsign] at hb
          cases hb
    · simp only [pointer, hr]
  · refine .inr ⟨h.startsWith_pointer hb, ?_⟩
    rw [pointer_reference, pointer_bare (Pointer.afterPrefix?_eq_none hb)]

/-- **A target spells a branch after the renaming exactly if it did before**, unless one of them is
captured. -/
theorem Fits.spells_iff (hp : Clear renames .ref p) (ht : Clear renames .mapping target)
    (hsign : (pointer renames .ref p).startsWith "#" = true) :
    Spells (pointer renames .ref p) (pointer renames .mapping target) ↔ Spells p target := by
  refine ⟨fun hs => ?_, h.spells_pointer ht hsign⟩
  have hmp := moves_pointer renames .ref p
  have hmt := moves_pointer renames .mapping target
  generalize hp' : pointer renames .ref p = p' at hs hmp hsign
  generalize ht' : pointer renames .mapping target = target' at hs hmt
  cases hmp with
  | name hk => cases hk
  | @pointer o n ho hfo =>
    -- the branch has got the new name of a schema, and so has what spells it
    have hn := Pointer.target?_reference (h.literal_of_find? hfo)
    cases hmt with
    | pointer ho' hfo' =>
      rcases hs with he | ⟨hb, -⟩
      · rw [String.append_right_inj] at he
        subst he
        rw [h.find?_inj hfo' hfo] at ho'
        exact .inl (ho'.trans ho.symm)
      · rw [Pointer.startsWith_reference] at hb
        cases hb
    | name _ hno hfo' =>
      rcases hs with he | ⟨hb, he⟩
      · have hb := (h.literal_of_find? hfo').startsWith_eq_false
        rw [he, Pointer.startsWith_reference] at hb
        cases hb
      · rw [String.append_right_inj] at he
        subst he
        obtain rfl := h.find?_inj hfo' hfo
        -- the target was a bare name before, or it would be captured
        have hnames : Pointer.Names .mapping (Renaming.pointer renames .mapping target) n :=
          .inr ⟨rfl, ht'.symm ▸ hb, ht'⟩
        by_contra hspells
        refine ht n hnames ⟨target, Entries.mem_of_find? hfo, ?_⟩
        rintro (hold | ⟨-, hb, -⟩)
        · exact Pointer.target?_ne_of_afterPrefix?_eq_none hno hold
        · exact hspells (.inr ⟨hb, ho⟩)
    | kept =>
      exfalso
      rcases hs with he | ⟨hb, he⟩
      · exact h.not_clear hfo (.inl (he.symm ▸ hn)) ht' ht
      · rw [String.append_right_inj] at he
        exact h.not_clear hfo (.inr ⟨rfl, hb, he.symm⟩) ht' ht
  | kept =>
    cases hmt with
    | pointer _ hfo' =>
      exfalso
      have hn := Pointer.target?_reference (h.literal_of_find? hfo')
      rcases hs with he | ⟨hb, -⟩
      · exact h.not_clear hfo' (.inl (he ▸ hn)) hp' hp
      · rw [Pointer.startsWith_reference] at hb
        cases hb
    | name _ _ hfo' =>
      exfalso
      have hl := h.literal_of_find? hfo'
      rcases hs with he | ⟨-, he⟩
      · have hb := hl.startsWith_eq_false
        rw [he, hsign] at hb
        cases hb
      · exact h.not_clear hfo' (.inl (he ▸ Pointer.target?_reference hl)) hp' hp
    | kept => exact hs

end Fits

end Renaming

/-! ### One branch -/

namespace Discriminator

variable {reserved : Reserved} {names : List String} {renames : List (String × String)}
  {d : Discriminator} {r r' : Resolver} {p : String} {tag : Option String}

/-- The tag of a reference does not come from its text. -/
def Settles (d : Discriminator) (r : Resolver) (p : String) : Prop :=
  (∃ key, d.FirstSpells p key) ∨ ∃ s title, r.Denotes (.ref p) s ∧ s.title = some title

theorem mappedTag?_under
    (h : Renaming.Fits reserved (names.filter (!reserved.contains ·)) names renames)
    (hp : Renaming.Clear renames .ref p)
    (hm : ∀ e ∈ d.mapping, Renaming.Clear renames .mapping e.2)
    (hsign : (Renaming.pointer renames .ref p).startsWith "#" = true) :
    (d.under (Renaming.pointer renames)).mappedTag? (.ref (Renaming.pointer renames .ref p)) =
      d.mappedTag? (.ref p) := by
  simp only [mappedTag?, OrRef.pointer?, Option.bind_some, under, List.find?_map, Option.map_map]
  refine congrArg (Option.map _) (List.find?_congr fun e he => ?_)
  rw [Bool.eq_iff_iff]
  exact targets_iff.trans ((h.spells_iff hp (hm e he) hsign).trans targets_iff.symm)

/-- **Which branches keep their tags**: all but those that have got a new name and whose tags come
from their texts. -/
theorem Spelled.renamed_iff
    (h : Renaming.Fits reserved (names.filter (!reserved.contains ·)) names renames)
    (htag : (d.under (Renaming.pointer renames)).mappedTag?
      (.ref (Renaming.pointer renames .ref p)) = d.mappedTag? (.ref p))
    (hleads : ∀ s', r'.Denotes (.ref (Renaming.pointer renames .ref p)) s' →
      ∃ s, r.Denotes (.ref p) s ∧ s'.title = s.title)
    (hs : (d.under (Renaming.pointer renames)).Spelled r'
      (.ref (Renaming.pointer renames .ref p)) tag) :
    d.Spelled r (.ref p) tag ↔
      ∀ old ∈ Entries.keys renames, p = Schema.pointerPrefix ++ old → d.Settles r p := by
  cases hs with
  | mapped hkey =>
    have hspells := hkey
    rw [← mappedTag?_eq_some_iff, htag, mappedTag?_eq_some_iff] at hspells
    exact iff_of_true (.mapped hspells) fun _ _ _ => .inl ⟨_, hspells⟩
  | @named _ token' s' htoken' hno hs' =>
    rw [← mappedTag?_eq_none_iff, htag, mappedTag?_eq_none_iff] at hno
    obtain ⟨s, hs, htitle⟩ := hleads s' hs'
    obtain ⟨-, token, -, rfl⟩ := exists_token_of_denotes hs
    obtain rfl : Renaming.renamed renames token = token' := by
      rwa [Renaming.pointer_reference, String.append_right_inj] at htoken'
    -- neither mapping has an entry, and the titles are the same, so only the texts are compared
    have hiff : d.Spelled r (.ref (Schema.pointerPrefix ++ token))
        (some (s'.title.getD (Renaming.renamed renames token))) ↔
        s.title.getD (Renaming.renamed renames token) = s.title.getD token := by
      rw [htitle]
      constructor
      · intro hsp
        exact Option.some.inj (hsp.eq (.named rfl hno hs))
      · intro he
        rw [he]
        exact .named rfl hno hs
    rw [hiff]
    rcases ht : s.title with _ | title
    · -- the tag is the text, which has to stay as it is
      rw [Option.getD_none, Option.getD_none]
      constructor
      · rintro he old hold hp
        rw [String.append_right_inj] at hp
        subst hp
        exact absurd he (h.renamed_ne hold)
      · intro hsettles
        by_contra hne
        have hold : token ∈ Entries.keys renames := by
          by_contra hno'
          exact hne (Renaming.renamed_of_notMem hno')
        rcases hsettles token hold rfl with ⟨key, target, hkey⟩ | ⟨u, title, hu, hut⟩
        · exact hno _ hkey.mem hkey.prop
        · rw [← hs.eq hu, ht] at hut
          cases hut
    · exact iff_of_true rfl fun _ _ _ => .inr ⟨s, title, hs, ht⟩

end Discriminator

/-! ### One union -/

namespace VariantSet

/-- The tags of the branches of a union. -/
def tags (u : VariantSet) : List (Option String) :=
  u.variants.map (·.tag)

variable {reserved : Reserved} {names : List String} {renames : List (String × String)}
  {d : Discriminator} {r r' : Resolver} {s s' : Schema} {u : VariantSet} {ts : List (Option String)}

theorem unionBranches_ne_nil (h : ofSchema r s = .ok (some u)) : s.unionBranches ≠ [] := by
  rw [ofSchema] at h
  split at h
  · rename_i kind branches hk
    obtain ⟨hne, rfl⟩ := Kind.exists_ofSchema_eq_union_iff.1 ⟨kind, hk⟩
    exact hne
  · cases h

theorem exists_tags_iff (hne : s.unionBranches ≠ []) (hd : s.discriminator = some d) :
    (∃ u, ofSchema r s = .ok (some u) ∧ u.tags = ts) ↔
      List.Forall₂ (d.Spelled r) s.unionBranches ts := by
  obtain ⟨kind, hk⟩ := Kind.exists_ofSchema_eq_union_iff.2 ⟨hne, rfl⟩
  simp only [ofSchema_eq_ok_iff hk hd]
  constructor
  · rintro ⟨u, ⟨-, -, hvs⟩, rfl⟩
    exact List.forall₂_map_right_iff.2 (hvs.imp fun _ _ h => h.2)
  · intro h
    obtain ⟨vs, hvs, hts⟩ : ∃ vs : List Variant,
        List.Forall₂ (fun b v => v.schema = b ∧ d.Spelled r b v.tag) s.unionBranches vs ∧
          vs.map (·.tag) = ts := by
      generalize s.unionBranches = branches at h
      induction h with
      | nil => exact ⟨[], .nil, rfl⟩
      | @cons b tag _ _ hb _ ih =>
        obtain ⟨vs, hvs, rfl⟩ := ih
        exact ⟨⟨tag, b⟩ :: vs, .cons ⟨rfl, hb⟩ hvs, rfl⟩
    exact ⟨⟨kind, some d.propertyName, vs⟩, ⟨rfl, rfl, hvs⟩, hts⟩

theorem exists_tags_of_no_discriminator (hne : s.unionBranches ≠ []) (hd : s.discriminator = none) :
    (∃ u, ofSchema r s = .ok (some u) ∧ u.tags = ts) ↔
      ts = List.replicate s.unionBranches.length none := by
  obtain ⟨kind, hk⟩ := Kind.exists_ofSchema_eq_union_iff.2 ⟨hne, rfl⟩
  have hvs : variantsOf r none s.unionBranches = .ok (s.unionBranches.map fun b => ⟨none, b⟩) := by
    rw [variantsOf_eq_mapM, mapM_eq_ok_iff, List.forall₂_map_right_iff, List.forall₂_same]
    exact fun _ _ => rfl
  have hu : ofSchema r s =
      .ok (some ⟨kind, none, s.unionBranches.map fun b => ⟨none, b⟩⟩) := by
    simp only [ofSchema, hk, hd, ofBranches, hvs]
    rfl
  rw [hu]
  constructor
  · rintro ⟨u, ⟨⟩, rfl⟩
    simp [tags, Function.comp_def]
  · rintro rfl
    exact ⟨_, rfl, by simp [tags, Function.comp_def]⟩

/-- Every tag of a discriminated union comes from the mapping or from a title, as far as its branches
have got new names. -/
def TagsSettled (renames : List (String × String)) (r : Resolver) (s : Schema) : Prop :=
  ∀ d ∈ s.discriminator, ∀ old ∈ Entries.keys renames,
    Schema.reference old ∈ s.unionBranches → d.Settles r (Schema.pointerPrefix ++ old)

theorem repointed_unionBranches {f : PointerKind → String → String} (hs : s.Repointed f s') :
    List.Forall₂ (OrRef.Repointed f fun t t' : Schema => t'.title = t.title) s.unionBranches
      s'.unionBranches := by
  rw [Schema.unionBranches, Schema.unionBranches, isEmpty_eq_of_forall₂ hs.oneOf]
  split_ifs
  exacts [hs.anyOf, hs.oneOf]

/-- What is known of the pointers of a union that is renamed: none is captured, its branches are
pointers, and they lead where they led before. -/
structure Traced (renames : List (String × String)) (r r' : Resolver) (s : Schema) : Prop where
  /-- No target of the mapping is captured. -/
  targets : ∀ d ∈ s.discriminator, ∀ e ∈ d.mapping, Renaming.Clear renames .mapping e.2
  /-- No branch is captured. -/
  branches : ∀ p, .ref p ∈ s.unionBranches → Renaming.Clear renames .ref p
  /-- The branches are pointers. -/
  sign : ∀ p, .ref p ∈ s.unionBranches →
    (Renaming.pointer renames .ref p).startsWith "#" = true
  /-- They lead to schemas under the same titles. -/
  leads : ∀ p, .ref p ∈ s.unionBranches → ∀ t',
    r'.Denotes (.ref (Renaming.pointer renames .ref p)) t' →
      ∃ t, r.Denotes (.ref p) t ∧ t'.title = t.title

theorem Traced.spelled_iff
    (h : Renaming.Fits reserved (names.filter (!reserved.contains ·)) names renames)
    (htraced : Traced renames r r' s) (hd : d ∈ s.discriminator) {b b' : OrRef Schema}
    (hb : b ∈ s.unionBranches) (hr : OrRef.Repointed (Renaming.pointer renames)
      (fun t t' : Schema => t'.title = t.title) b b') {tag : Option String}
    (hsp : (d.under (Renaming.pointer renames)).Spelled r' b' tag) :
    d.Spelled r b tag ↔ ∀ old ∈ Entries.keys renames, b = Schema.reference old →
      d.Settles r (Schema.pointerPrefix ++ old) := by
  cases hr with
  | ref p =>
    have htag := Discriminator.mappedTag?_under h (htraced.branches p hb)
      (htraced.targets d hd) (htraced.sign p hb)
    rw [hsp.renamed_iff h htag (htraced.leads p hb)]
    simp only [Schema.reference, OrRef.ref.injEq]
    exact forall₃_congr fun old _ hp => by rw [← hp]
  | inline ht =>
    cases hsp
    rw [ht]
    exact iff_of_true .inline nofun

/-- **Which unions keep their tags**: those whose renamed branches have tags that do not come from
their texts. -/
theorem tags_renamed_iff
    (h : Renaming.Fits reserved (names.filter (!reserved.contains ·)) names renames)
    (hs : s.Repointed (Renaming.pointer renames) s') (htraced : Traced renames r r' s)
    (hu : ofSchema r' s' = .ok (some u)) :
    (∃ v, ofSchema r s = .ok (some v) ∧ v.tags = u.tags) ↔ TagsSettled renames r s := by
  have hbranches := repointed_unionBranches hs
  have hne' := unionBranches_ne_nil hu
  have hne : s.unionBranches ≠ [] := by
    rintro hnil
    rw [hnil, List.forall₂_nil_left_iff] at hbranches
    exact hne' hbranches
  rcases hd : s.discriminator with _ | d
  · have hd' : s'.discriminator = none := by rw [hs.discriminator, hd, Option.map_none]
    have hno := (exists_tags_of_no_discriminator hne' hd').1 ⟨u, hu, rfl⟩
    rw [exists_tags_of_no_discriminator hne hd, hno, hbranches.length_eq]
    exact iff_of_true rfl fun d hd' => by simp [hd] at hd'
  · have hd' : s'.discriminator = some (d.under (Renaming.pointer renames)) := by
      rw [hs.discriminator, hd, Option.map_some]
    have hspelled := (exists_tags_iff hne' hd').1 ⟨u, hu, rfl⟩
    rw [exists_tags_iff hne hd, forall₂_iff_forall_mem (forall₂_trans hbranches hspelled)
      fun b hb tag ⟨b', hr, hsp⟩ => htraced.spelled_iff h hd hb hr hsp]
    constructor
    · intro hsettles d' hd' old hold hmem
      obtain rfl := Option.some.inj (hd.symm.trans hd')
      exact hsettles _ hmem old hold rfl
    · rintro hsettles _ hmem old hold rfl
      exact hsettles d hd old hold hmem

end VariantSet

end ApiModel
