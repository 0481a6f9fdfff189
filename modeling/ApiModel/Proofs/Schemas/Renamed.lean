import ApiModel.Proofs.Document.Replaced
import ApiModel.Proofs.Follow
import ApiModel.Proofs.Pointwise
import ApiModel.Proofs.Schemas.Renaming

/-!
# Renamed documents

A renaming moves the pointers to reserved schemas to their new names (`Renaming.Moves`).  It may also
capture one: a pointer that names the schema only afterwards, since it gave the new name or wrote the
old one in another way.  A pointer that names a component schema after the renaming named the same
one before, or it is captured (`Renaming.Fits.names_or_captured`).  In a renamed document
(`Document.renamed`) every mention has its new pointer, and the tables are in step with those before.
-/

namespace ApiModel

/-- A pointer names a schema: by a pointer, or in a mapping also by its bare name. -/
def Pointer.Names (kind : PointerKind) (p name : String) : Prop :=
  target? p = some (.schemas, name) ∨ kind = .mapping ∧ p.startsWith "#" = false ∧ p = name

instance (kind : PointerKind) (p name : String) : Decidable (Pointer.Names kind p name) :=
  inferInstanceAs (Decidable (_ ∨ _))

variable {kind : PointerKind} {p old name : String}

theorem Pointer.Names.eq {name' : String} (h : Names kind p name) (h' : Names kind p name') :
    name = name' := by
  rcases h with ht | ⟨-, hb, he⟩ <;> rcases h' with ht' | ⟨-, hb', he'⟩
  · rw [ht] at ht'
    exact (Prod.mk.inj (Option.some.inj ht')).2
  · rw [startsWith_of_target? ht] at hb'
    cases hb'
  · rw [startsWith_of_target? ht'] at hb
    cases hb
  · exact he.symm.trans he'

theorem Pointer.Literal.startsWith_eq_false (h : Literal name) : name.startsWith "#" = false := by
  rw [← Bool.not_eq_true, String.startsWith_string_iff]
  rintro ⟨rest, hrest⟩
  exact h.no_number_sign (hrest ▸ List.mem_cons_self)

theorem Pointer.startsWith_reference (name : String) :
    (Schema.pointerPrefix ++ name).startsWith "#" = true := by
  rw [String.startsWith_string_iff, String.toList_append]
  exact ⟨"/components/schemas/".toList ++ name.toList, rfl⟩

namespace Renaming

variable {renames : List (String × String)}

/-- What a renaming makes of a pointer. -/
inductive Moves (renames : List (String × String)) (kind : PointerKind) (p : String) : String → Prop
  /-- The pointer writes an old name. -/
  | pointer {old new : String} (hp : p = Schema.pointerPrefix ++ old)
      (hf : Entries.find? old renames = some new) : Moves renames kind p (Schema.pointerPrefix ++ new)
  /-- The mapping gives an old name, and by no reference. -/
  | name {new : String} (hk : kind = .mapping)
      (hp : Pointer.afterPrefix? Schema.pointerPrefix.toList p.toList = none)
      (hf : Entries.find? p renames = some new) : Moves renames kind p new
  /-- Neither. -/
  | kept : Moves renames kind p p

theorem moves_pointer (renames : List (String × String)) (kind : PointerKind) (p : String) :
    Moves renames kind p (pointer renames kind p) := by
  rw [pointer]
  split
  · rename_i rest hrest
    split
    · exact .pointer (Pointer.eq_reference_of_afterPrefix? hrest) ‹_›
    · exact .kept
  · split_ifs with hk
    · rcases hf : Entries.find? p renames with _ | new
      · exact .kept
      · exact .name hk ‹_› hf
    · exact .kept

/-- A name is the new one of a component schema that the pointer did not name before. -/
def Captures (renames : List (String × String)) (kind : PointerKind) (p name : String) : Prop :=
  ∃ old, (old, name) ∈ renames ∧ ¬ Pointer.Names kind p old

variable {reserved : Reserved} {names : List String}

theorem Fits.literal_of_find? {taken : List String} (h : Fits reserved taken names renames)
    {new : String} (hf : Entries.find? old renames = some new) : Pointer.Literal new :=
  h.literal new (List.mem_map_of_mem (Entries.mem_of_find? hf))

theorem Fits.eq_of_find? (h : Fits reserved (names.filter (!reserved.contains ·)) names renames)
    (hm : old ∈ names) (hf : Entries.find? name renames = some (renamed renames old)) :
    name = old := by
  have hn : name ∈ names := h.mem_of_mem_keys (Entries.mem_keys_of_find? hf)
  refine h.renamed_inj hn hm ?_
  rw [renamed, hf, Option.getD_some]

/-- **A pointer that names a schema after the renaming named it before, or is captured.** -/
theorem Fits.names_or_captured
    (h : Fits reserved (names.filter (!reserved.contains ·)) names renames) (hm : old ∈ names)
    (hn : Pointer.Names kind (pointer renames kind p) (renamed renames old)) :
    Pointer.Names kind p old ∨ Captures renames kind p (renamed renames old) := by
  have hmoves := moves_pointer renames kind p
  generalize pointer renames kind p = p' at hn hmoves
  cases hmoves with
  | @pointer n new hp hf =>
    -- the pointer was moved to the new name
    obtain rfl : new = renamed renames old :=
      Pointer.Names.eq (.inl (Pointer.target?_reference (h.literal_of_find? hf))) hn
    obtain rfl := h.eq_of_find? hm hf
    by_cases hc : Pointer.Names kind p n
    · exact .inl hc
    · exact .inr ⟨n, Entries.mem_of_find? hf, hc⟩
  | @name _ hk _ hf =>
    obtain rfl : p' = renamed renames old :=
      Pointer.Names.eq (.inr ⟨hk, (h.literal_of_find? hf).startsWith_eq_false, rfl⟩) hn
    obtain rfl := h.eq_of_find? hm hf
    by_cases hc : Pointer.Names kind p p
    · exact .inl hc
    · exact .inr ⟨p, Entries.mem_of_find? hf, hc⟩
  | kept =>
    rcases hr : reserved.contains old with _ | _
    · rw [h.renamed_eq_self hr] at hn
      exact .inl hn
    · refine .inr ⟨old, h.renamed_mem hm hr, fun hc => ?_⟩
      exact h.renamed_ne (h.mem_keys_iff.2 ⟨hm, hr⟩) (hc.eq hn).symm

theorem Fits.pointer_eq_self {taken : List String} (h : Fits reserved taken names renames)
    {sec : Section} (hsec : sec ≠ .schemas)
    (ht : Pointer.target? (pointer renames kind p) = some (sec, name)) :
    pointer renames kind p = p := by
  have hmoves := moves_pointer renames kind p
  generalize pointer renames kind p = p' at ht hmoves
  cases hmoves with
  | pointer _ hf =>
    rw [Pointer.target?_reference (h.literal_of_find? hf)] at ht
    cases ht
    exact absurd rfl hsec
  | name _ _ hf =>
    have hb := Pointer.startsWith_of_target? ht
    rw [(h.literal_of_find? hf).startsWith_eq_false] at hb
    cases hb
  | kept => rfl

theorem Fits.startsWith_pointer {taken : List String} (h : Fits reserved taken names renames)
    (hp : p.startsWith "#" = false) : (pointer renames kind p).startsWith "#" = false := by
  have hmoves := moves_pointer renames kind p
  generalize pointer renames kind p = p' at hmoves
  cases hmoves with
  | pointer he hf =>
    rw [he, Pointer.startsWith_reference] at hp
    cases hp
  | name _ _ hf =>
    exact (h.literal_of_find? hf).startsWith_eq_false
  | kept => exact hp

theorem startsWith_pointer_of_target? (ht : Pointer.target? p = some (.schemas, name)) :
    (pointer renames kind p).startsWith "#" = true := by
  have hmoves := moves_pointer renames kind p
  generalize pointer renames kind p = p' at hmoves
  cases hmoves with
  | pointer _ _ => exact Pointer.startsWith_reference _
  | name _ hp _ => exact absurd ht (Pointer.target?_ne_of_afterPrefix?_eq_none hp)
  | kept => exact Pointer.startsWith_of_target? ht

@[simp] theorem pointer_nil : pointer [] = fun _ p => p := by
  funext kind p
  rw [pointer]
  split
  · rfl
  · simp [Entries.find?]

end Renaming

theorem Mention.map_under_id (us : List Mention) : us.map (Mention.under fun _ p => p) = us :=
  List.map_id us

namespace Document

variable {reserved : Reserved} {renames : List (String × String)} {d : Document}

/-- The document with its components after a renaming. -/
def renamed (renames : List (String × String)) (d : Document) : Document :=
  { (({ d with components := none } : Document).rename renames d.componentsD).1 with
    components := some (({ d with components := none } : Document).rename renames d.componentsD).2 }

theorem renamed_of_isEmpty (h : renames.isEmpty = true) :
    renamed renames d = { d with components := some d.componentsD } := by
  rw [renamed, rename, if_pos h]

theorem paths_renamed (h : renames.isEmpty = false) :
    (renamed renames d).paths =
      ((walkEntries (PathItem.walk (.replaceBy (Renaming.pointer renames))) d.paths).run 0).1 := by
  rw [renamed, rename, if_neg (by simp [h])]
  rfl

theorem componentsD_renamed (h : renames.isEmpty = false) :
    (renamed renames d).componentsD =
      ((Components.walk (.replaceBy (Renaming.pointer renames))
        { d.componentsD with
          schemas := Renaming.schemas renames d.componentsD.schemas }).run 0).1 := by
  rw [renamed, rename, if_neg (by simp [h])]
  rfl

theorem inStep_of_isEmpty {α : Type} (h : renames.isEmpty = true)
    (table : List (String × OrRef α)) : InStep (Renaming.pointer renames) table table := by
  intro name
  rw [List.isEmpty_iff.1 h, Renaming.pointer_nil]
  simp

/-- The tables of two documents are in step, those of the schemas apart. -/
structure TablesInStep (f : PointerKind → String → String) (d d' : Document) : Prop where
  /-- The parameters are. -/
  parameters : InStep f d.componentsD.parameters d'.componentsD.parameters
  /-- The request bodies are. -/
  requestBodies : InStep f d.componentsD.requestBodies d'.componentsD.requestBodies
  /-- The responses are. -/
  responses : InStep f d.componentsD.responses d'.componentsD.responses
  /-- The security schemes, which hold no pointers, are the same. -/
  securitySchemes : d'.componentsD.securitySchemes = d.componentsD.securitySchemes

theorem tablesInStep_renamed (renames : List (String × String)) (d : Document) :
    TablesInStep (Renaming.pointer renames) d (renamed renames d) := by
  rcases he : renames.isEmpty with _ | _
  · have hc := componentsD_renamed (d := d) he
    constructor
    · rw [hc]
      exact inStep_walkEntries _ _ _
    · rw [hc]
      exact inStep_walkEntries _ _ _
    · rw [hc]
      exact inStep_walkEntries _ _ _
    · rw [hc]
      rfl
  · rw [renamed_of_isEmpty he]
    exact ⟨inStep_of_isEmpty he _, inStep_of_isEmpty he _, inStep_of_isEmpty he _, rfl⟩

variable (h : d.componentsD.newNames reserved = .ok renames)
  (hd : (Entries.keys d.componentsD.schemas).Nodup)

include h hd

theorem mentions_componentsD_renamed (he : renames.isEmpty = false) :
    (renamed renames d).componentsD.mentions =
      d.componentsD.mentions.map (Mention.under (Renaming.pointer renames)) := by
  have hf := Components.fits_of_newNames h
  have hm : Components.mentions
      { d.componentsD with schemas := Renaming.schemas renames d.componentsD.schemas } =
      d.componentsD.mentions := by
    simp only [Components.mentions, hf.schemas_eq hd, List.flatMap_map]
  rw [componentsD_renamed he, Components.replaces _ 0, hm]

/-- What a walk replaces in paths has its new pointers together with the components. -/
theorem pathMentions_renamed {inside : PathItem → List Mention}
    (hinside : Replaces (Renaming.pointer renames)
      (PathItem.walk (.replaceBy (Renaming.pointer renames))) inside) :
    ((renamed renames d).paths.flatMap fun p => inside p.2) ++
        (renamed renames d).componentsD.mentions =
      ((d.paths.flatMap fun p => inside p.2) ++ d.componentsD.mentions).map
        (Mention.under (Renaming.pointer renames)) := by
  rcases he : renames.isEmpty with _ | _
  · rw [paths_renamed he, mentions_componentsD_renamed h hd he, List.map_append,
      ← hinside.walkEntries d.paths 0]
  · rw [renamed_of_isEmpty he, List.isEmpty_iff.1 he, Renaming.pointer_nil, Mention.map_under_id]
    rfl

/-- **The mentions have their new pointers**, in the same places and in the same order. -/
theorem mentions_renamed :
    (renamed renames d).mentions = d.mentions.map (Mention.under (Renaming.pointer renames)) :=
  pathMentions_renamed h hd PathItem.replaces

theorem firmMentions_renamed :
    (renamed renames d).firmMentions =
      d.firmMentions.map (Mention.under (Renaming.pointer renames)) :=
  pathMentions_renamed h hd PathItem.replaces_firm

/-- **What a renamed document mentions the document mentions by its old pointer.** -/
theorem exists_of_mem_mentions_renamed {u : Mention}
    (hu : u ∈ (renamed renames d).mentions) :
    ∃ v ∈ d.mentions, v.under (Renaming.pointer renames) = u := by
  rw [mentions_renamed h hd] at hu
  exact List.mem_map.1 hu

theorem inStep_schemas :
    InStep (Renaming.pointer renames)
      (d.componentsD.schemas.map fun e => (Renaming.renamed renames e.1, e.2))
      (renamed renames d).componentsD.schemas := by
  have hf := Components.fits_of_newNames h
  rcases he : renames.isEmpty with _ | _
  · have hw := inStep_walkEntries (f := Renaming.pointer renames)
      (Schema.walk (.replaceBy (Renaming.pointer renames)))
      (Renaming.schemas renames d.componentsD.schemas) 0
    rw [hf.schemas_eq hd, ← Schema.walkRef_eq] at hw
    rw [componentsD_renamed he, hf.schemas_eq hd]
    exact hw
  · have hmap : (d.componentsD.schemas.map fun e => (Renaming.renamed renames e.1, e.2)) =
        d.componentsD.schemas := by
      rw [List.isEmpty_iff.1 he]
      exact List.map_id _
    rw [renamed_of_isEmpty he, hmap]
    exact inStep_of_isEmpty he _

/-- **The schemas go with those before**, each under its new name and with its new pointers. -/
theorem forall₂_schemas_renamed :
    List.Forall₂ (fun e e' => e'.1 = Renaming.renamed renames e.1 ∧
        OrRef.Repointed (Renaming.pointer renames) (Schema.Repointed (Renaming.pointer renames))
          e.2 e'.2)
      d.componentsD.schemas (renamed renames d).componentsD.schemas := by
  have hf := Components.fits_of_newNames h
  rcases he : renames.isEmpty with _ | _
  · have hw := forall₂_walkEntries (Schema.repointed_walkRef (f := Renaming.pointer renames))
      (Renaming.schemas renames d.componentsD.schemas) 0
    rw [hf.schemas_eq hd, List.forall₂_map_left_iff] at hw
    rw [componentsD_renamed he, hf.schemas_eq hd]
    exact hw
  · rw [renamed_of_isEmpty he, List.isEmpty_iff.1 he, Renaming.pointer_nil]
    exact List.forall₂_same.2 fun e _ => ⟨rfl, .refl Schema.Repointed.refl e.2⟩

/-- **What is found among the renamed schemas** was there under its old name. -/
theorem exists_of_find?_schemas {name : String} {x : OrRef Schema}
    (hx : Entries.find? name (renamed renames d).componentsD.schemas = some x) :
    ∃ old y, Entries.find? old d.componentsD.schemas = some y ∧
      name = Renaming.renamed renames old ∧
        OrRef.Repointed (Renaming.pointer renames) (Schema.Repointed (Renaming.pointer renames))
          y x := by
  obtain ⟨⟨old, y⟩, hm, hname, hr⟩ :=
    exists_of_mem_right (forall₂_schemas_renamed h hd) (Entries.mem_of_find? hx)
  exact ⟨old, y, Entries.find?_of_mem hd hm, hname, hr⟩

end Document

end ApiModel
