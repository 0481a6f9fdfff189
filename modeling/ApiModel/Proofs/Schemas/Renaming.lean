import ApiModel.Proofs.Document.Walk
import ApiModel.Proofs.Schemas.Allocation
import ApiModel.Schemas.Renaming

/-!
# Renamed schemas have free names

The new name of a reserved schema is neither reserved nor that of a schema that keeps its own, nor
the new name of another one (`Renaming.Fits`).  So component schemas that had different names still
have different names after the renaming, and none of them is reserved
(`Document.keys_schemas_rename`).
-/

namespace ApiModel

namespace Renaming

/-- New names for the reserved names among `names`, none of which is in `taken`. -/
structure Fits (reserved : Reserved) (taken names : List String)
    (renames : List (String × String)) : Prop where
  /-- The reserved names are those that get new ones. -/
  keys_eq : Entries.keys renames = names.filter reserved.contains
  /-- No new name is given twice. -/
  nodup : (renames.map (·.2)).Nodup
  /-- No new name is taken. -/
  fresh : ∀ new ∈ renames.map (·.2), new ∉ taken
  /-- No new name is reserved. -/
  free : ∀ new ∈ renames.map (·.2), reserved.contains new = false
  /-- The new names stand in pointers as they are. -/
  literal : ∀ new ∈ renames.map (·.2), Pointer.Literal new

/-- **New names fit**, and giving them meets no taken name. -/
theorem newNames_outcome (reserved : Reserved) (taken names : List String) :
    Outcome BuildError.NotTaken (Fits reserved taken names) (newNames reserved taken names) := by
  induction names generalizing taken with
  | nil => exact .ok ⟨rfl, List.nodup_nil, by simp, by simp, by simp⟩
  | cons name rest ih =>
    rw [newNames]
    split_ifs with hr
    · refine (Allocation.allocateWith_outcome _ _ [name]).bind fun new ⟨ht, hn, hl⟩ => ?_
      refine (ih (new :: taken)).bind fun others h => ?_
      have hnew : new ∉ others.map (·.2) := fun hm => h.fresh new hm List.mem_cons_self
      refine .ok ⟨?_, List.nodup_cons.2 ⟨hnew, h.nodup⟩, ?_, ?_, ?_⟩
      · rw [Entries.keys_cons, h.keys_eq, List.filter_cons_of_pos hr]
      · refine List.forall_mem_cons.2 ⟨by simpa using ht, fun n hm => ?_⟩
        exact fun hm' => h.fresh n hm (List.mem_cons_of_mem _ hm')
      · exact List.forall_mem_cons.2 ⟨hn, h.free⟩
      · exact List.forall_mem_cons.2 ⟨hl, h.literal⟩
    · refine (ih taken).mono fun renames h => ?_
      exact ⟨by rw [h.keys_eq, List.filter_cons_of_neg hr], h.nodup, h.fresh, h.free, h.literal⟩

/-- The name of a schema after a renaming. -/
def renamed (renames : List (String × String)) (name : String) : String :=
  (Entries.find? name renames).getD name

variable {reserved : Reserved} {taken names : List String} {renames : List (String × String)}

theorem find?_eq_some_renamed {name : String} (h : name ∈ Entries.keys renames) :
    Entries.find? name renames = some (renamed renames name) := by
  obtain ⟨new, hf⟩ := Entries.exists_find?_iff.2 h
  rw [renamed, hf, Option.getD_some]

theorem renamed_of_notMem {name : String} (h : name ∉ Entries.keys renames) :
    renamed renames name = name := by
  rw [renamed, Entries.find?_eq_none_iff.2 h, Option.getD_none]

theorem Fits.mem_keys_iff (h : Fits reserved taken names renames) {name : String} :
    name ∈ Entries.keys renames ↔ name ∈ names ∧ reserved.contains name = true := by
  rw [h.keys_eq, List.mem_filter]

theorem Fits.mem_of_mem_keys (h : Fits reserved taken names renames) {name : String}
    (hn : name ∈ Entries.keys renames) : name ∈ names :=
  (h.mem_keys_iff.1 hn).1

theorem Fits.renamed_eq_self (h : Fits reserved taken names renames)
    {name : String} (hn : reserved.contains name = false) : renamed renames name = name := by
  refine renamed_of_notMem fun hk => ?_
  rw [(h.mem_keys_iff.1 hk).2] at hn
  cases hn

theorem Fits.renamed_mem (h : Fits reserved taken names renames)
    {name : String} (hm : name ∈ names) (hn : reserved.contains name = true) :
    (name, renamed renames name) ∈ renames :=
  Entries.mem_of_find? (find?_eq_some_renamed (h.mem_keys_iff.2 ⟨hm, hn⟩))

theorem Fits.free_renamed (h : Fits reserved taken names renames)
    {name : String} (hm : name ∈ names) : reserved.contains (renamed renames name) = false := by
  rcases hn : reserved.contains name with _ | _
  · rw [h.renamed_eq_self hn, hn]
  · exact h.free _ (List.mem_map_of_mem (h.renamed_mem hm hn))

theorem Fits.renamed_ne (h : Fits reserved taken names renames) {name : String}
    (hn : name ∈ Entries.keys renames) : renamed renames name ≠ name := by
  intro he
  have hfree := h.free_renamed (h.mem_of_mem_keys hn)
  rw [he, (h.mem_keys_iff.1 hn).2] at hfree
  cases hfree

/-- **Renaming takes different names to different names.** -/
theorem Fits.renamed_inj (h : Fits reserved (names.filter (!reserved.contains ·)) names renames)
    {name name' : String} (hm : name ∈ names) (hm' : name' ∈ names)
    (he : renamed renames name = renamed renames name') : name = name' := by
  -- a new name is not one that was kept
  have hmixed : ∀ n ∈ names, ∀ n' ∈ names, reserved.contains n = true →
      reserved.contains n' = false → renamed renames n ≠ renamed renames n' := by
    intro n hn n' hn' hr hr' he
    rw [h.renamed_eq_self hr'] at he
    refine h.fresh _ (List.mem_map_of_mem (h.renamed_mem hn hr)) (List.mem_filter.2 ?_)
    exact ⟨he ▸ hn', by simp [he, hr']⟩
  rcases hn : reserved.contains name with _ | _ <;> rcases hn' : reserved.contains name' with _ | _
  · rwa [h.renamed_eq_self hn, h.renamed_eq_self hn'] at he
  · exact absurd he.symm (hmixed _ hm' _ hm hn' hn)
  · exact absurd he (hmixed _ hm _ hm' hn hn')
  · have := List.inj_on_of_nodup_map h.nodup (h.renamed_mem hm hn) (h.renamed_mem hm' hn') he
    exact congrArg Prod.fst this

variable {entries : List (String × OrRef Schema)}

theorem keys_map_renamed (renames : List (String × String)) (es : List (String × OrRef Schema)) :
    Entries.keys (es.map fun e => (renamed renames e.1, e.2)) =
      (Entries.keys es).map (renamed renames) := by
  simp [Entries.keys]

theorem Fits.nodup_renamed
    (h : Fits reserved ((Entries.keys entries).filter (!reserved.contains ·))
      (Entries.keys entries) renames) (hd : (Entries.keys entries).Nodup) :
    ((Entries.keys entries).map (renamed renames)).Nodup :=
  hd.map_on fun _ hm _ hm' => h.renamed_inj hm hm'

/-- **Schemas keep their order and get their new names.** -/
theorem Fits.schemas_eq
    (h : Fits reserved ((Entries.keys entries).filter (!reserved.contains ·))
      (Entries.keys entries) renames) (hd : (Entries.keys entries).Nodup) :
    schemas renames entries = entries.map fun e => (renamed renames e.1, e.2) := by
  have hn : (Entries.keys (entries.map fun e => (renamed renames e.1, e.2))).Nodup := by
    rw [keys_map_renamed]
    exact h.nodup_renamed hd
  exact Entries.ofPairs_eq_self hn

end Renaming

theorem Components.fits_of_newNames {reserved : Reserved} {renames : List (String × String)}
    {c : Components} (h : c.newNames reserved = .ok renames) :
    Renaming.Fits reserved ((Entries.keys c.schemas).filter (!reserved.contains ·))
      (Entries.keys c.schemas) renames :=
  (Renaming.newNames_outcome _ _ _).of_ok h

namespace Document

variable {reserved : Reserved} {renames : List (String × String)} {c : Components}

/-- **After the renaming the component schemas have different names, none of them reserved.** -/
theorem keys_schemas_rename (d : Document) (h : c.newNames reserved = .ok renames)
    (hd : (Entries.keys c.schemas).Nodup) :
    (Entries.keys (d.rename renames c).2.schemas).Nodup ∧
      ∀ name ∈ Entries.keys (d.rename renames c).2.schemas, reserved.contains name = false := by
  have hf := Components.fits_of_newNames h
  rw [rename]
  split_ifs with he
  · refine ⟨hd, fun name hm => ?_⟩
    -- nothing is renamed, so no name was reserved
    have hk := hf.keys_eq
    rw [List.isEmpty_iff.1 he, Entries.keys_nil, eq_comm, List.filter_eq_nil_iff] at hk
    simpa using hk name hm
  · rw [Components.keys_schemas_mapPointers, hf.schemas_eq hd, Renaming.keys_map_renamed]
    refine ⟨hf.nodup_renamed hd, fun name hm => ?_⟩
    obtain ⟨old, hold, rfl⟩ := List.mem_map.1 hm
    exact hf.free_renamed hold

theorem nameSources_rename (renames : List (String × String)) (d : Document) (c : Components) :
    (d.rename renames c).1.nameSources = d.nameSources := by
  rw [rename]
  split_ifs
  · rfl
  · exact d.nameSources_mapPointers _

end Document

end ApiModel
