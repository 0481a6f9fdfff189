import ApiModel.Document.Print
import ApiModel.Proofs.Tree.Fields

/-!
# References and inline values

Where a reference may stand, a map with a text under `$ref` is taken for one.  No part of a document
is written with such a member, so that an inline value never turns into a reference, nor the other way
round (`OrRef.faithful`).  Settling the types of such a place first changes nothing in a JSON text.
-/

namespace ApiModel

open ApiModel.Tree Json

variable {α : Type} {n : Nat}

/-! ### Settled types -/

namespace Tree

theorem typedItems?_eq (items : List Tree) : typedItems? items = items.mapM typed? := by
  induction items with
  | nil => rfl
  | cons t rest ih =>
    rw [typedItems?, ih, List.mapM_cons]
    rfl

theorem typedEntries?_map (entries : List (String × Tree)) :
    typedEntries? (entries.map fun e => (.text e.1, e.2)) =
      entries.mapM fun e => (typed? e.2).map fun t => (.text e.1, t) := by
  induction entries with
  | nil => rfl
  | cons e rest ih =>
    rw [List.map_cons, typedEntries?, ih, List.mapM_cons]
    cases typed? e.2 <;> simp [typed?]

/-- **A tree of a JSON text has its types already.** -/
theorem Within.typed?_eq {t t' : Tree} (ht : t.Within n) (h : t.typed? = some t') : t' = t := by
  induction ht generalizing t' with
  | unreadable => cases h
  | @list n items hitems ih =>
    clear hitems
    rw [typed?, typedItems?_eq, Option.map_eq_some_iff] at h
    obtain ⟨items', hitems, rfl⟩ := h
    have hall := mapM_eq_some_iff.1 hitems
    suffices hs : items' = items by rw [hs]
    clear hitems
    induction hall with
    | nil => rfl
    | cons ht _ ihs =>
      rw [ih _ List.mem_cons_self ht, ihs fun t ht => ih t (List.mem_cons_of_mem _ ht)]
  | @map n entries hentries ih =>
    clear hentries
    rw [typed?, typedEntries?_map, Option.map_eq_some_iff] at h
    obtain ⟨entries', hentries, rfl⟩ := h
    have hall := mapM_eq_some_iff.1 hentries
    suffices hs : entries' = entries.map fun e => (.text e.1, e.2) by rw [hs]
    clear hentries
    induction hall with
    | nil => rfl
    | cons he _ ihs =>
      obtain ⟨t, ht, rfl⟩ := Option.map_eq_some_iff.1 he
      rw [ih _ List.mem_cons_self ht, ihs fun e he => ih e (List.mem_cons_of_mem _ he),
        List.map_cons]
  | _ =>
    cases h
    rfl

theorem typed?_tree {v : Json} (h : v.Fits n) : v.tree.typed? = some v.tree := by
  induction h with
  | @array n items _ ih =>
    have hitems : (items.map tree).mapM typed? = some (items.map tree) :=
      mapM_eq_some_iff.2 (List.forall₂_same.2 (List.forall_mem_map.2 ih))
    rw [tree_array, typed?, typedItems?_eq, hitems]
    rfl
  | @object n members _ ih =>
    have hmembers : (members.map fun m => (m.1, m.2.tree)).mapM
        (fun e => (typed? e.2).map fun t => (Tree.text e.1, t)) =
          some ((members.map fun m => (m.1, m.2.tree)).map fun e => (.text e.1, e.2)) := by
      rw [mapM_eq_some_iff, List.forall₂_map_right_iff, List.forall₂_same]
      refine List.forall_mem_map.2 fun m hm => ?_
      rw [ih m hm, Option.map_some]
    rw [tree_object_entries, typed?, typedEntries?_map, hmembers]
    rfl
  | _ => rfl

end Tree

/-! ### Pointers -/

section Members

variable {k name : String} (h : k ≠ name)
include h

theorem notMem_keys_member (v : Json) : k ∉ Entries.keys (member name v) := by
  simp [member, h]

theorem notMem_keys_optionalMember (f : α → Json) (o : Option α) :
    k ∉ Entries.keys (optionalMember name f o) := by
  cases o <;> simp [optionalMember, h]

theorem notMem_keys_mapMember (f : α → Json) (es : List (String × α)) :
    k ∉ Entries.keys (mapMember name f es) := by
  cases es <;> simp [mapMember, h]

end Members

theorem pointer?_object {members : List (String × Json)} (h : "$ref" ∉ Entries.keys members) :
    (Json.object members).tree.pointer? = none := by
  have hfilter : (members.map fun m => (m.1, m.2.tree)).filter (·.1 ∈ ["$ref"]) = [] := by
    rw [List.filter_eq_nil_iff]
    intro e he hname
    obtain ⟨m, hm, rfl⟩ := List.mem_map.1 he
    have hkey : m.1 = "$ref" := by simpa using hname
    exact h (hkey ▸ Entries.mem_keys_of_mem hm)
  have hfields := fieldsOf?_map ["$ref"] (members.map fun m => (m.1, m.2.tree))
  rw [hfilter, Entries.keys_nil, if_pos List.nodup_nil] at hfields
  rw [tree_object_entries]
  exact congrArg (fun fields => fields.bind fun fs => (Entries.find? "$ref" fs).bind string?) hfields

namespace OrRef

variable {read : Tree → Option α} {write : α → Json} {p : String}

theorem pointer?_refJson (p : String) : (refJson p).tree.pointer? = some p :=
  rfl

theorem fits_refJson {t : Tree} (ht : t.Within n) (hp : t.pointer? = some p) :
    (refJson p).Fits n := by
  cases ht with
  | map _ => exact .object (List.forall_mem_singleton.2 (.string p))
  | _ => cases hp

/-- **A reference stays one, and so does an inline value.** -/
theorem faithful (h : Faithful n read write) (hinline : ∀ v, (write v).tree.pointer? = none) :
    Faithful n (OrRef.ofTree? read) (OrRef.toJson write) := by
  intro t v ht hv
  rw [ofTree?, Option.bind_eq_some_iff] at hv
  obtain ⟨t', ht', hmatch⟩ := hv
  obtain rfl := ht.typed?_eq ht'
  split at hmatch
  · rename_i p hp
    cases hmatch
    have hfits := fits_refJson ht hp
    refine ⟨hfits, nofun, ?_⟩
    rw [toJson, ofTree?, typed?_tree hfits, Option.bind_some, pointer?_refJson]
  · obtain ⟨v, hv, rfl⟩ := Option.map_eq_some_iff.1 hmatch
    have hreturns := h ht hv
    refine ⟨hreturns.fits, hreturns.null, ?_⟩
    rw [toJson, ofTree?, typed?_tree hreturns.fits, Option.bind_some, hinline, hreturns.back]
    rfl

end OrRef

end ApiModel
