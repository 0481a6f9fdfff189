import ApiModel.Document.Print
import ApiModel.Proofs.Document.Parse
import ApiModel.Proofs.Json.Printed
import ApiModel.Proofs.Json.Within
import Mathlib.Data.String.Basic

/-!
# Readers and writers that belong together

A writer is faithful to a reader when every value that was read from a JSON text is written so that it
is read back as the same value (`Faithful`).  Writing may not need more levels than the text had, and
only the missing value may be written as such, since a field that is null counts as missing.  There is
one lemma for each way of reading: texts, choices, lists, maps and free-form values here, and records
field by field (`Presents`).
-/

namespace ApiModel

open ApiModel.Tree

variable {α β : Type} {n : Nat}

/-- A value is nested at most so deep, and its whole numbers have 64 bits. -/
abbrev Json.Fits (n : Nat) (v : Json) : Prop :=
  v.Nested (fun x => ∀ i, x = .int i → x.Valid) n

/-- How a value that was read from a tree is written. -/
structure Returns (n : Nat) (read : Tree → Option α) (write : α → Json) (t : Tree) (v : α) :
    Prop where
  /-- It is not nested deeper than the tree may be. -/
  fits : (write v).Fits n
  /-- It is null only if the tree is. -/
  null : write v = .null → t = .null
  /-- It is read back. -/
  back : read (write v).tree = some v

/-- **What is read from a JSON text and written is read back.** -/
def Faithful (n : Nat) (read : Tree → Option α) (write : α → Json) : Prop :=
  ∀ {t v}, t.Within n → read t = some v → Returns n read write t v

/-! ### Scalars -/

theorem faithful_string : Faithful n string? .string := by
  intro t s ht h
  cases ht with
  | text s' =>
    cases h
    exact ⟨.string s, nofun, rfl⟩
  | _ => cases h

theorem faithful_bool : Faithful n bool? .bool := by
  intro t b ht h
  cases ht with
  | bool b' =>
    cases h
    exact ⟨.bool b, nofun, rfl⟩
  | _ => cases h

theorem faithful_binary64 : Faithful n binary64? Json.ofBinary64 := by
  intro t x _ _
  exact ⟨.number nofun, nofun, rfl⟩

theorem faithful_nat : Faithful n nat? Json.ofNat := by
  intro t k ht h
  cases ht with
  | @number n x hx =>
    cases x with
    | float x => cases h
    | int i =>
      rw [nat?] at h
      split_ifs at h with hi
      cases h
      have hk : ((i.toNat : Nat) : Int) = i := Int.toNat_of_nonneg hi
      refine ⟨.number ?_, nofun, ?_⟩
      · rintro j ⟨⟩
        rw [hk]
        exact hx
      · rw [Json.ofNat, hk, Json.tree, nat?, if_pos hi]
  | _ => cases h

/-- A name out of several, when each is found under its own name. -/
theorem faithful_choice {names : List (String × α)} {name : α → String}
    (hnames : ∀ a, Entries.find? (name a) names = some a) :
    Faithful n (choice? names) fun a => .string (name a) := by
  intro t a _ _
  exact ⟨.string _, nofun, hnames a⟩

/-! ### Lists and maps -/

variable {read : Tree → Option α} {write : α → Json}

theorem Faithful.list (h : ∀ m, n = m + 1 → Faithful m read write) :
    Faithful n (list? read) fun vs => .array (vs.map write) := by
  intro t vs ht hread
  cases ht with
  | @list m items hitems =>
    have hall : List.Forall₂ (fun t v => read t = some v) items vs := mapM_eq_some_iff.1 hread
    have hback : ∀ v ∈ vs, (write v).Fits m ∧ read (write v).tree = some v := by
      intro v hv
      obtain ⟨t, ht, hv⟩ := exists_of_mem_right hall hv
      have hr := h m rfl (hitems t ht) hv
      exact ⟨hr.fits, hr.back⟩
    refine ⟨.array ?_, nofun, ?_⟩
    · intro w hw
      obtain ⟨v, hv, rfl⟩ := List.mem_map.1 hw
      exact (hback v hv).1
    · rw [Json.tree_array, List.map_map]
      exact mapM_map_eq_some fun v hv => (hback v hv).2
  | _ => cases hread

/-- How the entries of a map are read. -/
theorem entriesOf?_map (entries : List (String × Tree)) :
    entriesOf? read (.map true (entries.map fun e => (.text e.1, e.2))) =
      (entries.mapM fun e => (read e.2).map fun v => (e.1, v)).map Entries.ofPairs := by
  have hm : (entries.map fun e => (Tree.text e.1, e.2)).mapM (fun (e : Tree × Tree) => do
      let k ← e.1.string?
      let v ← read e.2
      some (k, v)) = entries.mapM fun e => (read e.2).map fun v => (e.1, v) := by
    induction entries with
    | nil => rfl
    | cons e entries ih =>
      rw [List.map_cons, List.mapM_cons, List.mapM_cons, ih]
      cases read e.2 <;> simp [string?, untagged]
  rw [← hm]
  simp only [entriesOf?, entries?, untagged, Option.bind_eq_bind, Option.bind_some,
    Option.map_eq_bind]
  rfl

theorem Faithful.entries (h : ∀ m, n = m + 1 → Faithful m read write) :
    Faithful n (entriesOf? read) (Json.ofEntries write) := by
  intro t vs ht hread
  cases ht with
  | @map m entries hentries =>
    rw [entriesOf?_map, Option.map_eq_some_iff] at hread
    obtain ⟨pairs, hpairs, rfl⟩ := hread
    have hall := mapM_eq_some_iff.1 hpairs
    have hback : ∀ p ∈ Entries.ofPairs pairs,
        (write p.2).Fits m ∧ read (write p.2).tree = some p.2 := by
      intro p hp
      obtain ⟨e, he, hpair⟩ := exists_of_mem_right hall (Entries.mem_of_mem_ofPairs hp)
      obtain ⟨v, hv, rfl⟩ := Option.map_eq_some_iff.1 hpair
      have hr := h m rfl (hentries e he) hv
      exact ⟨hr.fits, hr.back⟩
    refine ⟨.object ?_, nofun, ?_⟩
    · intro w hw
      obtain ⟨p, hp, rfl⟩ := List.mem_map.1 hw
      exact (hback p hp).1
    · have hm : ((Entries.ofPairs pairs).map fun p => (p.1, (write p.2).tree)).mapM
          (fun e => (read e.2).map fun v => (e.1, v)) = some (Entries.ofPairs pairs) :=
        mapM_map_eq_some fun p hp => by simp only [(hback p hp).2, Option.map_some]
      rw [Json.ofEntries, Json.tree_object_entries, entriesOf?_map, List.map_map]
      refine (congrArg (Option.map Entries.ofPairs) hm).trans ?_
      rw [Option.map_some, Entries.ofPairs_eq_self (Entries.nodup_ofPairs pairs)]
  | _ => cases hread

/-! ### Free-form values -/

namespace Json

/-- Members are ordered by name, and none is there twice. -/
def Sorted (members : List (String × Json)) : Prop :=
  members.Pairwise fun m m' => m.1 < m'.1

variable {name : String} {v : Json} {sorted : List (String × Json)}

theorem mem_of_mem_insertMember {m : String × Json} (h : m ∈ insertMember name v sorted) :
    m = (name, v) ∨ m ∈ sorted := by
  induction sorted with
  | nil => exact .inl (List.mem_singleton.1 h)
  | cons w rest ih =>
    rw [insertMember] at h
    split_ifs at h
    · exact List.mem_cons.1 h
    · exact (List.mem_cons.1 h).imp_right (List.mem_cons_of_mem _)
    · rcases List.mem_cons.1 h with rfl | h
      · exact .inr List.mem_cons_self
      · exact (ih h).imp_right (List.mem_cons_of_mem _)

theorem Sorted.insertMember (h : Sorted sorted) : Sorted (insertMember name v sorted) := by
  induction sorted with
  | nil => exact List.pairwise_singleton _ _
  | cons w rest ih =>
    obtain ⟨hw, hrest⟩ := List.pairwise_cons.1 h
    rw [Json.insertMember]
    split_ifs with hlt heq
    · refine List.pairwise_cons.2 ⟨List.forall_mem_cons.2 ⟨hlt, fun m hm => ?_⟩, h⟩
      exact hlt.trans (hw m hm)
    · exact List.pairwise_cons.2 ⟨fun m hm => heq ▸ hw m hm, hrest⟩
    · refine List.pairwise_cons.2 ⟨fun m hm => ?_, ih hrest⟩
      rcases mem_of_mem_insertMember hm with rfl | hm
      · exact lt_of_le_of_ne (not_lt.1 hlt) (Ne.symm heq)
      · exact hw m hm

/-- A member behind all others goes to the end. -/
theorem insertMember_of_lt (h : ∀ m ∈ sorted, m.1 < name) :
    insertMember name v sorted = sorted ++ [(name, v)] := by
  induction sorted with
  | nil => rfl
  | cons w rest ih =>
    rw [List.forall_mem_cons] at h
    rw [insertMember, if_neg (not_lt_of_gt h.1), if_neg (Ne.symm (ne_of_lt h.1)), ih h.2,
      List.cons_append]

theorem sorted_sortMembers (members : List (String × Json)) : Sorted (sortMembers members) :=
  List.foldlRecOn members _ List.Pairwise.nil fun _ h _ _ => h.insertMember

theorem mem_of_mem_sortMembers {m : String × Json} {members : List (String × Json)}
    (h : m ∈ sortMembers members) : m ∈ members := by
  suffices hs : ∀ sorted, m ∈ members.foldl (fun sorted e => insertMember e.1 e.2 sorted) sorted →
      m ∈ sorted ∨ m ∈ members from (hs [] h).resolve_left List.not_mem_nil
  clear h
  induction members with
  | nil => exact fun _ h => .inl h
  | cons e members ih =>
    intro sorted h
    rcases ih _ h with h | h
    · rcases mem_of_mem_insertMember h with rfl | h
      · exact .inr List.mem_cons_self
      · exact .inl h
    · exact .inr (List.mem_cons_of_mem _ h)

/-- **Sorted members are left as they are.** -/
theorem Sorted.sortMembers_eq {members : List (String × Json)} (h : Sorted members) :
    sortMembers members = members := by
  suffices hs : ∀ before, Sorted (before ++ members) →
      members.foldl (fun sorted e => Json.insertMember e.1 e.2 sorted) before = before ++ members
      from hs [] h
  clear h
  induction members with
  | nil => exact fun before _ => (List.append_nil before).symm
  | cons e members ih =>
    intro before h
    have hlast : ∀ m ∈ before, m.1 < e.1 := fun m hm =>
      (List.pairwise_append.1 h).2.2 m hm e List.mem_cons_self
    rw [List.foldl_cons, insertMember_of_lt hlast, ih _ (by simpa using h), List.append_assoc,
      List.singleton_append]

end Json

theorem jsonItems?_eq (items : List Tree) : jsonItems? items = items.mapM json? := by
  induction items with
  | nil => rfl
  | cons t rest ih =>
    rw [jsonItems?, ih, List.mapM_cons]
    rfl

theorem jsonMembers?_map (entries : List (String × Tree)) :
    jsonMembers? (entries.map fun e => (.text e.1, e.2)) =
      entries.mapM fun e => (json? e.2).map fun v => (e.1, v) := by
  induction entries with
  | nil => rfl
  | cons e rest ih =>
    rw [List.map_cons, jsonMembers?, ih, List.mapM_cons]
    cases json? e.2 <;> simp [string?, untagged]

section Parts

variable {m : Nat} {v : Json}

theorem returns_json_list (ih : Faithful m json? id) {items : List Tree}
    (hitems : ∀ t ∈ items, t.Within m) (h : json? (.list true items) = some v) :
    Returns (m + 1) json? id (.list true items) v := by
  rw [json?, jsonItems?_eq, Option.map_eq_some_iff] at h
  obtain ⟨vs, hvs, rfl⟩ := h
  have hr := Faithful.list (fun k hk => Nat.succ.inj hk ▸ ih) (.list hitems) hvs
  have hfits := hr.fits
  have hback := hr.back
  simp only [List.map_id, Json.tree_array] at hfits hback
  refine ⟨hfits, nofun, ?_⟩
  rw [id, Json.tree_array, json?, jsonItems?_eq]
  exact congrArg (Option.map Json.array) hback

theorem returns_json_map (ih : Faithful m json? id) {entries : List (String × Tree)}
    (hentries : ∀ e ∈ entries, e.2.Within m)
    (h : json? (.map true (entries.map fun e => (.text e.1, e.2))) = some v) :
    Returns (m + 1) json? id (.map true (entries.map fun e => (.text e.1, e.2))) v := by
  rw [json?, jsonMembers?_map, Option.map_eq_some_iff] at h
  obtain ⟨members, hmembers, rfl⟩ := h
  have hall := mapM_eq_some_iff.1 hmembers
  have hback : ∀ e ∈ Json.sortMembers members, e.2.Fits m ∧ json? e.2.tree = some e.2 := by
    intro e he
    obtain ⟨p, hp, hpair⟩ := exists_of_mem_right hall (Json.mem_of_mem_sortMembers he)
    obtain ⟨v, hv, rfl⟩ := Option.map_eq_some_iff.1 hpair
    have hr := ih (hentries p hp) hv
    exact ⟨hr.fits, hr.back⟩
  refine ⟨.object fun e he => (hback e he).1, nofun, ?_⟩
  have hm : ((Json.sortMembers members).map fun e => (e.1, e.2.tree)).mapM
      (fun e => (json? e.2).map fun v => (e.1, v)) = some (Json.sortMembers members) :=
    mapM_map_eq_some fun e he => by simp only [(hback e he).2, Option.map_some]
  -- sorting what is sorted changes nothing
  rw [id, Json.tree_object_entries, json?, jsonMembers?_map, hm, Option.map_some,
    (Json.sorted_sortMembers members).sortMembers_eq]

end Parts

/-- **Free-form values.** -/
theorem faithful_json : Faithful n json? id := by
  induction n using Nat.strong_induction_on with
  | _ n ih =>
    intro t v ht h
    cases ht with
    | null =>
      cases h
      exact ⟨.null, fun _ => rfl, rfl⟩
    | bool b =>
      cases h
      exact ⟨.bool b, nofun, rfl⟩
    | @number n x hx =>
      cases x with
      | int i =>
        cases h
        refine ⟨.number ?_, nofun, rfl⟩
        rintro j ⟨⟩
        exact hx
      | float x =>
        -- a number that was read from a text is finite
        have hv : scalarJson? (.number (.float x)) = some (.number (.float x)) := by
          simp only [scalarJson?, if_pos (show x.isFinite = true from hx)]
        obtain rfl := Option.some.inj (hv.symm.trans h)
        exact ⟨.number nofun, nofun, hv⟩
    | text s =>
      cases h
      exact ⟨.string s, nofun, rfl⟩
    | unreadable => cases h
    | list hitems => exact returns_json_list (ih _ (Nat.lt_succ_self _)) hitems h
    | map hentries => exact returns_json_map (ih _ (Nat.lt_succ_self _)) hentries h

end ApiModel
