import ApiModel.Proofs.Tree.Faithful

/-!
# Records field by field

The members of a written record stand under the names of its fields, in the same order, and a member
is left out only where the reader takes nothing as the value that was there.  `Presents` says this of
one field or of several that stand next to each other (`Presents.append`), and `Presents.returns` is
the whole record.
-/

namespace ApiModel

open ApiModel.Tree Json

variable {α : Type} {n : Nat} {name : String} {names : List String}
  {members : List (String × Json)} {read : Tree → Option α} {write : α → Json}

namespace Tree

/-! ### Fields of maps -/

/-- A tree that has its type and no tag. -/
def Plain : Tree → Prop
  | bare _ => False
  | tagged _ _ => False
  | _ => True

theorem Within.plain {t : Tree} (h : t.Within n) : t.Plain := by
  cases h <;> trivial

theorem plain_tree (v : Json) : v.tree.Plain := by
  cases v <;> trivial

theorem tree_ne_null {v : Json} (h : v ≠ .null) : v.tree ≠ .null := by
  cases v with
  | null => exact absurd rfl h
  | _ => simp [Json.tree]

theorem optional?_of_plain {t : Tree} (h : t.Plain) (hnull : t ≠ .null) :
    t.optional? read = (read t).map some := by
  cases t with
  | null => exact absurd rfl hnull
  | bare s => exact h.elim
  | tagged tag t => exact h.elim
  | _ => rfl

/-- **The known fields of a map** are the entries with these names, if none of them is there twice. -/
theorem fieldsOf?_map (names : List String) (entries : List (String × Tree)) :
    fieldsOf? names (entries.map fun e => (.text e.1, e.2)) =
      if (Entries.keys (entries.filter (·.1 ∈ names))).Nodup then
        some (entries.filter (·.1 ∈ names))
      else none := by
  induction entries with
  | nil => rfl
  | cons e entries ih =>
    have hname : fieldName? names (.text e.1) =
        some (if e.1 ∈ names then some e.1 else none) := rfl
    rw [List.map_cons, fieldsOf?, ih, hname]
    by_cases he : e.1 ∈ names
    · rw [List.filter_cons_of_pos (by simpa using he)]
      generalize entries.filter (·.1 ∈ names) = known
      by_cases hnodup : (Entries.keys known).Nodup
      · by_cases hk : e.1 ∈ Entries.keys known <;> simp [he, hnodup, hk]
      · simp [hnodup]
    · rw [List.filter_cons_of_neg (by simpa using he)]
      generalize entries.filter (·.1 ∈ names) = known
      by_cases hnodup : (Entries.keys known).Nodup
      · simp [he, hnodup]
      · simp [hnodup]

theorem fieldsOf?_eq_some {entries fields : List (String × Tree)}
    (h : fieldsOf? names (entries.map fun e => (.text e.1, e.2)) = some fields) :
    fields = entries.filter (·.1 ∈ names) := by
  rw [fieldsOf?_map] at h
  split_ifs at h
  exact (Option.some.inj h).symm

theorem exists_of_fieldsOf?_cons {e : String × Tree} {entries fields : List (String × Tree)}
    (h : fieldsOf? names ((e :: entries).map fun e => (.text e.1, e.2)) = some fields) :
    ∃ later, fieldsOf? names (entries.map fun e => (.text e.1, e.2)) = some later ∧
      (e.1 ∉ names ∧ fields = later ∨
        e.1 ∈ names ∧ Entries.find? e.1 later = none ∧ fields = e :: later) := by
  rw [fieldsOf?_map] at h
  split_ifs at h with hd
  obtain rfl := Option.some.inj h
  by_cases he : e.1 ∈ names
  · rw [List.filter_cons_of_pos (by simpa using he)] at hd ⊢
    rw [Entries.keys_cons, List.nodup_cons, ← Entries.find?_eq_none_iff] at hd
    exact ⟨_, by rw [fieldsOf?_map, if_pos hd.2], .inr ⟨he, hd.1, rfl⟩⟩
  · rw [List.filter_cons_of_neg (by simpa using he)] at hd ⊢
    exact ⟨_, by rw [fieldsOf?_map, if_pos hd], .inl ⟨he, rfl⟩⟩

namespace Record

variable {default : α} {positional : Bool} {k : String} {t : Tree} {fields : List (String × Tree)}

theorem getD?_cons : getD? ⟨positional, (k, t) :: fields⟩ name read default =
    if k = name then read t else getD? ⟨positional, fields⟩ name read default := by
  unfold getD?
  rw [Entries.find?]
  split_ifs <;> rfl

theorem optional?_cons : optional? ⟨positional, (k, t) :: fields⟩ name read =
    if k = name then t.optional? read else optional? ⟨positional, fields⟩ name read := by
  unfold optional?
  rw [Entries.find?]
  split_ifs <;> rfl

theorem getD?_of_none (h : Entries.find? name fields = none) :
    getD? ⟨positional, fields⟩ name read default = some default := by
  rw [getD?, h]

theorem optional?_of_none (h : Entries.find? name fields = none) :
    optional? ⟨false, fields⟩ name read = some none := by
  rw [optional?, h]
  rfl

end Record

theorem Within.fields {t : Tree} {r : Record} (ht : t.Within n) (hr : t.record? names = some r) :
    ∃ m, n = m + 1 ∧ ∀ f ∈ r.fields, f.2.Within m := by
  cases ht with
  | @list m items hitems =>
    rw [record?] at hr
    simp only [untagged] at hr
    split_ifs at hr
    cases hr
    exact ⟨m, rfl, fun f hf => hitems f.2 (List.of_mem_zip hf).2⟩
  | @map m entries hentries =>
    obtain ⟨fields, hfields, rfl⟩ := Option.map_eq_some_iff.1 hr
    refine ⟨m, rfl, fun f hf => hentries f ?_⟩
    rw [fieldsOf?_eq_some hfields] at hf
    exact List.mem_of_mem_filter hf
  | _ => cases hr

/-- A record that was read from an object with these members, as far as these fields go. -/
structure Record.Shows (r : Record) (names : List String) (members : List (String × Json)) :
    Prop where
  /-- Its fields have names. -/
  named : r.positional = false
  /-- A field has the value of the member with its name. -/
  find?_eq : ∀ name ∈ names,
    Entries.find? name r.fields = (Entries.find? name members).map Json.tree

theorem exists_record?_tree (hd : names.Nodup) (hk : (Entries.keys members).Sublist names) :
    ∃ r, (Json.object members).tree.record? names = some r ∧ r.Shows names members := by
  have hfilter : (members.map fun m => (m.1, m.2.tree)).filter (·.1 ∈ names) =
      members.map fun m => (m.1, m.2.tree) := by
    rw [List.filter_eq_self]
    intro e he
    obtain ⟨m, hm, rfl⟩ := List.mem_map.1 he
    simpa using hk.subset (Entries.mem_keys_of_mem hm)
  have hfields := fieldsOf?_map names (members.map fun m => (m.1, m.2.tree))
  rw [hfilter, if_pos (by rw [Entries.keys_map_snd]; exact hk.nodup hd)] at hfields
  refine ⟨⟨false, members.map fun m => (m.1, m.2.tree)⟩, ?_, rfl, fun _ _ => Entries.find?_map _⟩
  rw [Json.tree_object_entries, record?]
  exact congrArg (Option.map fun fields => Record.mk false fields) hfields

end Tree

/-! ### Members -/

/-- **Members present fields**: they stand under the names of the fields in their order, are not
nested too deep, and a record that shows them has a property, which is that the fields are read as
wanted. -/
structure Presents (n : Nat) (names : List String) (members : List (String × Json))
    (P : Record → Prop) : Prop where
  /-- The members stand under the names in their order. -/
  keys : (Entries.keys members).Sublist names
  /-- They are not nested too deep. -/
  fits : ∀ m ∈ members, m.2.Fits n
  /-- A record that shows them has the property. -/
  shows : names.Nodup → ∀ r : Record, r.Shows names members → P r

namespace Presents

variable {names' : List String} {members' : List (String × Json)} {P Q : Record → Prop}

/-- **Fields that stand next to each other.** -/
theorem append (h : Presents n names members P) (h' : Presents n names' members' Q) :
    Presents n (names ++ names') (members ++ members') fun r => P r ∧ Q r := by
  refine ⟨?_, List.forall_mem_append.2 ⟨h.fits, h'.fits⟩, fun hd r hr => ?_⟩
  · rw [Entries.keys_append]
    exact h.keys.append h'.keys
  obtain ⟨hdnames, hdnames', hdisjoint⟩ := List.nodup_append.1 hd
  refine ⟨h.shows hdnames r ⟨hr.named, fun name hname => ?_⟩,
    h'.shows hdnames' r ⟨hr.named, fun name hname => ?_⟩⟩
  · have hother : Entries.find? name members' = none := Entries.find?_eq_none_iff.2 fun hk =>
      hdisjoint name hname name (h'.keys.subset hk) rfl
    rw [hr.find?_eq name (List.mem_append_left _ hname), Entries.find?_append, hother,
      Option.or_none]
  · have hother : Entries.find? name members = none := Entries.find?_eq_none_iff.2 fun hk =>
      hdisjoint name (h.keys.subset hk) name hname rfl
    rw [hr.find?_eq name (List.mem_append_right _ hname), Entries.find?_append, hother,
      Option.none_or]

theorem imp (h : Presents n names members P) (hPQ : ∀ r, P r → Q r) :
    Presents n names members Q :=
  ⟨h.keys, h.fits, fun hd r hr => hPQ r (h.shows hd r hr)⟩

theorem of_some {v : Json} (hv : v.Fits n)
    (h : ∀ r : Record, Entries.find? name r.fields = some v.tree → P r) :
    Presents n [name] [(name, v)] P := by
  refine ⟨List.Sublist.refl _, List.forall_mem_singleton.2 hv, fun _ r hr => h r ?_⟩
  rw [hr.find?_eq name (List.mem_singleton_self name)]
  simp [Entries.find?]

theorem of_none
    (h : ∀ r : Record, r.positional = false → Entries.find? name r.fields = none → P r) :
    Presents n [name] [] P :=
  ⟨List.nil_sublist _, by simp, fun _ r hr =>
    h r hr.named (hr.find?_eq name (List.mem_singleton_self name))⟩

section Field

variable {r : Record} (hr : ∀ f ∈ r.fields, f.2.Within n)
include hr

theorem required (h : Faithful n read write) {v : α} (hv : r.required? name read = some v) :
    Presents n [name] (member name (write v)) (·.required? name read = some v) := by
  obtain ⟨t, ht, hv⟩ := Option.bind_eq_some_iff.1 hv
  have hreturns := h (hr _ (Entries.mem_of_find? ht)) hv
  refine of_some hreturns.fits fun r' hr' => ?_
  rw [Record.required?, hr', Option.bind_some, hreturns.back]

/-- A field that may be missing or null. -/
theorem optional (h : Faithful n read write) {o : Option α}
    (ho : r.optional? name read = some o) :
    Presents n [name] (optionalMember name write o) (·.optional? name read = some o) := by
  cases o with
  | none =>
    refine of_none fun r' hnamed hr' => ?_
    simp [Record.optional?, hr', hnamed]
  | some v =>
    rw [Record.optional?] at ho
    split at ho
    · rename_i t ht
      have hwithin := hr _ (Entries.mem_of_find? ht)
      have hnull : t ≠ .null := by
        rintro rfl
        cases ho
      rw [optional?_of_plain hwithin.plain hnull] at ho
      obtain ⟨v', hv, ho⟩ := Option.map_eq_some_iff.1 ho
      cases ho
      have hreturns := h hwithin hv
      -- the written value is not null, so that it is not taken for a missing one
      have hwritten := tree_ne_null fun hw => hnull (hreturns.null hw)
      refine of_some hreturns.fits fun r' hr' => ?_
      simp only [Record.optional?, hr', optional?_of_plain (plain_tree _) hwritten, hreturns.back,
        Option.map_some]
    · split_ifs at ho
      cases ho

/-- A field with a default that always has a member. -/
theorem always (h : Faithful n read write) {v default : α} (hfits : (write default).Fits n)
    (hback : read (write default).tree = some default)
    (hv : r.getD? name read default = some v) :
    Presents n [name] (member name (write v)) (·.getD? name read default = some v) := by
  suffices hw : (write v).Fits n ∧ read (write v).tree = some v by
    refine of_some hw.1 fun r' hr' => ?_
    simp only [Record.getD?, hr', hw.2]
  rw [Record.getD?] at hv
  split at hv
  · rename_i t ht
    have hreturns := h (hr _ (Entries.mem_of_find? ht)) hv
    exact ⟨hreturns.fits, hreturns.back⟩
  · cases hv
    exact ⟨hfits, hback⟩

/-- A field that has a member because it is not empty. -/
theorem filled {read : Tree → Option (List α)} {write : List α → Json} (h : Faithful n read write)
    {vs : List α} (hne : vs ≠ []) (hvs : r.getD? name read [] = some vs) :
    Presents n [name] [(name, write vs)] (·.getD? name read [] = some vs) := by
  rw [Record.getD?] at hvs
  split at hvs
  · rename_i t ht
    have hreturns := h (hr _ (Entries.mem_of_find? ht)) hvs
    refine of_some hreturns.fits fun r' hr' => ?_
    simp only [Record.getD?, hr', hreturns.back]
  · cases hvs
    exact absurd rfl hne

theorem list (h : ∀ m, n = m + 1 → Faithful m read write) {vs : List α}
    (hvs : r.getD? name (list? read) [] = some vs) :
    Presents n [name] (listMember name write vs) (·.getD? name (list? read) [] = some vs) := by
  cases vs with
  | nil => exact of_none fun r' _ hr' => by simp only [Record.getD?, hr']
  | cons v vs => exact filled hr (Faithful.list h) (List.cons_ne_nil v vs) hvs

theorem entries (h : ∀ m, n = m + 1 → Faithful m read write) {es : List (String × α)}
    (hes : r.getD? name (entriesOf? read) [] = some es) :
    Presents n [name] (mapMember name write es) (·.getD? name (entriesOf? read) [] = some es) := by
  cases es with
  | nil => exact of_none fun r' _ hr' => by simp only [Record.getD?, hr']
  | cons e es => exact filled hr (Faithful.entries h) (List.cons_ne_nil e es) hes

end Field

/-- **A record is read back from the object of its members.** -/
theorem returns {t : Tree} {v : α} (h : Presents n names members P) (known : List String)
    (hk : known = names) (hd : known.Nodup) (hw : write v = .object members)
    (hread : ∀ r, (write v).tree.record? known = some r → P r → read (write v).tree = some v) :
    Returns (n + 1) read write t v := by
  subst hk
  obtain ⟨r, hr, hshows⟩ := exists_record?_tree hd h.keys
  rw [← hw] at hr
  refine ⟨hw ▸ .object h.fits, fun hnull => ?_, hread r hr (h.shows hd r hshows)⟩
  rw [hw] at hnull
  cases hnull

end Presents

end ApiModel
