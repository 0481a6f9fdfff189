import ApiModel.Proofs.Document.Walk
import ApiModel.Proofs.Naming.Choice
import ApiModel.Proofs.Naming.Local
import ApiModel.Proofs.Naming.Stable

/-!
# Names that are given

A namer never gives a name twice (`Namer.nodup_given`), because the name that it chooses is not
taken.  What it gives is stable if ids and paths are ASCII texts and the aliases are stable after
one casing (`Namer.stable_of_mem_given`).  One casing of an ASCII text need not be stable, for
`a_b_c` becomes `aBC` and this becomes `aBc`; but two always are, so that a name that was cased
twice before it was given is the name that is shown (`Namer.camelOf_twice`).
-/

namespace ApiModel

namespace Namer

open Text

variable {n : Namer} {taken : List String} {name : String}

/-! ### Names are fresh -/

/-- The names that a namer gives one after the other. -/
def given (n : Namer) : List NameSource → List String
  | [] => []
  | (path, method, id) :: rest =>
    (n.assign method path id).1 :: given (n.assign method path id).2 rest

/-- **No name is given twice.** -/
theorem nodup_given (n : Namer) (sources : List NameSource) :
    (n.given sources).Nodup ∧ ∀ name ∈ n.given sources, name ∉ n.taken := by
  induction sources generalizing n with
  | nil => exact ⟨List.nodup_nil, by simp [given]⟩
  | cons source rest ih =>
    obtain ⟨path, method, id⟩ := source
    obtain ⟨hd, hn⟩ := ih (n.assign method path id).2
    have hfirst : (n.assign method path id).1 ∉ n.taken := (chosen_assign n method path id).notMem
    refine ⟨List.nodup_cons.2 ⟨fun hm => hn _ hm List.mem_cons_self, hd⟩, ?_⟩
    refine List.forall_mem_cons.2 ⟨hfirst, fun name hm ht => hn name hm ?_⟩
    exact List.mem_cons_of_mem _ ht

/-! ### Names are stable -/

/-- A name of ASCII letters and digits, at least one. -/
def Usable (name : String) : Prop :=
  Plain name.toList ∧ name.toList ≠ []

theorem usable_of_camel? {s : List Char} (hs : Ascii s) (h : OperationId.camel? s = some name) :
    Usable name := by
  obtain ⟨hne, rfl⟩ := OperationId.camel?_eq_some_iff.1 h
  rw [Usable, String.toList_ofList]
  exact ⟨plain_camel hs, hne⟩

theorem usable_fullName {id : String} (hid : Ascii id.toList)
    (h : OperationId.fullName? id = some name) : Usable name := by
  rw [OperationId.fullName?_eq_camel?] at h
  exact usable_of_camel? hid h

theorem usable_localName {id : String} (hid : Ascii id.toList)
    (h : OperationId.localName? id = some name) : Usable name := by
  obtain ⟨part, hpart, h⟩ := OperationId.exists_part_of_localName? h
  exact usable_of_camel? (fun c hc => hid c (mem_of_mem_split hpart hc).1) h

theorem usable_lowerName (m : Method) : Usable m.lowerName := by
  cases m <;> exact ⟨by decide +kernel, by decide⟩

theorem usable_primary {explicit : Option String} {route : String}
    (hid : ∀ id ∈ explicit, Ascii id.toList) (hr : Usable route) :
    Usable ((explicit.bind OperationId.localName?).getD route) := by
  rcases hl : explicit.bind OperationId.localName? with _ | l
  · exact hr
  · obtain ⟨i, hi, hi'⟩ := Option.bind_eq_some_iff.1 hl
    exact usable_localName (hid i hi) hi'

/-- The route of an ASCII path gives letters and digits: those of the method at least. -/
theorem usable_routeName {path : String} (hp : Ascii path.toList) (m : Method) :
    Usable (routeName m path) := by
  obtain ⟨hm, hne⟩ := usable_lowerName m
  rw [routeName]
  split
  · exact ⟨hm, hne⟩
  · obtain ⟨c, cs, hc⟩ := List.exists_cons_of_ne_nil hne
    have hs : Ascii (m.lowerName.toList ++ ' ' :: [' '].intercalate (runs path.toList)) := by
      refine ascii_append hm.ascii (List.forall_mem_cons.2 ⟨by decide, ?_⟩)
      exact ascii_intercalate (by decide +kernel) fun w hw => (plain_of_mem_runs hp hw).1.ascii
    rw [Usable, String.toList_ofList]
    refine ⟨plain_camel hs, camel_ne_nil hs (c := c) ?_ (hm c ?_)⟩ <;> simp [hc]

/-- What namers are given that makes all names stable: ids and paths are ASCII texts, and the
aliases too, which casing them twice does not change further. -/
structure Settling (aliases : List (String × String)) (sources : List NameSource) : Prop where
  /-- Paths are ASCII texts. -/
  path : ∀ source ∈ sources, Ascii source.1.toList
  /-- Ids are ASCII texts. -/
  id : ∀ source ∈ sources, ∀ id ∈ source.2.2, Ascii id.toList
  /-- Aliases are ASCII texts. -/
  ascii : ∀ a ∈ aliases, Ascii a.2.toList
  /-- Casing an alias twice gives the same as casing it once. -/
  camel : ∀ a ∈ aliases, Name.camelOf (Name.camelOf a.2) = Name.camelOf a.2

variable {aliases : List (String × String)} {source : NameSource} {sources : List NameSource}

theorem Settling.tail (h : Settling aliases (source :: sources)) : Settling aliases sources where
  path s hs := h.path s (List.mem_cons_of_mem _ hs)
  id s hs := h.id s (List.mem_cons_of_mem _ hs)
  ascii := h.ascii
  camel := h.camel

theorem Settling.stable_alias (h : Settling aliases sources) {key v : String}
    (hv : Entries.find? key aliases = some v) : Name.Stable (Name.camelOf v) := by
  have hm := Entries.mem_of_find? hv
  obtain ⟨hp, hne⟩ := Name.plain_camelOf (h.ascii (key, v) hm)
  exact Name.stable_of_camelOf_eq hp hne (h.camel (key, v) hm)

theorem alias_or_usable {path : String} {method : Method} {id : Option String}
    (h : Settling n.aliases ((path, method, id) :: sources)) {proposal : String}
    (hp : proposal ∈ n.proposals method path id) :
    (∃ key, Entries.find? key n.aliases = some proposal) ∨ Usable proposal := by
  have hroute := usable_routeName (h.path _ List.mem_cons_self) method
  have hid : ∀ i ∈ n.explicitId? id, Ascii i.toList := by
    intro i hi
    rw [explicitId?] at hi
    split at hi
    · exact h.id _ List.mem_cons_self i hi
    · cases hi
  rw [proposals] at hp
  generalize n.explicitId? id = explicit at hid hp
  have hu := usable_primary hid hroute
  generalize (explicit.bind OperationId.localName?).getD (routeName method path) = primary at hp hu
  simp only [List.cons_append, List.mem_cons, List.mem_append, Option.mem_toList,
    List.not_mem_nil, or_false] at hp
  rcases hp with hp | hp | hp
  -- the first proposal is the alias of the id or of the primary name, or that name
  · rcases hd : explicit.bind (Entries.find? · n.aliases) with _ | v
    · rw [hd, Option.orElse_eq_orElse, Option.orElse_none] at hp
      rcases ha : Entries.find? primary n.aliases with _ | v
      · rw [ha, Option.getD_none] at hp
        exact .inr (hp ▸ hu)
      · rw [ha, Option.getD_some] at hp
        exact .inl ⟨primary, hp ▸ ha⟩
    · obtain ⟨i, -, ha⟩ := Option.bind_eq_some_iff.1 hd
      rw [hd] at hp
      exact .inl ⟨i, hp ▸ ha⟩
  · obtain ⟨i, hi, hf⟩ := Option.bind_eq_some_iff.1 hp
    exact .inr (usable_fullName (hid i hi) hf)
  · exact .inr (hp ▸ hroute)

/-- **The candidates for a name are stable.** -/
theorem stable_candidates {path : String} {method : Method} {id : Option String}
    (h : Settling n.aliases ((path, method, id) :: sources)) :
    ∀ name ∈ n.candidates method path id, Name.Stable name := by
  intro name hn
  obtain ⟨proposal, hp, rfl⟩ := List.mem_map.1 hn
  rcases alias_or_usable h hp with ⟨key, ha⟩ | hu
  · exact h.stable_alias ha
  · exact Name.stable_camelOf hu.1 hu.2

theorem Chosen.stable {candidates : List String} (h : Chosen taken candidates name)
    (hs : ∀ c ∈ candidates, Name.Stable c) : Name.Stable name := by
  cases h with
  | free h =>
    obtain ⟨before, after, rfl, -⟩ := h
    exact hs name (by simp)
  | @numbered first rest k _ _ _ => exact (hs first List.mem_cons_self).append_number k

/-- **All names that are given are stable.** -/
theorem stable_of_mem_given (h : Settling n.aliases sources) :
    ∀ name ∈ n.given sources, Name.Stable name := by
  induction sources generalizing n with
  | nil => simp [given]
  | cons source rest ih =>
    obtain ⟨path, method, id⟩ := source
    refine List.forall_mem_cons.2 ⟨?_, ih h.tail⟩
    exact (chosen_assign n method path id).stable (stable_candidates h)

/-! ### Names that are cased twice -/

theorem stable_camelOf_camelOf {x : String} (hx : Ascii x.toList) :
    Name.Stable (Name.camelOf (Name.camelOf x)) := by
  obtain ⟨hp, hne⟩ := Name.plain_camelOf hx
  exact Name.stable_camelOf hp hne

theorem settling_of_cased {aliases : List (String × String)} {source : NameSource}
    (hpath : Ascii source.1.toList) (hid : ∀ id ∈ source.2.2, Ascii id.toList)
    (haliases : ∀ a ∈ aliases, ∃ x : String, Ascii x.toList ∧ a.2 = Name.camelOf x) :
    Settling aliases [source] := by
  constructor
  case path => exact List.forall_mem_singleton.2 hpath
  case id => exact List.forall_mem_singleton.2 hid
  case ascii =>
    intro a ha
    obtain ⟨x, hx, he⟩ := haliases a ha
    rw [he]
    exact (Name.plain_camelOf hx).1.ascii
  case camel =>
    intro a ha
    obtain ⟨x, hx, he⟩ := haliases a ha
    rw [he]
    exact (stable_camelOf_camelOf hx).camelOf_eq

/-- **Casing is stable after two passes**, also with a number behind the result.  So a name that is
recorded as taken is the name that is shown, with or without a number, when the aliases are cased
already: the ids and the routes are. -/
theorem camelOf_twice :
    (∀ x : String, Ascii x.toList →
      Name.camelOf (Name.camelOf (Name.camelOf x)) = Name.camelOf (Name.camelOf x) ∧
      ∀ k : Nat, Name.camelOf (Name.camelOf (Name.camelOf x) ++ toString k) =
        Name.camelOf (Name.camelOf x) ++ toString k) ∧
    ∀ (n : Namer) (method : Method) (path : String) (id : Option String),
      Ascii path.toList → (∀ i ∈ id, Ascii i.toList) →
      (∀ a ∈ n.aliases, ∃ x : String, Ascii x.toList ∧ a.2 = Name.camelOf x) →
      ∃ name, n.assign method path id = (name, { n with taken := name :: n.taken }) ∧
        Name.camelOf name = name := by
  constructor
  · intro x hx
    have hstable := stable_camelOf_camelOf hx
    exact ⟨hstable.camelOf_eq, fun k => (hstable.append_number k).camelOf_eq⟩
  · intro n method path id hpath hid haliases
    have hsettling : Settling n.aliases [(path, method, id)] :=
      settling_of_cased hpath hid haliases
    have hstable : Name.Stable (n.assign method path id).1 :=
      (chosen_assign n method path id).stable (stable_candidates hsettling)
    exact ⟨_, rfl, hstable.camelOf_eq⟩

/-- A namer with a cased alias that has given all the candidates for an operation. -/
def busy : Namer where
  aliases := [("users", "aBC")]
  taken := ["aBc", "users", "getUsers"]

theorem camelOf_twice_busy :
    Name.camelOf "a_b_c" = "aBC" ∧ Name.camelOf "aBC" = "aBc" ∧ Name.camelOf "aBc" = "aBc" ∧
      Name.camelOf ("aBc" ++ toString 2) = "aBc" ++ toString 2 ∧
      ∃ name, name = "aBc" ++ toString 2 ∧ (busy.assign .get "/users" (some "users")).1 = name ∧
        Name.camelOf name = name := by
  have hone : Name.camelOf "a_b_c" = "aBC" := by decide +kernel
  have htwo : Name.camelOf "aBC" = "aBc" := by decide +kernel
  have hascii : Ascii "a_b_c".toList := by decide +kernel
  obtain ⟨hthree, hnumber⟩ := camelOf_twice.1 "a_b_c" hascii
  rw [hone, htwo] at hthree hnumber
  have haliases : ∀ a ∈ busy.aliases, ∃ x : String, Ascii x.toList ∧ a.2 = Name.camelOf x :=
    List.forall_mem_singleton.2 ⟨"a_b_c", hascii, hone.symm⟩
  obtain ⟨name, hname, hshown⟩ := camelOf_twice.2 busy .get "/users" (some "users")
    (by decide +kernel) (by decide +kernel) haliases
  have hgiven : (busy.assign .get "/users" (some "users")).1 = "aBc" ++ toString 2 := by
    decide +kernel
  rw [hname] at hgiven
  exact ⟨hone, htwo, hthree, hnumber 2, name, hgiven, by rw [hname], hshown⟩

end Namer

end ApiModel
