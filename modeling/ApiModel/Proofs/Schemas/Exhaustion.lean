import ApiModel.Proofs.Entries
import ApiModel.Proofs.Naming.Fresh
import ApiModel.Schemas.Allocation

/-!
# When schema names are exhausted

A synthesized schema gets the first of its candidates, in Pascal case, that is neither registered
nor reserved, or else the first candidate with the least number up to `Allocation.maxSuffix` that
makes it so; there is no name exactly if none of these is free (`Draft.allocate_exact`).  The numbers
that may be tried are 9999 and make different names, so fewer names that are registered or reserved
never exhaust them.
-/

namespace ApiModel

namespace Draft

variable {d : Draft} {names : List String}

/-- The names that are registered or reserved. -/
def blocked (d : Draft) : Finset String :=
  (Entries.keys d.registry.entries ++ Reserved.words ++ d.reserved.extra).toFinset

/-- Whether a name is neither registered nor reserved. -/
def isFree (d : Draft) (name : String) : Bool :=
  !d.registry.contains name && !d.reserved.contains name

theorem isFree_iff (d : Draft) (name : String) : d.isFree name = true ↔ name ∉ d.blocked := by
  have hr : d.registry.contains name = true ↔ name ∈ Entries.keys d.registry.entries :=
    Entries.has_iff
  have hw : d.reserved.contains name = true ↔ name ∈ Reserved.words ∨ name ∈ d.reserved.extra := by
    rw [Reserved.contains, Bool.or_eq_true, List.contains_iff_mem, List.contains_iff_mem]
  simp only [isFree, blocked, List.mem_toFinset, List.mem_append, ← hr, Bool.and_eq_true,
    Bool.not_eq_true', ← Bool.not_eq_true, hw, not_or, and_assoc]

/-- The name that numbers are put behind: the first candidate, or `Schema` if there is none. -/
def base (names : List String) : String :=
  names.head?.getD "Schema"

/-- What allocating gives for candidates in Pascal case. -/
inductive Allocates (d : Draft) (names : List String) : Except BuildError String → Prop
  /-- The first candidate that is free. -/
  | free {name : String} (h : FirstFree (· ∉ d.blocked) names name) : Allocates d names (.ok name)
  /-- The base with the least number that makes it free, if no candidate is. -/
  | numbered {k : Nat} (hall : ∀ c ∈ names, c ∈ d.blocked)
    (hk : LeastNumber (· ∉ d.blocked) (base names) k) (hmax : k ≤ Allocation.maxSuffix) :
    Allocates d names (.ok (base names ++ toString k))
  /-- No name, if neither a candidate is free nor the base with any number. -/
  | exhausted (hall : ∀ c ∈ names, c ∈ d.blocked)
    (hmany : ∀ k, 2 ≤ k → k ≤ Allocation.maxSuffix → base names ++ toString k ∈ d.blocked) :
    Allocates d names (.error (.namesExhausted (base names)))

/-! ### The two searches -/

theorem find?_candidates_eq_none_iff :
    names.find? d.isFree = none ↔ ∀ c ∈ names, c ∈ d.blocked := by
  simp only [forall_not_free_iff d.isFree_iff, not_not]

theorem find?_numbered_eq_some_iff {name : String} :
    (Allocation.numbered (base names)).find? d.isFree = some name ↔
      ∃ k, LeastNumber (· ∉ d.blocked) (base names) k ∧ k ≤ Allocation.maxSuffix ∧
        base names ++ toString k = name := by
  have hleast : ∀ k, (List.range' 2 (Allocation.maxSuffix - 1)).find?
      (d.isFree ∘ fun i : Nat => base names ++ toString i) = some k ↔
        LeastNumber (· ∉ d.blocked) (base names) k ∧ k < 2 + (Allocation.maxSuffix - 1) :=
    fun k => leastNumber_iff fun i => d.isFree_iff (base names ++ toString i)
  rw [Allocation.numbered, List.find?_map, Option.map_eq_some_iff]
  refine exists_congr fun k => ?_
  rw [hleast, and_assoc, Allocation.maxSuffix]
  exact and_congr_right fun _ => and_congr_left fun _ => by omega

theorem find?_numbered_eq_none_iff :
    (Allocation.numbered (base names)).find? d.isFree = none ↔
      ∀ k, 2 ≤ k → k ≤ Allocation.maxSuffix → base names ++ toString k ∈ d.blocked := by
  rw [forall_not_free_iff d.isFree_iff, Allocation.numbered, List.forall_mem_map]
  simp only [not_not, List.mem_range'_1, and_imp]
  refine forall₂_congr fun k _ => imp_congr_left ?_
  rw [Allocation.maxSuffix]
  omega

theorem allocate_eq_or (d : Draft) (candidates : List String) :
    d.allocate candidates =
      (((Allocation.pascalNames candidates).find? d.isFree).or
        ((Allocation.numbered (base (Allocation.pascalNames candidates))).find? d.isFree)).elim
          (.error (.namesExhausted (base (Allocation.pascalNames candidates)))) .ok := by
  have hfree : d.isFree = fun name => !d.registry.contains name && !d.reserved.contains name := rfl
  rw [hfree]
  dsimp only [allocate, Allocation.allocateWith, base]
  split
  next name hc => rw [hc, Option.some_or, Option.elim_some]
  next hc =>
    rw [hc, Option.none_or]
    split
    next name hn => rw [hn, Option.elim_some]
    next hn => rw [hn, Option.elim_none]

/-- **Allocating gives what the two searches find**, and no name if they find nothing. -/
theorem allocate_eq_iff {candidates : List String} {x : Except BuildError String} :
    d.allocate candidates = x ↔ d.Allocates (Allocation.pascalNames candidates) x := by
  rw [allocate_eq_or]
  generalize Allocation.pascalNames candidates = names
  constructor
  · rintro rfl
    rcases hc : names.find? d.isFree with _ | name
    · have hall := find?_candidates_eq_none_iff.1 hc
      rcases hn : (Allocation.numbered (base names)).find? d.isFree with _ | name
      · exact .exhausted hall (find?_numbered_eq_none_iff.1 hn)
      · obtain ⟨k, hk, hmax, rfl⟩ := find?_numbered_eq_some_iff.1 hn
        exact .numbered hall hk hmax
    · exact .free ((firstFree_iff d.isFree_iff).1 hc)
  · intro h
    cases h with
    | free h => rw [(firstFree_iff d.isFree_iff).2 h, Option.some_or, Option.elim_some]
    | numbered hall hk hmax =>
      rw [find?_candidates_eq_none_iff.2 hall, find?_numbered_eq_some_iff.2 ⟨_, hk, hmax, rfl⟩,
        Option.none_or, Option.elim_some]
    | exhausted hall hmany =>
      rw [find?_candidates_eq_none_iff.2 hall, find?_numbered_eq_none_iff.2 hmany,
        Option.none_or, Option.elim_none]

/-! ### Enough numbers -/

/-- **Fewer than 9999 names do not exhaust the numbers.** -/
theorem exists_allocate (candidates : List String) (h : d.blocked.card < 9999) :
    ∃ name, d.allocate candidates = .ok name := by
  rcases hx : d.allocate candidates with err | name
  · obtain ⟨k, hk, hcard⟩ :=
      exists_leastNumber d.blocked (base (Allocation.pascalNames candidates))
    have hmax : k ≤ Allocation.maxSuffix := by
      rw [Allocation.maxSuffix]
      omega
    cases allocate_eq_iff.1 hx with
    | exhausted hall hmany => exact absurd (hmany k hk.1.1 hmax) hk.1.2
  · exact ⟨name, rfl⟩

/-- **Allocating gives the first free name and never gives up early**: the result for candidates is
exactly what `Allocates` says of them in Pascal case, and it is a name as long as fewer than 9999
names are registered or reserved. -/
theorem allocate_exact (d : Draft) (candidates : List String) :
    (∀ x, d.allocate candidates = x ↔ d.Allocates (Allocation.pascalNames candidates) x) ∧
      (d.blocked.card < 9999 → ∃ name, d.allocate candidates = .ok name) :=
  ⟨fun _ => allocate_eq_iff, exists_allocate candidates⟩

/-- A draft in which a name is registered and reserved with the number two. -/
def busy : Draft where
  registry := { entries := [("User", .inline {}), ("User4", .inline {})] }
  reserved := ⟨["User2"]⟩

theorem allocate_exact_busy :
    busy.blocked.card < 9999 ∧ busy.Allocates ["User", "Map"] (.ok "User3") ∧
      busy.allocate ["user", " ", "map"] = .ok "User3" ∧
      ∃ name, busy.allocate ["user", " ", "map"] = .ok name := by
  have hcard : busy.blocked.card < 9999 :=
    (List.toFinset_card_le _).trans_lt (by decide)
  have hnames : Allocation.pascalNames ["user", " ", "map"] = ["User", "Map"] := by decide +kernel
  have hname : busy.allocate ["user", " ", "map"] = .ok "User3" := by decide +kernel
  obtain ⟨hiff, hok⟩ := allocate_exact busy ["user", " ", "map"]
  have hallocates := (hiff _).1 hname
  rw [hnames] at hallocates
  exact ⟨hcard, hallocates, hname, hok hcard⟩

end Draft

end ApiModel
