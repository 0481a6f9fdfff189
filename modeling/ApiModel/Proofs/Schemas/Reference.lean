import ApiModel.Proofs.Document.Check
import ApiModel.Proofs.Text.Signs
import ApiModel.Schemas.Allocation

/-!
# References to allocated names

The reference to a schema puts the name of the schema behind a fixed beginning.  Reading it back
gives the name again if the name is literal: not empty, without a tilde, and no pointer itself.
Allocated names are (`Allocation.literal_of_allocateWith`), so a reference to a synthesized schema
leads to it (`Resolver.schemaAt_reference`).
-/

namespace ApiModel

namespace Pointer

/-- A name that stands in a pointer as it is. -/
structure Literal (name : String) : Prop where
  /-- It is not empty. -/
  ne_empty : name ≠ ""
  /-- It has no character that starts an escape. -/
  no_tilde : '~' ∉ name.toList
  /-- It has no character that begins a pointer. -/
  no_number_sign : '#' ∉ name.toList

variable {name : String} {s rest : List Char}

theorem replaceTilde_eq_self (digit sign : Char) (h : '~' ∉ s) : replaceTilde digit sign s = s := by
  fun_induction replaceTilde digit sign s with
  | case1 => rfl
  | case2 => rfl
  | case3 c d rest hc =>
    obtain ⟨rfl, -⟩ := hc
    exact absurd List.mem_cons_self h
  | case4 c d rest _ ih => rw [ih (List.not_mem_of_not_mem_cons h)]

theorem unescape_eq_self (h : '~' ∉ s) : unescape s = s := by
  rw [unescape, replaceTilde_eq_self _ _ h, replaceTilde_eq_self _ _ h]

theorem afterPrefix?_append (cs rest : List Char) : afterPrefix? cs (cs ++ rest) = some rest := by
  induction cs with
  | nil => rfl
  | cons c cs ih => simpa [afterPrefix?] using ih

theorem splitSlash?_append (h : '/' ∉ s) : splitSlash? (s ++ '/' :: rest) = some (s, rest) := by
  induction s with
  | nil => rfl
  | cons c s ih =>
    rw [List.mem_cons, not_or] at h
    rw [List.cons_append, splitSlash?, if_neg (Ne.symm h.1), ih h.2]
    rfl

theorem eq_append_of_splitSlash? {before after : List Char}
    (h : splitSlash? s = some (before, after)) : s = before ++ '/' :: after := by
  induction s generalizing before with
  | nil => cases h
  | cons c s ih =>
    rw [splitSlash?] at h
    split_ifs at h with hc
    · cases h
      rw [hc, List.nil_append]
    · obtain ⟨⟨b, a⟩, hs, he⟩ := Option.map_eq_some_iff.1 h
      cases he
      rw [ih hs, List.cons_append]

theorem eq_reference_of_afterPrefix? {p : String}
    (h : afterPrefix? Schema.pointerPrefix.toList p.toList = some rest) :
    p = Schema.pointerPrefix ++ String.ofList rest := by
  rw [← String.toList_inj, eq_append_of_afterPrefix? h, String.toList_append, String.toList_ofList]

/-- What names a schema begins as every reference to one does, and then writes the name. -/
theorem exists_afterPrefix?_of_target? {p : String} (h : target? p = some (.schemas, name)) :
    ∃ token, afterPrefix? Schema.pointerPrefix.toList p.toList = some token ∧
      name.toList = unescape token := by
  simp only [target?, Option.bind_eq_bind, Option.bind_eq_some_iff] at h
  obtain ⟨rest, hrest, ⟨key, token⟩, hsplit, sec, hsec, h⟩ := h
  split_ifs at h with he
  cases h
  -- the section is spelled out before the second slash
  have hkey : String.ofList key = "schemas" := by
    have hfound := List.find?_some hsec
    rw [beq_iff_eq] at hfound
    exact hfound.symm
  have hchars : key = "schemas".toList := by
    rw [← hkey, String.toList_ofList]
  have htext : p.toList = Schema.pointerPrefix.toList ++ token := by
    rw [eq_append_of_afterPrefix? hrest, eq_append_of_splitSlash? hsplit, hchars]
    rfl
  exact ⟨token, by rw [htext, afterPrefix?_append], String.toList_ofList⟩

theorem target?_ne_of_afterPrefix?_eq_none {p : String}
    (h : afterPrefix? Schema.pointerPrefix.toList p.toList = none) :
    target? p ≠ some (.schemas, name) := by
  intro ht
  obtain ⟨token, htoken, -⟩ := exists_afterPrefix?_of_target? ht
  rw [h] at htoken
  cases htoken

/-- **The reference to a literal name names that schema.** -/
theorem target?_reference (h : Literal name) :
    target? (Schema.pointerPrefix ++ name) = some (.schemas, name) := by
  have htext : (Schema.pointerPrefix ++ name).toList =
      root ++ ("schemas".toList ++ '/' :: name.toList) := by
    rw [String.toList_append]
    rfl
  have hsplit : splitSlash? ("schemas".toList ++ '/' :: name.toList) =
      some ("schemas".toList, name.toList) := splitSlash?_append (by decide)
  have hkey : Section.ofKey? "schemas" = some .schemas := by decide
  have hne : name.toList.isEmpty = false := by
    rw [List.isEmpty_eq_false_iff, ne_eq, String.toList_eq_nil_iff]
    exact h.ne_empty
  simp only [target?, htext, afterPrefix?_append, hsplit, hkey, Option.bind_eq_bind,
    Option.bind_some, hne, Bool.false_eq_true, if_false, unescape_eq_self h.no_tilde,
    String.ofList_toList]

end Pointer

namespace Allocation

variable {isTaken : String → Bool} {reserved : Reserved} {candidates : List String} {name : String}

theorem literal_of_mem_pascalNames (h : name ∈ pascalNames candidates) : Pointer.Literal name := by
  obtain ⟨hm, hne⟩ := List.mem_filter.1 h
  obtain ⟨c, -, rfl⟩ := List.mem_map.1 hm
  refine ⟨by simpa using hne, ?_, ?_⟩
  · rw [String.toList_ofList]
    exact Text.sign_tilde.notMem_pascal c.toList
  · rw [String.toList_ofList]
    exact Text.sign_number.notMem_pascal c.toList

theorem literal_of_mem_numbered {base : String} (hb : '~' ∉ base.toList)
    (hb' : '#' ∉ base.toList) (h : name ∈ numbered base) : Pointer.Literal name := by
  obtain ⟨k, -, rfl⟩ := List.mem_map.1 h
  have hdigits : ∀ c ∈ (toString k).toList, c.isDigit = true := by
    intro c hc
    rw [Nat.toString_eq_repr, Nat.toList_repr] at hc
    exact Nat.isDigit_of_mem_toDigits (by decide) (by decide) hc
  have hsign : ∀ x : Char, x.isDigit = false → x ∉ base.toList →
      x ∉ (base ++ toString k).toList := by
    intro x hx hxb hm
    rw [String.toList_append, List.mem_append] at hm
    rcases hm with hm | hm
    · exact hxb hm
    · rw [hdigits x hm] at hx
      cases hx
  refine ⟨fun he => ?_, hsign '~' (by decide) hb, hsign '#' (by decide) hb'⟩
  have hnil := (String.append_eq_empty_iff.1 he).2
  rw [Nat.toString_eq_repr] at hnil
  exact Nat.repr_ne_empty hnil

/-- **Allocated names are literal.** -/
theorem literal_of_allocateWith (h : allocateWith isTaken reserved candidates = .ok name) :
    Pointer.Literal name := by
  simp only [allocateWith] at h
  split at h
  · rename_i found hf
    cases h
    exact literal_of_mem_pascalNames (List.mem_of_find?_eq_some hf)
  · split at h
    · rename_i found hf
      cases h
      -- the number stands behind the first candidate, or behind a fixed word
      have hbase : '~' ∉ ((pascalNames candidates).head?.getD "Schema").toList ∧
          '#' ∉ ((pascalNames candidates).head?.getD "Schema").toList := by
        rcases hp : pascalNames candidates with _ | ⟨base, rest⟩
        · decide
        · have hb : base ∈ pascalNames candidates := hp ▸ List.mem_cons_self
          have hl := literal_of_mem_pascalNames hb
          exact ⟨hl.no_tilde, hl.no_number_sign⟩
      exact literal_of_mem_numbered hbase.1 hbase.2 (List.mem_of_find?_eq_some hf)
    · cases h

end Allocation

namespace Resolver

variable {r : Resolver} {name : String} {s : Schema}

/-- **The reference to a schema leads to it.** -/
theorem schemaAt_reference (h : Pointer.Literal name)
    (hs : Entries.find? name r.schemas = some (.inline s)) :
    r.schemaAt (Schema.pointerPrefix ++ name) = .ok s := by
  have ht := Pointer.target?_reference h
  exact followFrom_succ_eq_ok_iff.2 ⟨List.not_mem_nil, name, ht, .inl hs⟩

end Resolver

end ApiModel
