import ApiModel.Proofs.Json.Number
import ApiModel.Proofs.Pointwise

/-!
# Trees of JSON texts

What a JSON text says has no scalars of an open type and no tags, its lists and maps are settled, its
keys are texts and its numbers are valid; and it has no value below a certain depth
(`Tree.within_of_ofJsonText?`).  `Tree.Within` says all that of a tree and how deep it may be nested.
-/

namespace ApiModel

/-- What a JSON text can say in so many levels. -/
inductive Tree.Within : Nat → Tree → Prop
  | null {n : Nat} : Within n .null
  | bool {n : Nat} (b : Bool) : Within n (.bool b)
  | number {n : Nat} {x : Json.Number} (h : x.Valid) : Within n (.number x)
  | text {n : Nat} (s : String) : Within n (.text s)
  | unreadable {n : Nat} : Within n .unreadable
  | list {n : Nat} {items : List Tree} (h : ∀ t ∈ items, Within n t) :
    Within (n + 1) (.list true items)
  | map {n : Nat} {entries : List (String × Tree)} (h : ∀ e ∈ entries, Within n e.2) :
    Within (n + 1) (.map true (entries.map fun e => (.text e.1, e.2)))

namespace Json.Reader

variable {n level : Nat} {s left : List Char}

theorem within_atLevel {t : Tree} (hl : maxLevel < level + n) (h : ∀ m, n = m + 1 → t.Within n) :
    (atLevel level t).Within n := by
  rw [atLevel]
  split_ifs with hle
  · exact h (n - 1) (by omega)
  · exact .unreadable

theorem within_mapOf {members : List (Option String × Tree)}
    (h : ∀ m ∈ members, m.2.Within n) : (mapOf members).Within (n + 1) := by
  rw [mapOf]
  split
  · rename_i entries he
    have hall := mapM_eq_some_iff.1 he
    suffices hs : ∃ es : List (String × Tree), entries = es.map (fun e => (.text e.1, e.2)) ∧
        ∀ e ∈ es, e.2.Within n by
      obtain ⟨es, rfl, hes⟩ := hs
      exact .map hes
    clear he
    induction hall with
    | nil => exact ⟨[], rfl, by simp⟩
    | @cons m e members entries hm _ ih =>
      rw [List.forall_mem_cons] at h
      obtain ⟨es, rfl, hes⟩ := ih h.2
      obtain ⟨k, -, rfl⟩ := Option.map_eq_some_iff.1 hm
      exact ⟨(k, m.2) :: es, rfl, List.forall_mem_cons.2 ⟨h.1, hes⟩⟩
  · exact .unreadable

/-- What is read on a level has no value deeper than the levels below it. -/
def Sound (fuel : Nat) : Prop :=
  (∀ {n level s t left}, maxLevel < level + n → value? fuel level s = some (t, left) →
      t.Within n) ∧
    (∀ {n level s ts left}, maxLevel < level + n → items? fuel level s = some (ts, left) →
      ∀ t ∈ ts, t.Within n) ∧
    ∀ {n level s ms left}, maxLevel < level + n → members? fuel level s = some (ms, left) →
      ∀ m ∈ ms, m.2.Within n

theorem Sound.value {fuel : Nat} (h : Sound fuel) {t : Tree} (hl : maxLevel < level + n)
    (ht : value? (fuel + 1) level s = some (t, left)) : t.Within n := by
  rw [value?] at ht
  split at ht
  · cases ht
  · -- a text
    simp only [Option.bind_eq_bind, Option.bind_eq_some_iff] at ht
    obtain ⟨⟨text, _⟩, -, ht⟩ := ht
    cases ht
    cases text with
    | none => exact .unreadable
    | some text => exact .text text
  · -- a list: its items are one level deeper, so they have one level less left
    split at ht
    · cases ht
      refine within_atLevel hl ?_
      rintro m rfl
      exact .list (by simp)
    · simp only [Option.bind_eq_bind, Option.bind_eq_some_iff] at ht
      obtain ⟨⟨items, _⟩, hitems, ht⟩ := ht
      cases ht
      refine within_atLevel hl ?_
      rintro m rfl
      exact .list (h.2.1 (by omega) hitems)
  · -- a map
    split at ht
    · cases ht
      refine within_atLevel hl ?_
      rintro m rfl
      have hempty : ∀ e ∈ ([] : List (String × Tree)), e.2.Within m := by simp
      exact .map hempty
    · simp only [Option.bind_eq_bind, Option.bind_eq_some_iff] at ht
      obtain ⟨⟨members, _⟩, hmembers, ht⟩ := ht
      cases ht
      refine within_atLevel hl ?_
      rintro m rfl
      exact within_mapOf (h.2.2 (by omega) hmembers)
  · -- a word or a number
    split_ifs at ht
    · obtain ⟨_, -, ht⟩ := Option.map_eq_some_iff.1 ht
      cases ht
      exact .null
    · obtain ⟨_, -, ht⟩ := Option.map_eq_some_iff.1 ht
      cases ht
      exact .bool true
    · obtain ⟨_, -, ht⟩ := Option.map_eq_some_iff.1 ht
      cases ht
      exact .bool false
    · simp only [Option.bind_eq_bind, Option.bind_eq_some_iff] at ht
      obtain ⟨⟨l, _⟩, -, ht⟩ := ht
      cases ht
      rcases hx : l.value? with _ | x
      · exact .unreadable
      · exact .number (Literal.valid_of_value? hx)

theorem Sound.items {fuel : Nat} (h : Sound fuel) {ts : List Tree} (hl : maxLevel < level + n)
    (hts : items? (fuel + 1) level s = some (ts, left)) : ∀ t ∈ ts, t.Within n := by
  simp only [items?, Option.bind_eq_bind, Option.bind_eq_some_iff] at hts
  obtain ⟨⟨v, _⟩, hv, hts⟩ := hts
  have hfirst := h.1 hl hv
  split at hts
  · simp only [Option.bind_eq_some_iff] at hts
    obtain ⟨⟨vs, _⟩, hvs, hts⟩ := hts
    cases hts
    exact List.forall_mem_cons.2 ⟨hfirst, h.2.1 hl hvs⟩
  · cases hts
    exact List.forall_mem_cons.2 ⟨hfirst, by simp⟩
  · cases hts

theorem Sound.members {fuel : Nat} (h : Sound fuel) {ms : List (Option String × Tree)}
    (hl : maxLevel < level + n) (hms : members? (fuel + 1) level s = some (ms, left)) :
    ∀ m ∈ ms, m.2.Within n := by
  rw [members?] at hms
  split at hms
  · simp only [Option.bind_eq_bind, Option.bind_eq_some_iff] at hms
    obtain ⟨⟨key, _⟩, -, hms⟩ := hms
    split at hms
    · simp only [Option.bind_eq_some_iff] at hms
      obtain ⟨⟨v, _⟩, hv, hms⟩ := hms
      have hfirst := h.1 hl hv
      split at hms
      · simp only [Option.bind_eq_some_iff] at hms
        obtain ⟨⟨vs, _⟩, hvs, hms⟩ := hms
        cases hms
        exact List.forall_mem_cons.2 ⟨hfirst, h.2.2 hl hvs⟩
      · cases hms
        exact List.forall_mem_cons.2 ⟨hfirst, by simp⟩
      · cases hms
    · cases hms
  · cases hms

theorem sound (fuel : Nat) : Sound fuel := by
  induction fuel with
  | zero =>
    refine ⟨fun _ h => ?_, fun _ h => ?_, fun _ h => ?_⟩
    · rw [value?] at h
      cases h
    · rw [items?] at h
      cases h
    · rw [members?] at h
      cases h
  | succ fuel ih => exact ⟨ih.value, ih.items, ih.members⟩

end Json.Reader

/-- **What a JSON text says** is nested at most as deep as lists and maps have values. -/
theorem Tree.within_of_ofJsonText? {text : String} {t : Tree} (h : ofJsonText? text = some t) :
    t.Within Json.Reader.maxLevel := by
  simp only [ofJsonText?, Option.bind_eq_bind, Option.bind_eq_some_iff] at h
  obtain ⟨⟨t', left⟩, hread, h⟩ := h
  split_ifs at h
  cases h
  exact (Json.Reader.sound _).1 (by decide) hread

end ApiModel
