import ApiModel.Endpoint.Parameters
import Mathlib.Data.List.Induction
import Mathlib.Data.List.Nodup

/-!
# One value for each key

Values are collected so that no two of them agree in their keys.  Either the first value of a key
stays (`Firsts`), or a later one takes its place (`Lasts`); in both cases the keys stand in the order
in which they first came, which is that of `List.eraseDups`.  `Lasts.putInPlace` says that putting
values in place one after the other keeps the last value of each key in the place of the first.
-/

namespace ApiModel

section Keys

variable {κ : Type} [BEq κ] [LawfulBEq κ]

/-! ### Keys in the order in which they first came -/

theorem eraseDups_concat (ks : List κ) (k : κ) :
    (ks ++ [k]).eraseDups = if k ∈ ks then ks.eraseDups else ks.eraseDups ++ [k] := by
  rw [List.eraseDups_append, List.removeAll]
  by_cases hk : k ∈ ks
  · simp [hk]
  · simp [hk, List.eraseDups_cons]

theorem nodup_eraseDups (ks : List κ) : ks.eraseDups.Nodup := by
  induction ks using List.reverseRecOn with
  | nil => exact List.nodup_nil
  | append_singleton ks k ih =>
    rw [eraseDups_concat]
    split_ifs with hk
    · exact ih
    · exact ih.append (List.nodup_singleton k)
        (List.disjoint_singleton.2 (mt List.mem_eraseDups.1 hk))

theorem eraseDups_eq_self {ks : List κ} (h : ks.Nodup) : ks.eraseDups = ks := by
  induction ks using List.reverseRecOn with
  | nil => rfl
  | append_singleton ks k ih =>
    obtain ⟨hks, -, hne⟩ := List.nodup_append.1 h
    have hk : k ∉ ks := fun hk => hne k hk k List.mem_cons_self rfl
    rw [eraseDups_concat, if_neg hk, ih hks]

/-- Keys may be made to differ in the parts of a list first. -/
theorem eraseDups_append_eraseDups (ks ls : List κ) :
    (ks.eraseDups ++ ls.eraseDups).eraseDups = (ks ++ ls).eraseDups := by
  induction ls using List.reverseRecOn with
  | nil => simp [eraseDups_eq_self (nodup_eraseDups ks)]
  | append_singleton ls l ih =>
    rw [eraseDups_concat, ← List.append_assoc, eraseDups_concat, ← ih]
    by_cases hl : l ∈ ls
    · simp [hl]
    · rw [if_neg hl, ← List.append_assoc, eraseDups_concat]
      simp [hl]

end Keys

section Values

variable {α κ : Type} {key : α → κ} {vs us ms : List α} {v w : α}

/-! ### First and last values -/

/-- A value is the first one of a list with its key. -/
def FirstOf (key : α → κ) (vs : List α) (v : α) : Prop :=
  ∃ before after, vs = before ++ v :: after ∧ ∀ w ∈ before, key w ≠ key v

/-- A value is the last one of a list with its key. -/
def LastOf (key : α → κ) (vs : List α) (v : α) : Prop :=
  ∃ before after, vs = before ++ v :: after ∧ ∀ w ∈ after, key w ≠ key v

theorem FirstOf.mem (h : FirstOf key vs v) : v ∈ vs := by
  obtain ⟨before, after, rfl, -⟩ := h
  simp

theorem LastOf.mem (h : LastOf key vs v) : v ∈ vs := by
  obtain ⟨before, after, rfl, -⟩ := h
  simp

theorem lastOf_iff_reverse : LastOf key vs v ↔ FirstOf key vs.reverse v := by
  constructor
  · rintro ⟨before, after, rfl, h⟩
    exact ⟨after.reverse, before.reverse, by simp, by simpa using h⟩
  · rintro ⟨before, after, hs, h⟩
    exact ⟨after.reverse, before.reverse, by simpa using congrArg List.reverse hs, by simpa using h⟩

theorem firstOf_append :
    FirstOf key (vs ++ us) v ↔ FirstOf key vs v ∨ (FirstOf key us v ∧ key v ∉ vs.map key) := by
  constructor
  · rintro ⟨before, after, hs, h⟩
    -- the value stands in the first list or behind the whole of it
    rcases List.append_eq_append_iff.1 hs with ⟨rest, rfl, rfl⟩ | ⟨rest, rfl, hrest⟩
    · refine .inr ⟨⟨rest, after, rfl, fun w hw => h w (List.mem_append_right _ hw)⟩, ?_⟩
      intro hk
      obtain ⟨w, hw, hkw⟩ := List.mem_map.1 hk
      exact h w (List.mem_append_left _ hw) hkw
    · rcases List.cons_eq_append_iff.1 hrest with ⟨rfl, rfl⟩ | ⟨more, rfl, -⟩
      · refine .inr ⟨⟨[], after, rfl, by simp⟩, ?_⟩
        intro hk
        obtain ⟨w, hw, hkw⟩ := List.mem_map.1 hk
        exact h w (by simpa using hw) hkw
      · exact .inl ⟨before, more, rfl, h⟩
  · rintro (⟨before, after, rfl, h⟩ | ⟨⟨before, after, rfl, h⟩, hk⟩)
    · exact ⟨before, after ++ us, by simp, h⟩
    · refine ⟨vs ++ before, after, by simp, fun w hw => ?_⟩
      rcases List.mem_append.1 hw with hw | hw
      · exact fun hkw => hk (List.mem_map.2 ⟨w, hw, hkw⟩)
      · exact h w hw

theorem lastOf_append :
    LastOf key (vs ++ us) v ↔ LastOf key us v ∨ (LastOf key vs v ∧ key v ∉ us.map key) := by
  simp only [lastOf_iff_reverse, List.reverse_append, firstOf_append, List.map_reverse,
    List.mem_reverse]

@[simp] theorem firstOf_singleton : FirstOf key [w] v ↔ v = w := by
  constructor
  · exact fun h => List.mem_singleton.1 h.mem
  · rintro rfl
    exact ⟨[], [], rfl, by simp⟩

@[simp] theorem lastOf_singleton : LastOf key [w] v ↔ v = w := by
  rw [lastOf_iff_reverse, List.reverse_singleton, firstOf_singleton]

theorem LastOf.exists_of_map {β : Type} {f : β → α} {xs : List β} (h : LastOf key (xs.map f) v) :
    ∃ x, LastOf (fun x => key (f x)) xs x ∧ f x = v := by
  obtain ⟨before, after, hs, h⟩ := h
  obtain ⟨before, rest, rfl, rfl, hrest⟩ := List.map_eq_append_iff.1 hs
  obtain ⟨x, after, rfl, rfl, rfl⟩ := List.map_eq_cons_iff.1 hrest
  exact ⟨x, ⟨before, after, rfl, fun w hw => h (f w) (List.mem_map_of_mem hw)⟩, rfl⟩

/-- Where keys do not repeat, every value is the last one with its key. -/
theorem lastOf_iff_mem (h : (vs.map key).Nodup) : LastOf key vs v ↔ v ∈ vs := by
  refine ⟨LastOf.mem, fun hv => ?_⟩
  obtain ⟨before, after, rfl⟩ := List.append_of_mem hv
  refine ⟨before, after, rfl, fun w hw hk => ?_⟩
  rw [List.map_append, List.map_cons, List.nodup_append] at h
  exact (List.nodup_cons.1 h.2.1).1 (List.mem_map.2 ⟨w, hw, hk⟩)

theorem LastOf.eq (hv : LastOf key vs v) (hw : LastOf key vs w) (h : key v = key w) : v = w := by
  obtain ⟨before, after, rfl, hafter⟩ := hv
  rw [List.append_cons, lastOf_append, lastOf_append, lastOf_singleton] at hw
  rcases hw with hw | ⟨hw | ⟨-, hk⟩, -⟩
  · exact absurd h.symm (hafter w hw.mem)
  · exact hw.symm
  · exact absurd (by simp [h]) hk

/-! ### Putting values in place -/

section InPlace

variable {agrees : α → α → Bool}

/-- A value that is put in place stands there beside all values with other keys. -/
theorem mem_putInPlace_iff (hagrees : ∀ v w, agrees v w = true ↔ key v = key w)
    (hd : (ms.map key).Nodup) :
    w ∈ putInPlace agrees v ms ↔ w = v ∨ (w ∈ ms ∧ key w ≠ key v) := by
  induction ms with
  | nil => simp [putInPlace]
  | cons m ms ih =>
    obtain ⟨hm, hd⟩ := List.nodup_cons.1 hd
    rw [putInPlace]
    by_cases hk : key m = key v
    · -- no other value has the key, for keys do not repeat
      have hother : ∀ w ∈ ms, key w ≠ key v := fun w hw hkw =>
        hm (List.mem_map.2 ⟨w, hw, hkw.trans hk.symm⟩)
      rw [if_pos ((hagrees m v).2 hk), List.mem_cons, List.mem_cons]
      refine or_congr_right ⟨fun hw => ⟨.inr hw, hother w hw⟩, ?_⟩
      rintro ⟨rfl | hw, hne⟩
      · exact absurd hk hne
      · exact hw
    · rw [if_neg (mt (hagrees m v).1 hk), List.mem_cons, List.mem_cons, ih hd]
      constructor
      · rintro (rfl | rfl | ⟨hw, hne⟩)
        · exact .inr ⟨.inl rfl, hk⟩
        · exact .inl rfl
        · exact .inr ⟨.inr hw, hne⟩
      · rintro (rfl | ⟨rfl | hw, hne⟩)
        · exact .inr (.inl rfl)
        · exact .inl rfl
        · exact .inr (.inr ⟨hw, hne⟩)

end InPlace

/-! ### Collecting values -/

variable [BEq κ]

/-- The values `ms` are the first ones of `vs` with their keys, in their order. -/
structure Firsts (key : α → κ) (vs ms : List α) : Prop where
  /-- The keys are all those of the values, in the order in which they first came. -/
  keys_eq : ms.map key = (vs.map key).eraseDups
  /-- The values are the first ones. -/
  mem_iff : ∀ w, w ∈ ms ↔ FirstOf key vs w

/-- The values `ms` are the last ones of `vs` with their keys, in the places of the first ones. -/
structure Lasts (key : α → κ) (vs ms : List α) : Prop where
  /-- The keys are all those of the values, in the order in which they first came. -/
  keys_eq : ms.map key = (vs.map key).eraseDups
  /-- The values are the last ones. -/
  mem_iff : ∀ w, w ∈ ms ↔ LastOf key vs w

theorem Firsts.nil (key : α → κ) : Firsts key [] [] :=
  ⟨rfl, fun w => ⟨by simp, fun h => h.mem⟩⟩

theorem Lasts.nil (key : α → κ) : Lasts key [] [] :=
  ⟨rfl, fun w => ⟨by simp, fun h => h.mem⟩⟩

variable [LawfulBEq κ]

theorem Firsts.nodup (h : Firsts key vs ms) : (ms.map key).Nodup :=
  h.keys_eq ▸ nodup_eraseDups _

theorem Lasts.nodup (h : Lasts key vs ms) : (ms.map key).Nodup :=
  h.keys_eq ▸ nodup_eraseDups _

theorem Firsts.mem_keys_iff (h : Firsts key vs ms) {k : κ} : k ∈ ms.map key ↔ k ∈ vs.map key := by
  rw [h.keys_eq, List.mem_eraseDups]

/-- Where keys do not repeat, the values are already collected. -/
theorem Lasts.self (h : (vs.map key).Nodup) : Lasts key vs vs :=
  ⟨(eraseDups_eq_self h).symm, fun _ => (lastOf_iff_mem h).symm⟩

/-- A value whose key is there is left out, and another one is put at the end. -/
theorem Firsts.concat (h : Firsts key vs ms) (v : α) :
    Firsts key (vs ++ [v]) (if key v ∈ ms.map key then ms else ms ++ [v]) := by
  have hmem : ∀ w, FirstOf key (vs ++ [v]) w ↔ w ∈ ms ∨ (w = v ∧ key v ∉ ms.map key) := by
    intro w
    rw [firstOf_append, firstOf_singleton, h.mem_iff, h.mem_keys_iff]
    exact or_congr_right (and_congr_right fun hw => by rw [hw])
  have hkeys : ((vs ++ [v]).map key).eraseDups =
      if key v ∈ ms.map key then ms.map key else ms.map key ++ [key v] := by
    rw [List.map_append, List.map_singleton, eraseDups_concat, h.keys_eq]
    simp only [List.mem_eraseDups]
  split_ifs at hkeys ⊢ with hk
  · exact ⟨hkeys.symm, fun w => by simp [hmem, hk]⟩
  · exact ⟨by simpa using hkeys.symm, fun w => by simp [hmem, hk]⟩

variable {agrees : α → α → Bool}

theorem map_putInPlace (hagrees : ∀ v w, agrees v w = true ↔ key v = key w) (v : α) (ms : List α) :
    (putInPlace agrees v ms).map key =
      if key v ∈ ms.map key then ms.map key else ms.map key ++ [key v] := by
  induction ms with
  | nil => rfl
  | cons w ms ih =>
    rw [putInPlace]
    by_cases hk : key w = key v
    · simp [(hagrees w v).2 hk, hk]
    · rw [if_neg (mt (hagrees w v).1 hk), List.map_cons, ih, List.map_cons]
      simp only [List.mem_cons, Ne.symm hk, false_or]
      split_ifs <;> rfl

/-- **One value that is put in place** is the last one with its key, and stands where the first one
stood. -/
theorem Lasts.concat (hagrees : ∀ v w, agrees v w = true ↔ key v = key w) (h : Lasts key vs ms)
    (v : α) : Lasts key (vs ++ [v]) (putInPlace agrees v ms) := by
  constructor
  case keys_eq =>
    rw [map_putInPlace hagrees, List.map_append, List.map_singleton, eraseDups_concat, h.keys_eq]
    simp only [List.mem_eraseDups]
  case mem_iff =>
    intro w
    rw [mem_putInPlace_iff hagrees h.nodup, lastOf_append, lastOf_singleton, h.mem_iff]
    simp

/-- **Values that are put in place one after the other.** -/
theorem Lasts.putInPlace (hagrees : ∀ v w, agrees v w = true ↔ key v = key w)
    (h : Lasts key vs ms) (us : List α) :
    Lasts key (vs ++ us) (us.foldl (fun ms u => ApiModel.putInPlace agrees u ms) ms) := by
  induction us generalizing vs ms with
  | nil => simpa using h
  | cons u us ih =>
    rw [List.append_cons]
    exact ih (h.concat hagrees u)

end Values

end ApiModel
