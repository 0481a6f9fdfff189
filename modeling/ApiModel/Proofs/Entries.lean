import ApiModel.Tree.Entries
import Mathlib.Data.List.Nodup

/-!
# Laws of ordered maps

What `Entries.insert` and `Entries.ofPairs` do, said through the keys and through `Entries.find?`.
A list without repeated keys is a map: `Entries.find?_of_mem` and `Entries.ofPairs_eq_self`.  In
another order it is the same map (`Entries.Shuffles`).
-/

namespace ApiModel

namespace Entries

variable {α β : Type} {k l : String} {v : α} {es fs : List (String × α)}

@[simp] theorem keys_nil : keys ([] : List (String × α)) = [] := rfl

@[simp] theorem keys_cons (e : String × α) (es : List (String × α)) :
    keys (e :: es) = e.1 :: keys es := rfl

@[simp] theorem keys_append (es fs : List (String × α)) : keys (es ++ fs) = keys es ++ keys fs :=
  List.map_append

@[simp] theorem keys_map_snd (f : α → β) (es : List (String × α)) :
    keys (es.map fun e => (e.1, f e.2)) = keys es := by
  simp [keys]

@[simp] theorem has_iff : has es k = true ↔ k ∈ keys es := by
  simp [has, keys]

/-! ### Looking up -/

theorem find?_eq_none_iff : find? k es = none ↔ k ∉ keys es := by
  induction es with
  | nil => simp [find?]
  | cons e es ih =>
    rw [find?, keys_cons, List.mem_cons]
    split_ifs with h
    · simp [h]
    · rw [ih]
      simp [Ne.symm h]

theorem exists_find?_iff : (∃ v, find? k es = some v) ↔ k ∈ keys es := by
  rw [← not_iff_not, ← find?_eq_none_iff, Option.eq_none_iff_forall_ne_some]
  simp

theorem mem_of_find? (h : find? k es = some v) : (k, v) ∈ es := by
  induction es with
  | nil => simp [find?] at h
  | cons e es ih =>
    rw [find?] at h
    split_ifs at h with hk
    · obtain rfl := Option.some.inj h
      simp [← hk]
    · exact List.mem_cons_of_mem _ (ih h)

theorem mem_keys_of_mem (h : (k, v) ∈ es) : k ∈ keys es :=
  List.mem_map.2 ⟨_, h, rfl⟩

theorem mem_keys_of_find? (h : find? k es = some v) : k ∈ keys es :=
  mem_keys_of_mem (mem_of_find? h)

/-- In a map a key has the value that stands beside it. -/
theorem find?_of_mem (hd : (keys es).Nodup) (h : (k, v) ∈ es) : find? k es = some v := by
  induction es with
  | nil => simp at h
  | cons e es ih =>
    rw [keys_cons, List.nodup_cons] at hd
    rw [find?]
    rcases List.mem_cons.1 h with rfl | h
    · simp
    · rw [if_neg, ih hd.2 h]
      rintro rfl
      exact hd.1 (mem_keys_of_mem h)

theorem find?_append : find? k (es ++ fs) = (find? k es).or (find? k fs) := by
  induction es with
  | nil => simp [find?]
  | cons e es ih =>
    rw [List.cons_append, find?, find?, ih]
    split_ifs <;> simp

/-- What is found in a map is found in every longer one. -/
theorem find?_append_of_some (h : find? k es = some v) : find? k (es ++ fs) = some v := by
  rw [find?_append, h, Option.some_or]

theorem find?_map (f : α → β) :
    find? k (es.map fun e => (e.1, f e.2)) = (find? k es).map f := by
  induction es with
  | nil => rfl
  | cons e es ih =>
    rw [List.map_cons, find?, find?, ih]
    split_ifs <;> rfl

/-! ### Inserting -/

theorem keys_insert :
    keys (insert k v es) = if k ∈ keys es then keys es else keys es ++ [k] := by
  induction es with
  | nil => rfl
  | cons e es ih =>
    rw [insert]
    by_cases h : e.1 = k
    · simp [h]
    · rw [if_neg h, keys_cons, ih, keys_cons]
      simp only [List.mem_cons, Ne.symm h, false_or]
      split_ifs <;> rfl

theorem mem_keys_insert : l ∈ keys (insert k v es) ↔ l ∈ keys es ∨ l = k := by
  rw [keys_insert]
  split_ifs with h
  · exact ⟨.inl, fun hl => hl.elim id fun hl => hl ▸ h⟩
  · simp

theorem find?_insert : find? l (insert k v es) = if k = l then some v else find? l es := by
  induction es with
  | nil => simp [insert, find?]
  | cons e es ih =>
    rw [insert]
    by_cases h : e.1 = k
    · rw [if_pos h, find?, find?, h]
      split_ifs <;> rfl
    · rw [if_neg h, find?, find?, ih]
      by_cases hl : e.1 = l
      · subst hl
        simp [Ne.symm h]
      · simp [hl]

theorem find?_insert_self : find? k (insert k v es) = some v := by
  rw [find?_insert, if_pos rfl]

theorem find?_insert_of_ne (h : k ≠ l) : find? l (insert k v es) = find? l es := by
  rw [find?_insert, if_neg h]

theorem nodup_insert (h : (keys es).Nodup) : (keys (insert k v es)).Nodup := by
  rw [keys_insert]
  split_ifs with hk
  · exact h
  · exact List.nodup_append.2 ⟨h, List.nodup_singleton k, by
      intro a ha b hb
      obtain rfl := List.mem_singleton.1 hb
      rintro rfl
      exact hk ha⟩

theorem insert_of_notMem (h : k ∉ keys es) : insert k v es = es ++ [(k, v)] := by
  induction es with
  | nil => rfl
  | cons e es ih =>
    rw [keys_cons, List.mem_cons, not_or] at h
    rw [insert, if_neg (Ne.symm h.1), ih h.2, List.cons_append]

/-- What stands in a map after inserting is what was inserted or stood there before. -/
theorem mem_of_mem_insert {e : String × α} (h : e ∈ insert k v es) : e = (k, v) ∨ e ∈ es := by
  induction es with
  | nil => exact .inl (List.mem_singleton.1 h)
  | cons x es ih =>
    rw [insert] at h
    split_ifs at h with hk
    · rw [hk] at h
      exact (List.mem_cons.1 h).imp_right (List.mem_cons_of_mem _)
    · rcases List.mem_cons.1 h with rfl | h
      · exact .inr List.mem_cons_self
      · exact (ih h).imp_right (List.mem_cons_of_mem _)

/-! ### Collecting pairs -/

theorem nodup_foldl_insert (ps : List (String × α)) (h : (keys es).Nodup) :
    (keys (ps.foldl (fun es p => insert p.1 p.2 es) es)).Nodup := by
  induction ps generalizing es with
  | nil => exact h
  | cons p ps ih => exact ih (nodup_insert h)

/-- **Collecting pairs makes a map.** -/
theorem nodup_ofPairs (ps : List (String × α)) : (keys (ofPairs ps)).Nodup :=
  nodup_foldl_insert ps List.nodup_nil

theorem foldl_insert_eq_append (ps : List (String × α)) (h : (keys (es ++ ps)).Nodup) :
    ps.foldl (fun es p => insert p.1 p.2 es) es = es ++ ps := by
  induction ps generalizing es with
  | nil => simp
  | cons p ps ih =>
    have hp : p.1 ∉ keys es := by
      rw [keys_append, keys_cons, List.nodup_append] at h
      exact fun hm => h.2.2 _ hm _ List.mem_cons_self rfl
    rw [List.foldl_cons, insert_of_notMem hp, ih (by simpa using h), List.append_assoc,
      List.singleton_append]

theorem insert_map (f : α → β) (es : List (String × α)) :
    insert k (f v) (es.map fun e => (e.1, f e.2)) = (insert k v es).map fun e => (e.1, f e.2) := by
  induction es with
  | nil => rfl
  | cons e es ih =>
    rw [List.map_cons, insert, insert]
    split_ifs
    · rfl
    · rw [ih, List.map_cons]

/-- Values may be changed before or after collecting. -/
theorem ofPairs_map (f : α → β) (ps : List (String × α)) :
    ofPairs (ps.map fun e => (e.1, f e.2)) = (ofPairs ps).map fun e => (e.1, f e.2) := by
  suffices h : ∀ es : List (String × α),
      (ps.map fun e => (e.1, f e.2)).foldl (fun es p => insert p.1 p.2 es)
          (es.map fun e => (e.1, f e.2)) =
        (ps.foldl (fun es p => insert p.1 p.2 es) es).map fun e => (e.1, f e.2) from h []
  intro es
  induction ps generalizing es with
  | nil => rfl
  | cons p ps ih => simp only [List.map_cons, List.foldl_cons, insert_map, ih]

/-- A map is collected as it is. -/
theorem ofPairs_eq_self (h : (keys es).Nodup) : ofPairs es = es :=
  foldl_insert_eq_append es h

theorem mem_keys_foldl_insert (ps : List (String × α)) :
    k ∈ keys (ps.foldl (fun es p => insert p.1 p.2 es) es) ↔ k ∈ keys es ∨ k ∈ keys ps := by
  induction ps generalizing es with
  | nil => simp
  | cons p ps ih =>
    rw [List.foldl_cons, ih, mem_keys_insert, keys_cons, List.mem_cons, or_assoc]

/-- A map into which pairs are collected is covered by the map that they make by themselves. -/
theorem find?_foldl_insert_ofPairs (ps : List (String × α)) :
    find? k (ps.foldl (fun es p => insert p.1 p.2 es) es) =
      (find? k (ofPairs ps)).or (find? k es) := by
  rw [ofPairs]
  induction ps generalizing es with
  | nil => rfl
  | cons p ps ih =>
    have hp : find? k (insert p.1 p.2 es) = (find? k (insert p.1 p.2 [])).or (find? k es) := by
      rw [find?_insert, find?_insert]
      split_ifs <;> rfl
    -- the pair is collected into the map first, and into the empty map by itself
    rw [List.foldl_cons, List.foldl_cons, ih, hp, ← Option.or_assoc]
    exact congrArg (Option.or · (find? k es)) ih.symm

/-- The entries of a map go before those that it is collected into. -/
theorem find?_foldl_insert {ps : List (String × α)} (h : (keys ps).Nodup) :
    find? k (ps.foldl (fun es p => insert p.1 p.2 es) es) = (find? k ps).or (find? k es) := by
  rw [find?_foldl_insert_ofPairs, ofPairs_eq_self h]

theorem mem_of_mem_foldl_insert {e : String × α} (ps : List (String × α))
    (h : e ∈ ps.foldl (fun es p => insert p.1 p.2 es) es) : e ∈ es ∨ e ∈ ps := by
  induction ps generalizing es with
  | nil => exact .inl h
  | cons p ps ih =>
    rcases ih h with h | h
    · rcases mem_of_mem_insert h with rfl | h
      · exact .inr List.mem_cons_self
      · exact .inl h
    · exact .inr (List.mem_cons_of_mem _ h)

/-- What stands in a collected map is one of the pairs. -/
theorem mem_of_mem_ofPairs {e : String × α} {ps : List (String × α)} (h : e ∈ ofPairs ps) :
    e ∈ ps :=
  (mem_of_mem_foldl_insert ps h).resolve_left List.not_mem_nil

theorem mem_keys_ofPairs {ps : List (String × α)} : k ∈ keys (ofPairs ps) ↔ k ∈ keys ps :=
  (mem_keys_foldl_insert ps).trans (by simp)

/-! ### Maps in another order -/

/-- Two lists are the same map: they have the same entries in any order, and no key twice. -/
structure Shuffles (es fs : List (String × α)) : Prop where
  /-- The entries are the same. -/
  perm : es.Perm fs
  /-- No key stands there twice. -/
  nodup : (keys es).Nodup

namespace Shuffles

variable (h : Shuffles es fs)
include h

theorem keys_perm : (keys es).Perm (keys fs) :=
  h.perm.map _

theorem symm : Shuffles fs es :=
  ⟨h.perm.symm, h.keys_perm.nodup_iff.1 h.nodup⟩

theorem mem_keys_iff : k ∈ keys es ↔ k ∈ keys fs :=
  h.keys_perm.mem_iff

/-- **The same map gives each key the same value.** -/
theorem find?_eq (k : String) : find? k es = find? k fs := by
  rcases he : find? k es with _ | v
  · rw [find?_eq_none_iff, h.mem_keys_iff] at he
    exact (find?_eq_none_iff.2 he).symm
  · exact (find?_of_mem h.symm.nodup (h.perm.mem_iff.1 (mem_of_find? he))).symm

theorem has_eq (k : String) : has es k = has fs k := by
  rw [Bool.eq_iff_iff, has_iff, has_iff, h.mem_keys_iff]

/-- A new entry may be put at the end of both. -/
theorem concat (hk : k ∉ keys es) : Shuffles (es ++ [(k, v)]) (fs ++ [(k, v)]) := by
  refine ⟨h.perm.append_right _, ?_⟩
  rw [← insert_of_notMem hk]
  exact nodup_insert h.nodup

/-- What is got from the entries one by one is the same up to the order. -/
theorem flatMap_perm (f : String × α → List β) : (es.flatMap f).Perm (fs.flatMap f) :=
  h.perm.flatMap_right f

end Shuffles

end Entries

end ApiModel
