import ApiModel.Proofs.Entries
import ApiModel.Resolver

/-!
# Resolving over longer tables

Following is understood one step at a time (`followFrom_succ_eq_ok_iff`).  A table of schemas only
grows at its end.  What a pointer leads to in a table is what it leads to in
every longer one (`Resolver.schemaAt_of_prefix`), and it is an entry of the table
(`Resolver.mem_of_schemaAt`).
-/

namespace ApiModel

variable {α : Type} {sec : Section} {table table' : List (String × OrRef α)} {start : String}

theorem Pointer.nameIn_eq_ok_iff {pointer name : String} :
    nameIn sec pointer = .ok name ↔ target? pointer = some (sec, name) := by
  rw [nameIn, target]
  rcases target? pointer with _ | ⟨s, n⟩
  · simp
  · by_cases hs : s = sec <;> simp [hs]

variable {fuel : Nat} {seen : List String} {pointer : String} {v : α}

/-- **One step of following**: a new pointer names a value, or one from which following goes on. -/
theorem followFrom_succ_eq_ok_iff :
    followFrom sec table start (fuel + 1) seen pointer = .ok v ↔
      pointer ∉ seen ∧ ∃ name, Pointer.target? pointer = some (sec, name) ∧
        (Entries.find? name table = some (.inline v) ∨
          ∃ next, Entries.find? name table = some (.ref next) ∧
            followFrom sec table start fuel (pointer :: seen) next = .ok v) := by
  rw [followFrom]
  by_cases hs : pointer ∈ seen
  · simp [hs]
  · rw [if_neg hs]
    rcases hn : Pointer.nameIn sec pointer with err | name
    · have hno : ∀ name, Pointer.target? pointer ≠ some (sec, name) := by
        intro name ht
        cases hn.symm.trans (Pointer.nameIn_eq_ok_iff.2 ht)
      simp [hno]
    · have ht := Pointer.nameIn_eq_ok_iff.1 hn
      rcases he : Entries.find? name table with _ | (next | w) <;> simp [hs, ht, he]

/-- Following goes on in a longer table as before. -/
theorem followFrom_of_prefix (htable : table <+: table') {fuel' : Nat} (hf : fuel ≤ fuel')
    (h : followFrom sec table start fuel seen pointer = .ok v) :
    followFrom sec table' start fuel' seen pointer = .ok v := by
  induction fuel generalizing fuel' seen pointer with
  | zero => cases h
  | succ fuel ih =>
    -- the longer table leaves at least as many steps
    obtain ⟨fuel', rfl⟩ := Nat.exists_eq_add_of_le' (Nat.lt_of_lt_of_le fuel.succ_pos hf)
    have hfind : ∀ {name : String} {x : OrRef α}, Entries.find? name table = some x →
        Entries.find? name table' = some x := by
      obtain ⟨more, rfl⟩ := htable
      exact Entries.find?_append_of_some
    rw [followFrom_succ_eq_ok_iff] at h ⊢
    obtain ⟨hs, name, ht, he | ⟨next, he, h⟩⟩ := h
    · exact ⟨hs, name, ht, .inl (hfind he)⟩
    · exact ⟨hs, name, ht, .inr ⟨next, hfind he, ih (Nat.le_of_succ_le_succ hf) h⟩⟩

theorem mem_of_followFrom (h : followFrom sec table start fuel seen pointer = .ok v) :
    ∃ name, (name, .inline v) ∈ table := by
  induction fuel generalizing seen pointer with
  | zero => cases h
  | succ fuel ih =>
    obtain ⟨-, name, -, he | ⟨next, -, h⟩⟩ := followFrom_succ_eq_ok_iff.1 h
    · exact ⟨name, Entries.mem_of_find? he⟩
    · exact ih h

namespace Resolver

variable {r r' : Resolver} {pointer : String} {s : Schema}

theorem schemaAt_of_prefix (ht : r.schemas <+: r'.schemas) (h : r.schemaAt pointer = .ok s) :
    r'.schemaAt pointer = .ok s := by
  rw [schemaAt, follow] at h ⊢
  exact followFrom_of_prefix ht (Nat.add_le_add_right ht.length_le 2) h

theorem schema_of_prefix (ht : r.schemas <+: r'.schemas) {t : OrRef Schema}
    (h : r.schema t = .ok s) : r'.schema t = .ok s := by
  cases t with
  | inline => exact h
  | ref => exact schemaAt_of_prefix ht h

theorem mem_of_schemaAt (h : r.schemaAt pointer = .ok s) : ∃ name, (name, .inline s) ∈ r.schemas := by
  rw [schemaAt, follow] at h
  exact mem_of_followFrom h

end Resolver

end ApiModel
