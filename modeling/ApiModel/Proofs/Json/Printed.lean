import ApiModel.Json.Printer
import ApiModel.Proofs.Json.Number
import ApiModel.Proofs.Pointwise

/-!
# Reading printed values

The compact text of a value is read back as the same value (`Json.ofJsonText?_compact`), as long as
its numbers are read back and it is not nested too deeply.  The reader takes exactly the text of the
value, whatever stands behind it (`Json.Reader.takes_of_nested`), so that lists and objects are read
item by item.
-/

namespace ApiModel

namespace Json.Reader

/-! ### Strings -/

theorem hexWord?_escape {n : Nat} (h : n < 0x20) :
    hexWord? '0' '0' (hexDigit (n / 16)) (hexDigit (n % 16)) = some n := by
  have hall : ∀ n < 0x20, hexWord? '0' '0' (hexDigit (n / 16)) (hexDigit (n % 16)) = some n := by
    decide
  exact hall n h

theorem units?_letter {c d : Char} (hc : c ≠ 'u') (hd : escaped? c = some d) (s : List Char) :
    units? ('\\' :: c :: s) = (units? s).map fun r => (d.toNat :: r.1, r.2) := by
  rw [units?, hd]
  · cases units? s <;> rfl
  · intro _ _ _ _ _ h
    exact absurd h hc

/-- The written form of a character is read as its code point. -/
theorem units?_escapeChar (c : Char) (s : List Char) :
    units? (escapeChar c ++ s) = (units? s).map fun r => (c.toNat :: r.1, r.2) := by
  unfold escapeChar
  split
  -- the characters with an escape of one letter
  iterate 7
    · exact units?_letter (by decide) rfl s
  rename_i hquote hbackslash _ _ _ _ _
  split_ifs with hc
  · simp only [List.cons_append, List.nil_append, units?, hexWord?_escape hc, Option.bind_eq_bind,
      Option.bind_some]
    cases units? s <;> rfl
  · have hplain : ¬ (c.toNat < 0x20 ∨ c = '\\') := not_or.2 ⟨hc, hbackslash⟩
    rw [List.singleton_append, units?, if_neg hplain]
    · cases units? s <;> rfl
    · exact hquote
    · intro _ _ _ _ _ h
      exact absurd h hbackslash
    · intro _ _ h
      exact absurd h hbackslash

theorem units?_quoted (cs s : List Char) :
    units? (cs.flatMap escapeChar ++ '"' :: s) = some (cs.map Char.toNat, s) := by
  induction cs with
  | nil => rfl
  | cons c cs ih =>
    rw [List.flatMap_cons, List.append_assoc, units?_escapeChar, ih]
    rfl

/-- Characters are no surrogates, so their code points are read as they are. -/
theorem ofUnits?_toNat (cs : List Char) : ofUnits? (cs.map Char.toNat) = some cs := by
  have hscalar (c : Char) : ¬ (0xD800 ≤ c.toNat ∧ c.toNat < 0xE000) := by
    have := c.valid
    simp only [UInt32.isValidChar, Nat.isValidChar] at this
    change c.toNat < 0xd800 ∨ 0xdfff < c.toNat ∧ c.toNat < 0x110000 at this
    omega
  induction cs with
  | nil => rfl
  | cons c cs ih =>
    have hc := hscalar c
    rcases cs with _ | ⟨d, cs⟩
    · simp only [List.map_cons, List.map_nil, ofUnits?, if_neg hc, Char.ofNat_toNat]
    · have hhigh : ¬ (0xD800 ≤ c.toNat ∧ c.toNat < 0xDC00) := by omega
      have hlow : ¬ (0xDC00 ≤ c.toNat ∧ c.toNat < 0xE000) := by omega
      simp only [List.map_cons] at ih ⊢
      rw [ofUnits?, if_neg hhigh, if_neg hlow, ih, Option.map_some, Char.ofNat_toNat]

/-- **A string is read back**, and what stands behind it is left. -/
theorem string?_quoted (text : String) (s : List Char) :
    string? (text.toList.flatMap escapeChar ++ '"' :: s) = some (some text, s) := by
  simp only [string?, units?_quoted, ofUnits?_toNat, Option.bind_eq_bind, Option.bind_some,
    Option.map_some, String.ofList_toList]

end Json.Reader

namespace Json

/-! ### Values -/

mutual

/-- What the text of a value says. -/
def tree : Json → Tree
  | null => .null
  | bool b => .bool b
  | number n => .number n
  | string s => .text s
  | array items => .list true (treeItems items)
  | object members => .map true (treeMembers members)

/-- What the texts of items say. -/
def treeItems : List Json → List Tree
  | [] => []
  | v :: rest => v.tree :: treeItems rest

/-- What the texts of members say. -/
def treeMembers : List (String × Json) → List (Tree × Tree)
  | [] => []
  | (k, v) :: rest => (.text k, v.tree) :: treeMembers rest

end

theorem treeItems_eq (items : List Json) : treeItems items = items.map tree := by
  induction items with
  | nil => rfl
  | cons v rest ih => rw [treeItems, ih, List.map_cons]

theorem treeMembers_eq (members : List (String × Json)) :
    treeMembers members = members.map fun m => (.text m.1, m.2.tree) := by
  induction members with
  | nil => rfl
  | cons m rest ih => rw [treeMembers, ih, List.map_cons]

theorem tree_array (items : List Json) : (array items).tree = .list true (items.map tree) := by
  rw [tree, treeItems_eq]

theorem tree_object (members : List (String × Json)) :
    (object members).tree = .map true (members.map fun m => (.text m.1, m.2.tree)) := by
  rw [tree, treeMembers_eq]

/-- The tree of an object as a map of entries. -/
theorem tree_object_entries (members : List (String × Json)) :
    (object members).tree =
      .map true ((members.map fun m => (m.1, m.2.tree)).map fun e => (.text e.1, e.2)) := by
  rw [tree_object, List.map_map]
  rfl

mutual

/-- The numbers in a value. -/
def numbers : Json → List Number
  | number n => [n]
  | array items => numbersOfItems items
  | object members => numbersOfMembers members
  | _ => []

/-- The numbers in items. -/
def numbersOfItems : List Json → List Number
  | [] => []
  | v :: rest => v.numbers ++ numbersOfItems rest

/-- The numbers in members. -/
def numbersOfMembers : List (String × Json) → List Number
  | [] => []
  | (_, v) :: rest => v.numbers ++ numbersOfMembers rest

end

/-- The numbers of a value are of a kind, and its lists and objects are nested at most so deep. -/
inductive Nested (P : Number → Prop) : Nat → Json → Prop
  | null {n : Nat} : Nested P n null
  | bool {n : Nat} (b : Bool) : Nested P n (bool b)
  | number {n : Nat} {x : Number} (h : P x) : Nested P n (number x)
  | string {n : Nat} (s : String) : Nested P n (string s)
  | array {n : Nat} {items : List Json} (h : ∀ v ∈ items, Nested P n v) :
    Nested P (n + 1) (array items)
  | object {n : Nat} {members : List (String × Json)} (h : ∀ m ∈ members, Nested P n m.2) :
    Nested P (n + 1) (object members)

theorem numbers_subset_of_mem_items {v : Json} {items : List Json} (h : v ∈ items) :
    v.numbers ⊆ (array items).numbers := by
  rw [numbers]
  induction items with
  | nil => cases h
  | cons w items ih =>
    rw [numbersOfItems]
    rcases List.mem_cons.1 h with rfl | h
    · exact List.subset_append_left _ _
    · exact List.Subset.trans (ih h) (List.subset_append_right _ _)

theorem numbers_subset_of_mem_members {m : String × Json} {members : List (String × Json)}
    (h : m ∈ members) : m.2.numbers ⊆ (object members).numbers := by
  rw [numbers]
  induction members with
  | nil => cases h
  | cons w members ih =>
    rw [numbersOfMembers]
    rcases List.mem_cons.1 h with rfl | h
    · exact List.subset_append_left _ _
    · exact List.Subset.trans (ih h) (List.subset_append_right _ _)

/-- The numbers may be known to be of another kind. -/
theorem Nested.of_numbers {P Q : Number → Prop} {n : Nat} {v : Json} (h : Nested P n v)
    (hQ : ∀ x ∈ v.numbers, P x → Q x) : Nested Q n v := by
  induction h with
  | null => exact .null
  | bool b => exact .bool b
  | number h => exact .number (hQ _ (List.mem_singleton_self _) h)
  | string s => exact .string s
  | array _ ih =>
    exact .array fun v hv => ih v hv fun x hx => hQ x (numbers_subset_of_mem_items hv hx)
  | object _ ih =>
    exact .object fun m hm => ih m hm fun x hx => hQ x (numbers_subset_of_mem_members hm hx)

end Json

namespace Json.Reader

variable {n : Nat} {v : Json}

/-- A printed value begins with neither a blank nor the end of a list. -/
def Begins (c : Char) : Prop :=
  c ≠ ' ' ∧ c ≠ '\n' ∧ c ≠ '\t' ∧ c ≠ '\r' ∧ c ≠ ']'

instance (c : Char) : Decidable (Begins c) :=
  inferInstanceAs (Decidable (_ ∧ _))

theorem skipBlanks_of_begins {c : Char} (h : Begins c) (s : List Char) :
    skipBlanks (c :: s) = c :: s := by
  obtain ⟨hblank, hline, htab, hreturn, -⟩ := h
  simp [skipBlanks, hblank, hline, htab, hreturn]

/-- The reader takes the text of a value from the front of a longer text. -/
def Takes (level : Nat) (v : Json) : Prop :=
  (∃ c s, v.compactChars = c :: s ∧ Begins c) ∧
    ∀ fuel rest, 2 * v.compactChars.length ≤ fuel → Ends rest →
      value? fuel level (v.compactChars ++ rest) = some (v.tree, rest)

theorem takes_null (level : Nat) : Takes level null := by
  refine ⟨⟨'n', _, rfl, by decide⟩, fun fuel rest hf _ => ?_⟩
  obtain ⟨fuel, rfl⟩ := Nat.exists_eq_add_of_le' (Nat.le_trans (by decide : 1 ≤ 8) hf)
  rfl

theorem takes_bool (level : Nat) (b : Bool) : Takes level (bool b) := by
  cases b with
  | false =>
    refine ⟨⟨'f', _, rfl, by decide⟩, fun fuel rest hf _ => ?_⟩
    obtain ⟨fuel, rfl⟩ := Nat.exists_eq_add_of_le' (Nat.le_trans (by decide : 1 ≤ 10) hf)
    rfl
  | true =>
    refine ⟨⟨'t', _, rfl, by decide⟩, fun fuel rest hf _ => ?_⟩
    obtain ⟨fuel, rfl⟩ := Nat.exists_eq_add_of_le' (Nat.le_trans (by decide : 1 ≤ 8) hf)
    rfl

theorem takes_number {x : Number} (h : x.ReadsBack) (level : Nat) : Takes level (number x) := by
  obtain ⟨l, hl, hx⟩ := h
  obtain ⟨c, s, hs, hc⟩ := exists_of_literal? hl
  have hbegins : Begins c ∧ c ≠ '"' ∧ c ≠ '[' ∧ c ≠ '\x7b' ∧ c ≠ 'n' ∧ c ≠ 't' ∧ c ≠ 'f' := by
    rcases hc with rfl | hc
    · decide
    · refine ⟨⟨?_, ?_, ?_, ?_, ?_⟩, ?_, ?_, ?_, ?_, ?_, ?_⟩ <;> rintro rfl <;> cases hc
  obtain ⟨hbegins, hquote, hlist, hobject, hnull, htrue, hfalse⟩ := hbegins
  refine ⟨⟨c, s, hs, hbegins⟩, fun fuel rest hf hrest => ?_⟩
  have hread := literal?_append hrest hl
  rw [compactChars, hs, List.length_cons] at hf
  obtain ⟨fuel, rfl⟩ := Nat.exists_eq_add_of_le' (show 1 ≤ fuel by omega)
  rw [compactChars, tree]
  rw [hs, List.cons_append] at hread ⊢
  rw [value?, skipBlanks_of_begins hbegins]
  simp [hnull, htrue, hfalse, hread, hx]

theorem takes_string (level : Nat) (s : String) : Takes level (string s) := by
  refine ⟨⟨'"', _, rfl, by decide⟩, fun fuel rest hf _ => ?_⟩
  simp only [compactChars, quote, List.cons_append, List.length_cons] at hf
  obtain ⟨fuel, rfl⟩ := Nat.exists_eq_add_of_le' (show 1 ≤ fuel by omega)
  simp [value?, compactChars, quote, skipBlanks, string?_quoted, tree]

theorem items?_compactItems {level : Nat} {items : List Json} (hne : items ≠ [])
    (h : ∀ v ∈ items, Takes level v) (fuel : Nat)
    (hf : 2 * (compactItems items).length + 1 ≤ fuel) (rest : List Char) :
    items? fuel level (compactItems items ++ ']' :: rest) = some (items.map tree, rest) := by
  induction items generalizing fuel with
  | nil => exact absurd rfl hne
  | cons v items ih =>
    obtain ⟨fuel, rfl⟩ := Nat.exists_eq_add_of_le' (Nat.le_trans (Nat.le_add_left 1 _) hf)
    obtain ⟨-, hv⟩ := h v List.mem_cons_self
    rcases items with _ | ⟨w, items⟩
    · have hread := hv fuel (']' :: rest) (by simpa [compactItems] using hf) (ends_cons (by simp))
      simp [items?, compactItems, hread, skipBlanks]
    · have hlength : (compactItems (v :: w :: items)).length =
          v.compactChars.length + (compactItems (w :: items)).length + 1 := by
        simp [compactItems]
        omega
      have hread := hv fuel (',' :: (compactItems (w :: items) ++ ']' :: rest)) (by omega)
        (ends_cons (by simp))
      have hmore := ih (List.cons_ne_nil _ _) (fun u hu => h u (List.mem_cons_of_mem _ hu)) fuel
        (by omega)
      simp only [compactItems, List.append_assoc, List.cons_append, items?, hread,
        Option.bind_eq_bind, Option.bind_some]
      simp [skipBlanks, hmore]

theorem members?_compactMembers {level : Nat} {members : List (String × Json)} (hne : members ≠ [])
    (h : ∀ m ∈ members, Takes level m.2) (fuel : Nat)
    (hf : 2 * (compactMembers members).length + 1 ≤ fuel) (rest : List Char) :
    members? fuel level (compactMembers members ++ '\x7d' :: rest) =
      some (members.map fun m => (some m.1, m.2.tree), rest) := by
  induction members generalizing fuel with
  | nil => exact absurd rfl hne
  | cons m members ih =>
    obtain ⟨k, v⟩ := m
    obtain ⟨fuel, rfl⟩ := Nat.exists_eq_add_of_le' (Nat.le_trans (Nat.le_add_left 1 _) hf)
    have hv : Takes level v := h (k, v) List.mem_cons_self
    -- the key and the colon are taken before the value
    have hkey (s : List Char) : string? (k.toList.flatMap escapeChar ++ '"' :: s) = _ :=
      string?_quoted k s
    rcases members with _ | ⟨w, members⟩
    · have hlength : (compactMembers [(k, v)]).length =
          (quote k).length + 1 + v.compactChars.length := by
        simp [compactMembers]
        omega
      have hread := hv.2 fuel ('\x7d' :: rest) (by omega) (ends_cons (by simp))
      simp [members?, compactMembers, quote, skipBlanks, hkey, hread]
    · have hlength : (compactMembers ((k, v) :: w :: members)).length =
          (quote k).length + 1 + v.compactChars.length +
            (compactMembers (w :: members)).length + 1 := by
        simp [compactMembers]
        omega
      have hread := hv.2 fuel (',' :: (compactMembers (w :: members) ++ '\x7d' :: rest)) (by omega)
        (ends_cons (by simp))
      have hmore := ih (List.cons_ne_nil _ _) (fun u hu => h u (List.mem_cons_of_mem _ hu)) fuel
        (by omega)
      simp [members?, compactMembers, quote, skipBlanks, hkey, hread, hmore]

/-- Members whose keys are all texts make a map. -/
theorem mapOf_some (members : List (String × Json)) :
    mapOf (members.map fun m => (some m.1, m.2.tree)) = (object members).tree := by
  have hm : (members.map fun m => (some m.1, m.2.tree)).mapM
      (fun (e : Option String × Tree) => e.1.map fun k => (Tree.text k, e.2)) =
        some (members.map fun m => (Tree.text m.1, m.2.tree)) := by
    rw [mapM_eq_some_iff, List.forall₂_map_left_iff, List.forall₂_map_right_iff]
    exact List.forall₂_same.2 fun m _ => rfl
  rw [tree_object, mapOf]
  split
  · rename_i entries he
    rw [Option.some.inj (hm.symm.trans he)]
  · rename_i he
    cases hm.symm.trans he

theorem takes_array {level : Nat} {items : List Json} (hl : level ≤ maxLevel)
    (h : ∀ v ∈ items, Takes (level + 1) v) : Takes level (array items) := by
  refine ⟨⟨'[', _, rfl, by decide⟩, fun fuel rest hf _ => ?_⟩
  simp only [compactChars, List.cons_append, List.length_cons, List.length_append,
    List.length_nil] at hf
  obtain ⟨fuel, rfl⟩ := Nat.exists_eq_add_of_le' (show 1 ≤ fuel by omega)
  rcases items with _ | ⟨v, items⟩
  · simp [value?, compactChars, compactItems, skipBlanks, atLevel, hl, tree_array]
  · have hread := items?_compactItems (List.cons_ne_nil v items) h fuel (by omega) rest
    -- the first item does not begin with the end of the list
    obtain ⟨⟨c, s, hs, hbegins⟩, -⟩ := h v List.mem_cons_self
    obtain ⟨t, ht⟩ : ∃ t, compactItems (v :: items) = c :: t := by
      rcases items with _ | ⟨w, items⟩
      · exact ⟨s, hs⟩
      · exact ⟨_, by rw [compactItems, hs]; rfl⟩
    rw [ht] at hread
    simp only [compactChars, ht, List.cons_append, List.append_assoc, List.nil_append] at hread ⊢
    rw [value?, show skipBlanks ('[' :: (c :: (t ++ ']' :: rest))) =
      '[' :: (c :: (t ++ ']' :: rest)) from rfl]
    simp [skipBlanks_of_begins hbegins, hbegins.2.2.2.2, hread, atLevel, hl, tree_array]

theorem takes_object {level : Nat} {members : List (String × Json)} (hl : level ≤ maxLevel)
    (h : ∀ m ∈ members, Takes (level + 1) m.2) : Takes level (object members) := by
  refine ⟨⟨'\x7b', _, rfl, by decide⟩, fun fuel rest hf _ => ?_⟩
  simp only [compactChars, List.cons_append, List.length_cons, List.length_append,
    List.length_nil] at hf
  obtain ⟨fuel, rfl⟩ := Nat.exists_eq_add_of_le' (show 1 ≤ fuel by omega)
  rcases members with _ | ⟨m, members⟩
  · simp [value?, compactChars, compactMembers, skipBlanks, atLevel, hl, tree_object]
  · have hread := members?_compactMembers (List.cons_ne_nil m members) h fuel (by omega) rest
    -- the first member begins with the quote of its key
    obtain ⟨t, ht⟩ : ∃ t, compactMembers (m :: members) = '"' :: t := by
      rcases members with _ | ⟨w, members⟩ <;> exact ⟨_, rfl⟩
    rw [ht] at hread
    simp only [compactChars, ht, List.cons_append, List.append_assoc, List.nil_append] at hread ⊢
    rw [← mapOf_some]
    simp [value?, skipBlanks, hread, atLevel, hl]

/-- **A printed value is taken from the front of a text**, whatever stands behind it. -/
theorem takes_of_nested (h : Nested Number.ReadsBack n v) {level : Nat}
    (hl : level + n ≤ maxLevel + 1) : Takes level v := by
  induction h generalizing level with
  | null => exact takes_null level
  | bool b => exact takes_bool level b
  | number hx => exact takes_number hx level
  | string s => exact takes_string level s
  | array _ ih => exact takes_array (by omega) fun v hv => ih v hv (by omega)
  | object _ ih => exact takes_object (by omega) fun m hm => ih m hm (by omega)

end Json.Reader

theorem Tree.ofJsonText?_ofList (s : List Char) :
    ofJsonText? (String.ofList s) =
      (Json.Reader.value? (2 * s.length + 2) 1 s).bind fun r =>
        if (Json.Reader.skipBlanks r.2).isEmpty then some r.1 else none := by
  simp [ofJsonText?]

/-- **The compact text of a value is read back.** -/
theorem Json.ofJsonText?_compact {n : Nat} {v : Json} (h : Nested Number.ReadsBack n v)
    (hn : n ≤ Reader.maxLevel) : Tree.ofJsonText? v.compact = some v.tree := by
  have htakes : Reader.Takes 1 v := Reader.takes_of_nested h (by omega)
  have hread := htakes.2 (2 * v.compactChars.length + 2) [] (by omega) Reader.ends_nil
  rw [List.append_nil] at hread
  rw [compact, Tree.ofJsonText?_ofList, hread]
  rfl

end ApiModel
