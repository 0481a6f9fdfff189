import ApiModel.Text.Casing
import Mathlib.Data.List.TakeWhile

/-!
# Pieces, runs and words of a text

A character that is cut away cuts a text in two, so that the pieces of the whole are those of the
two sides (`Text.split_append_of_cut`), and its runs too (`Text.runs_append_of_cut`); these are the
maximal runs of letters and numbers in the text (`Text.hasRuns_iff`).  Nothing else gets lost: the
pieces, and the words of a name, hold in their order the characters that are not cut away
(`Text.flatten_split`, `Text.flatten_words`).  As no character has an empty case form, the camel
case form of a text is empty exactly when it has neither letter nor number
(`Text.camel_eq_nil_iff`); and what does not depend on other characters at the ends of a text, as
its camel case form, does not depend on blanks there (`Text.IgnoresEnds.trim`).
-/

namespace ApiModel.Text

variable {cut : Char → Bool} {c : Char} {s t w piece run : List Char}

/-! ### Pieces -/

theorem split_ne_nil (cut : Char → Bool) (s : List Char) : split cut s ≠ [] := by
  fun_cases split cut s <;> exact List.cons_ne_nil _ _

theorem split_cons_of_cut (hc : cut c = true) (s : List Char) :
    split cut (c :: s) = [] :: split cut s := by
  rw [split, if_pos hc]

theorem split_cons_of_not_cut (hc : cut c = false) {first : List Char} {others : List (List Char)}
    (hs : split cut s = first :: others) : split cut (c :: s) = (c :: first) :: others := by
  rw [split, if_neg (by simp [hc]), hs]

/-- **A character that is cut away cuts a text in two.** -/
theorem split_append_of_cut (hc : cut c = true) (s t : List Char) :
    split cut (s ++ c :: t) = split cut s ++ split cut t := by
  induction s with
  | nil => exact split_cons_of_cut hc t
  | cons d s ih =>
    rw [List.cons_append]
    cases hd : cut d with
    | true => rw [split_cons_of_cut hd, split_cons_of_cut hd, ih, List.cons_append]
    | false =>
      obtain ⟨first, others, hs⟩ := List.exists_cons_of_ne_nil (split_ne_nil cut s)
      rw [hs, List.cons_append] at ih
      rw [split_cons_of_not_cut hd hs, split_cons_of_not_cut hd ih, List.cons_append]

theorem split_of_not_cut (hs : ∀ c ∈ s, cut c = false) : split cut s = [s] := by
  induction s with
  | nil => rfl
  | cons c s ih =>
    obtain ⟨hc, hs⟩ := List.forall_mem_cons.1 hs
    exact split_cons_of_not_cut hc (ih hs)

theorem exists_split_concat (hc : cut c = false) (s : List Char) : ∃ pieces last,
    split cut s = pieces ++ [last] ∧ split cut (s ++ [c]) = pieces ++ [last ++ [c]] := by
  induction s with
  | nil => exact ⟨[], [], rfl, split_cons_of_not_cut hc rfl⟩
  | cons d s ih =>
    obtain ⟨pieces, last, hs, hsc⟩ := ih
    rw [List.cons_append]
    cases hd : cut d with
    | true =>
      refine ⟨[] :: pieces, last, ?_, ?_⟩
      · rw [split_cons_of_cut hd, hs, List.cons_append]
      · rw [split_cons_of_cut hd, hsc, List.cons_append]
    | false =>
      cases pieces with
      | nil => exact ⟨[], d :: last, split_cons_of_not_cut hd hs, split_cons_of_not_cut hd hsc⟩
      | cons first others =>
        exact ⟨(d :: first) :: others, last, split_cons_of_not_cut hd hs,
          split_cons_of_not_cut hd hsc⟩

theorem flatten_split (cut : Char → Bool) (s : List Char) :
    (split cut s).flatten = s.filter (!cut ·) := by
  induction s with
  | nil => rfl
  | cons d s ih =>
    cases hd : cut d with
    | true =>
      rw [split_cons_of_cut hd, List.flatten_cons, List.nil_append, ih,
        List.filter_cons_of_neg (by simp [hd])]
    | false =>
      obtain ⟨first, others, hs⟩ := List.exists_cons_of_ne_nil (split_ne_nil cut s)
      rw [hs, List.flatten_cons] at ih
      rw [split_cons_of_not_cut hd hs, List.flatten_cons, List.cons_append, ih,
        List.filter_cons_of_pos (by simp [hd])]

theorem exists_mem_split_iff :
    (∃ piece ∈ split cut s, c ∈ piece) ↔ c ∈ s ∧ cut c = false := by
  rw [← List.mem_flatten, flatten_split, List.mem_filter, Bool.not_eq_true']

theorem mem_of_mem_split (hp : piece ∈ split cut s) (hc : c ∈ piece) : c ∈ s ∧ cut c = false :=
  exists_mem_split_iff.1 ⟨piece, hp, hc⟩

/-! ### Runs -/

@[simp] theorem runs_nil : runs [] = [] := rfl

/-- **What is neither letter nor number parts the runs.** -/
theorem runs_append_of_cut (hc : isAlphanumeric c = false) (s t : List Char) :
    runs (s ++ c :: t) = runs s ++ runs t := by
  rw [runs, split_append_of_cut (by simp [hc]), List.filter_append]
  rfl

theorem runs_cons_of_cut (hc : isAlphanumeric c = false) (s : List Char) :
    runs (c :: s) = runs s :=
  runs_append_of_cut hc [] s

theorem runs_of_alphanumeric (hs : ∀ c ∈ s, isAlphanumeric c = true) (hne : s ≠ []) :
    runs s = [s] := by
  have hkeep : ∀ c ∈ s, (!isAlphanumeric c) = false := fun c hc => by rw [hs c hc, Bool.not_true]
  rw [runs, split_of_not_cut hkeep]
  simpa using hne

theorem ne_nil_of_mem_runs (hr : run ∈ runs s) : run ≠ [] := by
  simpa using (List.mem_filter.1 hr).2

/-- A letter or a number behind a gap is a run of its own. -/
theorem runs_concat_of_cut (hs : ∀ d ∈ s.getLast?, isAlphanumeric d = false)
    (hc : isAlphanumeric c = true) : runs (s ++ [c]) = runs s ++ [[c]] := by
  have hrun : runs [c] = [[c]] := runs_of_alphanumeric (by simpa using hc) (by simp)
  rcases List.eq_nil_or_concat s with rfl | ⟨before, d, rfl⟩
  · exact hrun
  · rw [List.concat_eq_append] at hs ⊢
    have hd : isAlphanumeric d = false := hs d (by simp)
    rw [List.append_assoc, List.singleton_append, runs_append_of_cut hd, runs_append_of_cut hd,
      hrun, runs_nil, List.append_nil]

/-- Behind another one it belongs to the same run. -/
theorem exists_runs_concat {d : Char} (hd : isAlphanumeric d = true)
    (hc : isAlphanumeric c = true) (s : List Char) : ∃ rs run,
      runs (s ++ [d]) = rs ++ [run] ∧ runs (s ++ [d] ++ [c]) = rs ++ [run ++ [c]] := by
  have hdk : (!isAlphanumeric d) = false := by rw [hd, Bool.not_true]
  have hck : (!isAlphanumeric c) = false := by rw [hc, Bool.not_true]
  obtain ⟨pieces, last, -, hsd⟩ := @exists_split_concat (!isAlphanumeric ·) d hdk s
  obtain ⟨pieces', last', hsd', hsc⟩ := @exists_split_concat (!isAlphanumeric ·) c hck (s ++ [d])
  -- both times the same piece is the last one, and it is not empty
  obtain ⟨rfl, hlast⟩ := List.append_inj' (hsd'.symm.trans hsd) rfl
  obtain rfl : last' = last ++ [d] := by simpa using hlast
  refine ⟨pieces'.filter (!·.isEmpty), last ++ [d], ?_, ?_⟩
  · rw [runs, hsd, List.filter_append]
    simp
  · rw [runs, hsc, List.filter_append]
    simp

/-- The maximal runs of letters and numbers in a text, one after the other. -/
inductive HasRuns : List Char → List (List Char) → Prop where
  /-- There are none in an empty text. -/
  | nil : HasRuns [] []
  /-- Any other character belongs to none. -/
  | skip {c : Char} {s : List Char} {rs : List (List Char)} :
      isAlphanumeric c = false → HasRuns s rs → HasRuns (c :: s) rs
  /-- A run goes on until the text ends or any other character comes. -/
  | run {run rest : List Char} {rs : List (List Char)} :
      run ≠ [] → (∀ c ∈ run, isAlphanumeric c = true) →
      (∀ c ∈ rest.head?, isAlphanumeric c = false) → HasRuns rest rs →
      HasRuns (run ++ rest) (run :: rs)

theorem HasRuns.runs_eq {rs : List (List Char)} (h : HasRuns s rs) : runs s = rs := by
  induction h with
  | nil => rfl
  | skip hc _ ih => rw [runs_cons_of_cut hc, ih]
  | @run run rest rs hne hrun hstop _ ih =>
    have hsingle : runs run = [run] := runs_of_alphanumeric hrun hne
    cases rest with
    | nil => rw [List.append_nil, hsingle, ← ih, runs_nil]
    | cons d rest =>
      have hd : isAlphanumeric d = false := hstop d rfl
      rw [runs_cons_of_cut hd] at ih
      rw [runs_append_of_cut hd, hsingle, ih, List.singleton_append]

theorem exists_hasRuns (s : List Char) : ∃ rs, HasRuns s rs := by
  induction s with
  | nil => exact ⟨[], .nil⟩
  | cons c s ih =>
    obtain ⟨rs, hs⟩ := ih
    cases hc : isAlphanumeric c with
    | false => exact ⟨rs, .skip hc hs⟩
    | true =>
      -- the character is in front of the first run, or a run of its own
      have hsingle : ∀ d ∈ [c], isAlphanumeric d = true := by simpa using hc
      cases hs with
      | nil => exact ⟨[[c]], .run (List.cons_ne_nil c []) hsingle (by simp) .nil⟩
      | skip hd hs =>
        exact ⟨[c] :: rs, .run (List.cons_ne_nil c []) hsingle (by simpa using hd) (.skip hd hs)⟩
      | @run run rest rs _ hrun hstop hs =>
        exact ⟨(c :: run) :: rs, .run (List.cons_ne_nil c run)
          (List.forall_mem_cons.2 ⟨hc, hrun⟩) hstop hs⟩

/-- **The pieces that hold something are the maximal runs.** -/
theorem hasRuns_iff {rs : List (List Char)} : HasRuns s rs ↔ runs s = rs := by
  constructor
  · exact HasRuns.runs_eq
  · rintro rfl
    obtain ⟨rs, hs⟩ := exists_hasRuns s
    rwa [hs.runs_eq]

@[simp] theorem joinWords_singleton (w : List Char) : joinWords [w] = w :=
  List.intercalate_singleton

theorem joinWords_cons {ws : List (List Char)} (w : List Char) (hws : ws ≠ []) :
    joinWords (w :: ws) = w ++ '_' :: joinWords ws := by
  rw [joinWords, List.intercalate_cons_of_ne_nil hws, List.append_assoc, List.singleton_append,
    joinWords]

/-- Runs are found again between underscores. -/
theorem runs_joinWords {ws : List (List Char)} (hws : ∀ w ∈ ws, runs w = [w]) :
    runs (joinWords ws) = ws := by
  have hcut : isAlphanumeric '_' = false := by decide +kernel
  induction ws with
  | nil => rfl
  | cons u ws ih =>
    obtain ⟨hu, hws⟩ := List.forall_mem_cons.1 hws
    rcases eq_or_ne ws [] with rfl | hne
    · rwa [joinWords_singleton]
    · rw [joinWords_cons u hne, runs_append_of_cut hcut, hu, List.singleton_append, ih hws]

theorem flatten_runs (s : List Char) : (runs s).flatten = s.filter isAlphanumeric := by
  rw [runs, List.flatten_filter_not_isEmpty, flatten_split]
  simp only [Bool.not_not]

theorem exists_mem_runs_iff :
    (∃ run ∈ runs s, c ∈ run) ↔ c ∈ s ∧ isAlphanumeric c = true := by
  rw [← List.mem_flatten, flatten_runs, List.mem_filter]

theorem isAlphanumeric_of_mem_runs (hr : run ∈ runs s) (hc : c ∈ run) :
    isAlphanumeric c = true :=
  (exists_mem_runs_iff.1 ⟨run, hr, hc⟩).2

theorem runs_of_mem_runs (hr : run ∈ runs s) : runs run = [run] :=
  runs_of_alphanumeric (fun _ hc => isAlphanumeric_of_mem_runs hr hc) (ne_nil_of_mem_runs hr)

theorem runs_ne_nil_iff : runs s ≠ [] ↔ ∃ c ∈ s, isAlphanumeric c = true := by
  constructor
  · intro hne
    obtain ⟨run, hr⟩ := List.exists_mem_of_ne_nil (runs s) hne
    obtain ⟨c, hc⟩ := List.exists_mem_of_ne_nil run (ne_nil_of_mem_runs hr)
    exact ⟨c, exists_mem_runs_iff.1 ⟨run, hr, hc⟩⟩
  · rintro ⟨c, hc⟩
    obtain ⟨run, hr, -⟩ := exists_mem_runs_iff.2 hc
    exact List.ne_nil_of_mem hr

/-! ### Words -/

theorem flatten_cutHumps {hump : Hump} {word rest : List Char} (hrest : rest ≠ []) :
    (cutHumps hump word rest).flatten = word.reverse ++ rest := by
  fun_induction cutHumps hump word rest with
  | case1 => exact absurd rfl hrest
  | case2 => simp
  | case3 hump word d next rest _ ih => simp [ih]
  | case4 hump word d next rest _ _ ih => simp [ih]
  | case5 hump word d next rest _ _ ih => simp [ih]

/-- **The words of a name hold its letters and numbers.** -/
theorem flatten_words (s : List Char) : (words s).flatten = s.filter isAlphanumeric := by
  have hword : ∀ run ∈ runs s, (cutHumps .flat [] run).flatten = run := fun run hr =>
    flatten_cutHumps (ne_nil_of_mem_runs hr)
  calc (words s).flatten
      = ((runs s).map fun run => (cutHumps .flat [] run).flatten).flatten := by
        rw [words, List.flatMap, List.flatten_flatten, List.map_map]
        rfl
    _ = (runs s).flatten := by rw [List.map_congr_left hword, List.map_id']
    _ = s.filter isAlphanumeric := flatten_runs s

theorem exists_mem_words_iff :
    (∃ w ∈ words s, c ∈ w) ↔ c ∈ s ∧ isAlphanumeric c = true := by
  rw [← List.mem_flatten, flatten_words, List.mem_filter]

/-! ### Case forms -/

theorem CaseTable.find_ne_nil {long : List (Nat × List Nat)} {shifts : List Shift}
    (h : ∀ e ∈ long, e.2 ≠ []) (n : Nat) : find long shifts n ≠ [] := by
  rw [find]
  split
  · rename_i form he
    exact h _ (List.mem_of_find?_eq_some he)
  · split <;> exact List.cons_ne_nil _ _

theorem CaseTable.form_ne_nil {long : List (Nat × List Nat)} (h : ∀ e ∈ long, e.2 ≠ [])
    (ascii : Char → Char) (shifts : List Shift) (c : Char) : form ascii long shifts c ≠ [] := by
  rw [form]
  split
  · exact List.cons_ne_nil _ _
  · rw [ne_eq, List.map_eq_nil_iff]
    exact find_ne_nil h _

theorem lowerForm_ne_nil (c : Char) : lowerForm c ≠ [] :=
  CaseTable.form_ne_nil (by decide +kernel) _ _ c

theorem upperForm_ne_nil (c : Char) : upperForm c ≠ [] :=
  CaseTable.form_ne_nil (by decide +kernel) _ _ c

theorem lowerWord_eq_nil_iff : lowerWord w = [] ↔ w = [] := by
  fun_cases lowerWord w <;> simp [lowerForm_ne_nil]

theorem capitalWord_eq_nil_iff : capitalWord w = [] ↔ w = [] := by
  fun_cases capitalWord w <;> simp [upperForm_ne_nil]

/-- **The camel case form of a text is empty exactly when it has neither letter nor number.** -/
theorem camel_eq_nil_iff : camel s = [] ↔ ∀ c ∈ s, isAlphanumeric c = false := by
  have hwords : camel s = [] ↔ ∀ w ∈ words s, w = [] := by
    rw [camel]
    split
    · rename_i hs
      simp [hs]
    · rename_i hs
      simp [hs, lowerWord_eq_nil_iff, capitalWord_eq_nil_iff]
  rw [hwords, ← List.flatten_eq_nil_iff, flatten_words, List.filter_eq_nil_iff]
  simp only [Bool.not_eq_true]

/-- Only the runs of a text count for its words, and so for its camel case form. -/
theorem words_congr (h : runs s = runs t) : words s = words t := by
  rw [words, words, h]

theorem camel_congr (h : runs s = runs t) : camel s = camel t := by
  rw [camel, camel, words_congr h]

/-! ### The ends of a text -/

/-- What is made of a text does not depend on characters at its ends that are neither letters nor
numbers. -/
structure IgnoresEnds {α : Type} (f : List Char → α) : Prop where
  /-- Such a character in front does not count. -/
  cons {c : Char} : isAlphanumeric c = false → ∀ s, f (c :: s) = f s
  /-- Such a character behind does not count. -/
  concat {c : Char} : isAlphanumeric c = false → ∀ s, f (s ++ [c]) = f s

section IgnoresEnds

variable {α : Type} {f : List Char → α}

theorem IgnoresEnds.append_left (h : IgnoresEnds f) {front : List Char}
    (hfront : ∀ c ∈ front, isAlphanumeric c = false) (s : List Char) : f (front ++ s) = f s := by
  induction front with
  | nil => rfl
  | cons c front ih =>
    obtain ⟨hc, hfront⟩ := List.forall_mem_cons.1 hfront
    rw [List.cons_append, h.cons hc, ih hfront]

theorem IgnoresEnds.append_right (h : IgnoresEnds f) {back : List Char}
    (hback : ∀ c ∈ back, isAlphanumeric c = false) (s : List Char) : f (s ++ back) = f s := by
  induction back generalizing s with
  | nil => rw [List.append_nil]
  | cons c back ih =>
    obtain ⟨hc, hback⟩ := List.forall_mem_cons.1 hback
    rw [List.append_cons, ih hback, h.concat hc]

theorem isAlphanumeric_of_isBlank (hc : isBlank c = true) : isAlphanumeric c = false := by
  have hblanks : ∀ n ∈ [0x09, 0x0A, 0x0B, 0x0C, 0x0D, 0x20, 0x85, 0xA0, 0x1680, 0x2000, 0x2001,
      0x2002, 0x2003, 0x2004, 0x2005, 0x2006, 0x2007, 0x2008, 0x2009, 0x200A, 0x2028, 0x2029,
      0x202F, 0x205F, 0x3000], isAlphanumeric (Char.ofNat n) = false := by decide +kernel
  rw [← Char.ofNat_toNat c]
  refine hblanks _ ?_
  simp only [isBlank, Bool.or_eq_true, Bool.and_eq_true, decide_eq_true_eq, beq_iff_eq] at hc
  simp only [List.mem_cons, List.not_mem_nil, or_false]
  omega

theorem exists_eq_append_trim (s : List Char) : ∃ front back,
    s = front ++ (trim s ++ back) ∧ (∀ c ∈ front, isBlank c = true) ∧
      ∀ c ∈ back, isBlank c = true := by
  refine ⟨s.takeWhile isBlank,
    ((s.dropWhile isBlank).reverse.takeWhile isBlank).reverse, ?_, ?_, ?_⟩
  · rw [trim, ← List.reverse_append, List.takeWhile_append_dropWhile, List.reverse_reverse,
      List.takeWhile_append_dropWhile]
  · exact fun c hc => List.mem_takeWhile_imp hc
  · exact fun c hc => List.mem_takeWhile_imp (List.mem_reverse.1 hc)

/-- **Trimming does not count** where the ends of a text do not. -/
theorem IgnoresEnds.trim (h : IgnoresEnds f) (s : List Char) : f (trim s) = f s := by
  obtain ⟨front, back, hs, hfront, hback⟩ := exists_eq_append_trim s
  calc f (Text.trim s)
      = f (Text.trim s ++ back) :=
        (h.append_right (fun c hc => isAlphanumeric_of_isBlank (hback c hc)) _).symm
    _ = f (front ++ (Text.trim s ++ back)) :=
        (h.append_left (fun c hc => isAlphanumeric_of_isBlank (hfront c hc)) _).symm
    _ = f s := congrArg f hs.symm

end IgnoresEnds

theorem ignoresEnds_runs : IgnoresEnds runs where
  cons hc s := runs_cons_of_cut hc s
  concat hc s := (runs_append_of_cut hc s []).trans (List.append_nil _)

theorem ignoresEnds_camel : IgnoresEnds camel where
  cons hc s := camel_congr (ignoresEnds_runs.cons hc s)
  concat hc s := camel_congr (ignoresEnds_runs.concat hc s)

end ApiModel.Text
