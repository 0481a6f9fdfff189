import ApiModel.Naming.Name
import ApiModel.Proofs.Text.Pieces
import Mathlib.Data.List.Chain

/-!
# Identifiers of texts

The pass over a text that makes its identifier keeps the runs of letters and numbers of the text and
parts them by underscores (`Name.Scan.Reads.foldl`, `Name.identifier_of_runs`).  So the identifier
has the same runs as the text if there are any (`Name.runs_identifier`), and as the words of a text
lie within its runs, the casings of a name are those of the text itself; a text without letters and
numbers gets those of a stand-in (`Name.namedByRuns`).
-/

namespace ApiModel

namespace Text

variable {c : Char} {s t u w : List Char} {ws : List (List Char)}

/-! ### Joined words -/

theorem joinWords_concat (hws : ws ≠ []) (w : List Char) :
    joinWords (ws ++ [w]) = joinWords ws ++ '_' :: w := by
  induction ws with
  | nil => exact absurd rfl hws
  | cons u ws ih =>
    rw [List.cons_append, joinWords_cons u (by simp)]
    rcases eq_or_ne ws [] with rfl | hws
    · rw [List.nil_append, joinWords_singleton, joinWords_singleton]
    · rw [ih hws, joinWords_cons u hws, List.append_assoc, List.cons_append]

theorem joinWords_concat_append (ws : List (List Char)) (w t : List Char) :
    joinWords (ws ++ [w ++ t]) = joinWords (ws ++ [w]) ++ t := by
  rcases eq_or_ne ws [] with rfl | hws
  · simp
  · rw [joinWords_concat hws, joinWords_concat hws, List.append_assoc, List.cons_append]

theorem mem_joinWords (hw : w ∈ ws) (hc : c ∈ w) : c ∈ joinWords ws := by
  induction ws with
  | nil => cases hw
  | cons u ws ih =>
    rcases eq_or_ne ws [] with rfl | hws
    · obtain rfl := List.mem_singleton.1 hw
      rwa [joinWords_singleton]
    · rw [joinWords_cons u hws, List.mem_append, List.mem_cons]
      rcases List.mem_cons.1 hw with rfl | hw
      · exact .inl hc
      · exact .inr (.inr (ih hw))

theorem joinWords_ne_nil (hw : w ∈ ws) (hne : w ≠ []) : joinWords ws ≠ [] := by
  obtain ⟨c, hc⟩ := List.exists_mem_of_ne_nil w hne
  exact List.ne_nil_of_mem (mem_joinWords hw hc)

theorem joinWords_runs_eq_nil_iff : joinWords (runs s) = [] ↔ runs s = [] := by
  constructor
  · intro hnil
    by_contra hne
    obtain ⟨run, hr⟩ := List.exists_mem_of_ne_nil (runs s) hne
    exact joinWords_ne_nil hr (ne_nil_of_mem_runs hr) hnil
  · intro h
    rw [h]
    rfl

/-! ### Tidy texts -/

/-- There is something in a text, and no underscore at its ends or beside another one. -/
structure Tidy (s : List Char) : Prop where
  /-- There is something in it. -/
  ne_nil : s ≠ []
  /-- No underscore stands in front. -/
  head : s.head? ≠ some '_'
  /-- No underscore stands behind. -/
  last : s.getLast? ≠ some '_'
  /-- No two underscores are neighbours. -/
  single : ¬ ['_', '_'] <:+: s

theorem not_doubled_iff :
    ¬ ['_', '_'] <:+: s ↔ List.IsChain (fun c d => ¬ (c = '_' ∧ d = '_')) s := by
  rw [List.isChain_iff_forall_rel_of_append_cons_cons]
  constructor
  · rintro h a b front back rfl ⟨rfl, rfl⟩
    exact h ⟨front, back, by simp⟩
  · rintro h ⟨front, back, rfl⟩
    exact h (List.append_assoc front ['_', '_'] back) ⟨rfl, rfl⟩

theorem tidy_of_alphanumeric (hs : ∀ c ∈ s, isAlphanumeric c = true) (hne : s ≠ []) : Tidy s := by
  have hcut : isAlphanumeric '_' = false := by decide +kernel
  have hmem : '_' ∉ s := fun hm => by simp [hs _ hm] at hcut
  refine ⟨hne, fun h => hmem (List.mem_of_head? h), fun h => hmem (List.mem_of_getLast? h), ?_⟩
  exact fun h => hmem (h.subset List.mem_cons_self)

/-- **Tidy texts may be joined by an underscore.** -/
theorem Tidy.join (hs : Tidy s) (ht : Tidy t) : Tidy (s ++ '_' :: t) where
  ne_nil := by simp
  head := by
    obtain ⟨c, s, rfl⟩ := List.exists_cons_of_ne_nil hs.ne_nil
    exact hs.head
  last := by
    have hlast := List.getLast?_eq_some_getLast ht.ne_nil
    rw [List.append_cons, List.getLast?_append, hlast, Option.some_or, ← hlast]
    exact ht.last
  single := by
    rw [not_doubled_iff, List.isChain_append, List.isChain_cons]
    refine ⟨not_doubled_iff.1 hs.single, ⟨?_, not_doubled_iff.1 ht.single⟩, ?_⟩
    · rintro d hd ⟨-, rfl⟩
      exact ht.head hd
    · rintro c hc d - ⟨rfl, -⟩
      exact hs.last hc

theorem tidy_joinWords (hws : ∀ w ∈ ws, Tidy w) (hne : ws ≠ []) : Tidy (joinWords ws) := by
  induction ws with
  | nil => exact absurd rfl hne
  | cons u ws ih =>
    obtain ⟨hu, hws⟩ := List.forall_mem_cons.1 hws
    rcases eq_or_ne ws [] with rfl | hne
    · rwa [joinWords_singleton]
    · rw [joinWords_cons u hne]
      exact hu.join (ih hws hne)

theorem tidy_joinWords_runs (h : runs s ≠ []) : Tidy (joinWords (runs s)) :=
  tidy_joinWords (fun _ hr => tidy_of_alphanumeric (fun _ => isAlphanumeric_of_mem_runs hr)
    (ne_nil_of_mem_runs hr)) h

/-! ### Casings -/

/-- The four casings of a text. -/
def casings (s : List Char) : List String :=
  [pascal s, camel s, snake s, screaming s].map String.ofList

/-- Only the runs of a text count for its casings. -/
theorem casings_congr (h : runs s = runs t) : casings s = casings t := by
  rw [casings, casings, pascal, pascal, camel_congr h, snake, snake, screaming, screaming,
    words_congr h]

theorem upperWord_eq_nil_iff : upperWord w = [] ↔ w = [] := by
  cases w <;> simp [upperWord, upperForm_ne_nil]

theorem exists_mem_words (hs : ∃ c ∈ s, isAlphanumeric c = true) : ∃ w ∈ words s, w ≠ [] := by
  obtain ⟨c, hc⟩ := hs
  obtain ⟨w, hw, hcw⟩ := exists_mem_words_iff.2 hc
  exact ⟨w, hw, List.ne_nil_of_mem hcw⟩

theorem casings_ne_empty (hs : ∃ c ∈ s, isAlphanumeric c = true) :
    ∀ form ∈ casings s, form ≠ "" := by
  obtain ⟨w, hw, hne⟩ := exists_mem_words hs
  have hpascal : pascal s ≠ [] := fun h =>
    hne (capitalWord_eq_nil_iff.1 (List.flatMap_eq_nil_iff.1 h w hw))
  have hcamel : camel s ≠ [] := by
    rw [ne_eq, camel_eq_nil_iff]
    simpa using hs
  have hsnake : snake s ≠ [] :=
    joinWords_ne_nil (List.mem_map_of_mem hw) (mt lowerWord_eq_nil_iff.1 hne)
  have hscreaming : screaming s ≠ [] :=
    joinWords_ne_nil (List.mem_map_of_mem hw) (mt upperWord_eq_nil_iff.1 hne)
  simp [casings, hpascal, hcamel, hsnake, hscreaming]

end Text

open Text

namespace Name

variable {s t read : List Char} {c : Char} {scan : Scan}

/-! ### The pass over a text -/

namespace Scan

/-- Where a scan stands behind the characters that it has read: it keeps their runs with underscores
between them, and it sees a gap exactly if the last of them belongs to no run. -/
structure Reads (read : List Char) (scan : Scan) : Prop where
  /-- The runs are kept. -/
  kept : scan.kept.reverse = joinWords (runs read)
  /-- The gap is seen. -/
  gap : scan.gap = read.getLast?.any (!isAlphanumeric ·)

theorem reads_start : Reads [] start := ⟨rfl, rfl⟩

theorem Reads.kept_eq_nil_iff (h : Reads read scan) : scan.kept = [] ↔ runs read = [] := by
  rw [← joinWords_runs_eq_nil_iff, ← h.kept, List.reverse_eq_nil_iff]

/-- Behind a gap a run begins, with an underscore before it if something was kept. -/
theorem Reads.step_of_gap (h : Reads read scan) (hg : scan.gap = true)
    (hc : isAlphanumeric c = true) :
    (scan.step c).kept.reverse = joinWords (runs (read ++ [c])) := by
  have hcut : ∀ d ∈ read.getLast?, isAlphanumeric d = false := by
    intro d hd
    have hgap := h.gap
    rw [hg, Option.mem_def.1 hd] at hgap
    simpa using hgap.symm
  rw [step, if_pos hc, hg, runs_concat_of_cut hcut hc]
  by_cases hk : scan.kept = []
  · simp [hk, h.kept_eq_nil_iff.1 hk]
  · rw [joinWords_concat (mt h.kept_eq_nil_iff.2 hk), ← h.kept]
    simp [hk]

/-- Without a gap the last run goes on. -/
theorem Reads.step_of_no_gap (h : Reads read scan) (hg : scan.gap = false)
    (hc : isAlphanumeric c = true) :
    (scan.step c).kept.reverse = joinWords (runs (read ++ [c])) := by
  rw [step, if_pos hc, hg]
  rcases List.eq_nil_or_concat read with rfl | ⟨before, d, rfl⟩
  · have hrun : runs [c] = [[c]] := runs_of_alphanumeric (by simpa using hc) (by simp)
    rw [List.nil_append, hrun, h.kept_eq_nil_iff.2 runs_nil]
    simp
  · rw [List.concat_eq_append] at h ⊢
    have hd : isAlphanumeric d = true := by simpa [hg] using h.gap
    obtain ⟨rs, run, hr, hrc⟩ := exists_runs_concat hd hc before
    rw [hrc, joinWords_concat_append, ← hr, ← h.kept]
    simp

/-- **One more character** is read as the runs of the text are cut. -/
theorem Reads.step (h : Reads read scan) (c : Char) : Reads (read ++ [c]) (scan.step c) := by
  cases hc : isAlphanumeric c with
  | false =>
    rw [Scan.step, if_neg (by simp [hc])]
    refine ⟨?_, by simp [hc]⟩
    rw [ignoresEnds_runs.concat hc]
    exact h.kept
  | true =>
    refine ⟨?_, by simp [Scan.step, hc]⟩
    cases hg : scan.gap with
    | true => exact h.step_of_gap hg hc
    | false => exact h.step_of_no_gap hg hc

theorem Reads.foldl (h : Reads read scan) (rest : List Char) :
    Reads (read ++ rest) (rest.foldl Scan.step scan) := by
  induction rest generalizing read scan with
  | nil => rwa [List.append_nil]
  | cons c rest ih =>
    rw [List.append_cons, List.foldl_cons]
    exact ih (h.step c)

end Scan

/-! ### Identifiers -/

/-- **The runs of a text make its identifier**, if there are any. -/
theorem identifier_of_runs (h : runs s ≠ []) : identifier s = joinWords (runs s) := by
  have hkept := Scan.reads_start.foldl s
  rw [identifier]
  split
  · rename_i hnil
    exact absurd (hkept.kept_eq_nil_iff.1 hnil) h
  · exact hkept.kept

theorem identifier_of_no_runs (h : runs s = []) : identifier s = "unnamed".toList := by
  have hkept := Scan.reads_start.foldl s
  rw [identifier, hkept.kept_eq_nil_iff.2 h]

/-- **An identifier has the runs of the text**, if there are any. -/
theorem runs_identifier (h : runs s ≠ []) : runs (identifier s) = runs s := by
  rw [identifier_of_runs h, runs_joinWords fun _ hr => runs_of_mem_runs hr]

theorem runs_identifier_ne_nil (s : List Char) : runs (identifier s) ≠ [] := by
  by_cases h : runs s = []
  · rw [identifier_of_no_runs h, runs_ne_nil_iff]
    exact ⟨'u', by decide, by decide⟩
  · rwa [runs_identifier h]

theorem identifier_congr (h : runs s = runs t) : identifier s = identifier t := by
  by_cases hs : runs s = []
  · rw [identifier_of_no_runs hs, identifier_of_no_runs (h ▸ hs)]
  · rw [identifier_of_runs hs, identifier_of_runs (h ▸ hs), h]

theorem identifier_identifier (s : List Char) : identifier (identifier s) = identifier s := by
  by_cases h : runs s = []
  · rw [identifier_of_no_runs h]
    decide +kernel
  · exact identifier_congr (runs_identifier h)

theorem tidy_identifier (s : List Char) : Tidy (identifier s) := by
  by_cases h : runs s = []
  · have hstand : "unnamed".toList.all isAlphanumeric = true := by decide +kernel
    rw [identifier_of_no_runs h]
    exact tidy_of_alphanumeric (List.all_eq_true.1 hstand) (by decide)
  · rw [identifier_of_runs h]
    exact tidy_joinWords_runs h

/-! ### Names -/

/-- The four casings of a name. -/
def casings (name : Name) : List String :=
  [name.pascal, name.camel, name.snake, name.screaming]

theorem casings_ofText (text : String) :
    (ofText text).casings = Text.casings (identifier text.toList) :=
  rfl

/-- What of a text counts for its name. -/
structure NamedByRuns (text : String) : Prop where
  /-- A text with a letter or a number has the casings that it has as it is. -/
  usable : (∃ c ∈ text.toList, isAlphanumeric c = true) →
    (ofText text).casings = Text.casings text.toList
  /-- Texts with the same runs have the same casings. -/
  alike : ∀ (other : String) (rs : List (List Char)), HasRuns text.toList rs →
    HasRuns other.toList rs → (ofText other).casings = (ofText text).casings
  /-- An identifier is its own identifier. -/
  settled : identifier (identifier text.toList) = identifier text.toList
  /-- An identifier is not empty, and underscores only part what is in it. -/
  tidy : Tidy (identifier text.toList)
  /-- No casing is empty. -/
  nonempty : ∀ form ∈ (ofText text).casings, form ≠ ""

/-- **The runs of a text alone make its name.** -/
theorem namedByRuns (text : String) : NamedByRuns text where
  usable h := by
    rw [casings_ofText]
    exact casings_congr (runs_identifier (runs_ne_nil_iff.2 h))
  alike other rs h h' := by
    have hruns : runs other.toList = runs text.toList :=
      (hasRuns_iff.1 h').trans (hasRuns_iff.1 h).symm
    rw [casings_ofText, casings_ofText, identifier_congr hruns]
  settled := identifier_identifier text.toList
  tidy := tidy_identifier text.toList
  nonempty := by
    rw [casings_ofText]
    exact casings_ne_empty (runs_ne_nil_iff.1 (runs_identifier_ne_nil text.toList))

example : (ofText "--Get  user(v2)!").snake = "get_user_v2" := by decide +kernel

end Name

end ApiModel
