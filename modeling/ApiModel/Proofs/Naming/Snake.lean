import ApiModel.Proofs.Naming.Stable

/-!
# Snake case of ASCII texts

The snake case form of a text shows its words: they are small, and an underscore stands between
neighbours.  So the cutter finds exactly these words in it (`Text.words_joinWords`), and casing the
form again changes nothing (`Text.snake_snake`).
-/

namespace ApiModel.Text

variable {s w : List Char} {ws : List (List Char)}

/-- A word as the snake case form shows it. -/
structure Small (w : List Char) : Prop where
  /-- There is something in it. -/
  ne_nil : w ≠ []
  /-- All characters are ASCII letters or digits. -/
  plain : Plain w
  /-- It is in lower case. -/
  lower : lowerWord w = w

theorem Small.quiet (hw : Small w) : Quiet w :=
  hw.lower ▸ quiet_lowerWord hw.plain

theorem small_lowerWord (hp : Plain w) (hne : w ≠ []) : Small (lowerWord w) := by
  refine ⟨?_, plain_lowerWord hp, lowerWord_lowerWord hp⟩
  rw [lowerWord_eq_map hp]
  exact fun h => hne (List.map_eq_nil_iff.1 h)

/-- **Small words are found again** between the underscores. -/
theorem words_joinWords (hws : ∀ w ∈ ws, Small w) : words (joinWords ws) = ws := by
  have hruns : ∀ w ∈ ws, runs w = [w] := fun w hw =>
    runs_of_plain (hws w hw).plain (hws w hw).ne_nil
  have hcut : ∀ w ∈ ws, cutHumps .flat [] w = [w] := fun w hw =>
    cutHumps_quiet (hws w hw).quiet (hws w hw).ne_nil
  rw [words, runs_joinWords hruns, List.flatMap_congr hcut, List.flatMap_singleton']

/-- **The snake case form of an ASCII text is its own snake case form.** -/
theorem snake_snake (hs : Ascii s) : snake (snake s) = snake s := by
  have hsmall : ∀ v ∈ (words s).map lowerWord, Small v := by
    intro v hv
    obtain ⟨w, hw, rfl⟩ := List.mem_map.1 hv
    obtain ⟨hp, hne⟩ := plain_of_mem_words hs hw
    exact small_lowerWord hp hne
  have hlower : ((words s).map lowerWord).map lowerWord = (words s).map lowerWord :=
    (List.map_congr_left fun v hv => (hsmall v hv).lower).trans (List.map_id' _)
  rw [snake, snake, words_joinWords hsmall, hlower]

end ApiModel.Text
