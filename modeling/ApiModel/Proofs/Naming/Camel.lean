import ApiModel.Naming.Name
import ApiModel.Proofs.Naming.Words
import ApiModel.Proofs.Text.Ascii
import ApiModel.Proofs.Text.Pieces

/-!
# Camel case of ASCII texts

Casing a text once in camel case need not give what casing it twice gives: `a_b_c` becomes `aBC`, and
that becomes `aBc`.  What is a single run of letters and numbers is settled after one casing
(`Text.exists_settled_camel`): its words follow each other at humps that the casing keeps, so
another casing finds the same words and changes nothing (`Text.Settled.camel_flatten`).  Digits
behind a settled text leave it settled (`Text.Settled.append_digits`).
-/

namespace ApiModel.Text

variable {c : Char} {u v w y ds : List Char} {ws : List (List Char)} {h h' : Hump}

/-! ### Casing words -/

theorem lowerWord_eq_map (hw : Plain w) : lowerWord w = w.map Char.toLower := by
  induction w with
  | nil => rfl
  | cons c w ih =>
    have hc := hw c List.mem_cons_self
    cases w with
    | nil =>
      have hs : c ≠ 'Σ' := by
        rintro rfl
        cases hc
      rw [lowerWord, if_neg hs, lowerForm_eq (toNat_lt_of_isAlphanum hc), List.map_singleton]
    | cons d w =>
      rw [lowerWord, lowerForm_eq (toNat_lt_of_isAlphanum hc), ih hw.of_cons]
      rfl

theorem capitalWord_cons (hw : Plain (c :: w)) :
    capitalWord (c :: w) = c.toUpper :: w.map Char.toLower := by
  rw [capitalWord, upperForm_eq (toNat_lt_of_isAlphanum (hw c List.mem_cons_self)),
    lowerWord_eq_map hw.of_cons]
  rfl

theorem plain_lowerWord (hw : Plain w) : Plain (lowerWord w) := by
  rw [lowerWord_eq_map hw]
  intro c hc
  obtain ⟨d, hd, rfl⟩ := List.mem_map.1 hc
  exact isAlphanum_toLower (hw d hd)

theorem quiet_lowerWord (hw : Plain w) : Quiet (lowerWord w) := by
  rw [lowerWord_eq_map hw]
  intro c hc
  obtain ⟨d, hd, rfl⟩ := List.mem_map.1 hc
  exact isUpper_toLower d (hw.ascii d hd)

theorem plain_capitalWord (hw : Plain w) : Plain (capitalWord w) := by
  cases w with
  | nil => exact hw
  | cons c w =>
    rw [capitalWord_cons hw, ← lowerWord_eq_map hw.of_cons]
    exact List.forall_mem_cons.2
      ⟨isAlphanum_toUpper (hw c List.mem_cons_self), plain_lowerWord hw.of_cons⟩

theorem quiet_tail_capitalWord (hw : Plain w) : Quiet (capitalWord w).tail := by
  cases w with
  | nil => simp [capitalWord, Quiet]
  | cons c w =>
    rw [capitalWord_cons hw, List.tail_cons, ← lowerWord_eq_map hw.of_cons]
    exact quiet_lowerWord hw.of_cons

theorem lowerWord_lowerWord (hw : Plain w) : lowerWord (lowerWord w) = lowerWord w := by
  rw [lowerWord_eq_map (plain_lowerWord hw), lowerWord_eq_map hw, List.map_map]
  exact List.map_congr_left fun c hc => toLower_toLower c (hw.ascii c hc)

theorem capitalWord_capitalWord (hw : Plain w) :
    capitalWord (capitalWord w) = capitalWord w := by
  cases w with
  | nil => rfl
  | cons c w =>
    have hc := plain_capitalWord hw
    have hl := lowerWord_lowerWord hw.of_cons
    rw [lowerWord_eq_map (plain_lowerWord hw.of_cons), lowerWord_eq_map hw.of_cons] at hl
    rw [capitalWord_cons hw] at hc ⊢
    rw [capitalWord_cons hc, toUpper_toUpper c (hw.ascii c List.mem_cons_self), hl]

/-! ### Humps after casing -/

/-- A hump is the same behind a letter and behind its lower case form, unless it is that of a small
letter behind the latter. -/
theorem step_toLower (hc : c.isAlphanum = true) (h h' : Hump) :
    h'.step c.toLower = .low ∨ h'.step c.toLower = h' ∧ h.step c = h := by
  have hlt := toNat_lt_of_isAlphanum hc
  by_cases hcase : isUpper c = true ∨ isLower c = true
  · exact .inl (Hump.step_of_isLower (isLower_toLower c hlt hcase))
  · simp only [not_or, Bool.not_eq_true] at hcase
    rw [toLower_of_not_isUpper c hlt hcase.1]
    simp [Hump.step, hcase]

/-- In a text in lower case the last cased letter, if there is one, is small. -/
theorem after_lowerWord (hw : Plain w) (hh : h ≠ .flat → h' = .low)
    (hne : h.after w ≠ .flat) : h'.after (lowerWord w) = .low := by
  rw [lowerWord_eq_map hw]
  induction w generalizing h h' with
  | nil => exact hh hne
  | cons c w ih =>
    refine ih hw.of_cons (fun hs => ?_) hne
    rcases step_toLower (hw c List.mem_cons_self) h h' with hl | ⟨he', he⟩
    · exact hl
    · exact he'.trans (hh (he ▸ hs))

theorem after_lowerWord_high (hw : Plain w) (hh : h' = .low ∨ h' = .high ∧ h = .high) :
    h'.after (lowerWord w) = .low ∨
      h'.after (lowerWord w) = .high ∧ h.after w = .high := by
  rw [lowerWord_eq_map hw]
  induction w generalizing h h' with
  | nil => exact hh
  | cons c w ih =>
    refine ih hw.of_cons ?_
    rcases step_toLower (hw c List.mem_cons_self) h h' with hl | ⟨he', he⟩
    · exact .inl hl
    · rw [he', he]
      exact hh

theorem Follows.exists_cons (hf : Follows u v) :
    ∃ c t, v = c :: t ∧ isUpper c = true ∧ isLower c = false := by
  obtain ⟨c, t, rfl, hc, hl, -⟩ := hf
  exact ⟨c, t, rfl, hc, hl⟩

theorem Follows.capitalWord (hv : Plain v) (hf : Follows u v) {u' : List Char}
    (hu : Hump.flat.after u' = .low ∨
      Hump.flat.after u' = .high ∧ Hump.flat.after u = .high) :
    Follows u' (Text.capitalWord v) := by
  obtain ⟨c, t, rfl, hc, hl, hf⟩ := hf
  rw [capitalWord_cons hv, toUpper_of_isUpper c (hv.ascii c List.mem_cons_self) hc]
  refine ⟨c, _, rfl, hc, hl, ?_⟩
  rcases hu with hu | ⟨hu, hh⟩
  · exact .inl hu
  · rcases hf with hf | ⟨-, l, s, rfl, hl, hlu⟩
    · rw [hh] at hf
      cases hf
    · have hlq := toLower_of_not_isUpper l (hv.ascii l (by simp)) hlu
      exact .inr ⟨hu, l, s.map Char.toLower, by rw [List.map_cons, hlq], hl, hlu⟩

theorem isChain_capitalWord (hv : ∃ u, Follows u v) (hp : ∀ x ∈ v :: ws, Plain x)
    (hc : List.IsChain Follows (v :: ws)) :
    List.IsChain Follows (capitalWord v :: ws.map capitalWord) := by
  induction ws generalizing v with
  | nil => exact .singleton _
  | cons x ws ih =>
    obtain ⟨hf, hc⟩ := List.isChain_cons_cons.1 hc
    obtain ⟨hpv, hpx⟩ := List.forall_mem_cons.1 hp
    refine List.isChain_cons_cons.2 ⟨?_, ih ⟨v, hf⟩ hpx hc⟩
    obtain ⟨u, hu⟩ := hv
    obtain ⟨c, t, rfl, hcu, hcl⟩ := hu.exists_cons
    refine hf.capitalWord (hpx x List.mem_cons_self) ?_
    rw [capitalWord_cons hpv, toUpper_of_isUpper c (hpv.ascii c List.mem_cons_self) hcu,
      ← lowerWord_eq_map hpv.of_cons, Hump.after_cons, Hump.after_cons,
      Hump.step_of_isUpper hcu hcl]
    exact after_lowerWord_high hpv.of_cons (.inr ⟨rfl, rfl⟩)

/-- **Casing keeps the humps between words.** -/
theorem isChain_cased (hp : ∀ v ∈ w :: ws, Plain v) (hc : List.IsChain Follows (w :: ws)) :
    List.IsChain Follows (lowerWord w :: ws.map capitalWord) := by
  cases ws with
  | nil => exact .singleton _
  | cons v ws =>
    obtain ⟨hf, hc⟩ := List.isChain_cons_cons.1 hc
    obtain ⟨hpw, hpv⟩ := List.forall_mem_cons.1 hp
    refine List.isChain_cons_cons.2
      ⟨hf.capitalWord (hpv v List.mem_cons_self) (.inl ?_), isChain_capitalWord ⟨w, hf⟩ hpv hc⟩
    refine after_lowerWord hpw (fun h => absurd rfl h) ?_
    obtain ⟨-, -, -, -, -, hh | ⟨hh, -⟩⟩ := hf <;> simp [hh]

/-- The words of a run of ASCII letters and digits: none is empty, and each of them follows the one
before it. -/
theorem exists_cutHumps_of_plain (hy : Plain y) (hne : y ≠ []) :
    ∃ w ws, cutHumps .flat [] y = w :: ws ∧ (∀ v ∈ w :: ws, Plain v ∧ v ≠ []) ∧
      List.IsChain Follows (w :: ws) := by
  obtain ⟨w, ws, he, hflat, hnw, hchain⟩ :=
    exists_cutHumps_eq (fun x hx => isLower_of_isUpper x (hy.ascii x hx)) hne
  refine ⟨w, ws, he, fun v hv => ⟨fun c hc => hy c ?_, ?_⟩, hchain⟩
  · rw [← hflat]
    exact List.mem_flatten.2 ⟨v, hv, hc⟩
  · rcases List.mem_cons.1 hv with rfl | hv
    · exact hnw
    · exact ne_nil_of_isChain hchain v hv

/-! ### Settled texts -/

/-- Words in camel case that the cutter finds again. -/
structure Settled (w : List Char) (ws : List (List Char)) : Prop where
  /-- There is a first word. -/
  ne_nil : w ≠ []
  /-- All characters are ASCII letters or digits. -/
  plain : ∀ v ∈ w :: ws, Plain v
  /-- The first word is in lower case. -/
  lower : lowerWord w = w
  /-- The other words are capitalized. -/
  capital : ∀ v ∈ ws, capitalWord v = v
  /-- Each word follows the one before it at a hump. -/
  chain : List.IsChain Follows (w :: ws)

theorem Settled.plain_flatten (hs : Settled w ws) : Plain (w ++ ws.flatten) := by
  intro c hc
  have hc : c ∈ (w :: ws).flatten := hc
  obtain ⟨v, hv, hc⟩ := List.mem_flatten.1 hc
  exact hs.plain v hv c hc

theorem runs_of_plain (hy : Plain y) (hne : y ≠ []) : runs y = [y] :=
  runs_of_alphanumeric (fun c hc => (isAlphanumeric_eq (hy.ascii c hc)).trans (hy c hc)) hne

theorem words_of_plain (hy : Plain y) (hne : y ≠ []) : words y = cutHumps .flat [] y := by
  rw [words, runs_of_plain hy hne, List.flatMap_singleton]

/-- **Casing changes nothing in a settled text.** -/
theorem Settled.camel_flatten (hs : Settled w ws) :
    camel (w ++ ws.flatten) = w ++ ws.flatten := by
  have hq : ∀ v ∈ ws, Quiet v.tail := by
    intro v hv
    rw [← hs.capital v hv]
    exact quiet_tail_capitalWord (hs.plain v (List.mem_cons_of_mem _ hv))
  have hw : Quiet w := by
    rw [← hs.lower]
    exact quiet_lowerWord (hs.plain w List.mem_cons_self)
  have hne : w ++ ws.flatten ≠ [] := by simp [hs.ne_nil]
  rw [camel, words_of_plain hs.plain_flatten hne, cutHumps_flatten hw hs.ne_nil hs.chain hq]
  simp only
  rw [hs.lower, List.flatMap_def, List.map_congr_left hs.capital, List.map_id']

/-- **A run of ASCII letters and digits is settled by one casing.** -/
theorem exists_settled_camel (hy : Plain y) (hne : y ≠ []) :
    ∃ w ws, Settled w ws ∧ camel y = w ++ ws.flatten := by
  obtain ⟨w, ws, he, hwords, hchain⟩ := exists_cutHumps_of_plain hy hne
  have hp : ∀ v ∈ w :: ws, Plain v := fun v hv => (hwords v hv).1
  have hnw : w ≠ [] := (hwords w List.mem_cons_self).2
  refine ⟨lowerWord w, ws.map capitalWord, ⟨?_, ?_, ?_, ?_, isChain_cased hp hchain⟩, ?_⟩
  · rw [lowerWord_eq_map (hp w List.mem_cons_self)]
    exact fun h => hnw (List.map_eq_nil_iff.1 h)
  · refine List.forall_mem_cons.2 ⟨plain_lowerWord (hp w List.mem_cons_self), fun v hv => ?_⟩
    obtain ⟨x, hx, rfl⟩ := List.mem_map.1 hv
    exact plain_capitalWord (hp x (List.mem_cons_of_mem _ hx))
  · exact lowerWord_lowerWord (hp w List.mem_cons_self)
  · intro v hv
    obtain ⟨x, hx, rfl⟩ := List.mem_map.1 hv
    exact capitalWord_capitalWord (hp x (List.mem_cons_of_mem _ hx))
  · rw [camel, words_of_plain hy hne, he]
    simp only
    rw [List.flatMap_def]

/-! ### Digits behind a settled text -/

theorem lowerWord_append (hw : Plain w) (hd : Digits ds) :
    lowerWord (w ++ ds) = lowerWord w ++ ds := by
  rw [lowerWord_eq_map (plain_append hw hd.plain), lowerWord_eq_map hw, List.map_append, hd.map_toLower]

theorem capitalWord_append (hw : Plain w) (hne : w ≠ []) (hd : Digits ds) :
    capitalWord (w ++ ds) = capitalWord w ++ ds := by
  obtain ⟨c, w, rfl⟩ := List.exists_cons_of_ne_nil hne
  have hp : Plain (c :: (w ++ ds)) := plain_append hw hd.plain
  rw [List.cons_append, capitalWord_cons hp, capitalWord_cons hw, List.map_append, hd.map_toLower,
    List.cons_append]

theorem Follows.append (hf : Follows u v) (t : List Char) : Follows u (v ++ t) := by
  obtain ⟨c, s, rfl, hc, hl, hf⟩ := hf
  refine ⟨c, s ++ t, rfl, hc, hl, hf.imp_right fun ⟨hh, l, r, hs, hl⟩ => ⟨hh, l, r ++ t, ?_, hl⟩⟩
  rw [hs, List.cons_append]

/-- **Digits belong to the last word**, so a settled text with digits behind it is settled. -/
theorem Settled.append_digits (hs : Settled w ws) (hd : Digits ds) :
    ∃ w' ws', Settled w' ws' ∧ w' ++ ws'.flatten = w ++ ws.flatten ++ ds := by
  have hw := hs.plain w List.mem_cons_self
  -- the last word is the first one or a capitalized one
  rcases List.eq_nil_or_concat ws with rfl | ⟨init, last, rfl⟩
  · refine ⟨w ++ ds, [], ⟨by simp [hs.ne_nil], ?_, ?_, by simp, .singleton _⟩, by simp⟩
    · simpa using plain_append hw hd.plain
    · rw [lowerWord_append hw hd, hs.lower]
  · rw [List.concat_eq_append] at hs ⊢
    have hl := hs.plain last (by simp)
    obtain ⟨hinit, -, hlast⟩ := List.isChain_append.1
      (show List.IsChain Follows ((w :: init) ++ [last]) from hs.chain)
    have hf : ∀ u ∈ (w :: init).getLast?, Follows u last := fun u hu => hlast u hu last rfl
    have hne : last ≠ [] := by
      obtain ⟨c, t, rfl, -⟩ := (hf _ (List.getLast?_eq_some_getLast (by simp))).exists_cons
      simp
    refine ⟨w, init ++ [last ++ ds], ⟨hs.ne_nil, ?_, hs.lower, ?_, ?_⟩, by simp⟩
    · intro v hv
      simp only [List.mem_cons, List.mem_append, List.not_mem_nil, or_false] at hv
      rcases hv with rfl | hv | rfl
      · exact hw
      · exact hs.plain v (by simp [hv])
      · exact plain_append hl hd.plain
    · intro v hv
      rcases List.mem_append.1 hv with hv | hv
      · exact hs.capital v (by simp [hv])
      · obtain rfl := List.mem_singleton.1 hv
        rw [capitalWord_append hl hne hd, hs.capital last (by simp)]
    · refine List.isChain_append.2 ⟨hinit, .singleton _, fun u hu v hv => ?_⟩
      obtain rfl : last ++ ds = v := by simpa using hv
      exact (hf u hu).append ds

end ApiModel.Text
