import ApiModel.Text.Words
import Mathlib.Data.List.Chain

/-!
# Words that are found again

When words are written one after the other, the cutter at the humps finds them again if each starts
with its only capital and the one before it makes the hump seen (`cutHumps_flatten`).  Neighbours
among the words that the cutter gives are always in this relation (`cutHumps_spec`,
`Text.Follows`), whatever the case of their other letters.
-/

namespace ApiModel.Text

/-- The hump after a text. -/
def Hump.after (h : Hump) (w : List Char) : Hump :=
  w.foldl Hump.step h

@[simp] theorem Hump.after_nil (h : Hump) : h.after [] = h := rfl

@[simp] theorem Hump.after_cons (h : Hump) (c : Char) (w : List Char) :
    h.after (c :: w) = (h.step c).after w := rfl

@[simp] theorem Hump.after_append (h : Hump) (v w : List Char) :
    h.after (v ++ w) = (h.after v).after w :=
  List.foldl_append

theorem Hump.step_of_isLower {h : Hump} {c : Char} (hc : isLower c = true) : h.step c = .low := by
  rw [step, if_pos hc]

theorem Hump.step_of_isUpper {h : Hump} {c : Char} (hc : isUpper c = true)
    (hl : isLower c = false) : h.step c = .high := by
  rw [step, hl, if_neg Bool.false_ne_true, if_pos hc]

/-- A word follows another one at a hump: it starts with a capital, and either the last cased letter
before it is small, or that is a capital too and the second letter of the word is small. -/
def Follows (u v : List Char) : Prop :=
  ∃ c t, v = c :: t ∧ isUpper c = true ∧ isLower c = false ∧
    (Hump.flat.after u = .low ∨
      (Hump.flat.after u = .high ∧ ∃ l s, t = l :: s ∧ isLower l = true ∧ isUpper l = false))

theorem ne_nil_of_isChain {w : List Char} {ws : List (List Char)}
    (h : List.IsChain Follows (w :: ws)) : ∀ v ∈ ws, v ≠ [] := by
  induction ws generalizing w with
  | nil => simp
  | cons v ws ih =>
    obtain ⟨⟨c, t, rfl, -⟩, h⟩ := List.isChain_cons_cons.1 h
    exact List.forall_mem_cons.2 ⟨List.cons_ne_nil c t, ih h⟩

/-- A text without capitals. -/
def Quiet (t : List Char) : Prop :=
  ∀ c ∈ t, isUpper c = false

variable {hump : Hump} {word t rest : List Char} {c next l : Char}

theorem Quiet.of_cons (h : Quiet (c :: t)) : Quiet t :=
  (List.forall_mem_cons.1 h).2

/-! ### Cutting words that follow each other -/

theorem cutHumps_quiet (ht : Quiet t) (hne : t ≠ []) :
    cutHumps hump word t = [word.reverse ++ t] := by
  induction t generalizing hump word with
  | nil => exact absurd rfl hne
  | cons c t ih =>
    cases t with
    | nil => simp [cutHumps]
    | cons d t =>
      have hd : isUpper d = false := ht d (by simp)
      have hc : isUpper c = false := ht c (by simp)
      rw [cutHumps, if_neg (by simp [hd]), if_neg (by simp [hc]), ih ht.of_cons (by simp)]
      simp

theorem cutHumps_low (ht : Quiet t) (hne : t ≠ []) (hl : hump.after t = .low)
    (hn : isUpper next = true) :
    cutHumps hump word (t ++ next :: rest) =
      (word.reverse ++ t) :: cutHumps .flat [] (next :: rest) := by
  induction t generalizing hump word with
  | nil => exact absurd rfl hne
  | cons c t ih =>
    have hc : isUpper c = false := ht c (by simp)
    cases t with
    | nil =>
      rw [List.cons_append, List.nil_append, cutHumps, if_pos ⟨hl, hn⟩, List.reverse_cons]
    | cons d t =>
      have hd : isUpper d = false := ht d (by simp)
      rw [List.cons_append, List.cons_append, cutHumps, if_neg (by simp [hd]),
        if_neg (by simp [hc]), ← List.cons_append, ih ht.of_cons (by simp) hl]
      simp

theorem cutHumps_high (ht : Quiet t) (hh : hump.after t = .high) (hn : isUpper next = true)
    (hnl : isLower next = false) (hl : isLower l = true) :
    cutHumps hump word (t ++ next :: l :: rest) =
      (word.reverse ++ t) :: cutHumps .flat [next] (l :: rest) := by
  induction t generalizing hump word with
  | nil =>
    rw [Hump.after_nil] at hh
    rw [List.nil_append, cutHumps, if_neg (by simp [Hump.step_of_isUpper hn hnl]),
      if_pos ⟨hh, hn, hl⟩, List.append_nil]
  | cons c t ih =>
    have hc : isUpper c = false := ht c (by simp)
    cases t with
    | nil =>
      have hs : hump.step c = .high := hh
      rw [List.cons_append, List.nil_append, cutHumps, if_neg (by simp [hs]),
        if_neg (by simp [hc])]
      refine (ih ht.of_cons hh).trans ?_
      simp
    | cons d t =>
      have hd : isUpper d = false := ht d (by simp)
      rw [List.cons_append, List.cons_append, cutHumps, if_neg (by simp [hd]),
        if_neg (by simp [hc]), ← List.cons_append, ih ht.of_cons hh]
      simp

theorem cutHumps_capital (hc : isUpper c = true) (hl : isLower c = false) :
    cutHumps .flat [] (c :: next :: rest) = cutHumps .high [c] (next :: rest) := by
  have hs : Hump.flat.step c = .high := Hump.step_of_isUpper hc hl
  rw [cutHumps, if_neg (by simp [hs]), if_neg (by simp), hs]

/-- Before a small letter it does not count which hump was seen. -/
theorem cutHumps_small (hl : isLower l = true) (hu : isUpper l = false) (h h' : Hump) :
    cutHumps h word (l :: rest) = cutHumps h' word (l :: rest) := by
  cases rest with
  | nil => rfl
  | cons next rest =>
    simp [cutHumps, Hump.step_of_isLower hl, hu]

/-- The words that are still to be found when a part `word` of the first one is read. -/
theorem cutHumps_chain {ws : List (List Char)} (ht : Quiet t)
    (hne : t ≠ [] ∨ hump = .high ∧ ws ≠ [])
    (hh : hump.after t = Hump.flat.after (word.reverse ++ t))
    (hc : List.IsChain Follows ((word.reverse ++ t) :: ws))
    (hq : ∀ w ∈ ws, Quiet w.tail) :
    cutHumps hump word (t ++ ws.flatten) = (word.reverse ++ t) :: ws := by
  -- by induction on the later words: `word` is empty at the first one, and the capital of the others
  induction ws generalizing hump word t with
  | nil =>
    rw [List.flatten_nil, List.append_nil]
    exact cutHumps_quiet ht (hne.elim id fun h => absurd rfl h.2)
  | cons v ws ih =>
    obtain ⟨hf, hc⟩ := List.isChain_cons_cons.1 hc
    obtain ⟨U, s, rfl, hU, hUl, hf⟩ := hf
    rw [← hh] at hf
    have hs : Quiet s := hq _ List.mem_cons_self
    have hstep : Hump.flat.step U = .high := Hump.step_of_isUpper hU hUl
    -- what is read from the second letter of the next word on
    have hnext : s ≠ [] ∨ ws ≠ [] →
        cutHumps .high [U] (s ++ ws.flatten) = (U :: s) :: ws := fun hn =>
      ih hs (hn.imp_right fun h => ⟨rfl, h⟩) (by simp [hstep]) hc
        fun w hw => hq w (List.mem_cons_of_mem _ hw)
    rw [List.flatten_cons, List.cons_append]
    rcases hf with hf | ⟨hf, l, s', rfl, hl, hlu⟩
    · have ht' : t ≠ [] := by
        rintro rfl
        rw [Hump.after_nil] at hf
        simp [hf] at hne
      rw [cutHumps_low ht ht' hf hU]
      by_cases hn : s = [] ∧ ws = []
      · rw [hn.1, hn.2]
        rfl
      · have hn' : s ≠ [] ∨ ws ≠ [] := by tauto
        have hsws : s ++ ws.flatten ≠ [] := by
          rintro h
          obtain ⟨rfl, hw⟩ := List.append_eq_nil_iff.1 h
          obtain ⟨w, ws', rfl⟩ := List.exists_cons_of_ne_nil (hn'.resolve_left fun h => h rfl)
          exact ne_nil_of_isChain hc w List.mem_cons_self
            (List.flatten_eq_nil_iff.1 hw w List.mem_cons_self)
        obtain ⟨x, xs, hx⟩ := List.exists_cons_of_ne_nil hsws
        have hnext := hnext hn'
        rw [hx] at hnext ⊢
        rw [cutHumps_capital hU hUl, hnext]
    · rw [List.cons_append, cutHumps_high ht hf hU hUl hl,
        cutHumps_small hl hlu .flat .high, ← List.cons_append, hnext (by simp)]

/-- **Words that follow each other are found again** when they are written one after the other. -/
theorem cutHumps_flatten {w : List Char} {ws : List (List Char)} (hw : Quiet w) (hne : w ≠ [])
    (hc : List.IsChain Follows (w :: ws)) (hq : ∀ v ∈ ws, Quiet v.tail) :
    cutHumps .flat [] (w ++ ws.flatten) = w :: ws :=
  cutHumps_chain hw (.inl hne) rfl hc hq

/-! ### The words that the cutter gives -/

/-- **What the cutter gives follows each other**, as long as no character is of both cases. -/
theorem cutHumps_spec (hcase : ∀ x ∈ rest, isUpper x = true → isLower x = false)
    (hinv : hump = Hump.flat.after word.reverse ∨ ∃ l s, rest = l :: s ∧ isLower l = true)
    (hne : rest ≠ []) :
    ∃ r ws, cutHumps hump word rest = (word.reverse ++ r) :: ws ∧ r ++ ws.flatten = rest ∧
      List.IsChain Follows ((word.reverse ++ r) :: ws) ∧ (r = [] → hump = .high) := by
  -- The hump is that of the word read so far, except behind a capital that was moved to a new word:
  -- a small letter comes next then, and the hump does not count.
  fun_induction cutHumps hump word rest with
  | case1 => exact absurd rfl hne
  | case2 hump word c => exact ⟨[c], [], by simp, rfl, .singleton _, by simp⟩
  | case3 hump word c next rest hcut ih =>
    have hcase' : ∀ x ∈ next :: rest, isUpper x = true → isLower x = false :=
      fun x hx => hcase x (List.mem_cons_of_mem _ hx)
    obtain ⟨r, ws, he, hr, hchain, hnil⟩ := ih hcase' (.inl rfl) (by simp)
    rw [List.reverse_nil, List.nil_append] at he hchain
    refine ⟨[c], r :: ws, by simp [he], by simp [hr], ?_, by simp⟩
    rcases r with _ | ⟨x, s⟩
    · cases hnil rfl
    · obtain ⟨rfl, -⟩ := List.cons.inj hr
      refine List.isChain_cons_cons.2
        ⟨⟨x, s, rfl, hcut.2, hcase' x List.mem_cons_self hcut.2, .inl ?_⟩, hchain⟩
      rw [Hump.after_append, Hump.after_cons, Hump.after_nil]
      rcases hinv with rfl | ⟨l, s', hls, hl⟩
      · exact hcut.1
      · obtain ⟨rfl, -⟩ := List.cons.inj hls
        exact Hump.step_of_isLower hl
  | case4 hump word c next rest hno hcut ih =>
    obtain ⟨hh, hc, hn⟩ := hcut
    have hcl := hcase c List.mem_cons_self hc
    have hcase' : ∀ x ∈ next :: rest, isUpper x = true → isLower x = false :=
      fun x hx => hcase x (List.mem_cons_of_mem _ hx)
    obtain ⟨r, ws, he, hr, hchain, hnil⟩ := ih hcase' (.inr ⟨next, rest, rfl, hn⟩) (by simp)
    have hhump : hump = Hump.flat.after word.reverse := by
      rcases hinv with h | ⟨l, s, hls, hl⟩
      · exact h
      · obtain ⟨rfl, -⟩ := List.cons.inj hls
        simp [hcl] at hl
    refine ⟨[], ([c] ++ r) :: ws, by simpa using he, by simp [hr], ?_, fun _ => hh⟩
    rcases r with _ | ⟨x, s⟩
    · cases hnil rfl
    · obtain ⟨rfl, -⟩ := List.cons.inj hr
      have hnu : isUpper x = false := by
        by_contra hu
        rw [hcase' x List.mem_cons_self (by simpa using hu)] at hn
        cases hn
      rw [List.append_nil]
      exact List.isChain_cons_cons.2
        ⟨⟨c, x :: s, rfl, hc, hcl, .inr ⟨hhump ▸ hh, x, s, rfl, hn, hnu⟩⟩, hchain⟩
  | case5 hump word c next rest hno hno' ih =>
    have hinv' : hump.step c = Hump.flat.after (c :: word).reverse := by
      rw [List.reverse_cons, Hump.after_append, Hump.after_cons, Hump.after_nil]
      rcases hinv with rfl | ⟨l, s, hls, hl⟩
      · rfl
      · obtain ⟨rfl, -⟩ := List.cons.inj hls
        rw [Hump.step_of_isLower hl, Hump.step_of_isLower hl]
    obtain ⟨r, ws, he, hr, hchain, -⟩ :=
      ih (fun x hx => hcase x (List.mem_cons_of_mem _ hx)) (.inl hinv') (by simp)
    exact ⟨c :: r, ws, by simpa using he, by simp [hr], by simpa using hchain, by simp⟩

theorem exists_cutHumps_eq (hcase : ∀ x ∈ rest, isUpper x = true → isLower x = false)
    (hne : rest ≠ []) :
    ∃ w ws, cutHumps .flat [] rest = w :: ws ∧ w ++ ws.flatten = rest ∧ w ≠ [] ∧
      List.IsChain Follows (w :: ws) := by
  have hinv : Hump.flat = Hump.flat.after [].reverse ∨ ∃ l s, rest = l :: s ∧ isLower l = true :=
    .inl rfl
  obtain ⟨w, ws, he, hflat, hchain, hnil⟩ := cutHumps_spec hcase hinv hne
  exact ⟨w, ws, he, hflat, fun h => absurd (hnil h) (by decide), hchain⟩

end ApiModel.Text
