import ApiModel.Proofs.Naming.Stable

/-!
# Names in Pascal case have no signs

In a pointer a tilde starts an escape, and a text that begins with a number sign is a pointer and no
name.  So it matters that generated names have neither.  A name in Pascal case is made of the case
forms of letters and numbers, and no sign is one of these: the case map of no other character leads
to one (`Text.Sign.notMem_pascal`).
-/

namespace ApiModel.Text

namespace CaseTable

/-- The shift moves no code point of its span to `k`. -/
def Shift.Misses (k : Nat) (s : Shift) : Prop :=
  (k : Int) < s.span.first + s.offset ∨ (s.span.last + s.offset : Int) < k

instance (k : Nat) (s : Shift) : Decidable (s.Misses k) :=
  inferInstanceAs (Decidable (_ ∨ _))

/-- A table leads to `k` from no other code point. -/
structure Avoids (long : List (Nat × List Nat)) (shifts : List Shift) (k : Nat) : Prop where
  /-- No form of several characters has it. -/
  long : ∀ e ∈ long, k ∉ e.2
  /-- No shift leads to it. -/
  shifts : ∀ s ∈ shifts, s.Misses k

theorem Avoids.notMem_find {long : List (Nat × List Nat)} {shifts : List Shift} {k n : Nat}
    (h : Avoids long shifts k) (hk : 0 < k) (hn : n ≠ k) : k ∉ find long shifts n := by
  rw [find]
  split
  · rename_i form he
    exact h.long _ (List.mem_of_find?_eq_some he)
  · split
    · rename_i s hs
      have hmiss := h.shifts s (List.mem_of_find?_eq_some hs)
      have hspan : s.span.mem n = true := by simpa using List.find?_some hs
      simp only [Span.mem, Bool.and_eq_true, decide_eq_true_eq] at hspan
      obtain ⟨⟨hfirst, hlast⟩, -⟩ := hspan
      rw [List.mem_singleton]
      rw [Shift.Misses] at hmiss
      omega
    · simpa using hn.symm

end CaseTable

/-- An ASCII character that is neither letter nor digit and is no case form of another one. -/
structure Sign (x : Char) : Prop where
  /-- It is not the null character. -/
  pos : 0 < x.toNat
  /-- It is an ASCII character. -/
  ascii : x.toNat < 0x80
  /-- It is neither letter nor digit. -/
  cut : x.isAlphanum = false
  /-- It is not the lower case form of another character. -/
  lower : CaseTable.Avoids CaseTable.lowerLong CaseTable.lower x.toNat
  /-- It is not the upper case form of another character. -/
  upper : CaseTable.Avoids CaseTable.upperLong CaseTable.upper x.toNat

theorem sign_tilde : Sign '~' :=
  ⟨by decide, by decide, by decide, ⟨by decide +kernel, by decide +kernel⟩,
    ⟨by decide +kernel, by decide +kernel⟩⟩

theorem sign_number : Sign '#' :=
  ⟨by decide, by decide, by decide, ⟨by decide +kernel, by decide +kernel⟩,
    ⟨by decide +kernel, by decide +kernel⟩⟩

namespace Sign

variable {x c : Char} {s w : List Char}

/-- A number that is no code point stands for the null character. -/
theorem ofNat_ne (h : Sign x) {n : Nat} (hn : n ≠ x.toNat) : Char.ofNat n ≠ x := by
  rintro rfl
  by_cases hv : n.isValidChar
  · rw [Char.ofNat, dif_pos hv] at hn
    exact hn rfl
  · have hpos := h.pos
    rw [Char.ofNat, dif_neg hv] at hpos
    exact absurd hpos (Nat.lt_irrefl 0)

/-- No letter is a sign, so no ASCII form of another character is one. -/
theorem ne_of_eq_or_isAlpha (h : Sign x) {d : Char} (hd : d = c ∨ d.isAlpha = true) (hc : c ≠ x) :
    d ≠ x := by
  rcases hd with rfl | ha
  · exact hc
  · rintro rfl
    have hcut := h.cut
    rw [Char.isAlphanum, ha] at hcut
    cases hcut

/-- **A table that avoids a sign** gives it as the form of no other character. -/
theorem notMem_form (h : Sign x) {ascii : Char → Char} {long : List (Nat × List Nat)}
    {shifts : List CaseTable.Shift} (ha : ∀ c : Char, c.toNat < 0x80 → ascii c = c ∨ (ascii c).isAlpha = true)
    (havoids : CaseTable.Avoids long shifts x.toNat) (hc : c ≠ x) :
    x ∉ CaseTable.form ascii long shifts c := by
  rw [CaseTable.form]
  split
  · rename_i hascii
    rw [List.mem_singleton]
    exact (h.ne_of_eq_or_isAlpha (ha c hascii) hc).symm
  · rename_i hascii
    rw [List.mem_map]
    rintro ⟨n, hn, he⟩
    by_cases hx : n = x.toNat
    · subst hx
      have hne : c.toNat ≠ x.toNat := fun he => hascii (he ▸ h.ascii)
      exact havoids.notMem_find h.pos hne hn
    · exact h.ofNat_ne hx he

theorem notMem_lowerForm (h : Sign x) (hc : c ≠ x) : x ∉ lowerForm c :=
  h.notMem_form toLower_eq_or_isAlpha h.lower hc

theorem notMem_upperForm (h : Sign x) (hc : c ≠ x) : x ∉ upperForm c :=
  h.notMem_form toUpper_eq_or_isAlpha h.upper hc

theorem notMem_lowerWord (h : Sign x) (hw : x ∉ w) : x ∉ lowerWord w := by
  fun_induction lowerWord w with
  | case1 => exact hw
  | case2 =>
    intro hm
    have hx := h.ascii
    rw [List.mem_singleton.1 hm] at hx
    exact absurd hx (by decide)
  | case3 c hc => exact h.notMem_lowerForm fun he => hw (he ▸ List.mem_singleton_self _)
  | case4 c next rest ih =>
    rw [List.mem_cons, not_or] at hw
    rw [List.mem_append, not_or]
    exact ⟨h.notMem_lowerForm (Ne.symm hw.1), ih hw.2⟩

theorem notMem_capitalWord (h : Sign x) (hw : x ∉ w) : x ∉ capitalWord w := by
  cases w with
  | nil => exact hw
  | cons c rest =>
    rw [List.mem_cons, not_or] at hw
    rw [capitalWord, List.mem_append, not_or]
    exact ⟨h.notMem_upperForm (Ne.symm hw.1), h.notMem_lowerWord hw.2⟩

end Sign

variable {s w : List Char}

theorem Sign.notMem_of_mem_words {x : Char} (h : Sign x) (hw : w ∈ words s) : x ∉ w := by
  intro hx
  have hx : isAlphanumeric x = true := (exists_mem_words_iff.1 ⟨w, hw, hx⟩).2
  rw [isAlphanumeric_eq h.ascii, h.cut] at hx
  cases hx

/-- **A name in Pascal case has no sign.** -/
theorem Sign.notMem_pascal {x : Char} (h : Sign x) (s : List Char) : x ∉ pascal s := by
  intro hx
  obtain ⟨w, hw, hx⟩ := List.mem_flatMap.1 hx
  exact h.notMem_capitalWord (h.notMem_of_mem_words hw) hx

end ApiModel.Text
