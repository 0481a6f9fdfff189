import ApiModel.Json.Reader
import Mathlib.Data.List.Basic
import Mathlib.Data.List.TakeWhile
import Mathlib.Tactic.SplitIfs

/-!
# Numbers of JSON texts

What is read as a number is a whole number of 64 bits or a finite float (`Json.Literal.valid_of_value?`).
Whole numbers of 64 bits are read back from their texts (`Json.Number.readsBack_int`).  Not every
float is, since the reader rounds twice, so that for floats `Json.Number.ReadsBack` is a property that
has to be known.
-/

namespace ApiModel.Json

/-- A whole number of 64 bits or a finite float. -/
def Number.Valid : Number → Prop
  | .int i => -(Nat.pow 2 63 : Nat) ≤ i ∧ i ≤ Literal.maxWord
  | .float x => x.isFinite = true

/-- A number is read back from its text. -/
def Number.ReadsBack (n : Number) : Prop :=
  ∃ l, Reader.literal? n.text.toList = some (l, []) ∧ l.value? = some n

/-! ### What is read -/

namespace Literal

theorem accumulate_le {s : Nat} (h : s ≤ maxWord) (ds : List Nat) :
    (accumulate s ds).1 ≤ maxWord := by
  induction ds generalizing s with
  | nil => exact h
  | cons d ds ih =>
    rw [accumulate]
    split_ifs with hd
    · exact ih hd
    · exact h

theorem valid_of_scaled {negative : Bool} {significand : Nat} {power : Int} {n : Number}
    (h : scaled negative significand power = some n) : n.Valid := by
  obtain ⟨m, -, rfl⟩ := Option.map_eq_some_iff.1 h
  rfl

/-- **What is read as a number is valid.** -/
theorem valid_of_value? {l : Literal} {n : Number} (h : l.value? = some n) : n.Valid := by
  have hle := accumulate_le (Nat.zero_le maxWord) l.whole
  rw [value?] at h
  rcases hacc : accumulate 0 l.whole with ⟨significand, dropped⟩
  rw [hacc] at h hle
  simp only at h hle
  split at h
  · split_ifs at h with hdropped hnegative hrange
    · exact valid_of_scaled h
    · cases h
      exact ⟨by omega, by omega⟩
    · cases h
      exact ⟨by omega, by omega⟩
    · exact valid_of_scaled h
  · split at h
    · exact valid_of_scaled h
    · split_ifs at h
      · cases h
        rfl
      · exact valid_of_scaled h
      · exact valid_of_scaled h

/-- Digits whose value fits are all taken. -/
theorem accumulate_eq {s : Nat} {ds : List Nat}
    (h : ds.foldl (fun n d => 10 * n + d) s ≤ maxWord) :
    accumulate s ds = (ds.foldl (fun n d => 10 * n + d) s, []) := by
  have hgrows : ∀ (ds : List Nat) (s : Nat), s ≤ ds.foldl (fun n d => 10 * n + d) s := by
    intro ds
    induction ds with
    | nil => exact fun s => s.le_refl
    | cons d ds ih =>
      intro s
      exact Nat.le_trans (by omega) (ih (10 * s + d))
  induction ds generalizing s with
  | nil => rfl
  | cons d ds ih =>
    have hstep : s * 10 + d ≤ maxWord := by
      have := Nat.le_trans (hgrows ds (10 * s + d)) h
      omega
    rw [accumulate, if_pos hstep, Nat.mul_comm s 10]
    exact ih h

end Literal

/-! ### What stands before something else -/

namespace Reader

/-- What may follow a number in a text: nothing, or a sign that ends the value. -/
def Ends (rest : List Char) : Prop :=
  ∀ c ∈ rest.head?, c = ',' ∨ c = ']' ∨ c = '\x7d'

theorem ends_nil : Ends [] := by
  intro c hc
  cases hc

theorem ends_cons {c : Char} {rest : List Char} (h : c = ',' ∨ c = ']' ∨ c = '\x7d') :
    Ends (c :: rest) := by
  rintro d ⟨⟩
  exact h

variable {s rest : List Char}

theorem digits_append (hrest : Ends rest) :
    digits (s ++ rest) = ((digits s).1, (digits s).2 ++ rest) := by
  induction s with
  | nil =>
    rcases rest with _ | ⟨c, rest⟩
    · rfl
    · have hc : c.isDigit = false := by
        rcases hrest c rfl with rfl | rfl | rfl <;> rfl
      simp [digits, hc]
  | cons c s ih =>
    simp only [digits, Prod.mk.injEq] at ih ⊢
    by_cases hc : c.isDigit = true
    · simp [hc, ih.1, ih.2]
    · simp [hc]

theorem someDigits?_append (hrest : Ends rest) {ds : List Nat} {left : List Char}
    (h : someDigits? s = some (ds, left)) : someDigits? (s ++ rest) = some (ds, left ++ rest) := by
  rw [someDigits?, digits_append hrest]
  rw [someDigits?] at h
  rcases hd : digits s with ⟨_ | ⟨d, ds'⟩, left'⟩
  · rw [hd] at h
    cases h
  · rw [hd] at h
    cases h
    rfl

theorem fraction?_append (hrest : Ends rest) {f : Option (List Nat)} {left : List Char}
    (h : fraction? s = some (f, left)) : fraction? (s ++ rest) = some (f, left ++ rest) := by
  rcases s with _ | ⟨c, s⟩
  · cases h
    rcases rest with _ | ⟨c, rest⟩
    · rfl
    · rcases hrest c rfl with rfl | rfl | rfl <;> rfl
  · by_cases hc : c = '.'
    · subst hc
      obtain ⟨⟨ds, left'⟩, hds, hr⟩ := Option.map_eq_some_iff.1 h
      cases hr
      simp only [List.cons_append, fraction?, someDigits?_append hrest hds, Option.map_some]
    · have hnone (t : List Char) : fraction? (c :: t) = some (none, c :: t) := by
        simp [fraction?, hc]
      rw [hnone] at h
      cases h
      exact hnone _

theorem exponent?_append (hrest : Ends rest) {e : Option (Bool × List Nat)} {left : List Char}
    (h : exponent? s = some (e, left)) : exponent? (s ++ rest) = some (e, left ++ rest) := by
  rcases s with _ | ⟨c, s⟩
  · cases h
    rcases rest with _ | ⟨c, rest⟩
    · rfl
    · rcases hrest c rfl with rfl | rfl | rfl <;> rfl
  · by_cases hc : c = 'e' ∨ c = 'E'
    · -- behind the mark comes a sign or a digit
      rcases s with _ | ⟨d, s⟩
      · simp [exponent?, hc, someDigits?, digits] at h
      · by_cases hplus : d = '+'
        · subst hplus
          simp only [exponent?, if_pos hc, List.cons_append, Option.map_eq_some_iff] at h ⊢
          obtain ⟨⟨ds, left'⟩, hds, hr⟩ := h
          cases hr
          exact ⟨_, someDigits?_append hrest hds, rfl⟩
        · by_cases hminus : d = '-'
          · subst hminus
            simp only [exponent?, if_pos hc, List.cons_append, Option.map_eq_some_iff] at h ⊢
            obtain ⟨⟨ds, left'⟩, hds, hr⟩ := h
            cases hr
            exact ⟨_, someDigits?_append hrest hds, rfl⟩
          · have hbare (t : List Char) : exponent? (c :: d :: t) =
                (someDigits? (d :: t)).map fun r => (some (false, r.1), r.2) := by
              rw [exponent?, if_pos hc]
              · rintro t ⟨⟩
                exact hplus rfl
              · rintro t ⟨⟩
                exact hminus rfl
            rw [List.cons_append, List.cons_append]
            rw [hbare, Option.map_eq_some_iff] at h ⊢
            obtain ⟨⟨ds, left'⟩, hds, hr⟩ := h
            cases hr
            exact ⟨_, someDigits?_append hrest hds, rfl⟩
    · rw [List.cons_append]
      simp only [exponent?, if_neg hc] at h ⊢
      cases h
      rfl

/-- The literal after its sign. -/
def unsigned? (negative : Bool) (s : List Char) : Option (Literal × List Char) := do
  let (whole, s) ← someDigits? s
  if whole.head? = some 0 ∧ whole.length ≠ 1 then none
  let (fraction, s) ← fraction? s
  let (exponent, s) ← exponent? s
  some (⟨negative, whole, fraction, exponent⟩, s)

theorem literal?_minus (s : List Char) : literal? ('-' :: s) = unsigned? true s := rfl

theorem literal?_of_ne {c : Char} (hc : c ≠ '-') (s : List Char) :
    literal? (c :: s) = unsigned? false (c :: s) := by
  simp [literal?, unsigned?, hc]

theorem unsigned?_append (hrest : Ends rest) {negative : Bool} {l : Literal} {left : List Char}
    (h : unsigned? negative s = some (l, left)) :
    unsigned? negative (s ++ rest) = some (l, left ++ rest) := by
  simp only [unsigned?, Option.bind_eq_bind, Option.bind_eq_some_iff] at h
  obtain ⟨⟨whole, s₁⟩, hwhole, h⟩ := h
  by_cases hzero : whole.head? = some 0 ∧ whole.length ≠ 1
  · rw [if_pos hzero] at h
    cases h
  · rw [if_neg hzero] at h
    simp only [Option.bind_eq_some_iff] at h
    obtain ⟨⟨fraction, s₂⟩, hfraction, ⟨exponent, s₃⟩, hexponent, h⟩ := h
    cases h
    simp only [unsigned?, someDigits?_append hrest hwhole, Option.bind_eq_bind, Option.bind_some,
      if_neg hzero, fraction?_append hrest hfraction, exponent?_append hrest hexponent]

/-- **A literal is read the same with something behind it** that ends it. -/
theorem literal?_append (hrest : Ends rest) {l : Literal} {left : List Char}
    (h : literal? s = some (l, left)) : literal? (s ++ rest) = some (l, left ++ rest) := by
  rcases s with _ | ⟨c, s⟩
  · cases h
  · by_cases hc : c = '-'
    · subst hc
      rw [List.cons_append]
      rw [literal?_minus] at h ⊢
      exact unsigned?_append hrest h
    · rw [List.cons_append]
      rw [literal?_of_ne hc] at h ⊢
      exact unsigned?_append (s := c :: s) hrest h

/-- A literal begins with a digit or a minus sign. -/
theorem exists_of_literal? {r : Literal × List Char} (h : literal? s = some r) :
    ∃ c t, s = c :: t ∧ (c = '-' ∨ c.isDigit = true) := by
  rcases s with _ | ⟨c, s⟩
  · cases h
  · refine ⟨c, s, rfl, ?_⟩
    by_contra hc
    obtain ⟨hminus, hdigit⟩ := not_or.1 hc
    rw [literal?_of_ne hminus] at h
    simp [unsigned?, someDigits?, digits, hdigit] at h

/-! ### Texts of whole numbers -/

/-- The digits of a natural number as they are read. -/
def digitsOf (n : Nat) : List Nat :=
  (Nat.toDigits 10 n).map fun c => c.toNat - 0x30

theorem isDigit_toDigits {n : Nat} {c : Char} (h : c ∈ Nat.toDigits 10 n) : c.isDigit = true :=
  Nat.isDigit_of_mem_toDigits (by decide) (by decide) h

theorem digits_toDigits (n : Nat) : digits (Nat.toDigits 10 n) = (digitsOf n, []) := by
  rw [digits, List.takeWhile_eq_self_iff.2 fun _ => isDigit_toDigits,
    List.dropWhile_eq_nil_iff.2 fun _ => isDigit_toDigits]
  rfl

/-- The value of the digits of a number is the number. -/
theorem foldl_digitsOf (n : Nat) : (digitsOf n).foldl (fun n d => 10 * n + d) 0 = n := by
  rw [digitsOf, List.foldl_map]
  exact Nat.ofDigitChars_ten_toDigits

/-- No zero stands before another digit. -/
theorem head?_digitsOf {n : Nat} (h : (digitsOf n).head? = some 0) : n = 0 := by
  have hsmall : ∀ n < 10, [n.digitChar.toNat - 0x30].head? = some 0 → n = 0 := by decide
  induction n using Nat.strongRecOn with
  | _ n ih =>
    by_cases hn : n < 10
    · rw [digitsOf, Nat.toDigits_of_lt_base hn] at h
      exact hsmall n hn h
    · rw [digitsOf, Nat.toDigits_of_base_le (by decide) (by omega), List.map_append,
        List.head?_append_of_ne_nil _ (by simp [Nat.toDigits_ne_nil])] at h
      have := ih (n / 10) (by omega) h
      omega

theorem unsigned?_toDigits (negative : Bool) (n : Nat) :
    unsigned? negative (Nat.toDigits 10 n) = some (⟨negative, digitsOf n, none, none⟩, []) := by
  have hsome : someDigits? (Nat.toDigits 10 n) = some (digitsOf n, []) := by
    have hne : digitsOf n ≠ [] := by simp [digitsOf, Nat.toDigits_ne_nil]
    rw [someDigits?, digits_toDigits]
    split
    · rename_i he
      exact absurd (Prod.mk.inj he).1 hne
    · rfl
  have hzero : ¬ ((digitsOf n).head? = some 0 ∧ (digitsOf n).length ≠ 1) := by
    rintro ⟨hhead, hlength⟩
    rw [head?_digitsOf hhead] at hlength
    exact hlength rfl
  simp only [unsigned?, hsome, Option.bind_eq_bind, Option.bind_some, if_neg hzero]
  rfl

end Reader

namespace Number

theorem accumulate_digitsOf {k : Nat} (h : k ≤ Literal.maxWord) :
    Literal.accumulate 0 (Reader.digitsOf k) = (k, []) := by
  have hk : (Reader.digitsOf k).foldl (fun n d => 10 * n + d) 0 ≤ Literal.maxWord := by
    rwa [Reader.foldl_digitsOf]
  rw [Literal.accumulate_eq hk, Reader.foldl_digitsOf]

/-- **Whole numbers of 64 bits are read back.** -/
theorem readsBack_int {i : Int} (h : (int i).Valid) : (int i).ReadsBack := by
  obtain ⟨hlow, hhigh⟩ := h
  have htext : (int i).text = i.repr := Int.toString_eq_repr
  rw [ReadsBack, htext, Int.repr_eq_if]
  by_cases hi : 0 ≤ i
  · -- there is no sign, and the first digit is not taken for one
    have hacc := accumulate_digitsOf (show i.toNat ≤ Literal.maxWord by omega)
    rw [if_pos hi, Nat.repr_eq_ofList_toDigits, String.toList_ofList]
    refine ⟨⟨false, Reader.digitsOf i.toNat, none, none⟩, ?_, ?_⟩
    · have hread := Reader.unsigned?_toDigits false i.toNat
      rcases hd : Nat.toDigits 10 i.toNat with _ | ⟨c, cs⟩
      · exact absurd hd Nat.toDigits_ne_nil
      · rw [hd] at hread
        have hc : c ≠ '-' := by
          rintro rfl
          have := Reader.isDigit_toDigits (n := i.toNat) (c := '-') (by simp [hd])
          cases this
        rw [Reader.literal?_of_ne hc, hread]
    · simp only [Literal.value?, hacc]
      simp [Int.toNat_of_nonneg hi]
  · -- the digits are those of `-i`, which is at most `2 ^ 63` and so fits a word
    have hrange : 0 < (-i).toNat ∧ (-i).toNat ≤ Nat.pow 2 63 := by omega
    have hword : Nat.pow 2 63 ≤ Literal.maxWord := by decide
    have hacc := accumulate_digitsOf (hrange.2.trans hword)
    have hminus : ("-" ++ (-i).toNat.repr).toList = '-' :: Nat.toDigits 10 (-i).toNat := by
      rw [Nat.repr_eq_ofList_toDigits, String.toList_append,
        String.toList_ofList (l := Nat.toDigits 10 (-i).toNat)]
      rfl
    rw [if_neg hi, hminus]
    refine ⟨⟨true, Reader.digitsOf (-i).toNat, none, none⟩, ?_, ?_⟩
    · exact Reader.unsigned?_toDigits true (-i).toNat
    · simp only [Literal.value?, hacc, if_pos hrange]
      simp
      omega

end Number

end ApiModel.Json
