import ApiModel.Proofs.Pointwise
import Mathlib.Data.Finset.Card
import Mathlib.Order.Bounds.Basic
import Mathlib.Order.Interval.Finset.Nat

/-!
# Free names

A free name is looked for in two ways: in a list, where the first free one is wanted (`FirstFree`),
and among the names that a base makes with the numbers from two on, where the least number is wanted
(`LeastNumber`).  The second search always ends: different numbers make different names, so that
among more numbers than there are names that are not free one makes a free name
(`exists_leastNumber`).
-/

namespace ApiModel

/-- The first name of a list that is free. -/
def FirstFree (Free : String → Prop) (names : List String) (name : String) : Prop :=
  ∃ before after, names = before ++ name :: after ∧ Free name ∧ ∀ x ∈ before, ¬ Free x

/-- The least number from two on that makes a free name with a base. -/
def LeastNumber (Free : String → Prop) (base : String) (k : Nat) : Prop :=
  IsLeast {k | 2 ≤ k ∧ Free (base ++ toString k)} k

variable {Free : String → Prop} {names : List String} {name base : String} {k : Nat}

theorem numbered_injective (base : String) :
    Function.Injective fun k : Nat => base ++ toString k := by
  intro i j h
  have hd := congrArg String.toList ((String.append_right_inj base).1 h)
  rw [Nat.toString_eq_repr, Nat.toString_eq_repr, Nat.toList_repr, Nat.toList_repr] at hd
  have hn := congrArg (Nat.ofDigitChars 10 · 0) hd
  simpa only [Nat.ofDigitChars_ten_toDigits] using hn

/-- **There is always a number that makes a free name**, and it is not much greater than there are
names that are taken. -/
theorem exists_leastNumber (taken : Finset String) (base : String) :
    ∃ k, LeastNumber (· ∉ taken) base k ∧ k ≤ taken.card + 2 := by
  -- these numbers are one more than there are taken names
  let numbers := Finset.Icc 2 (taken.card + 2)
  have hcard : taken.card < (numbers.image fun k => base ++ toString k).card := by
    rw [Finset.card_image_of_injective _ (numbered_injective base), Nat.card_Icc]
    omega
  obtain ⟨name, hname, hfree⟩ := Finset.exists_mem_notMem_of_card_lt_card hcard
  obtain ⟨j, hj, rfl⟩ := Finset.mem_image.1 hname
  rw [Finset.mem_Icc] at hj
  have hex : ∃ k, 2 ≤ k ∧ base ++ toString k ∉ taken := ⟨j, hj.1, hfree⟩
  classical
  refine ⟨Nat.find hex, ⟨Nat.find_spec hex, fun i hi => Nat.find_min' hex hi⟩, ?_⟩
  exact (Nat.find_min' hex ⟨hj.1, hfree⟩).trans hj.2

theorem firstFree_iff {p : String → Bool} (hp : ∀ x, p x = true ↔ Free x) :
    names.find? p = some name ↔ FirstFree Free names name :=
  find?_eq_some_iff_first hp

theorem leastNumber_iff {p : Nat → Bool} {count : Nat}
    (hp : ∀ k, p k = true ↔ Free (base ++ toString k)) :
    (List.range' 2 count).find? p = some k ↔ LeastNumber Free base k ∧ k < 2 + count := by
  rw [List.find?_range'_eq_some, List.mem_range'_1, hp]
  constructor
  · rintro ⟨hfree, ⟨h2, hk⟩, hleast⟩
    refine ⟨⟨⟨h2, hfree⟩, fun i ⟨hi, hfreei⟩ => ?_⟩, hk⟩
    by_contra hlt
    have hno := hleast i hi (not_le.1 hlt)
    rw [(hp i).2 hfreei] at hno
    cases hno
  · rintro ⟨⟨⟨h2, hfree⟩, hleast⟩, hk⟩
    refine ⟨hfree, ⟨h2, hk⟩, fun j hj hjk => ?_⟩
    rw [Bool.not_eq_true']
    by_contra hne
    have hfreej := (hp j).1 (by simpa using hne)
    exact absurd (hleast ⟨hj, hfreej⟩) (not_le.2 hjk)

/-- No name of a list is free exactly if none is found. -/
theorem forall_not_free_iff {p : String → Bool} (hp : ∀ x, p x = true ↔ Free x) :
    names.find? p = none ↔ ∀ x ∈ names, ¬ Free x := by
  simp only [List.find?_eq_none, hp]

end ApiModel
