import ApiModel.Proofs.Naming.Camel
import ApiModel.Proofs.Naming.Identifier

/-!
# Stable names

A name is stable if it is a settled text, so that casing it again changes nothing
(`Name.Stable.camelOf_eq`); a number behind it keeps it stable (`Name.Stable.append_number`).  Stable
is what comes from casing a run of ASCII letters and digits (`Name.stable_camelOf`), and such a run
comes from casing any ASCII text (`Name.plain_camelOf`).
-/

namespace ApiModel

namespace Text

variable {s piece : List Char} {c : Char}

theorem ascii_intercalate {sep : List Char} {ws : List (List Char)} (hsep : Ascii sep)
    (hws : ∀ w ∈ ws, Ascii w) : Ascii (sep.intercalate ws) := by
  induction ws with
  | nil => simp [List.intercalate, Ascii]
  | cons u ws ih =>
    have hu := hws u List.mem_cons_self
    cases ws with
    | nil => simpa [List.intercalate] using hu
    | cons v ws =>
      rw [List.intercalate_cons_cons, List.append_assoc]
      exact ascii_append hu (ascii_append hsep (ih fun w hw => hws w (List.mem_cons_of_mem _ hw)))

theorem plain_of_mem_runs (hs : Ascii s) (hp : piece ∈ runs s) : Plain piece ∧ piece ≠ [] := by
  refine ⟨fun c hc => ?_, ne_nil_of_mem_runs hp⟩
  obtain ⟨hm, ha⟩ := exists_mem_runs_iff.1 ⟨piece, hp, hc⟩
  rwa [← isAlphanumeric_eq (hs c hm)]

theorem plain_of_mem_words (hs : Ascii s) {w : List Char} (hw : w ∈ words s) :
    Plain w ∧ w ≠ [] := by
  obtain ⟨run, hr, hw⟩ := List.mem_flatMap.1 hw
  obtain ⟨hp, hne⟩ := plain_of_mem_runs hs hr
  obtain ⟨first, ws, he, hwords, -⟩ := exists_cutHumps_of_plain hp hne
  exact hwords w (he ▸ hw)

theorem plain_camel (hs : Ascii s) : Plain (camel s) := by
  rw [camel]
  split
  · exact fun c hc => absurd hc List.not_mem_nil
  · rename_i w ws he
    intro c hc
    have hw : ∀ v ∈ w :: ws, Plain v := fun v hv => (plain_of_mem_words hs (he ▸ hv)).1
    rcases List.mem_append.1 hc with hc | hc
    · exact plain_lowerWord (hw w List.mem_cons_self) c hc
    · obtain ⟨v, hv, hc⟩ := List.mem_flatMap.1 hc
      exact plain_capitalWord (hw v (List.mem_cons_of_mem _ hv)) c hc

theorem camel_ne_nil (hs : Ascii s) (hc : c ∈ s) (ha : c.isAlphanum = true) : camel s ≠ [] := by
  intro hnil
  have hcut := camel_eq_nil_iff.1 hnil c hc
  rw [isAlphanumeric_eq (hs c hc), ha] at hcut
  cases hcut

end Text

namespace Name

open Text

/-- A name that casing leaves as it is, also with a number behind it. -/
def Stable (name : String) : Prop :=
  ∃ w ws, Settled w ws ∧ name.toList = w ++ ws.flatten

variable {name : String} {y : List Char}

theorem camelOf_ofList (hy : Plain y) (hne : y ≠ []) :
    camelOf (String.ofList y) = String.ofList (Text.camel y) := by
  have hr : runs y = [y] := runs_of_plain hy hne
  have hi : identifier y = y := by
    rw [identifier_of_runs (by simp [hr]), hr, joinWords_singleton]
  rw [camelOf, ofText, String.toList_ofList, hi]

/-- **A stable name is its own camel case form.** -/
theorem Stable.camelOf_eq (h : Stable name) : camelOf name = name := by
  obtain ⟨w, ws, hs, hn⟩ := h
  rw [← String.ofList_toList (s := name), hn, camelOf_ofList hs.plain_flatten (by simp [hs.ne_nil]),
    hs.camel_flatten]

/-- **A number behind a stable name keeps it stable.** -/
theorem Stable.append_number (h : Stable name) (k : Nat) : Stable (name ++ toString k) := by
  obtain ⟨w, ws, hs, hn⟩ := h
  have hd : Digits (toString k).toList := by
    intro d hd
    rw [Nat.toString_eq_repr, Nat.repr, String.toList_ofList] at hd
    exact Nat.isDigit_of_mem_toDigits (by decide) (by decide) hd
  obtain ⟨w', ws', hs', he⟩ := hs.append_digits hd
  exact ⟨w', ws', hs', by rw [String.toList_append, hn, he]⟩

theorem stable_camelOf (hp : Plain name.toList) (hne : name.toList ≠ []) :
    Stable (camelOf name) := by
  obtain ⟨w, ws, hs, he⟩ := exists_settled_camel hp hne
  rw [← String.ofList_toList (s := name), camelOf_ofList hp hne, he]
  exact ⟨w, ws, hs, String.toList_ofList⟩

theorem ascii_identifier {s : List Char} (hs : Ascii s) :
    Ascii (identifier s) ∧ ∃ c ∈ identifier s, c.isAlphanum = true := by
  by_cases h : runs s = []
  · rw [identifier_of_no_runs h]
    exact ⟨by decide +kernel, 'u', by decide, by decide⟩
  · rw [identifier_of_runs h]
    refine ⟨ascii_intercalate (by decide +kernel)
      fun w hw => (plain_of_mem_runs hs hw).1.ascii, ?_⟩
    obtain ⟨run, hm⟩ := List.exists_mem_of_ne_nil (runs s) h
    obtain ⟨hp, hne⟩ := plain_of_mem_runs hs hm
    obtain ⟨c, hc⟩ := List.exists_mem_of_ne_nil run hne
    exact ⟨c, mem_joinWords hm hc, hp c hc⟩

theorem plain_camelOf (hs : Ascii name.toList) :
    Plain (camelOf name).toList ∧ (camelOf name).toList ≠ [] := by
  obtain ⟨ha, c, hc, hca⟩ := ascii_identifier hs
  rw [camelOf, ofText, String.toList_ofList]
  exact ⟨plain_camel ha, camel_ne_nil ha hc hca⟩

theorem stable_of_camelOf_eq (hp : Plain name.toList) (hne : name.toList ≠ [])
    (h : camelOf name = name) : Stable name :=
  h ▸ stable_camelOf hp hne

end Name

end ApiModel
