import ApiModel.Proofs.Schemas.Reference

/-!
# Names in pointers

A name stands in a pointer as a token: a tilde is written `~0` and a slash `~1` (`Pointer.escape`).
Reading a token replaces `~1` everywhere and then `~0` everywhere, which is right in this order only:
a slash that the first pass puts in is neither half of an escape, so the second pass meets the same
escapes as a single scan from left to right would (`Pointer.unescape_eq_decode`).  The scan undoes
the writing, and so the pointer to an entry of a section names just that entry
(`Pointer.target_written`), whatever signs and digits its name is made of.
-/

namespace ApiModel

namespace Pointer

/-- The name that a token writes, read in one scan from left to right. -/
def decode : List Char → List Char
  | [] => []
  | [c] => [c]
  | c :: d :: rest =>
    if c = '~' ∧ d = '0' then '~' :: decode rest
    else if c = '~' ∧ d = '1' then '/' :: decode rest
    else c :: decode (d :: rest)

/-- How a character of a name is written in a token. -/
def escapeChar (c : Char) : List Char :=
  if c = '~' then ['~', '0'] else if c = '/' then ['~', '1'] else [c]

/-- The token that writes a name. -/
def escape (name : List Char) : List Char :=
  name.flatMap escapeChar

/-- The pointer to an entry of a section. -/
def written (sec : Section) (name : String) : String :=
  String.ofList (root ++ (sec.key.toList ++ '/' :: escape name.toList))

variable {digit sign c : Char} {s : List Char}

/-! ### Two passes and one scan -/

theorem replaceTilde_tilde (digit sign : Char) (s : List Char) :
    replaceTilde digit sign ('~' :: digit :: s) = sign :: replaceTilde digit sign s := by
  rw [replaceTilde, if_pos ⟨rfl, rfl⟩]

theorem replaceTilde_cons (h : c = '~' → s.head? ≠ some digit) :
    replaceTilde digit sign (c :: s) = c :: replaceTilde digit sign s := by
  cases s with
  | nil => rfl
  | cons d s =>
    have hno : ¬(c = '~' ∧ d = digit) := by
      rintro ⟨hc, rfl⟩
      exact h hc rfl
    rw [replaceTilde, if_neg hno]

/-- What a pass begins with is the sign that it puts in, or what was there before. -/
theorem head?_replaceTilde (h : (replaceTilde digit sign s).head? = some c) :
    c = sign ∨ s.head? = some c := by
  fun_cases replaceTilde digit sign s with
  | case1 => cases h
  | case2 d => exact .inr h
  | case3 d e rest hd =>
    rw [replaceTilde, if_pos hd] at h
    exact .inl (Option.some.inj h).symm
  | case4 d e rest hd =>
    rw [replaceTilde, if_neg hd] at h
    exact .inr h

/-- **Two passes read as one scan**: the first pass makes no new escape for the second one. -/
theorem unescape_eq_decode (token : List Char) : unescape token = decode token := by
  have hdigit : ∀ s, replaceTilde '1' '/' ('0' :: s) = '0' :: replaceTilde '1' '/' s :=
    fun s => replaceTilde_cons fun h => absurd h (by decide)
  have hslash : ∀ s, replaceTilde '0' '~' ('/' :: s) = '/' :: replaceTilde '0' '~' s :=
    fun s => replaceTilde_cons fun h => absurd h (by decide)
  rw [unescape]
  fun_induction decode token with
  | case1 => rfl
  | case2 => rfl
  | case3 c d rest hc ih =>
    obtain ⟨rfl, rfl⟩ := hc
    have hfirst : replaceTilde '1' '/' ('~' :: '0' :: rest) =
        '~' :: replaceTilde '1' '/' ('0' :: rest) := replaceTilde_cons fun _ => by simp
    rw [hfirst, hdigit, replaceTilde_tilde, ih]
  | case4 c d rest _ hc ih =>
    obtain ⟨rfl, rfl⟩ := hc
    rw [replaceTilde_tilde, hslash, ih]
  | case5 c d rest h0 h1 ih =>
    have hfirst : replaceTilde '1' '/' (c :: d :: rest) = c :: replaceTilde '1' '/' (d :: rest) := by
      refine replaceTilde_cons fun hc hd => h1 ⟨hc, ?_⟩
      exact Option.some.inj hd
    -- behind a tilde that the first pass has kept there is no zero: only a slash could be new there
    have hsecond : c = '~' → (replaceTilde '1' '/' (d :: rest)).head? ≠ some '0' := by
      intro hc hd
      rcases head?_replaceTilde hd with h | h
      · exact absurd h (by decide)
      · exact h0 ⟨hc, Option.some.inj h⟩
    rw [hfirst, replaceTilde_cons hsecond, ih]

/-! ### Writing and reading a name -/

theorem decode_cons (h : c ≠ '~') : decode (c :: s) = c :: decode s := by
  cases s with
  | nil => rfl
  | cons d s => rw [decode, if_neg (by simp [h]), if_neg (by simp [h])]

/-- **The scan undoes the writing.** -/
theorem decode_escape (name : List Char) : decode (escape name) = name := by
  induction name with
  | nil => rfl
  | cons c name ih =>
    rw [escape, List.flatMap_cons, ← escape]
    by_cases htilde : c = '~'
    · subst htilde
      simp [escapeChar, decode, ih]
    by_cases hslash : c = '/'
    · subst hslash
      simp [escapeChar, decode, ih]
    · rw [escapeChar, if_neg htilde, if_neg hslash, List.singleton_append, decode_cons htilde, ih]

theorem escape_eq_nil_iff {name : List Char} : escape name = [] ↔ name = [] := by
  have hne : ∀ c, escapeChar c ≠ [] := by
    intro c
    rw [escapeChar]
    split_ifs <;> simp
  cases name with
  | nil => simp [escape]
  | cons c name => simp [escape, hne]

end Pointer

theorem Section.ofKey?_key (sec : Section) : ofKey? sec.key = some sec := by
  cases sec <;> decide

theorem Section.slash_notMem_key (sec : Section) : '/' ∉ sec.key.toList := by
  cases sec <;> decide

namespace Pointer

/-- **Every name can be written in a pointer**: reading a token in two passes is reading it in one
scan, and the pointer that writes a name in any section names that section and exactly the name. -/
theorem target_written :
    (∀ token, unescape token = decode token) ∧
      ∀ (sec : Section) (name : String), name ≠ "" → target (written sec name) = .ok (sec, name) := by
  refine ⟨unescape_eq_decode, fun sec name hname => ?_⟩
  have htext : (written sec name).toList =
      root ++ (sec.key.toList ++ '/' :: escape name.toList) := String.toList_ofList
  have hsplit : splitSlash? (sec.key.toList ++ '/' :: escape name.toList) =
      some (sec.key.toList, escape name.toList) := splitSlash?_append sec.slash_notMem_key
  have hkey : Section.ofKey? (String.ofList sec.key.toList) = some sec := by
    rw [String.ofList_toList, sec.ofKey?_key]
  have htoken : (escape name.toList).isEmpty = false := by
    rw [List.isEmpty_eq_false_iff, ne_eq, escape_eq_nil_iff, String.toList_eq_nil_iff]
    exact hname
  have hread : String.ofList (unescape (escape name.toList)) = name := by
    rw [unescape_eq_decode, decode_escape, String.ofList_toList]
  have htarget : target? (written sec name) = some (sec, name) := by
    simp only [target?, htext, afterPrefix?_append, hsplit, hkey, htoken, hread,
      Option.bind_eq_bind, Option.bind_some, Bool.false_eq_true, if_false]
  rw [target, htarget]

/-- A name that looks like escapes itself. -/
theorem target_written_signs :
    "~0/1~01/" ≠ "" ∧
      target "#/components/responses/~00~11~001~1" = .ok (.responses, "~0/1~01/") := by
  have hne : "~0/1~01/" ≠ "" := by decide
  have hpointer : written .responses "~0/1~01/" = "#/components/responses/~00~11~001~1" := by
    decide +kernel
  exact ⟨hne, hpointer ▸ target_written.2 .responses "~0/1~01/" hne⟩

end Pointer

end ApiModel
