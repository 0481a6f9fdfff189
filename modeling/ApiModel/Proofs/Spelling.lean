import ApiModel.Proofs.Pointer

/-!
# Spellings of a target

The target of a pointer is the section and the name that it stands for.  Behind the section any token
that is not empty is read, also one that no name is written as: a slash, and a tilde that begins no
escape, stand for themselves.  So a target may have several spellings.

One of them has a proper token, in which every sign is an escape: the one that writes the name.  It
is the only one exactly when the name would be proper as a token itself
(`Pointer.spellings_of_target`).  A slash in a name can be spelled in two ways, and so can a tilde,
unless a digit behind it makes an escape of the bare tilde.
-/

namespace ApiModel

namespace Pointer

/-- A text in which every sign is an escape: it has no slash, and behind each tilde there is a zero
or a one. -/
def Proper : List Char → Prop
  | [] => True
  | c :: rest => c ≠ '/' ∧ (c = '~' → rest.head? = some '0' ∨ rest.head? = some '1') ∧ Proper rest

instance decidableProper : (s : List Char) → Decidable (Proper s)
  | [] => .isTrue trivial
  | _ :: rest =>
    have := decidableProper rest
    inferInstanceAs (Decidable (_ ∧ _ ∧ _))

/-- The pointer with a token behind a section. -/
def spelling (sec : Section) (token : List Char) : String :=
  String.ofList (root ++ (sec.key.toList ++ '/' :: token))

/-- A pointer to a section with a proper token. -/
def Canonical (p : String) : Prop :=
  ∃ sec token, token ≠ [] ∧ Proper token ∧ p = spelling sec token

/-- No two pointers have this target. -/
def OneSpelling (sec : Section) (name : String) : Prop :=
  ∀ p q, target p = .ok (sec, name) → target q = .ok (sec, name) → p = q

variable {c d x : Char} {s token : List Char} {sec sec' : Section} {name p : String}

/-! ### Tokens that are read as the same name -/

theorem escape_cons (c : Char) (s : List Char) : escape (c :: s) = escapeChar c ++ escape s := rfl

theorem escapeChar_of_ne (htilde : c ≠ '~') (hslash : c ≠ '/') : escapeChar c = [c] := by
  rw [escapeChar, if_neg htilde, if_neg hslash]

theorem decode_escapeChar_append (c : Char) (s : List Char) :
    decode (escapeChar c ++ s) = c :: decode s := by
  by_cases htilde : c = '~'
  · subst htilde
    simp [escapeChar, decode]
  by_cases hslash : c = '/'
  · subst hslash
    simp [escapeChar, decode]
  · rw [escapeChar_of_ne htilde hslash, List.singleton_append, decode_cons htilde]

theorem decode_tilde (h : ¬ (s.head? = some '0' ∨ s.head? = some '1')) :
    decode ('~' :: s) = '~' :: decode s := by
  cases s with
  | nil => rfl
  | cons d s =>
    simp only [List.head?_cons, Option.some.injEq, not_or] at h
    simp [decode, h.1, h.2]

theorem decode_eq_nil_iff : decode token = [] ↔ token = [] := by
  fun_cases decode token <;> simp [*]

theorem head?_decode (h : (decode s).head? = some x) : s.head? = some x ∨ x = '~' ∨ x = '/' := by
  fun_cases decode s with
  | case1 => cases h
  | case2 c => exact .inl h
  | case3 c d rest hc =>
    rw [decode, if_pos hc] at h
    exact .inr (.inl (Option.some.inj h).symm)
  | case4 c d rest h0 h1 =>
    rw [decode, if_neg h0, if_pos h1] at h
    exact .inr (.inr (Option.some.inj h).symm)
  | case5 c d rest h0 h1 =>
    rw [decode, if_neg h0, if_neg h1] at h
    exact .inl h

theorem head?_escape (h : (escape s).head? = some x) : s.head? = some x ∨ x = '~' := by
  cases s with
  | nil => cases h
  | cons c s =>
    rw [escape_cons, escapeChar] at h
    split_ifs at h
    · exact .inr (Option.some.inj h).symm
    · exact .inr (Option.some.inj h).symm
    · exact .inl h

theorem proper_escape (s : List Char) : Proper (escape s) := by
  induction s with
  | nil => trivial
  | cons c s ih =>
    rw [escape_cons, escapeChar]
    split_ifs with htilde hslash
    · exact ⟨by decide, fun _ => .inl rfl, by decide, fun h => absurd h (by decide), ih⟩
    · exact ⟨by decide, fun _ => .inr rfl, by decide, fun h => absurd h (by decide), ih⟩
    · exact ⟨hslash, fun h => absurd h htilde, ih⟩

/-- **A proper token is the one that writes the name** that it is read as. -/
theorem Proper.escape_decode (h : Proper token) : escape (decode token) = token := by
  fun_induction decode token with
  | case1 => rfl
  | case2 c =>
    obtain ⟨hslash, hdigit, -⟩ := h
    have htilde : c ≠ '~' := fun hc => by simpa using hdigit hc
    rw [escape_cons, escapeChar_of_ne htilde hslash]
    rfl
  | case3 c d rest hc ih =>
    obtain ⟨rfl, rfl⟩ := hc
    rw [escape_cons, ih h.2.2.2.2]
    rfl
  | case4 c d rest _ hc ih =>
    obtain ⟨rfl, rfl⟩ := hc
    rw [escape_cons, ih h.2.2.2.2]
    rfl
  | case5 c d rest h0 h1 ih =>
    obtain ⟨hslash, hdigit, hrest⟩ := h
    have htilde : c ≠ '~' := fun hc =>
      (hdigit hc).elim (fun hd => h0 ⟨hc, Option.some.inj hd⟩) fun hd => h1 ⟨hc, Option.some.inj hd⟩
    rw [escape_cons, ih hrest, escapeChar_of_ne htilde hslash]
    rfl

/-- A name that is proper is read from proper tokens only: a bare tilde in the token would be read
together with the digit behind it. -/
theorem Proper.of_decode (h : Proper (decode token)) : Proper token := by
  fun_induction decode token with
  | case1 => trivial
  | case2 c => exact h
  | case3 c d rest hc ih =>
    obtain ⟨rfl, rfl⟩ := hc
    exact ⟨by decide, fun _ => .inl rfl, by decide, fun h => absurd h (by decide), ih h.2.2⟩
  | case4 => exact absurd rfl h.1
  | case5 c d rest h0 h1 ih =>
    obtain ⟨hslash, hdigit, hrest⟩ := h
    refine ⟨hslash, fun hc => (hdigit hc).imp (fun hd => ?_) (fun hd => ?_), ih hrest⟩
    · exact (head?_decode hd).resolve_right (by decide)
    · exact (head?_decode hd).resolve_right (by decide)

/-- A name that is not proper is read from another token than the one that writes it: from one in
which a sign stands for itself. -/
theorem exists_other_token (h : ¬ Proper s) : ∃ token, decode token = s ∧ token ≠ escape s := by
  induction s with
  | nil => exact absurd trivial h
  | cons c s ih =>
    by_cases hslash : c = '/'
    · subst hslash
      refine ⟨'/' :: escape s, ?_, by simp [escape_cons, escapeChar]⟩
      rw [decode_cons (by decide), decode_escape]
    by_cases hbare : c = '~' ∧ ¬ (s.head? = some '0' ∨ s.head? = some '1')
    · obtain ⟨rfl, hdigit⟩ := hbare
      have hdigit' : ¬ ((escape s).head? = some '0' ∨ (escape s).head? = some '1') := fun hd =>
        hdigit (hd.imp (fun h => (head?_escape h).resolve_right (by decide))
          fun h => (head?_escape h).resolve_right (by decide))
      refine ⟨'~' :: escape s, by rw [decode_tilde hdigit', decode_escape], fun he => hdigit' ?_⟩
      rw [(List.cons.inj he).2]
      exact .inl rfl
    · have hs : ¬ Proper s := fun hp => h ⟨hslash, by tauto, hp⟩
      obtain ⟨token, hd, hne⟩ := ih hs
      refine ⟨escapeChar c ++ token, by rw [decode_escapeChar_append, hd], fun he => hne ?_⟩
      exact List.append_cancel_left he

/-- **A name is read from one token only exactly when it is proper.** -/
theorem forall_eq_escape_iff : (∀ token, decode token = s → token = escape s) ↔ Proper s := by
  constructor
  · intro h
    by_contra hs
    obtain ⟨token, hd, hne⟩ := exists_other_token hs
    exact hne (h token hd)
  · rintro hs token rfl
    exact hs.of_decode.escape_decode.symm

/-! ### Pointers with the same target -/

theorem Section.eq_key_of_ofKey? {key : String} (h : Section.ofKey? key = some sec) :
    key = sec.key := by
  have hfound := List.find?_some h
  rw [beq_iff_eq] at hfound
  exact hfound.symm

theorem spelling_inj {token' : List Char} (h : spelling sec token = spelling sec token') :
    token = token' := by
  have htext := String.ofList_injective h
  simpa using htext

theorem target_eq_ok_iff : target p = .ok (sec, name) ↔
    ∃ token, token ≠ [] ∧ decode token = name.toList ∧ p = spelling sec token := by
  have htarget : target p = .ok (sec, name) ↔ target? p = some (sec, name) := by
    rw [target]
    rcases target? p with _ | t <;> simp
  rw [htarget]
  constructor
  · intro h
    simp only [target?, Option.bind_eq_bind, Option.bind_eq_some_iff] at h
    obtain ⟨rest, hrest, ⟨key, token⟩, hsplit, sec', hsec, h⟩ := h
    split_ifs at h with htoken
    cases h
    have hkey : key = sec.key.toList := by
      rw [← Section.eq_key_of_ofKey? hsec, String.toList_ofList]
    refine ⟨token, by simpa using htoken, ?_, ?_⟩
    · rw [String.toList_ofList, unescape_eq_decode]
    · rw [spelling, ← hkey, ← eq_append_of_splitSlash? hsplit, ← eq_append_of_afterPrefix? hrest,
        String.ofList_toList]
  · rintro ⟨token, hne, hd, rfl⟩
    have hsplit : splitSlash? (sec.key.toList ++ '/' :: token) = some (sec.key.toList, token) :=
      splitSlash?_append sec.slash_notMem_key
    have htoken : token.isEmpty = false := by simpa using hne
    simp only [target?, spelling, String.toList_ofList, afterPrefix?_append, hsplit, sec.ofKey?_key,
      htoken, unescape_eq_decode, hd, String.ofList_toList, Option.bind_eq_bind, Option.bind_some,
      Bool.false_eq_true, if_false]

theorem canonical_iff_of_target (h : target p = .ok (sec, name)) :
    Canonical p ↔ p = written sec name := by
  constructor
  · rintro ⟨sec', token, hne, hproper, rfl⟩
    have hread : target (spelling sec' token) = .ok (sec', String.ofList (decode token)) :=
      target_eq_ok_iff.2 ⟨token, hne, String.toList_ofList.symm, rfl⟩
    obtain ⟨rfl, rfl⟩ := Prod.mk.inj (Except.ok.inj (hread.symm.trans h))
    rw [written, String.toList_ofList, hproper.escape_decode, spelling]
  · intro hp
    obtain ⟨token, hne, hd, -⟩ := target_eq_ok_iff.1 h
    refine ⟨sec, escape name.toList, ?_, proper_escape _, hp⟩
    rw [ne_eq, escape_eq_nil_iff, ← hd, decode_eq_nil_iff]
    exact hne

theorem oneSpelling_iff : OneSpelling sec name ↔ Proper name.toList := by
  rw [← forall_eq_escape_iff]
  constructor
  · intro h token hd
    by_cases htoken : token = []
    · rw [← hd, htoken]
      rfl
    · have hne : escape name.toList ≠ [] := by
        rwa [ne_eq, escape_eq_nil_iff, ← hd, decode_eq_nil_iff]
      have hread : target (spelling sec token) = .ok (sec, name) :=
        target_eq_ok_iff.2 ⟨token, htoken, hd, rfl⟩
      have hwritten : target (spelling sec (escape name.toList)) = .ok (sec, name) :=
        target_eq_ok_iff.2 ⟨_, hne, decode_escape _, rfl⟩
      exact spelling_inj (h _ _ hread hwritten)
  · intro h p q hp hq
    obtain ⟨token, -, hd, rfl⟩ := target_eq_ok_iff.1 hp
    obtain ⟨token', -, hd', rfl⟩ := target_eq_ok_iff.1 hq
    rw [h token hd, h token' hd']

/-- **The spellings of a target.**  A pointer has a target exactly when it goes on behind the
section with a token that is read as the name; one spelling of the target is canonical, the written
one; and there is no other one exactly when the name is proper as a token. -/
theorem spellings_of_target (sec : Section) (name : String) :
    (∀ p, target p = .ok (sec, name) ↔
      ∃ token, token ≠ [] ∧ decode token = name.toList ∧ p = spelling sec token) ∧
      (∀ p, target p = .ok (sec, name) → (Canonical p ↔ p = written sec name)) ∧
      (OneSpelling sec name ↔ Proper name.toList) :=
  ⟨fun _ => target_eq_ok_iff, fun _ => canonical_iff_of_target, oneSpelling_iff⟩

/-- A name that looks like an escape has one spelling. -/
theorem spellings_of_target_escape :
    target "#/components/responses/~01" = .ok (.responses, "~1") ∧
      Canonical "#/components/responses/~01" ∧ OneSpelling .responses "~1" := by
  obtain ⟨hread, hcanonical, hone⟩ := spellings_of_target .responses "~1"
  have hp : "#/components/responses/~01" = spelling .responses ['~', '0', '1'] := by decide +kernel
  have ht : target "#/components/responses/~01" = .ok (.responses, "~1") :=
    (hread _).2 ⟨_, by decide, by decide, hp⟩
  exact ⟨ht, (hcanonical _ ht).2 (by decide +kernel), hone.2 (by decide)⟩

/-- **A name with a slash has two spellings**, and one of them is not canonical. -/
theorem not_oneSpelling_folder :
    target "#/components/schemas/a/b" = .ok (.schemas, "a/b") ∧
      target "#/components/schemas/a~1b" = .ok (.schemas, "a/b") ∧
      ¬ Canonical "#/components/schemas/a/b" ∧ ¬ OneSpelling .schemas "a/b" := by
  have hbare : target "#/components/schemas/a/b" = .ok (.schemas, "a/b") := by decide +kernel
  have hwritten : target "#/components/schemas/a~1b" = .ok (.schemas, "a/b") := by decide +kernel
  refine ⟨hbare, hwritten, fun h => ?_, fun h => ?_⟩
  · exact absurd ((canonical_iff_of_target hbare).1 h) (by decide +kernel)
  · exact absurd (h _ _ hbare hwritten) (by decide)

end Pointer

end ApiModel
