import ApiModel.Proofs.Document.Mentions
import ApiModel.Proofs.Outcome
import ApiModel.Proofs.Resolver

/-!
# What the check of a document says

The check looks every pointer up in the section that the pointer itself names
(`Resolver.checkPointer_eq_ok_iff`), whatever its place wants, and a document passes when each of its
mentions does (`Document.check_eq_ok_iff`).  What its place wants is found (`Resolver.finds`) is
checked well, too (`Resolver.check_of_finds`).
-/

namespace ApiModel

namespace Pointer

variable {p : String} {t : Section × String}

theorem eq_append_of_afterPrefix? {cs s rest : List Char} (h : afterPrefix? cs s = some rest) :
    s = cs ++ rest := by
  induction cs generalizing s with
  | nil =>
    cases h
    rfl
  | cons c cs ih =>
    cases s with
    | nil => cases h
    | cons d s =>
      rw [afterPrefix?] at h
      split_ifs at h with hc
      rw [hc, ih h, List.cons_append]

theorem startsWith_of_target? (h : target? p = some t) : p.startsWith "#" = true := by
  simp only [target?, Option.bind_eq_bind, Option.bind_eq_some_iff] at h
  obtain ⟨rest, hrest, -⟩ := h
  rw [String.startsWith_string_iff, eq_append_of_afterPrefix? hrest]
  exact ⟨"/components/".toList ++ rest, rfl⟩

end Pointer

theorem exists_target?_of_follow {α : Type} {sec : Section} {table : List (String × OrRef α)}
    {p : String} {v : α} (h : follow sec table p = .ok v) :
    ∃ name, Pointer.target? p = some (sec, name) := by
  obtain ⟨-, name, ht, -⟩ := followFrom_succ_eq_ok_iff.1 h
  exact ⟨name, ht⟩

namespace Resolver

variable {r : Resolver} {sec : Section} {p : String} {kind : PointerKind} {u : Mention}

/-- Whether looking a pointer up in a section gives something. -/
def findsIn (r : Resolver) (sec : Section) (p : String) : Bool :=
  match sec with
  | .schemas => (r.schemaAt p).isOk
  | .parameters => (r.parameterAt p).isOk
  | .securitySchemes => (r.securitySchemeAt p).isOk
  | .requestBodies => (r.requestBodyAt p).isOk
  | .responses => (r.responseAt p).isOk

/-- Checks a mention. -/
def check (r : Resolver) (u : Mention) : Except RefError Unit :=
  r.checkPointer u.place.kind u.pointer

/-- Whether a mention leads to what its place wants. -/
def finds (r : Resolver) (u : Mention) : Bool :=
  match u.place with
  | .ref wanted => r.findsIn wanted u.pointer
  | .mapping => (r.check u).isOk

/-- **What is found is found with more schemas.**  Of the components only the schemas may differ. -/
theorem findsIn_of_prefix {r' : Resolver}
    (hc : { r.components with schemas := [] } = { r'.components with schemas := [] })
    (hs : r.schemas <+: r'.schemas) (hf : r.findsIn sec p = true) : r'.findsIn sec p = true := by
  cases sec with
  | schemas =>
    obtain ⟨s, hr⟩ := exists_eq_ok hf
    have hr' : r'.schemaAt p = .ok s := schemaAt_of_prefix hs hr
    exact isOk_of_eq_ok hr'
  | parameters =>
    have he : r.components.parameters = r'.components.parameters :=
      (congrArg Components.parameters hc :)
    simp only [findsIn, parameterAt, ← he]
    exact hf
  | securitySchemes =>
    have he : r.components.securitySchemes = r'.components.securitySchemes :=
      (congrArg Components.securitySchemes hc :)
    have hr : r'.securityScheme = r.securityScheme := by
      funext name
      rw [securityScheme, securityScheme, he]
    simp only [findsIn, securitySchemeAt, hr]
    exact hf
  | requestBodies =>
    have he : r.components.requestBodies = r'.components.requestBodies :=
      (congrArg Components.requestBodies hc :)
    simp only [findsIn, requestBodyAt, ← he]
    exact hf
  | responses =>
    have he : r.components.responses = r'.components.responses :=
      (congrArg Components.responses hc :)
    simp only [findsIn, responseAt, ← he]
    exact hf

theorem exists_target?_of_findsIn (h : r.findsIn sec p = true) :
    ∃ name, Pointer.target? p = some (sec, name) := by
  cases sec with
  | securitySchemes =>
    obtain ⟨s, hs⟩ := exists_eq_ok h
    rcases hn : Pointer.nameIn .securitySchemes p with e | name
    · rw [securitySchemeAt, hn] at hs
      cases hs
    · exact ⟨name, Pointer.nameIn_eq_ok_iff.1 hn⟩
  | _ =>
    obtain ⟨v, hv⟩ := exists_eq_ok h
    exact exists_target?_of_follow hv

/-- **Resolving finds what the section has that the pointer names.** -/
theorem isOk_resolve_iff :
    (r.resolve p).isOk = true ↔
      ∃ sec name, Pointer.target? p = some (sec, name) ∧ r.findsIn sec p = true := by
  have hmap {α β : Type} (x : Except RefError α) (f : α → β) : (x.map f).isOk = x.isOk := by
    cases x <;> rfl
  rw [resolve, Pointer.target]
  rcases Pointer.target? p with _ | ⟨sec, name⟩
  · simp [Except.bind, Except.isOk, Except.toBool]
  · cases sec <;> simp [Except.bind, hmap, findsIn]

/-- **What passes the check**: a pointer that leads somewhere in the section that it names, and in a
mapping also the bare name of a schema. -/
theorem checkPointer_eq_ok_iff :
    r.checkPointer kind p = .ok () ↔
      (∃ sec name, Pointer.target? p = some (sec, name) ∧ r.findsIn sec p = true) ∨
        kind = .mapping ∧ p.startsWith "#" = false ∧ p ∈ Entries.keys r.schemas := by
  rw [checkPointer, ← isOk_resolve_iff]
  cases hp : p.startsWith "#" with
  | true =>
    cases hr : r.resolve p <;> simp [Except.map, Except.isOk, Except.toBool]
  | false =>
    have hno : ¬ (r.resolve p).isOk = true := by
      intro h
      obtain ⟨sec, name, ht, -⟩ := isOk_resolve_iff.1 h
      rw [Pointer.startsWith_of_target? ht] at hp
      cases hp
    by_cases hk : kind = .mapping ∧ Entries.has r.schemas p = true
    · simp [hk, ← Entries.has_iff]
    · simp only [Bool.false_eq_true, if_false, hk, hno, true_and, false_or, ← Entries.has_iff]
      simp

theorem check_of_prefix {r' : Resolver}
    (hc : { r.components with schemas := [] } = { r'.components with schemas := [] })
    (hs : r.schemas <+: r'.schemas) (h : r.check u = .ok ()) : r'.check u = .ok () := by
  rcases checkPointer_eq_ok_iff.1 h with ⟨sec, name, ht, hin⟩ | ⟨hk, hb, hmem⟩
  · exact checkPointer_eq_ok_iff.2 (.inl ⟨sec, name, ht, findsIn_of_prefix hc hs hin⟩)
  · exact checkPointer_eq_ok_iff.2 (.inr ⟨hk, hb, (hs.sublist.map _).subset hmem⟩)

theorem finds_of_prefix {r' : Resolver}
    (hc : { r.components with schemas := [] } = { r'.components with schemas := [] })
    (hs : r.schemas <+: r'.schemas) (hf : r.finds u = true) : r'.finds u = true := by
  obtain ⟨place, p⟩ := u
  cases place with
  | ref wanted => exact findsIn_of_prefix hc hs hf
  | mapping =>
    obtain ⟨_, hp⟩ := exists_eq_ok hf
    have hp' : r'.check ⟨.mapping, p⟩ = .ok () := check_of_prefix hc hs hp
    exact isOk_of_eq_ok hp'

/-- **What leads to what its place wants passes the check.** -/
theorem check_of_finds (h : r.finds u = true) : r.check u = .ok () := by
  obtain ⟨place, p⟩ := u
  cases place with
  | ref wanted =>
    obtain ⟨name, ht⟩ := exists_target?_of_findsIn h
    exact checkPointer_eq_ok_iff.2 (.inl ⟨wanted, name, ht, h⟩)
  | mapping =>
    obtain ⟨_, h⟩ := exists_eq_ok h
    exact h

/-- A `$ref` that passes the check leads to what its place wants exactly if it names the section of
its place. -/
theorem findsIn_iff_of_checkPointer (h : r.checkPointer .ref p = .ok ()) (wanted : Section) :
    r.findsIn wanted p = true ↔ ∃ name, Pointer.target? p = some (wanted, name) := by
  refine ⟨exists_target?_of_findsIn, ?_⟩
  rintro ⟨name, hn⟩
  rcases checkPointer_eq_ok_iff.1 h with ⟨sec, name', ht, hf⟩ | ⟨hk, -⟩
  · rw [hn] at ht
    cases ht
    exact hf
  · cases hk

theorem lookAt_checkPointer_eq_ok_iff (ms : List Mention) :
    lookAt r.checkPointer ms = .ok () ↔ ∀ u ∈ ms, r.check u = .ok () := by
  induction ms with
  | nil => simp [pure, Except.pure]
  | cons u ms ih =>
    have hc : lookAt r.checkPointer (u :: ms) =
        r.check u >>= fun _ => lookAt r.checkPointer ms := rfl
    rw [hc, bind_eq_ok_iff, List.forall_mem_cons, ← ih]
    exact ⟨fun ⟨_, hu, hms⟩ => ⟨hu, hms⟩, fun ⟨hu, hms⟩ => ⟨(), hu, hms⟩⟩

theorem checkSchema_eq_ok_iff {s : OrRef Schema} :
    r.checkSchema s = .ok () ↔ ∀ u ∈ Schema.mentionsOfRef s, r.check u = .ok () := by
  have hw : Schema.walkRef r.checkVisit s = _ := Schema.walkRef_look r.checkPointer s
  rw [checkSchema, hw, ← lookAt_checkPointer_eq_ok_iff]
  cases lookAt r.checkPointer (Schema.mentionsOfRef s) <;> simp [Except.map, bind, Except.bind, pure,
    Except.pure]

end Resolver

/-- **A document passes its check exactly if each of its mentions does.** -/
theorem Document.check_eq_ok_iff {d : Document} :
    d.check = .ok () ↔ ∀ u ∈ d.mentions, d.resolver.check u = .ok () := by
  have hw : d.walk d.resolver.checkVisit = _ := Document.walk_look d.resolver.checkPointer d
  rw [check, hw, ← Resolver.lookAt_checkPointer_eq_ok_iff]
  cases lookAt d.resolver.checkPointer d.mentions <;> simp [Except.map, bind, Except.bind, pure,
    Except.pure]

end ApiModel
