import ApiModel.Proofs.Schemas.Extends
import ApiModel.Proofs.Schemas.Renamed

/-!
# What renamed pointers mean

A renaming should keep what every pointer means: a pointer that names a component schema names the
same schema under its new name afterwards, and every other pointer stays as it is
(`Renaming.Keeps`).  Then whatever led somewhere still does (`Document.KeepsMeaning.check_under`).

The renaming reads the names of schemas letter by letter, while following a pointer takes the escapes
in it apart.  So the meaning is kept **exactly when** both agree on which reserved schemas the
pointers of the document name (`Document.keepsMeaning_iff`).  They do if the reserved names are plain,
as all keywords are; and they do not for a schema `a/b`, which a pointer can only name as `a~1b`
(`Document.not_keepsMeaning_folder`).
-/

namespace ApiModel

namespace Pointer

/-- A name that a pointer can write in one way only. -/
structure Plain (name : String) : Prop extends Literal name where
  /-- It has no character that an escape stands for. -/
  no_slash : '/' ∉ name.toList

variable {p name : String} {s : List Char}

theorem replaceTilde_eq_self_or_mem (digit sign : Char) (s : List Char) :
    replaceTilde digit sign s = s ∨ sign ∈ replaceTilde digit sign s := by
  fun_induction replaceTilde digit sign s with
  | case1 => exact .inl rfl
  | case2 => exact .inl rfl
  | case3 c d rest _ _ => exact .inr List.mem_cons_self
  | case4 c d rest _ ih =>
    rcases ih with h | h
    · exact .inl (by rw [h])
    · exact .inr (List.mem_cons_of_mem _ h)

theorem unescape_eq_self_of_notMem (ht : '~' ∉ unescape s) (hs : '/' ∉ unescape s) :
    unescape s = s := by
  have houter := replaceTilde_eq_self_or_mem '0' '~' (replaceTilde '1' '/' s)
  have hinner := replaceTilde_eq_self_or_mem '1' '/' s
  have hfirst : unescape s = replaceTilde '1' '/' s := houter.resolve_right ht
  rw [hfirst] at hs
  exact hfirst.trans (hinner.resolve_right hs)

/-- **Only its reference names a schema whose name needs no escapes.** -/
theorem eq_reference_of_target? (h : target? p = some (.schemas, name)) (htilde : '~' ∉ name.toList)
    (hslash : '/' ∉ name.toList) : p = Schema.pointerPrefix ++ name := by
  obtain ⟨token, htoken, hname⟩ := exists_afterPrefix?_of_target? h
  rw [hname] at htilde hslash
  rw [eq_reference_of_afterPrefix? htoken, ← unescape_eq_self_of_notMem htilde hslash, ← hname,
    String.ofList_toList]

theorem afterPrefix?_eq_none (h : p.startsWith "#" = false) :
    afterPrefix? Schema.pointerPrefix.toList p.toList = none := by
  rcases hr : afterPrefix? Schema.pointerPrefix.toList p.toList with _ | rest
  · rfl
  · rw [eq_reference_of_afterPrefix? hr, startsWith_reference] at h
    cases h

end Pointer

namespace Renaming

variable {renames : List (String × String)} {kind : PointerKind} {p name : String}

/-- A pointer writes a name letter by letter: behind the fixed beginning, or in a mapping as its
whole text. -/
inductive Writes (kind : PointerKind) (p name : String) : Prop
  | pointer (hp : p = Schema.pointerPrefix ++ name)
  | name (hk : kind = .mapping)
      (hno : Pointer.afterPrefix? Schema.pointerPrefix.toList p.toList = none) (hp : p = name)

/-- The second pointer is the first one after a renaming of schemas with the given names, and it means
the same. -/
structure Keeps (names : List String) (renames : List (String × String)) (kind : PointerKind)
    (p p' : String) : Prop where
  /-- What names a declared schema names it by its new name. -/
  pointer : ∀ name ∈ names, Pointer.target? p = some (.schemas, name) →
    Pointer.target? p' = some (.schemas, renamed renames name)
  /-- The bare name of a declared schema is replaced by the new one. -/
  bare : kind = .mapping → p.startsWith "#" = false → p ∈ names → p' = renamed renames p
  /-- What names no declared schema stays as it is. -/
  other : (∀ name ∈ names, ¬ Pointer.Names kind p name) → p' = p

/-! ### What the renaming does -/

theorem pointer_reference (renames : List (String × String)) (kind : PointerKind) (name : String) :
    pointer renames kind (Schema.pointerPrefix ++ name) =
      Schema.pointerPrefix ++ renamed renames name := by
  simp only [pointer, String.toList_append, Pointer.afterPrefix?_append, String.ofList_toList, renamed]
  cases Entries.find? name renames <;> rfl

theorem pointer_bare (hno : Pointer.afterPrefix? Schema.pointerPrefix.toList p.toList = none) :
    pointer renames .mapping p = renamed renames p := by
  simp only [pointer, hno, if_true, renamed]

theorem pointer_of_not_writes (h : ∀ name ∈ Entries.keys renames, ¬ Writes kind p name) :
    pointer renames kind p = p := by
  have hmoves := moves_pointer renames kind p
  generalize pointer renames kind p = p' at hmoves
  cases hmoves with
  | pointer hp hf =>
    exact absurd (.pointer hp) (h _ (Entries.mem_keys_of_find? hf))
  | name hk hno hf =>
    exact absurd (.name hk hno rfl) (h _ (Entries.mem_keys_of_find? hf))
  | kept => rfl

/-- What names a schema that keeps its name stays as it is, if the texts of pointers write what the
pointers name. -/
theorem pointer_of_names
    (hiff : ∀ n ∈ Entries.keys renames, (Writes kind p n ↔ Pointer.Names kind p n))
    (hp : Pointer.Names kind p name) (hn : name ∉ Entries.keys renames) :
    pointer renames kind p = p := by
  refine pointer_of_not_writes fun n hk hw => hn ?_
  rw [hp.eq ((hiff n hk).1 hw)]
  exact hk

/-! ### When a pointer keeps its meaning -/

section Fits

variable {reserved : Reserved} {names : List String}
  (h : Fits reserved (names.filter (!reserved.contains ·)) names renames)

include h

theorem Fits.target?_renamed (hn : name ∈ Entries.keys renames) :
    Pointer.target? (Schema.pointerPrefix ++ renamed renames name) =
      some (.schemas, renamed renames name) :=
  Pointer.target?_reference (h.literal_of_find? (find?_eq_some_renamed hn))

theorem Fits.keeps_of_writes
    (hiff : ∀ n ∈ Entries.keys renames, (Writes kind p n ↔ Pointer.Names kind p n)) :
    Keeps names renames kind p (pointer renames kind p) := by
  constructor
  case pointer =>
    intro name hm ht
    by_cases hk : name ∈ Entries.keys renames
    · cases (hiff name hk).2 (.inl ht) with
      | pointer hp =>
        rw [hp, pointer_reference]
        exact h.target?_renamed hk
      | name _ hno _ => exact absurd ht (Pointer.target?_ne_of_afterPrefix?_eq_none hno)
    · rw [renamed_of_notMem hk, pointer_of_names hiff (.inl ht) hk]
      exact ht
  case bare =>
    intro hkind hb hm
    by_cases hk : p ∈ Entries.keys renames
    · rw [hkind]
      exact pointer_bare (Pointer.afterPrefix?_eq_none hb)
    · rw [renamed_of_notMem hk]
      exact pointer_of_names hiff (.inr ⟨hkind, hb, rfl⟩) hk
  case other =>
    intro hno
    exact pointer_of_not_writes fun n hk hw => hno n (h.mem_of_mem_keys hk) ((hiff n hk).1 hw)

variable (hkeeps : Keeps names renames kind p (pointer renames kind p))
  (hk : name ∈ Entries.keys renames)

include hkeeps hk

theorem Fits.names_of_writes (hw : Writes kind p name) : Pointer.Names kind p name := by
  have hm := h.mem_of_mem_keys hk
  by_contra hno
  cases hw with
  | pointer hp =>
    have hnew : pointer renames kind p = Schema.pointerPrefix ++ renamed renames name := by
      rw [hp, pointer_reference]
    -- what it names would be the renamed schema, and without a name it would have to stay
    have hother : ∀ n ∈ names, ¬ Pointer.Names kind p n := by
      rintro n hn (ht | ⟨-, hb, -⟩)
      · have ht' := hkeeps.pointer n hn ht
        rw [hnew, h.target?_renamed hk] at ht'
        have he : renamed renames name = renamed renames n := by simpa using ht'
        exact hno (h.renamed_inj hm hn he ▸ .inl ht)
      · rw [hp, Pointer.startsWith_reference] at hb
        cases hb
    have hsame := hkeeps.other hother
    rw [hnew, hp, String.append_right_inj] at hsame
    exact h.renamed_ne hk hsame
  | name hkind hnone hp =>
    subst hkind hp
    have hnew : pointer renames .mapping p = renamed renames p := pointer_bare hnone
    have hother : ∀ n ∈ names, ¬ Pointer.Names .mapping p n := by
      rintro n hn (ht | ⟨hkind, hb, -⟩)
      · exact Pointer.target?_ne_of_afterPrefix?_eq_none hnone ht
      · exact hno (.inr ⟨hkind, hb, rfl⟩)
    have hsame := hkeeps.other hother
    rw [hnew] at hsame
    exact h.renamed_ne hk hsame

theorem Fits.writes_of_names (hn : Pointer.Names kind p name) : Writes kind p name := by
  have hm := h.mem_of_mem_keys hk
  rcases hn with ht | ⟨hkind, hb, hp⟩
  · have ht' := hkeeps.pointer name hm ht
    have hmoves := moves_pointer renames kind p
    generalize pointer renames kind p = p' at ht' hmoves
    cases hmoves with
    | @pointer old new hp hf =>
      -- the pointer was moved from the only name that has this new one
      rw [Pointer.target?_reference (h.literal_of_find? hf)] at ht'
      have hnew : renamed renames old = renamed renames name := by
        rw [renamed, hf, Option.getD_some]
        simpa using ht'
      have hold : old ∈ names :=
        h.mem_of_mem_keys (Entries.mem_keys_of_find? hf)
      rw [← h.renamed_inj hold hm hnew]
      exact .pointer hp
    | name _ _ hf =>
      have hb := Pointer.startsWith_of_target? ht'
      rw [(h.literal_of_find? hf).startsWith_eq_false] at hb
      cases hb
    | kept =>
      rw [ht] at ht'
      have he : name = renamed renames name := by simpa using ht'
      exact absurd he.symm (h.renamed_ne hk)
  · exact .name hkind (Pointer.afterPrefix?_eq_none hb) hp

omit hkeeps hk in
/-- **A pointer keeps its meaning exactly if its text writes the reserved names that it names.** -/
theorem Fits.keeps_iff_writes :
    Keeps names renames kind p (pointer renames kind p) ↔
      ∀ n ∈ Entries.keys renames, (Writes kind p n ↔ Pointer.Names kind p n) := by
  constructor
  · intro hkeeps n hk
    exact ⟨h.names_of_writes hkeeps hk, h.writes_of_names hkeeps hk⟩
  · intro hiff
    exact h.keeps_of_writes hiff

end Fits

theorem writes_iff_names (hn : Pointer.Plain name) :
    Writes kind p name ↔ Pointer.Names kind p name := by
  constructor
  · intro hw
    cases hw with
    | pointer hp => exact .inl (hp ▸ Pointer.target?_reference hn.toLiteral)
    | name hk hno hp =>
      subst hp
      exact .inr ⟨hk, hn.toLiteral.startsWith_eq_false, rfl⟩
  · rintro (ht | ⟨hk, hb, hp⟩)
    · exact .pointer (Pointer.eq_reference_of_target? ht hn.no_tilde hn.no_slash)
    · exact .name hk (Pointer.afterPrefix?_eq_none hb) hp

theorem plain_of_mem_words (hn : name ∈ Reserved.words) : Pointer.Plain name := by
  have hall : ∀ w ∈ Reserved.words,
      w ≠ "" ∧ '~' ∉ w.toList ∧ '#' ∉ w.toList ∧ '/' ∉ w.toList := by decide +kernel
  obtain ⟨hne, ht, hs, hslash⟩ := hall name hn
  exact ⟨⟨hne, ht, hs⟩, hslash⟩

theorem Fits.plain_of_mem_keys {taken : List String} (h : Fits reserved taken names renames)
    (hextra : ∀ name ∈ reserved.extra, Pointer.Plain name) (hn : name ∈ Entries.keys renames) :
    Pointer.Plain name := by
  have hreserved := (h.mem_keys_iff.1 hn).2
  rw [Reserved.contains, Bool.or_eq_true, List.contains_iff_mem, List.contains_iff_mem] at hreserved
  exact hreserved.elim plain_of_mem_words (hextra name)

end Renaming

namespace Document

variable {reserved : Reserved} {renames : List (String × String)} {d : Document} {u : Mention}

/-- The pointers of the document stay in their places when schemas are renamed, and each of them means
what it meant before. -/
def KeepsMeaning (renames : List (String × String)) (d : Document) : Prop :=
  List.Forall₂ (fun u v => v.place = u.place ∧
      Renaming.Keeps (Entries.keys d.componentsD.schemas) renames u.place.kind u.pointer v.pointer)
    d.mentions (renamed renames d).mentions

theorem mention_of_mem_entryPointers {α : Type} {sec : Section} {inside : α → List Mention}
    {table : List (String × OrRef α)} (ht : ∀ e ∈ table, e.2.mentions sec inside ⊆ d.mentions)
    {q : String} (hq : q ∈ entryPointers table) : ⟨.ref sec, q⟩ ∈ d.mentions := by
  obtain ⟨⟨name, x⟩, he, hx⟩ := List.mem_filterMap.1 hq
  cases x with
  | inline v => cases hx
  | ref p =>
    cases hx
    exact ht _ he List.mem_cons_self

/-- **Following a mention under its replacement** comes to an end in another table if each step of a
mention can be made there. -/
theorem isOk_follow_under {α : Type} {sec : Section} {inside : α → List Mention}
    {table table' : List (String × OrRef α)} {f : PointerKind → String → String}
    (hmentions : ∀ e ∈ table, e.2.mentions sec inside ⊆ d.mentions)
    (hstep : ∀ v ∈ d.mentions, ∀ name x, Pointer.target? v.pointer = some (sec, name) →
      Entries.find? name table = some x →
        ∃ new y, Pointer.target? (f v.place.kind v.pointer) = some (sec, new) ∧
          Entries.find? new table' = some y ∧ y.pointer? = x.pointer?.map (f .ref))
    (hu : u ∈ d.mentions) (hf : (follow sec table u.pointer).isOk = true) :
    (follow sec table' (f u.place.kind u.pointer)).isOk = true := by
  -- on the way there are only mentions of the document
  let Held (kind : PointerKind) (p : String) : Prop :=
    ∃ v ∈ d.mentions, v.place.kind = kind ∧ v.pointer = p
  have hentries : ∀ q ∈ entryPointers table, Held .ref q := by
    intro q hq
    exact ⟨_, mention_of_mem_entryPointers hmentions hq, rfl, rfl⟩
  have hsteps : ∀ kind p name x, Held kind p → Pointer.target? p = some (sec, name) →
      Entries.find? name table = some x → ∃ new y, Pointer.target? (f kind p) = some (sec, new) ∧
        Entries.find? new table' = some y ∧ y.pointer? = x.pointer?.map (f .ref) := by
    rintro _ _ name x ⟨v, hv, rfl, rfl⟩ ht hx
    exact hstep v hv name x ht hx
  obtain ⟨v, hv⟩ := exists_eq_ok hf
  obtain ⟨w, hw⟩ := (follow_eq_ok_iff.1 hv).under hsteps hentries u.place.kind ⟨u, hu, rfl, rfl⟩
  exact isOk_of_eq_ok (follow_eq_ok_iff.2 hw)

section Renamed

variable (h : d.componentsD.newNames reserved = .ok renames)
  (hd : (Entries.keys d.componentsD.schemas).Nodup)

include h hd

theorem keepsMeaning_iff_forall :
    KeepsMeaning renames d ↔ ∀ u ∈ d.mentions,
      Renaming.Keeps (Entries.keys d.componentsD.schemas) renames u.place.kind u.pointer
        (Renaming.pointer renames u.place.kind u.pointer) := by
  rw [KeepsMeaning, mentions_renamed h hd, List.forall₂_map_right_iff, List.forall₂_same]
  simp only [Mention.under, true_and]

theorem exists_find?_renamed {name : String} {x : OrRef Schema}
    (hx : Entries.find? name d.componentsD.schemas = some x) :
    ∃ y, Entries.find? (Renaming.renamed renames name) (renamed renames d).componentsD.schemas =
      some y ∧ y.pointer? = x.pointer?.map (Renaming.pointer renames .ref) := by
  have hf := Components.fits_of_newNames h
  have hnodup : (Entries.keys (d.componentsD.schemas.map fun e =>
      (Renaming.renamed renames e.1, e.2))).Nodup := by
    rw [Renaming.keys_map_renamed]
    exact hf.nodup_renamed hd
  have hmem : (Renaming.renamed renames name, x) ∈ d.componentsD.schemas.map fun e =>
      (Renaming.renamed renames e.1, e.2) :=
    List.mem_map_of_mem (f := fun e => (Renaming.renamed renames e.1, e.2)) (Entries.mem_of_find? hx)
  exact (inStep_schemas h hd).exists_find?_after (Entries.find?_of_mem hnodup hmem)

/-! ### What led somewhere still does -/

variable (hk : KeepsMeaning renames d)

include hk

theorem KeepsMeaning.schemaAt_under (hu : u ∈ d.mentions)
    (hf : d.resolver.findsIn .schemas u.pointer = true) :
    (renamed renames d).resolver.findsIn .schemas
      (Renaming.pointer renames u.place.kind u.pointer) = true := by
  have hkeeps := (keepsMeaning_iff_forall h hd).1 hk
  have hcovers := d.covers_schemas
  rw [Covers, Schema.mentionsOfRef_eq] at hcovers
  refine isOk_follow_under hcovers ?_ hu hf
  intro v hv name x ht hx
  obtain ⟨y, hy, hptr⟩ := exists_find?_renamed h hd hx
  have hname := Entries.mem_keys_of_find? hx
  exact ⟨_, y, (hkeeps v hv).pointer name hname ht, hy, hptr⟩

theorem KeepsMeaning.pointer_eq (hu : u ∈ d.mentions) {sec : Section} (hsec : sec ≠ .schemas)
    {name : String} (ht : Pointer.target? u.pointer = some (sec, name)) :
    Renaming.pointer renames u.place.kind u.pointer = u.pointer := by
  refine ((keepsMeaning_iff_forall h hd).1 hk u hu).other ?_
  rintro n - (hn | ⟨-, hb, -⟩)
  · rw [ht] at hn
    exact hsec (Prod.mk.inj (Option.some.inj hn)).1
  · rw [Pointer.startsWith_of_target? ht] at hb
    cases hb

theorem KeepsMeaning.follow_under {α : Type} {sec : Section} (hsec : sec ≠ .schemas)
    {inside : α → List Mention} {table table' : List (String × OrRef α)}
    (htable : InStep (Renaming.pointer renames) table table')
    (hmentions : ∀ e ∈ table, e.2.mentions sec inside ⊆ d.mentions) (hu : u ∈ d.mentions)
    (hf : (follow sec table u.pointer).isOk = true) :
    (follow sec table' (Renaming.pointer renames u.place.kind u.pointer)).isOk = true := by
  refine isOk_follow_under hmentions ?_ hu hf
  intro v hv name x ht hx
  obtain ⟨y, hy, hptr⟩ := htable.exists_find?_after hx
  have hsame := hk.pointer_eq h hd hv hsec ht
  exact ⟨name, y, hsame.symm ▸ ht, hy, hptr⟩

/-- **What a mention leads to in a section** is found there after the renaming, too. -/
theorem KeepsMeaning.findsIn_under (hu : u ∈ d.mentions) {sec : Section}
    (hf : d.resolver.findsIn sec u.pointer = true) :
    (renamed renames d).resolver.findsIn sec (Renaming.pointer renames u.place.kind u.pointer) =
      true := by
  have htables := tablesInStep_renamed renames d
  cases sec with
  | schemas => exact hk.schemaAt_under h hd hu hf
  | parameters =>
    exact hk.follow_under h hd (by decide) htables.parameters d.mentions_parameters_subset hu hf
  | requestBodies =>
    exact hk.follow_under h hd (by decide) htables.requestBodies d.mentions_requestBodies_subset hu
      hf
  | responses =>
    exact hk.follow_under h hd (by decide) htables.responses d.mentions_responses_subset hu hf
  | securitySchemes =>
    obtain ⟨name, ht⟩ := Resolver.exists_target?_of_findsIn hf
    have hschemes : (renamed renames d).resolver.securityScheme = d.resolver.securityScheme := by
      funext name
      simp only [Resolver.securityScheme, resolver, htables.securitySchemes]
    rw [hk.pointer_eq h hd hu (by decide) ht]
    simp only [Resolver.findsIn, Resolver.securitySchemeAt, hschemes] at hf ⊢
    exact hf

theorem KeepsMeaning.check_under (hu : u ∈ d.mentions) (hc : d.resolver.check u = .ok ()) :
    (renamed renames d).resolver.check (u.under (Renaming.pointer renames)) = .ok () := by
  have hf := Components.fits_of_newNames h
  rcases Resolver.checkPointer_eq_ok_iff.1 hc with ⟨sec, name, ht, hin⟩ | ⟨hkind, hb, hmem⟩
  · have hin' := hk.findsIn_under h hd hu hin
    obtain ⟨name', ht'⟩ := Resolver.exists_target?_of_findsIn hin'
    exact Resolver.checkPointer_eq_ok_iff.2 (.inl ⟨sec, name', ht', hin'⟩)
  · have hnew := ((keepsMeaning_iff_forall h hd).1 hk u hu).bare hkind hb hmem
    have hb' : (Renaming.pointer renames u.place.kind u.pointer).startsWith "#" = false :=
      hf.startsWith_pointer hb
    obtain ⟨x, hx⟩ := Entries.exists_find?_iff.2 hmem
    obtain ⟨y, hy, -⟩ := exists_find?_renamed h hd hx
    rw [← hnew] at hy
    exact Resolver.checkPointer_eq_ok_iff.2
      (.inr ⟨hkind, hb', Entries.mem_keys_of_find? hy⟩)

end Renamed

/-- **Renaming keeps what pointers mean exactly if their texts write the reserved schemas that they
name.**  Then whatever passed the check still passes it.  In particular this is so if the further
reserved names are plain. -/
theorem keepsMeaning_iff (h : d.componentsD.newNames reserved = .ok renames)
    (hd : (Entries.keys d.componentsD.schemas).Nodup) :
    (KeepsMeaning renames d ↔ ∀ u ∈ d.mentions, ∀ name ∈ Entries.keys renames,
      (Renaming.Writes u.place.kind u.pointer name ↔
        Pointer.Names u.place.kind u.pointer name)) ∧
      (KeepsMeaning renames d → List.Forall₂ (fun u v => d.resolver.check u = .ok () →
        (renamed renames d).resolver.check v = .ok ()) d.mentions (renamed renames d).mentions) ∧
      ((∀ name ∈ reserved.extra, Pointer.Plain name) → KeepsMeaning renames d) := by
  have hf := Components.fits_of_newNames h
  have hiff : KeepsMeaning renames d ↔ ∀ u ∈ d.mentions, ∀ name ∈ Entries.keys renames,
      (Renaming.Writes u.place.kind u.pointer name ↔
        Pointer.Names u.place.kind u.pointer name) := by
    rw [keepsMeaning_iff_forall h hd]
    exact forall₂_congr fun u hu => hf.keeps_iff_writes
  refine ⟨hiff, fun hk => ?_, fun hextra => hiff.2 fun u hu name hname => ?_⟩
  · rw [mentions_renamed h hd, List.forall₂_map_right_iff, List.forall₂_same]
    intro u hu hc
    exact hk.check_under h hd hu hc
  · exact Renaming.writes_iff_names (hf.plain_of_mem_keys hextra hname)

/-- A document with a schema that has a reserved name, a reference to it, and a mapping with its bare
name. -/
def holder : Document where
  openapi := "3.1.0"
  info := { title := "T", version := "1" }
  paths :=
    [("/things",
      { operations :=
          [(.get,
            { responses :=
                [("200", .inline
                  { content :=
                      [("application/json",
                        { schema := some (.ref "#/components/schemas/Object") })] })] })] })]
  components := some
    { schemas :=
        [("Object", .inline {}),
          ("Object2", .inline {}),
          ("Holder", .inline
            { oneOf := [.ref "#/components/schemas/Object"]
              discriminator := some
                { propertyName := "kind", mapping := [("obj", "Object")] } })] }

theorem keepsMeaning_holder :
    holder.componentsD.newNames {} = .ok [("Object", "Object3")] ∧
      (Entries.keys holder.componentsD.schemas).Nodup ∧
        KeepsMeaning [("Object", "Object3")] holder := by
  have h : holder.componentsD.newNames {} = .ok [("Object", "Object3")] := by decide +kernel
  have hd : (Entries.keys holder.componentsD.schemas).Nodup := by decide
  exact ⟨h, hd, (keepsMeaning_iff h hd).2.2 (by simp)⟩

/-- A document with a schema that pointers can only name by an escape. -/
def folder : Document where
  openapi := "3.0.0"
  info := { title := "Folder", version := "1" }
  paths :=
    [("/files",
      { operations :=
          [(.get,
            { responses :=
                [("200", .inline
                  { content :=
                      [("application/json",
                        { schema := some (.ref "#/components/schemas/a~1b") })] })] })] })]
  components := some { schemas := [("a/b", .inline {})] }

/-- **An escaped reference to a reserved schema is not moved**: it led to the schema and leads nowhere
after the renaming. -/
theorem not_keepsMeaning_folder :
    folder.componentsD.newNames ⟨["a/b"]⟩ = .ok [("a/b", "AB")] ∧
      ¬ KeepsMeaning [("a/b", "AB")] folder ∧
        ∃ u ∈ folder.mentions, folder.resolver.check u = .ok () ∧
          u.under (Renaming.pointer [("a/b", "AB")]) ∈ (renamed [("a/b", "AB")] folder).mentions ∧
            ((renamed [("a/b", "AB")] folder).resolver.check
              (u.under (Renaming.pointer [("a/b", "AB")]))).isOk = false := by
  have h : folder.componentsD.newNames ⟨["a/b"]⟩ = .ok [("a/b", "AB")] := by decide +kernel
  have hu : ⟨.ref .schemas, "#/components/schemas/a~1b"⟩ ∈ folder.mentions := by decide +kernel
  refine ⟨h, fun hk => ?_, _, hu, ?_, ?_, ?_⟩
  · have hmoved := ((keepsMeaning_iff_forall h (by decide)).1 hk _ hu).pointer "a/b" (by decide)
      (by decide +kernel)
    revert hmoved
    decide +kernel
  · have hok : (folder.resolver.check
        ⟨.ref .schemas, "#/components/schemas/a~1b"⟩).isOk = true := by decide +kernel
    obtain ⟨⟨⟩, hc⟩ := exists_eq_ok hok
    exact hc
  · decide +kernel
  · decide +kernel

end Document

end ApiModel
