import ApiModel.Proofs.Model.Appended
import ApiModel.Proofs.Model.Dangling
import ApiModel.Proofs.Schemas.Retagged

/-!
# Tags of the unions of a model

The unions of a model are those that the document declares, in the same order (`Model.Trace.unions`):
the schemas that are synthesized are objects.  What travels on the wire are their tags, so these
should be those that the document gives its own unions, before reserved schemas are renamed
(`Model.KeepsTags`).  They are, **exactly if** no tag of a branch that is renamed comes from the text
of its reference (`Model.keepsTags_iff`).  A union of a schema `Object` that has neither a mapping nor
a title shows that the new name gets into the tag otherwise (`Model.not_keepsTags_choosing`).
-/

namespace ApiModel

/-- The unions among named schemas. -/
def unionsOf (table : List (String × OrRef Schema)) : List (String × Schema) :=
  table.filterMap fun e => (e.2.value?.filter fun s => !s.unionBranches.isEmpty).map (e.1, ·)

/-- The unions that a document declares. -/
def Document.unions (d : Document) : List (String × Schema) :=
  unionsOf d.componentsD.schemas

/-! ### The unions that are found -/

theorem unionsOf_append (es fs : List (String × OrRef Schema)) :
    unionsOf (es ++ fs) = unionsOf es ++ unionsOf fs :=
  List.filterMap_append

theorem mem_unionsOf {table : List (String × OrRef Schema)} {e : String × Schema}
    (h : e ∈ unionsOf table) : (e.1, .inline e.2) ∈ table := by
  obtain ⟨⟨name, x⟩, hm, he⟩ := List.mem_filterMap.1 h
  obtain ⟨s, hs, rfl⟩ := Option.map_eq_some_iff.1 he
  obtain ⟨hv, -⟩ := Option.filter_eq_some_iff.1 hs
  cases x with
  | ref p => cases hv
  | inline t =>
    cases hv
    exact hm

theorem unionsOf_inputs {added : List (String × OrRef Schema)}
    (h : ∀ e ∈ added, ∃ i : Input, e.2 = .inline i.toSchema) : unionsOf added = [] := by
  rw [unionsOf, List.filterMap_eq_nil_iff]
  intro e he
  obtain ⟨i, hi⟩ := h e he
  rw [hi]
  rfl

theorem forall₂_unionsOf {f : PointerKind → String → String} {g : String → String}
    {table table' : List (String × OrRef Schema)}
    (h : List.Forall₂ (fun e e' => e'.1 = g e.1 ∧
      OrRef.Repointed f (Schema.Repointed f) e.2 e'.2) table table') :
    List.Forall₂ (fun e e' => e'.1 = g e.1 ∧ e.2.Repointed f e'.2) (unionsOf table)
      (unionsOf table') := by
  refine List.rel_filterMap ?_ h
  rintro ⟨name, x⟩ ⟨name', x'⟩ ⟨hname, hx⟩
  cases hx with
  | ref p => exact .none
  | @inline s s' hs =>
    have hempty := isEmpty_eq_of_forall₂ (VariantSet.repointed_unionBranches hs)
    cases he : s.unionBranches.isEmpty with
    | true => simp [OrRef.value?, Option.filter, hempty, he]
    | false =>
      simp only [OrRef.value?, Option.filter, hempty, he]
      exact .some ⟨hname, hs⟩

namespace Analysis

variable {r : Resolver} {es : List (String × OrRef Schema)} {a : Analysis}

theorem forall₂_unions_ofSchema {name : String} {x : OrRef Schema}
    (h : ofSchema r name x = .ok a) :
    List.Forall₂ (fun e u => u.1 = e.1 ∧ VariantSet.ofSchema r e.2 = .ok (some u.2))
      (unionsOf [(name, x)]) a.unions := by
  cases x with
  | ref p =>
    cases h
    exact .nil
  | inline s =>
    by_cases hne : s.unionBranches = []
    · -- not a union, so neither list has an entry
      have hnone : unionsOf [(name, .inline s)] = [] := by
        simp [unionsOf, OrRef.value?, Option.filter, hne]
      have hempty : a.unions = [] := by
        rw [ofSchema] at h
        split at h
        · rename_i kind branches hk
          obtain ⟨hbranches, he⟩ := Kind.exists_ofSchema_eq_union_iff.1 ⟨kind, hk⟩
          exact absurd (he.symm.trans hne) hbranches
        · obtain ⟨shape, -, rfl⟩ := map_eq_ok_iff.1 h
          rfl
        · cases h
          rfl
      rw [hnone, hempty]
      exact .nil
    · obtain ⟨kind, hk⟩ := Kind.exists_ofSchema_eq_union_iff.2 ⟨hne, rfl⟩
      have hone : unionsOf [(name, .inline s)] = [(name, s)] := by
        simp [unionsOf, OrRef.value?, Option.filter, hne]
      simp only [ofSchema, hk] at h
      obtain ⟨u, hu, rfl⟩ := map_eq_ok_iff.1 h
      rw [hone]
      refine .cons ⟨rfl, ?_⟩ .nil
      simp only [VariantSet.ofSchema, hk, hu]
      rfl

theorem forall₂_unions (h : ofEntries r es = .ok a) :
    List.Forall₂ (fun e u => u.1 = e.1 ∧ VariantSet.ofSchema r e.2 = .ok (some u.2)) (unionsOf es)
      a.unions := by
  induction es generalizing a with
  | nil =>
    cases h
    exact .nil
  | cons e es ih =>
    rw [ofEntries] at h
    obtain ⟨one, hone, h⟩ := bind_eq_ok_iff.1 h
    obtain ⟨others, hothers, h⟩ := bind_eq_ok_iff.1 h
    cases pure_eq_ok_iff.1 h
    rw [← List.singleton_append, unionsOf_append]
    exact List.rel_append (forall₂_unions_ofSchema hone) (ih hothers)

end Analysis

/-! ### Pointers that are not captured -/

/-- **What is named after the renaming was named before**: a pointer that keeps its meaning and passes
the check of the document names a declared schema by its new name, if it names any. -/
theorem Document.exists_names_of_check {reserved : Reserved} {renames : List (String × String)}
    {d : Document} {kind : PointerKind} {p name : String}
    (h : d.componentsD.newNames reserved = .ok renames)
    (hk : Renaming.Keeps (Entries.keys d.componentsD.schemas) renames kind p
      (Renaming.pointer renames kind p))
    (hc : d.resolver.checkPointer kind p = .ok ())
    (hn : Pointer.Names kind (Renaming.pointer renames kind p) name) :
    ∃ old ∈ Entries.keys d.componentsD.schemas,
      Pointer.Names kind p old ∧ name = Renaming.renamed renames old := by
  have hf := Components.fits_of_newNames h
  rcases Resolver.checkPointer_eq_ok_iff.1 hc with ⟨sec, other, ht, hin⟩ | ⟨hkind, hb, hmem⟩
  · by_cases hsec : sec = .schemas
    · subst hsec
      obtain ⟨s, hfound⟩ := exists_eq_ok hin
      have hl : Leads .schemas d.componentsD.schemas p s := follow_eq_ok_iff.1 hfound
      obtain ⟨old, hold, ht⟩ := hl.exists_target?
      exact ⟨old, hold, .inl ht, hn.eq (.inl (hk.pointer old hold ht))⟩
    · -- a pointer to another section is not changed, so it names no schema
      have hno : ∀ name, ¬ Pointer.Names kind p name := by
        rintro name (ht' | ⟨-, hb, -⟩)
        · rw [ht] at ht'
          exact hsec (Prod.mk.inj (Option.some.inj ht')).1
        · rw [Pointer.startsWith_of_target? ht] at hb
          cases hb
      rw [hk.other fun name _ => hno name] at hn
      exact absurd hn (hno name)
  · have hnew := hk.bare hkind hb hmem
    exact ⟨p, hmem, .inr ⟨hkind, hb, rfl⟩, hn.eq (.inr ⟨hkind, hf.startsWith_pointer hb, hnew⟩)⟩

namespace Model

variable {options : Options} {analyzers : Analyzers} {d : Document} {m : Model}
  {renames : List (String × String)} {kind : PointerKind} {p : String}

/-- The tags of the unions of a model are those that the document gives them under their old names. -/
def KeepsTags (m : Model) (renames : List (String × String)) (d : Document) : Prop :=
  List.Forall₂ (fun e u => u.1 = Renaming.renamed renames e.1 ∧
      ∃ v, VariantSet.ofSchema d.resolver e.2 = .ok (some v) ∧ v.tags = u.2.tags)
    d.unions m.unions

section Trace

variable (t : Trace options analyzers d m) (h : d.componentsD.newNames ⟨options.reserved⟩ = .ok renames)
  (hs : t.source = d.renamed renames) (hd : (Entries.keys d.componentsD.schemas).Nodup)

include h hs hd

theorem Trace.renamed_notMem_synthesized {old : String}
    (hold : old ∈ Entries.keys d.componentsD.schemas) :
    Renaming.renamed renames old ∉ m.registry.synthesized := by
  have hc : t.components = (d.renamed renames).componentsD := congrArg Document.componentsD hs
  obtain ⟨x, hx⟩ := Entries.exists_find?_iff.2 hold
  obtain ⟨⟨name, y⟩, hy, hname, -⟩ :=
    exists_of_mem_left (Document.forall₂_schemas_renamed h hd) (Entries.mem_of_find? hx)
  rw [← hc] at hy
  intro hsyn
  rw [t.synthesized_eq] at hsyn
  exact t.run.adds.fresh _ hsyn (hname ▸ Entries.mem_keys_of_mem hy)

/-- **A pointer that keeps its meaning and passes the check of the document is not captured.** -/
theorem Trace.not_captures
    (hk : Renaming.Keeps (Entries.keys d.componentsD.schemas) renames kind p
      (Renaming.pointer renames kind p))
    (hc : d.resolver.checkPointer kind p = .ok ()) : ¬ m.Captures renames kind p := by
  have hf := Components.fits_of_newNames h
  rintro ⟨name, hn, hcase⟩
  -- the pointer named a schema of the document, and now it names that schema by its new name
  obtain ⟨old, hold, hnames, rfl⟩ := Document.exists_names_of_check h hk hc hn
  rcases hcase with hsyn | ⟨o, ho, hno⟩
  · exact t.renamed_notMem_synthesized h hs hd hold hsyn
  · have hfo : Entries.find? o renames = some (Renaming.renamed renames old) := by
      refine Entries.find?_of_mem ?_ ho
      rw [hf.keys_eq]
      exact hd.filter _
    rw [hf.eq_of_find? hold hfo] at hno
    exact hno hnames

/-- **In a document that passes the check nothing misleads**, if the reserved names are plain. -/
theorem Trace.not_misleads (hc : d.check = .ok ())
    (hplain : ∀ name ∈ options.reserved, Pointer.Plain name) {u : Mention} (hu : u ∈ d.mentions) :
    ¬ m.Misleads renames d u := by
  have hf := Components.fits_of_newNames h
  have hclear : ∀ u ∈ d.mentions, ¬ m.Captures renames u.place.kind u.pointer := fun u hu =>
    t.not_captures h hs hd (hf.keeps_of_writes fun _ hname =>
      Renaming.writes_iff_names (hf.plain_of_mem_keys hplain hname))
      (Document.check_eq_ok_iff.1 hc u hu)
  rintro (hcap | ⟨q, hq, hcap⟩)
  · exact hclear u hu hcap
  · -- a reference among the component schemas is a mention, too
    obtain ⟨q', -, hnext⟩ := Relation.TransGen.tail'_iff.1 hq
    have hcovers := d.covers_schemas
    rw [Document.Covers, Schema.mentionsOfRef_eq] at hcovers
    exact hclear ⟨.ref .schemas, q⟩ (Document.mention_of_mem_entryPointers hcovers hnext.mem) hcap

/-- **The unions of a model are those that the document declares**, each under its new name and with
its new pointers. -/
theorem Trace.unions :
    List.Forall₂ (fun e u => u.1 = Renaming.renamed renames e.1 ∧
        ∃ s, e.2.Repointed (Renaming.pointer renames) s ∧ VariantSet.ofSchema
          (t.final.draft.resolver { t.components with schemas := [] }) s = .ok (some u.2))
      d.unions m.unions := by
  have hc : t.components = (d.renamed renames).componentsD := congrArg Document.componentsD hs
  obtain ⟨added, hentries, -, hinputs⟩ := t.run.exists_added
  have hfound := Analysis.forall₂_unions t.analyzed
  rw [hentries, unionsOf_append, unionsOf_inputs hinputs, List.append_nil] at hfound
  have hrenamed := forall₂_unionsOf (Document.forall₂_schemas_renamed h hd)
  rw [← hc] at hrenamed
  refine (forall₂_trans hrenamed hfound).imp ?_
  rintro e u ⟨e', ⟨hname, hr⟩, hname', hu⟩
  exact ⟨hname'.trans hname, e'.2, hr, hu⟩

theorem Trace.traced {e : String × Schema} (he : e ∈ d.unions)
    (hclear : ∀ u ∈ e.2.mentions, ¬ m.Misleads renames d u) :
    VariantSet.Traced renames d.resolver
      (t.final.draft.resolver { t.components with schemas := [] }) e.2 := by
  have hmentions : e.2.mentions ⊆ d.componentsD.mentions := fun u hu =>
    Components.mem_mentions_iff.2 (.inl ⟨_, mem_unionsOf he, hu⟩)
  have hbranch : ∀ p, .ref p ∈ e.2.unionBranches → ⟨.ref .schemas, p⟩ ∈ e.2.mentions :=
    fun p hp => Schema.mentionsOfRef_subset_of_mem_unionBranches hp List.mem_cons_self
  constructor
  case targets =>
    intro disc hdisc x hx name hn hcap
    have hu : ⟨.mapping, x.2⟩ ∈ e.2.mentions := by
      rw [Schema.mentions_eq, Option.mem_def.1 hdisc]
      exact List.mem_append_right _ (List.mem_map_of_mem hx)
    exact hclear _ hu (.inl ⟨name, hn, .inr hcap⟩)
  case branches =>
    intro p hp name hn hcap
    exact hclear _ (hbranch p hp) (.inl ⟨name, hn, .inr hcap⟩)
  case sign =>
    intro p hp
    have hfirm : ⟨.ref .schemas, p⟩ ∈ d.firmMentions :=
      List.mem_append_right _ (hmentions (hbranch p hp))
    rcases Resolver.checkPointer_eq_ok_iff.1 (t.check_of_mem_firmMentions h hs hd hfirm) with
      ⟨sec, name, ht, -⟩ | ⟨hkind, -⟩
    · exact Pointer.startsWith_of_target? ht
    · cases hkind
  case leads =>
    rintro p hp s' ⟨⟩
    rename_i hl
    have hl' : Leads .schemas m.registry.entries (Renaming.pointer renames .ref p) s' := by
      rw [t.registry_eq]
      exact hl
    obtain ⟨s, hs, hr⟩ := (t.leads_or_misleads (u := ⟨.ref .schemas, p⟩) h hs hd hl').resolve_left
      (hclear _ (hbranch p hp))
    exact ⟨s, .ref hs, hr.title⟩


end Trace

/-- **Which models keep the tags of the document**: those in which every renamed branch of a union is
in the mapping, or its schema has a title.  None of the pointers of the unions may mislead; in a
document that passes the check none does. -/
theorem keepsTags_iff (h : build options analyzers d = .ok m)
    (hd : (Entries.keys d.componentsD.schemas).Nodup) :
    ∃ renames, d.componentsD.newNames ⟨options.reserved⟩ = .ok renames ∧
      ((∀ e ∈ d.unions, ∀ u ∈ e.2.mentions, ¬ m.Misleads renames d u) →
        (m.KeepsTags renames d ↔
          ∀ e ∈ d.unions, VariantSet.TagsSettled renames d.resolver e.2)) ∧
      (d.check = .ok () → (∀ name ∈ options.reserved, Pointer.Plain name) →
        ∀ u ∈ d.mentions, ¬ m.Misleads renames d u) := by
  obtain ⟨t⟩ := exists_trace h
  obtain ⟨renames, hren, hs⟩ := t.exists_renamed
  have hf := Components.fits_of_newNames hren
  refine ⟨renames, hren, fun hclear => ?_, fun hc hplain u hu =>
    t.not_misleads hren hs hd hc hplain hu⟩
  refine forall₂_iff_forall_mem (t.unions hren hs hd) ?_
  rintro e he u ⟨hname, s, hr, hu⟩
  have htraced := t.traced hren hs hd he (hclear e he)
  rw [← VariantSet.tags_renamed_iff hf hr htraced hu]
  exact and_iff_right hname

/-- The choice of an object, told by its kind. -/
def choice : Schema where
  oneOf := [Schema.reference "Object"]
  discriminator := some { propertyName := "kind" }

/-- A document that declares it, and the object under a reserved name. -/
def choosing (title : Option String) : Document where
  openapi := "3.0.0"
  info := { title := "Choices", version := "1" }
  paths := []
  components := some { schemas := [("Object", .inline { title }), ("Choice", .inline choice)] }

theorem keepsTags_iff_choosing :
    (Entries.keys (choosing (some "thing")).componentsD.schemas).Nodup ∧
      ∃ m, build {} [] (choosing (some "thing")) = .ok m ∧
        ∃ renames, (choosing (some "thing")).componentsD.newNames ⟨[]⟩ = .ok renames ∧
          m.KeepsTags renames (choosing (some "thing")) := by
  have hok : (build {} [] (choosing (some "thing"))).isOk = true := by decide +kernel
  have hpass : (choosing (some "thing")).check.isOk = true := by decide +kernel
  have hd : (Entries.keys (choosing (some "thing")).componentsD.schemas).Nodup := by decide
  obtain ⟨m, hm⟩ := exists_eq_ok hok
  obtain ⟨_, hc⟩ := exists_eq_ok hpass
  obtain ⟨renames, hren, hiff, hclear⟩ := keepsTags_iff hm hd
  have hunions : (choosing (some "thing")).unions = [("Choice", choice)] := rfl
  -- the one branch has a title
  have hsettled : VariantSet.TagsSettled renames (choosing (some "thing")).resolver choice := by
    intro disc _ old _ hmem
    obtain rfl : old = "Object" := by
      have hold : OrRef.ref (Schema.pointerPrefix ++ old) = Schema.reference "Object" :=
        List.mem_singleton.1 hmem
      rwa [Schema.reference, OrRef.ref.injEq, String.append_right_inj] at hold
    exact .inr ⟨{ title := some "thing" }, "thing", Resolver.schema_eq_ok_iff.1 rfl, rfl⟩
  refine ⟨hd, m, hm, renames, hren, (hiff ?_).2 ?_⟩
  · rw [hunions, List.forall_mem_singleton]
    intro u hu
    refine hclear hc (List.forall_mem_nil _) u ?_
    refine (choosing (some "thing")).covers_schemas ("Choice", .inline choice) ?_ hu
    exact List.mem_cons_of_mem _ List.mem_cons_self
  · rw [hunions, List.forall_mem_singleton]
    exact hsettled

/-- **The new name gets into the tag** of a branch that has neither. -/
theorem not_keepsTags_choosing :
    ∃ m, build {} [] (choosing none) = .ok m ∧
      ∃ renames, (choosing none).componentsD.newNames ⟨[]⟩ = .ok renames ∧
        ¬ m.KeepsTags renames (choosing none) := by
  have hok : (build {} [] (choosing none)).isOk = true := by decide +kernel
  have hren : ((choosing none).componentsD.newNames ⟨[]⟩).isOk = true := by decide +kernel
  obtain ⟨m, hm⟩ := exists_eq_ok hok
  obtain ⟨renames, hren⟩ := exists_eq_ok hren
  have hnew : ((build {} [] (choosing none)).toOption.map fun m => m.unions.map (·.2.tags)) =
      some [[some "Object2"]] := by decide +kernel
  have hold : (VariantSet.ofSchema (choosing none).resolver choice).toOption =
      some (some ⟨.oneOf, some "kind", [⟨some "Object", Schema.reference "Object"⟩]⟩) := by
    decide +kernel
  refine ⟨m, hm, renames, hren, fun hkeeps => ?_⟩
  have hunions : (choosing none).unions = [("Choice", choice)] := rfl
  rw [KeepsTags, hunions] at hkeeps
  obtain ⟨u, us, ⟨-, v, hv, htags⟩, -, hm'⟩ := List.forall₂_cons_left_iff.1 hkeeps
  rw [hm] at hnew
  have htag : m.unions.map (·.2.tags) = [[some "Object2"]] := Option.some.inj hnew
  rw [hm', List.map_cons, ← htags] at htag
  rw [hv] at hold
  cases hold
  exact absurd (List.cons.inj htag).1 (by decide)

end Model

end ApiModel
