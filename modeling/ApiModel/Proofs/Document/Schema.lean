import ApiModel.Document.Read
import ApiModel.Proofs.Document.Inline

/-!
# Schemas are read back

A schema is read in two passes over its entries, one for the keywords that hold schemas and one for
the others.  In a JSON text both come to reading one record (`Schema.refOfTyped?_map`), so that a
schema is read back field by field, by induction on how deep it may be nested (`Schema.faithful`).
-/

namespace ApiModel

open ApiModel.Tree Json

variable {n : Nat}

theorem TypeSet.faithful : Faithful n ofTree? toJson := by
  have hchoice : ∀ m, Faithful m (choice? ValueType.names) fun t => .string t.name := fun m =>
    faithful_choice fun t => by cases t <;> rfl
  intro t types ht h
  unfold ofTree? at h
  split at h
  · cases h
    exact ⟨.string _, nofun, by cases ‹ValueType› <;> rfl⟩
  · split at h
    · rename_i items _
      obtain ⟨types, htypes, rfl⟩ := Option.map_eq_some_iff.1 h
      have hreturns := Faithful.list (fun m _ => hchoice m) ht htypes
      refine ⟨hreturns.fits, nofun, ?_⟩
      have hback := hreturns.back
      rw [toJson]
      rw [tree_array] at hback ⊢
      exact congrArg (Option.map TypeSet.several) hback
    · cases h

theorem FieldLocation.faithful :
    Faithful n (choice? FieldLocation.names) fun l => .string l.name :=
  faithful_choice fun l => by cases l <;> rfl

theorem Discriminator.faithful : Faithful n ofTree? toJson := by
  intro t d ht h
  simp only [ofTree?, Option.bind_eq_bind, Option.bind_eq_some_iff] at h
  obtain ⟨r, hr, propertyName, hname, mapping, hmapping, h⟩ := h
  cases h
  obtain ⟨m, rfl, hf⟩ := ht.fields hr
  have hmembers := (Presents.required hf faithful_string hname).append
    (.entries hf (fun _ _ => faithful_string) hmapping)
  refine hmembers.returns ["propertyName", "mapping"] rfl (by decide) rfl ?_
  intro r hr h
  simp [ofTree?, hr, h]

namespace Schema

/-! ### The parts that are schemas -/

/-- The JSON form of a value of `additionalProperties`. -/
def additionalToJson : Additional Schema → Json
  | .allowed b => .bool b
  | .schema s => refToJson s

theorem propertiesJson_eq (ps : List (String × OrRef Schema)) :
    propertiesJson ps = ps.map fun p => (p.1, refToJson p.2) := by
  induction ps with
  | nil => rfl
  | cons p ps ih => rw [propertiesJson, ih, List.map_cons]

theorem branchesJson_eq (ss : List (OrRef Schema)) : branchesJson ss = ss.map refToJson := by
  induction ss with
  | nil => rfl
  | cons s ss ih => rw [branchesJson, ih, List.map_cons]

theorem mapMember_propertiesJson (name : String) (ps : List (String × OrRef Schema)) :
    mapMember name id (propertiesJson ps) = mapMember name refToJson ps := by
  rw [propertiesJson_eq]
  cases ps with
  | nil => rfl
  | cons p ps => simp [mapMember, ofEntries]

theorem listMember_branchesJson (name : String) (ss : List (OrRef Schema)) :
    listMember name id (branchesJson ss) = listMember name refToJson ss := by
  rw [branchesJson_eq]
  cases ss with
  | nil => rfl
  | cons s ss => simp [listMember]

theorem additionalJson_eq (a : Option (Additional Schema)) :
    additionalJson a = a.map additionalToJson := by
  rcases a with _ | (_ | _) <;> rfl

theorem itemsJson_eq (i : Option (OrRef Schema)) : itemsJson i = i.map refToJson := by
  cases i <;> rfl

theorem optionalMember_map {α : Type} (name : String) (f : α → Json) (o : Option α) :
    optionalMember name id (o.map f) = optionalMember name f o := by
  cases o <;> rfl

/-- The value of `additionalProperties` from a tree with settled types. -/
def additionalOfTyped? : Tree → Option (Additional Schema)
  | .bool b => some (.allowed b)
  | t => (refOfTyped? t).map .schema

/-- The parts of a schema that are schemas, from the fields of a record. -/
def partsOfRecord? (r : Record) : Option Parts := do
  let properties ← r.getD? "properties" (entriesOf? refOfTyped?) []
  let additionalProperties ← r.optional? "additionalProperties" additionalOfTyped?
  let items ← r.optional? "items" refOfTyped?
  let allOf ← r.getD? "allOf" (list? refOfTyped?) []
  let oneOf ← r.getD? "oneOf" (list? refOfTyped?) []
  let anyOf ← r.getD? "anyOf" (list? refOfTyped?) []
  some { properties, additionalProperties, items, allOf, oneOf, anyOf }

theorem pairsOf?_eq (entries : List (Tree × Tree)) :
    pairsOf? entries = entries.mapM fun e =>
      e.1.string?.bind fun k => (refOfTyped? e.2).bind fun s => some (k, s) := by
  induction entries with
  | nil => rw [pairsOf?]; rfl
  | cons e entries ih =>
    rw [pairsOf?, ih, List.mapM_cons]
    simp [Option.bind_assoc]

theorem itemsOf?_eq (items : List Tree) : itemsOf? items = items.mapM refOfTyped? := by
  induction items with
  | nil => rw [itemsOf?]; rfl
  | cons t items ih =>
    rw [itemsOf?, ih, List.mapM_cons]
    rfl

theorem propertiesOf?_eq {t : Tree} (h : t.Plain) : propertiesOf? t = entriesOf? refOfTyped? t := by
  cases t with
  | map settled entries =>
    rw [propertiesOf?, pairsOf?_eq, entriesOf?]
    simp only [entries?, untagged, Option.bind_eq_bind, Option.bind_some, Option.map_eq_bind]
    rfl
  | bare s => exact h.elim
  | tagged tag t => exact h.elim
  | _ => simp [propertiesOf?, entriesOf?, entries?, untagged]

theorem branchesOf?_eq {t : Tree} (h : t.Plain) : branchesOf? t = list? refOfTyped? t := by
  cases t with
  | list settled items =>
    rw [branchesOf?, itemsOf?_eq]
    rfl
  | bare s => exact h.elim
  | tagged tag t => exact h.elim
  | _ => simp [branchesOf?, list?, items?, untagged]

/-- One more keyword is read in the entries as in the record. -/
theorem partsOf?_cons {k : String} {v : Tree} {rest : List (Tree × Tree)}
    {later : List (String × Tree)} (hv : v.Plain) (hnone : Entries.find? k later = none)
    (hrest : partsOf? rest = partsOfRecord? ⟨false, later⟩) :
    partsOf? ((.text k, v) :: rest) = partsOfRecord? ⟨false, (k, v) :: later⟩ := by
  rw [partsOf?, hrest]
  by_cases hproperties : k = "properties"
  · subst hproperties
    simp only [propertiesOf?_eq hv, partsOfRecord?, Record.getD?_cons, Record.optional?_cons,
      Record.getD?_of_none hnone]
    cases entriesOf? refOfTyped? v <;> simp [Option.bind_assoc]
  by_cases hadditional : k = "additionalProperties"
  · subst hadditional
    simp only [partsOfRecord?, Record.getD?_cons, Record.optional?_cons,
      Record.optional?_of_none hnone]
    cases v with
    | null => simp [optional?]
    | bool b => simp [optional?, additionalOfTyped?, Option.bind_assoc]
    | bare s => exact hv.elim
    | tagged tag t => exact hv.elim
    | _ =>
      simp only [optional?, additionalOfTyped?]
      generalize refOfTyped? _ = s
      cases s <;> simp [Option.bind_assoc]
  by_cases hitems : k = "items"
  · subst hitems
    simp only [partsOfRecord?, Record.getD?_cons, Record.optional?_cons,
      Record.optional?_of_none hnone]
    by_cases hnull : v = .null
    · subst hnull
      simp [optional?]
    · have hread : v.optional? refOfTyped? = (refOfTyped? v).map some :=
        optional?_of_plain hv hnull
      simp only [hread]
      cases refOfTyped? v <;> simp [Option.bind_assoc]
  by_cases hbranches : k = "allOf" ∨ k = "oneOf" ∨ k = "anyOf"
  · rcases hbranches with rfl | rfl | rfl
    all_goals
      simp only [branchesOf?_eq hv, partsOfRecord?, Record.getD?_cons, Record.optional?_cons,
        Record.getD?_of_none hnone]
      cases list? refOfTyped? v <;> simp [Option.bind_assoc]
  -- a keyword that holds no schemas
  simp only [not_or] at hbranches
  simp [partsOfRecord?, Record.getD?_cons, Record.optional?_cons, hproperties, hadditional, hitems,
    hbranches]

/-- The parts are read as the fields of a record, whatever order their entries have. -/
theorem partsOf?_eq (entries : List (String × Tree)) (hplain : ∀ e ∈ entries, e.2.Plain)
    {fields : List (String × Tree)}
    (h : fieldsOf? keywords (entries.map fun e => (.text e.1, e.2)) = some fields) :
    partsOf? (entries.map fun e => (.text e.1, e.2)) = partsOfRecord? ⟨false, fields⟩ := by
  induction entries generalizing fields with
  | nil =>
    cases h
    rfl
  | cons e entries ih =>
    rw [List.forall_mem_cons] at hplain
    obtain ⟨later, hlater, h⟩ := exists_of_fieldsOf?_cons h
    have hrest := ih hplain.2 hlater
    rw [List.map_cons]
    rcases h with ⟨hk, rfl⟩ | ⟨-, hnone, rfl⟩
    · have hne : ∀ l ∈ keywords, e.1 ≠ l := fun l hl heq => hk (heq ▸ hl)
      simp only [keywords, List.forall_mem_cons] at hne
      rw [partsOf?, hrest]
      simp [hne]
    · exact partsOf?_cons hplain.1 hnone hrest

/-- **A schema is read as one record.** -/
theorem refOfTyped?_map (entries : List (String × Tree)) (hplain : ∀ e ∈ entries, e.2.Plain)
    (hp : (Tree.map true (entries.map fun e => (.text e.1, e.2))).pointer? = none) :
    refOfTyped? (.map true (entries.map fun e => (.text e.1, e.2))) =
      ((Tree.map true (entries.map fun e => (.text e.1, e.2))).record? keywords).bind fun r =>
        (partsOfRecord? r).bind fun parts => (ofRecord? r parts).map .inline := by
  have hkeywords : keywordsOf? (entries.map fun e => (.text e.1, e.2)) =
      (fieldsOf? keywords (entries.map fun e => (.text e.1, e.2))).map (⟨false, ·⟩) := by
    rw [keywordsOf?, List.filter_eq_self.2]
    exact List.forall_mem_map.2 fun e _ => rfl
  have hrecord : (Tree.map true (entries.map fun e => (.text e.1, e.2))).record? keywords =
      (fieldsOf? keywords (entries.map fun e => (.text e.1, e.2))).map (⟨false, ·⟩) := rfl
  rw [refOfTyped?, hp, hkeywords, hrecord]
  rcases hfields : fieldsOf? keywords (entries.map fun e => (.text e.1, e.2)) with _ | fields
  · simp [hfields]
  · simp only [hfields, partsOf?_eq entries hplain hfields, Option.map_some, Option.bind_eq_bind,
      Option.bind_some]
    cases partsOfRecord? ⟨false, fields⟩ with
    | none => rfl
    | some parts => cases hs : ofRecord? ⟨false, fields⟩ parts <;> simp [hs]

theorem refOfTyped?_object {members : List (String × Json)}
    (hp : (Json.object members).tree.pointer? = none) :
    refOfTyped? (Json.object members).tree =
      ((Json.object members).tree.record? keywords).bind fun r =>
        (partsOfRecord? r).bind fun parts => (ofRecord? r parts).map .inline := by
  rw [tree_object_entries] at hp ⊢
  exact refOfTyped?_map _ (List.forall_mem_map.2 fun m _ => plain_tree m.2) hp

/-! ### Schemas -/

theorem presents_constraints {m : Nat} {r : Record} {c : Constraints}
    (hf : ∀ f ∈ r.fields, f.2.Within m) (h : constraints? r = some c) :
    Presents m ["minimum", "maximum", "minLength", "maxLength", "pattern", "minItems", "maxItems",
      "uniqueItems"] c.members (constraints? · = some c) := by
  simp only [constraints?, Option.bind_eq_bind, Option.bind_eq_some_iff] at h
  obtain ⟨minimum, hminimum, maximum, hmaximum, minLength, hminLength, maxLength, hmaxLength,
    pattern, hpattern, minItems, hminItems, maxItems, hmaxItems, uniqueItems, huniqueItems, h⟩ := h
  cases h
  have hmembers := (Presents.optional hf faithful_binary64 hminimum)
    |>.append (.optional hf faithful_binary64 hmaximum)
    |>.append (.optional hf faithful_nat hminLength)
    |>.append (.optional hf faithful_nat hmaxLength)
    |>.append (.optional hf faithful_string hpattern)
    |>.append (.optional hf faithful_nat hminItems)
    |>.append (.optional hf faithful_nat hmaxItems)
    |>.append (.optional hf faithful_bool huniqueItems)
  refine hmembers.imp ?_
  intro r h
  simp only [constraints?, h, Option.bind_eq_bind, Option.bind_some]

theorem additionalOfTyped?_of_ref {t : Tree} {s : OrRef Schema} (h : refOfTyped? t = some s) :
    additionalOfTyped? t = some (.schema s) := by
  cases t with
  | bool b =>
    rw [refOfTyped?] at h
    · cases h
    · nofun
  | _ => simp [additionalOfTyped?, h]

theorem faithful_additional (ih : Faithful n refOfTyped? refToJson) :
    Faithful n additionalOfTyped? additionalToJson := by
  intro t a ht h
  have hschema (h : (refOfTyped? t).map .schema = some a) :
      Returns n additionalOfTyped? additionalToJson t a := by
    obtain ⟨s, hs, rfl⟩ := Option.map_eq_some_iff.1 h
    have hreturns := ih ht hs
    exact ⟨hreturns.fits, hreturns.null, additionalOfTyped?_of_ref hreturns.back⟩
  cases ht with
  | bool b =>
    cases h
    exact ⟨.bool b, nofun, rfl⟩
  | _ => exact hschema h

/-- The members of a schema present its keywords. -/
theorem exists_presents {m : Nat} (ih : ∀ k ≤ m, Faithful k refOfTyped? refToJson) {r : Record}
    (hf : ∀ f ∈ r.fields, f.2.Within m) {parts : Parts} {s : Schema}
    (hparts : partsOfRecord? r = some parts) (hs : ofRecord? r parts = some s) :
    ∃ members, s.toJson = .object members ∧ Presents m keywords members fun r =>
      partsOfRecord? r = some parts ∧ ofRecord? r parts = some s := by
  simp only [partsOfRecord?, Option.bind_eq_bind, Option.bind_eq_some_iff] at hparts
  obtain ⟨properties, hproperties, additional, hadditional, items, hitems, allOf, hallOf, oneOf,
    honeOf, anyOf, hanyOf, hparts⟩ := hparts
  cases hparts
  unfold ofRecord? at hs
  obtain ⟨type, htype, hs⟩ := Option.bind_eq_some_iff.1 hs
  obtain ⟨format, hformat, hs⟩ := Option.bind_eq_some_iff.1 hs
  obtain ⟨title, htitle, hs⟩ := Option.bind_eq_some_iff.1 hs
  obtain ⟨description, hdescription, hs⟩ := Option.bind_eq_some_iff.1 hs
  obtain ⟨default, hdefault, hs⟩ := Option.bind_eq_some_iff.1 hs
  obtain ⟨nullable, hnullable, hs⟩ := Option.bind_eq_some_iff.1 hs
  obtain ⟨required, hrequired, hs⟩ := Option.bind_eq_some_iff.1 hs
  obtain ⟨discriminator, hdiscriminator, hs⟩ := Option.bind_eq_some_iff.1 hs
  obtain ⟨enum, henum, hs⟩ := Option.bind_eq_some_iff.1 hs
  obtain ⟨const, hconst, hs⟩ := Option.bind_eq_some_iff.1 hs
  obtain ⟨readOnly, hreadOnly, hs⟩ := Option.bind_eq_some_iff.1 hs
  obtain ⟨writeOnly, hwriteOnly, hs⟩ := Option.bind_eq_some_iff.1 hs
  obtain ⟨sample, hsample, hs⟩ := Option.bind_eq_some_iff.1 hs
  obtain ⟨constraints, hconstraints, hs⟩ := Option.bind_eq_some_iff.1 hs
  obtain ⟨locations, hlocations, hs⟩ := Option.bind_eq_some_iff.1 hs
  cases hs
  -- one step for each keyword, in the order in which they are read and written
  have hnested (k : Nat) (hk : m = k + 1) : Faithful k refOfTyped? refToJson := ih k (by omega)
  have hmembers := (Presents.optional hf TypeSet.faithful htype)
    |>.append (.optional hf faithful_string hformat)
    |>.append (.optional hf faithful_string htitle)
    |>.append (.optional hf faithful_string hdescription)
    |>.append (.optional hf faithful_json hdefault)
    |>.append (.optional hf faithful_bool hnullable)
    |>.append (.entries hf hnested hproperties)
    |>.append (.list hf (fun _ _ => faithful_string) hrequired)
    |>.append (.optional hf (faithful_additional (ih m le_rfl)) hadditional)
    |>.append (.optional hf (ih m le_rfl) hitems)
    |>.append (.list hf hnested hallOf)
    |>.append (.list hf hnested honeOf)
    |>.append (.list hf hnested hanyOf)
    |>.append (.optional hf Discriminator.faithful hdiscriminator)
    |>.append (.list hf (fun _ _ => faithful_json) henum)
    |>.append (.optional hf faithful_json hconst)
    |>.append (.optional hf faithful_bool hreadOnly)
    |>.append (.optional hf faithful_bool hwriteOnly)
    |>.append (.optional hf faithful_json hsample)
    |>.append (presents_constraints hf hconstraints)
    |>.append (.entries hf (fun _ _ => FieldLocation.faithful) hlocations)
  refine ⟨_, ?_, hmembers.imp ?_⟩
  · rw [toJson, mapMember_propertiesJson, additionalJson_eq, itemsJson_eq, optionalMember_map,
      optionalMember_map, listMember_branchesJson, listMember_branchesJson,
      listMember_branchesJson]
  · intro r h
    simp only [partsOfRecord?, ofRecord?, h, Option.bind_eq_bind, Option.bind_some, and_self]

/-- **Schemas with settled types are read back.** -/
theorem faithful_typed : Faithful n refOfTyped? refToJson := by
  induction n using Nat.strong_induction_on with
  | _ n ih =>
    intro t s ht h
    cases ht with
    | @map m entries hentries =>
      rcases hp : (Tree.map true (entries.map fun e => (.text e.1, e.2))).pointer? with _ | p
      · rw [refOfTyped?_map entries (fun e he => (hentries e he).plain) hp] at h
        simp only [Option.bind_eq_some_iff, Option.map_eq_some_iff] at h
        obtain ⟨r, hr, parts, hparts, s, hs, rfl⟩ := h
        obtain ⟨m', hm, hf⟩ := (Within.map hentries).fields hr
        obtain rfl : m' = m := by omega
        obtain ⟨members, hw, hmembers⟩ :=
          exists_presents (fun k hk => ih k (by omega)) hf hparts hs
        refine hmembers.returns keywords rfl (by decide) hw ?_
        rintro r hr ⟨hparts, hs⟩
        have hinline : (Json.object members).tree.pointer? = none := pointer?_object fun hk =>
          absurd (hmembers.keys.subset hk) (by decide)
        rw [refToJson, hw] at hr ⊢
        rw [refOfTyped?_object hinline, hr, Option.bind_some, hparts, Option.bind_some, hs,
          Option.map_some]
      · rw [refOfTyped?, hp] at h
        cases h
        have hfits := OrRef.fits_refJson (Within.map hentries) hp
        refine ⟨hfits, nofun, ?_⟩
        have hpointer := OrRef.pointer?_refJson p
        rw [refToJson]
        rw [OrRef.refJson, tree_object] at hpointer ⊢
        rw [refOfTyped?, hpointer]
    | _ =>
      rw [refOfTyped?] at h
      · cases h
      · nofun

/-- **Schemas are read back**, with their references and all their parts. -/
theorem faithful : Faithful n refOfTree? refToJson := by
  intro t s ht h
  rw [refOfTree?, Option.bind_eq_some_iff] at h
  obtain ⟨t', ht', h⟩ := h
  obtain rfl := ht.typed?_eq ht'
  have hreturns := faithful_typed ht h
  refine ⟨hreturns.fits, hreturns.null, ?_⟩
  rw [refOfTree?, typed?_tree hreturns.fits, Option.bind_some, hreturns.back]

end Schema

end ApiModel
