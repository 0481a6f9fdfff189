import ApiModel.Proofs.Endpoint.Input
import Mathlib.Data.List.Dedup
import Mathlib.Data.List.Perm.Lattice

/-!
# Fields that inputs keep

Whether an input has a field for everything that a request carries.  A parameter whose name an
earlier parameter has stands under its name and location, and nothing makes sure that no field has
*that* name already.  `Input.keeps_iff` says that nothing is lost silently **exactly when** no
qualified name meets a field that is already there (`Input.QualifiedFree`).

The proof counts: the fields that are tagged as parameters are, each once, the field names of the
parameters (`Input.perm_tagged`), so there are as many as parameters only if these names differ.
-/

namespace ApiModel

/-- Whether a field of an input travels where declared parameters do. -/
def FieldLocation.isParameter : FieldLocation → Bool
  | query | path | header | cookie => true
  | body | input => false

theorem FieldLocation.isParameter_iff {l : FieldLocation} :
    l.isParameter = true ↔ l ≠ .body ∧ l ≠ .input := by
  cases l <;> simp [isParameter]

namespace Input

/-- No name that is qualified to avoid a clash is that of a field that is already there. -/
def QualifiedFree (b : BodyFields) (ps : List EndpointParameter) : Prop :=
  ∀ before p after, ps = before ++ p :: after → p.wireName ∈ fieldNames [] before →
    qualifiedName p ∉ Entries.keys b.properties ∧ qualifiedName p ∉ fieldNames [] before

/-- Nothing that a request carries is lost silently: `s` is the schema of the input and `notes` are
the diagnostics about it. -/
structure Keeps (e : Endpoint) (b : BodyFields) (s : Schema) (notes : List Diagnostic) : Prop where
  /-- Every parameter has a property of its own, with its schema and its location. -/
  parameters : ∃ names : List String, names.Nodup ∧
    List.Forall₂ (fun p name =>
      Entries.find? name s.properties = some (p.schema.getD (.inline {})) ∧
        Entries.find? name s.fieldLocations = some p.location.toField) e.parameters names
  /-- There are as many properties for parameters as parameters. -/
  length_eq : (s.fieldLocations.filter (·.2.isParameter)).length = e.parameters.length
  /-- Every property of the body is there, unless it is noted that a parameter replaces it. -/
  body : ∀ name v, (name, v) ∈ b.properties →
    (Entries.find? name s.properties = some v ∧
        Entries.find? name s.fieldLocations = some .body) ∨
      ∃ p ∈ e.parameters, p.wireName = name ∧ shadowsNote e p ∈ notes

variable {e : Endpoint} {b : BodyFields}

/-! ### Names -/

/-- Names that are free when they are given differ from each other. -/
theorem QualifiedFree.nodup {ps : List EndpointParameter} (h : QualifiedFree b ps) :
    (fieldNames [] ps).Nodup := by
  induction ps using List.reverseRecOn with
  | nil => exact List.nodup_nil
  | append_singleton ps p ih =>
    rw [fieldNames_append, List.nil_append, fieldNames, fieldNames]
    refine List.nodup_append.2 ⟨ih fun before q after hs => ?_, List.nodup_singleton _, ?_⟩
    · exact h before q (after ++ [p]) (by simp [hs])
    · rintro a ha _ hp rfl
      rw [List.mem_singleton, fieldName] at hp
      split_ifs at hp with hw
      · exact (h ps p [] rfl hw).2 (hp ▸ ha)
      · exact hw (hp ▸ ha)

/-- The names of the fields that are tagged as parameters. -/
def tagged (s : Schema) : List String :=
  Entries.keys (s.fieldLocations.filter (·.2.isParameter))

theorem exists_field_of_mem {name : String} (h : name ∈ fieldNames [] e.parameters) :
    ∃ f, Entries.find? name (ofEndpoint e b).fields = some f ∧ f.location.isParameter = true := by
  have hk := (Keyed.ofBody b).addParameters e e.parameters
  obtain ⟨f, hf, hl⟩ := (hk.mem_held_iff name).1 (by simpa using h)
  obtain ⟨hf, hi⟩ := find?_ofEndpoint hf
  exact ⟨f, hf, FieldLocation.isParameter_iff.2 ⟨hl, hi⟩⟩

theorem find?_ofEndpoint_of_notMem {name : String} {v : OrRef Schema}
    (hb : (Entries.keys b.properties).Nodup) (hv : (name, v) ∈ b.properties)
    (h : name ∉ fieldNames [] e.parameters) :
    Entries.find? name (ofEndpoint e b).fields = some (bodyField v) := by
  refine (find?_ofEndpoint ?_).1
  rw [find?_addParameters_of_notMem (Keyed.ofBody b) h, find?_ofBody, Entries.ofPairs_eq_self hb,
    Entries.find?_of_mem hb hv]
  rfl

theorem mem_tagged_iff {name : String} :
    name ∈ tagged (ofEndpoint e b).toSchema ↔ name ∈ fieldNames [] e.parameters := by
  constructor
  · intro h
    obtain ⟨⟨_, l⟩, hx, rfl⟩ := List.mem_map.1 h
    obtain ⟨hx, hl⟩ := List.mem_filter.1 hx
    obtain ⟨⟨n, f⟩, hf, hfl⟩ := List.mem_map.1 hx
    obtain ⟨rfl, rfl⟩ := Prod.mk.inj hfl
    have hi := FieldLocation.isParameter_iff.1 hl
    have hfind := Entries.find?_of_mem (nodup_keys_ofEndpoint e b) hf
    have hk := (Keyed.ofBody b).addParameters e e.parameters
    simpa using (hk.mem_held_iff n).2
      ⟨f, (location_addCredentials _ hfind).resolve_right hi.2, hi.1⟩
  · intro h
    obtain ⟨f, hf, hl⟩ := exists_field_of_mem (b := b) h
    exact List.mem_map.2 ⟨(name, f.location), List.mem_filter.2
      ⟨List.mem_map.2 ⟨(name, f), Entries.mem_of_find? hf, rfl⟩, hl⟩, rfl⟩

theorem perm_tagged (e : Endpoint) (b : BodyFields) :
    (tagged (ofEndpoint e b).toSchema).Perm (fieldNames [] e.parameters).dedup := by
  refine (List.perm_ext_iff_of_nodup ?_ (List.nodup_dedup _)).2 fun name => ?_
  · have hk : (Entries.keys (ofEndpoint e b).toSchema.fieldLocations).Nodup := by
      rw [toSchema, Entries.keys_map_snd InputField.location]
      exact nodup_keys_ofEndpoint e b
    exact hk.sublist (List.filter_sublist.map _)
  · rw [mem_tagged_iff, List.mem_dedup]

theorem length_tagged_eq_iff :
    (tagged (ofEndpoint e b).toSchema).length = e.parameters.length ↔
      (fieldNames [] e.parameters).Nodup := by
  rw [(perm_tagged e b).length_eq, ← length_fieldNames [] e.parameters]
  constructor
  · intro h
    rw [← (List.dedup_sublist _).eq_of_length h]
    exact List.nodup_dedup _
  · intro h
    rw [h.dedup]

/-! ### Diagnostics -/

theorem wireName_eq_of_shadowsNote {p q : EndpointParameter}
    (h : shadowsNote e p = shadowsNote e q) : p.wireName = q.wireName := by
  have hm := congrArg (fun d => d.message.toList) h
  simp only [shadowsNote, Endpoint.diagnostic, String.toList_append] at hm
  have hl : p.location = q.location := by
    -- the names of the locations begin with different letters
    cases hp : p.location <;> cases hq : q.location <;>
      simp [hp, hq, ParameterLocation.name] at hm ⊢
  rw [hl] at hm
  have hm := List.append_cancel_right hm
  exact String.toList_inj.1 (List.append_cancel_left hm)

theorem shadowsNote_mem_placeFor {i : Input} {held : List String} {p q : EndpointParameter}
    (hi : i.Keyed held) :
    shadowsNote e q ∈ (i.placeFor e p).2 ↔
      p.wireName ∉ held ∧ p.wireName ∈ Entries.keys i.fields ∧
        shadowsNote e q = shadowsNote e p := by
  have hm := hi.mem_held_iff p.wireName
  rw [placeFor, ← Entries.exists_find?_iff]
  rcases hf : Entries.find? p.wireName i.fields with _ | ⟨s, l⟩
  · simp
  · cases l with
    | body => simp [hm, hf]
    | _ => simp [hm, hf, shadowsNote, clashNote, Endpoint.diagnostic]

/-- It is noted that a property of the body is replaced exactly when a parameter of its name comes
first. -/
theorem exists_shadowsNote_iff {name : String} :
    (∃ p ∈ e.parameters, p.wireName = name ∧ shadowsNote e p ∈ (ofEndpoint e b).notes) ↔
      ∃ before p after, e.parameters = before ++ p :: after ∧ p.wireName = name ∧
        name ∉ fieldNames [] before ∧ name ∈ Entries.keys b.properties := by
  -- two parameters may have the same note, hence `p` and `q`
  have hplace : ∀ before p q, shadowsNote e q ∈
      ((addParameters e (ofBody b) before).placeFor e p).2 ↔
        p.wireName ∉ fieldNames [] before ∧ p.wireName ∈ Entries.keys b.properties ∧
          shadowsNote e q = shadowsNote e p := by
    intro before p q
    rw [shadowsNote_mem_placeFor ((Keyed.ofBody b).addParameters e before), List.nil_append,
      mem_keys_addParameters (Keyed.ofBody b), fields_ofBody, Entries.keys_map_snd,
      Entries.mem_keys_ofPairs]
    exact and_congr_right fun hn => by simp [hn]
  have hnotes : ∀ q, shadowsNote e q ∈ (ofEndpoint e b).notes ↔
      ∃ before p after, e.parameters = before ++ p :: after ∧
        p.wireName ∉ fieldNames [] before ∧ p.wireName ∈ Entries.keys b.properties ∧
          shadowsNote e q = shadowsNote e p := by
    intro q
    rw [ofEndpoint_eq, mem_notes_addCredentials _ (by simp [shadowsNote, Endpoint.diagnostic]),
      mem_notes_addParameters]
    simp only [hplace]
    simp [ofBody]
  constructor
  · rintro ⟨q, -, rfl, hq⟩
    obtain ⟨before, p, after, hs, hn, hk, he⟩ := (hnotes q).1 hq
    rw [wireName_eq_of_shadowsNote he]
    exact ⟨before, p, after, hs, rfl, hn, hk⟩
  · rintro ⟨before, p, after, hs, rfl, hn, hk⟩
    exact ⟨p, by simp [hs], rfl, (hnotes p).2 ⟨before, p, after, hs, hn, hk, rfl⟩⟩

/-! ### Exactly when nothing is lost -/

theorem QualifiedFree.of_keeps
    (h : Keeps e b (ofEndpoint e b).toSchema (ofEndpoint e b).notes) :
    QualifiedFree b e.parameters := by
  have hd : (fieldNames [] e.parameters).Nodup := by
    rw [← length_tagged_eq_iff (b := b), ← h.length_eq, tagged, Entries.keys, List.length_map]
  intro before p after hs hw
  have hp := getElem?_fieldNames before after p
  rw [← hs, fieldName, if_pos hw] at hp
  refine ⟨fun hb => ?_, fun hn => ?_⟩
  · obtain ⟨⟨_, v⟩, hm, rfl⟩ := List.mem_map.1 hb
    rcases h.body _ v hm with ⟨-, hl⟩ | hx
    · obtain ⟨f, hf, hi⟩ := exists_field_of_mem (b := b) (List.mem_of_getElem? hp)
      rw [find?_fieldLocations, hf, Option.map_some, Option.some_inj] at hl
      exact (FieldLocation.isParameter_iff.1 hi).1 hl
    · -- the parameter that replaces the property would have the same name and so the same place
      obtain ⟨before', p', after', hs', hw', hn', -⟩ := exists_shadowsNote_iff.1 hx
      have hp' := getElem?_fieldNames before' after' p'
      rw [← hs', fieldName, hw', if_neg hn', ← hp] at hp'
      have hlen : before'.length = before.length :=
        (List.getElem?_inj (by simp [hs']) hd).1 hp'
      obtain ⟨rfl, hpp⟩ := List.append_inj (hs'.symm.trans hs) hlen
      obtain ⟨rfl, -⟩ := List.cons.inj hpp
      exact hn' (hw' ▸ hw)
  · rw [hs, fieldNames_append, List.nodup_append] at hd
    refine hd.2.2 _ hn _ List.mem_cons_self ?_
    rw [List.nil_append, fieldName, if_pos hw]

theorem QualifiedFree.keeps (hb : (Entries.keys b.properties).Nodup)
    (h : QualifiedFree b e.parameters) :
    Keeps e b (ofEndpoint e b).toSchema (ofEndpoint e b).notes := by
  refine ⟨⟨fieldNames [] e.parameters, h.nodup, ?_⟩, ?_, ?_⟩
  · refine (forall₂_addParameters e (Keyed.ofBody b) _ h.nodup).imp fun p name hf => ?_
    rw [find?_properties, find?_fieldLocations, (find?_ofEndpoint hf).1]
    exact ⟨rfl, rfl⟩
  · rw [← length_tagged_eq_iff.2 h.nodup, tagged, Entries.keys, List.length_map]
  · intro name v hv
    by_cases hn : name ∈ fieldNames [] e.parameters
    · right
      have hk := Entries.mem_keys_of_mem hv
      obtain ⟨before, p, after, hs, hp⟩ := exists_of_mem_fieldNames hn
      rw [fieldName] at hp
      split_ifs at hp with hw
      · exact absurd (hp ▸ hk) (h before p after hs hw).1
      · exact exists_shadowsNote_iff.2 ⟨before, p, after, hs, hp, hp ▸ hw, hk⟩
    · left
      rw [find?_properties, find?_fieldLocations, find?_ofEndpoint_of_notMem hb hv hn]
      exact ⟨rfl, rfl⟩

/-- **Nothing is lost silently exactly when no qualified name meets a field that is already
there.** -/
theorem keeps_iff (e : Endpoint) (b : BodyFields) (hb : (Entries.keys b.properties).Nodup) :
    Keeps e b (ofEndpoint e b).toSchema (ofEndpoint e b).notes ↔ QualifiedFree b e.parameters :=
  ⟨.of_keeps, QualifiedFree.keeps hb⟩

/-- A parameter of a name in a location. -/
def plainParameter (name : String) (location : ParameterLocation) : EndpointParameter :=
  { name := .ofText name, wireName := name, location }

/-- An endpoint with parameters. -/
def plainEndpoint (parameters : List EndpointParameter) : Endpoint :=
  { method := .get, path := "/", tag := "default", name := .ofText "get", parameters }

/-- Two parameters that have the name of a property of the body. -/
def shadowing : Endpoint :=
  plainEndpoint [plainParameter "id" .path, plainParameter "id" .header]

/-- A body with that property and another one. -/
def shadowed : BodyFields where
  properties := [("id", .inline {}), ("version", .inline {})]
  required := ["id"]

theorem keeps_iff_shadowing :
    (Entries.keys shadowed.properties).Nodup ∧
      Keeps shadowing shadowed (ofEndpoint shadowing shadowed).toSchema
        (ofEndpoint shadowing shadowed).notes := by
  have hb : (Entries.keys shadowed.properties).Nodup := by decide
  refine ⟨hb, (keeps_iff shadowing shadowed hb).2 ?_⟩
  intro before p after hs hw
  rcases before with _ | ⟨q, _ | ⟨q', rest⟩⟩
  · cases hw
  · obtain ⟨rfl, rfl, -⟩ : plainParameter "id" .path = q ∧ plainParameter "id" .header = p ∧
        [] = after := by simpa [shadowing, plainEndpoint] using hs
    decide
  · simp [shadowing, plainEndpoint] at hs

/-- Three parameters that differ in name or location. -/
def versions : Endpoint :=
  plainEndpoint
    [plainParameter "version_header" .query, plainParameter "version" .query,
      plainParameter "version" .header]

/-- **A parameter is lost** when the name that another one gets to avoid a clash is its own. -/
theorem not_keeps_versions :
    (versions.parameters.map fun p => (p.wireName, p.location)).Nodup ∧
      ¬ Keeps versions {} (ofEndpoint versions {}).toSchema (ofEndpoint versions {}).notes := by
  refine ⟨by decide, fun h => ?_⟩
  have hl : ((ofEndpoint versions {}).toSchema.fieldLocations.filter
      (·.2.isParameter)).length = 2 := by decide
  exact absurd (hl.symm.trans h.length_eq) (by decide)

end Input

end ApiModel
