import ApiModel.Proofs.Endpoint.Divided

/-!
# Fields of an input

How the fields of an input come to their names, and which of them are required.
`Input.fieldNames` gives the name of every declared parameter from the names of the parameters
before it alone, and `Input.Keyed` is the invariant of the loop over the parameters that ties it to
the fields.  The required names of an input are those of the body and the field names of the required
parameters, nothing else (`Input.mem_required_toSchema`, `Input.requiredLaw_toSchema`).
-/

namespace ApiModel

theorem BodyFields.mem_keys (b : BodyFields) {name : String} (h : name ∈ b.required) :
    name ∈ Entries.keys b.properties :=
  Entries.has_iff.1 (b.has_of_required name h)

theorem ParameterLocation.toField_ne_body (l : ParameterLocation) : l.toField ≠ .body := by
  cases l <;> simp [toField]

theorem ParameterLocation.toField_ne_input (l : ParameterLocation) : l.toField ≠ .input := by
  cases l <;> simp [toField]

namespace Input

/-- The field name of a parameter when the names in `held` are those of earlier parameters. -/
def fieldName (held : List String) (p : EndpointParameter) : String :=
  if p.wireName ∈ held then qualifiedName p else p.wireName

/-- The field names of parameters when the names in `held` are those of earlier ones. -/
def fieldNames (held : List String) : List EndpointParameter → List String
  | [] => []
  | p :: rest => fieldName held p :: fieldNames (held ++ [fieldName held p]) rest

/-- The field of a property of the body. -/
def bodyField (s : OrRef Schema) : InputField :=
  ⟨s, .body⟩

/-- The field of a parameter. -/
def parameterField (p : EndpointParameter) : InputField :=
  ⟨p.schema.getD (.inline {}), p.location.toField⟩

variable {e : Endpoint} {b : BodyFields} {i : Input} {held : List String} {k : String}

@[simp] theorem length_fieldNames (held : List String) (ps : List EndpointParameter) :
    (fieldNames held ps).length = ps.length := by
  induction ps generalizing held with
  | nil => rfl
  | cons p ps ih => simp [fieldNames, ih]

theorem fieldNames_append (held : List String) (ps qs : List EndpointParameter) :
    fieldNames held (ps ++ qs) = fieldNames held ps ++ fieldNames (held ++ fieldNames held ps) qs := by
  induction ps generalizing held with
  | nil => simp [fieldNames]
  | cons p ps ih => simp [fieldNames, ih]

/-- The field name of a parameter stands in the place of the parameter. -/
theorem getElem?_fieldNames (before after : List EndpointParameter) (p : EndpointParameter) :
    (fieldNames [] (before ++ p :: after))[before.length]? =
      some (fieldName (fieldNames [] before) p) := by
  rw [fieldNames_append, List.getElem?_append_right (by simp)]
  simp [fieldNames]

/-- Every field name is that of some parameter. -/
theorem exists_of_mem_fieldNames {ps : List EndpointParameter} (h : k ∈ fieldNames [] ps) :
    ∃ before p after, ps = before ++ p :: after ∧ fieldName (fieldNames [] before) p = k := by
  induction ps using List.reverseRecOn with
  | nil => simp [fieldNames] at h
  | append_singleton ps q ih =>
    rw [fieldNames_append, List.mem_append] at h
    rcases h with h | h
    · obtain ⟨before, p, after, rfl, hk⟩ := ih h
      exact ⟨before, p, after ++ [q], by simp, hk⟩
    · exact ⟨ps, q, [], rfl, by simpa [fieldNames, eq_comm] using h⟩

/-- The name of a parameter on the wire is always that of some field. -/
theorem wireName_mem_fieldNames {ps : List EndpointParameter} {p : EndpointParameter}
    (hp : p ∈ ps) : p.wireName ∈ held ∨ p.wireName ∈ fieldNames held ps := by
  induction ps generalizing held with
  | nil => exact absurd hp List.not_mem_nil
  | cons q ps ih =>
    rw [fieldNames, List.mem_cons]
    rcases List.mem_cons.1 hp with rfl | hp
    · by_cases hw : p.wireName ∈ held
      · exact .inl hw
      · exact .inr (.inl (if_neg hw).symm)
    · rcases @ih (held ++ [fieldName held q]) hp with hw | hw
      · exact (List.mem_append.1 hw).imp_right fun hw => .inl (List.mem_singleton.1 hw)
      · exact .inr (.inr hw)

/-! ### One parameter -/

/-- The invariant of the loop over the parameters: the fields that do not come from the body are
those with the names in `held`, and none of them is a credential. -/
structure Keyed (i : Input) (held : List String) : Prop where
  /-- The fields have different names. -/
  nodup : (Entries.keys i.fields).Nodup
  /-- The names in `held` are those of the fields that are not from the body. -/
  mem_held_iff : ∀ name, name ∈ held ↔
    ∃ f, Entries.find? name i.fields = some f ∧ f.location ≠ .body
  /-- No field is a credential. -/
  ne_input : ∀ name f, Entries.find? name i.fields = some f → f.location ≠ .input

theorem fields_ofBody (b : BodyFields) :
    (ofBody b).fields = (Entries.ofPairs b.properties).map fun e => (e.1, bodyField e.2) :=
  Entries.ofPairs_map bodyField b.properties

theorem find?_ofBody (b : BodyFields) (name : String) :
    Entries.find? name (ofBody b).fields =
      (Entries.find? name (Entries.ofPairs b.properties)).map bodyField := by
  rw [fields_ofBody, Entries.find?_map]

theorem Keyed.ofBody (b : BodyFields) : (ofBody b).Keyed [] := by
  have hl : ∀ name f, Entries.find? name (Input.ofBody b).fields = some f → f.location = .body := by
    intro name f hf
    rw [find?_ofBody, Option.map_eq_some_iff] at hf
    obtain ⟨s, -, rfl⟩ := hf
    rfl
  refine ⟨Entries.nodup_ofPairs _, fun name => ?_, fun name f hf => ?_⟩
  · simp only [List.not_mem_nil, false_iff, not_exists, not_and, not_not]
    exact hl name
  · rw [hl name f hf]
    simp

theorem fst_placeFor (hi : i.Keyed held) (p : EndpointParameter) :
    (i.placeFor e p).1 = fieldName held p := by
  have hm := hi.mem_held_iff p.wireName
  rw [fieldName, placeFor]
  rcases hf : Entries.find? p.wireName i.fields with _ | ⟨s, l⟩
  · rw [if_neg (by simp [hm, hf])]
  · cases l with
    | body => rw [if_neg (by simp [hm, hf])]
    | _ => rw [if_pos (by simp [hm, hf])]

/-- What one parameter does to an input. -/
theorem addParameter_eq (hi : i.Keyed held) (p : EndpointParameter) :
    i.addParameter e p =
      { fields := Entries.insert (fieldName held p) (parameterField p) i.fields
        required := if p.required && !i.required.contains (fieldName held p) then
          i.required ++ [fieldName held p] else i.required
        notes := i.notes ++ (i.placeFor e p).2 } := by
  rw [← fst_placeFor hi p]
  rfl

theorem Keyed.addParameter (hi : i.Keyed held) (p : EndpointParameter) :
    (i.addParameter e p).Keyed (held ++ [fieldName held p]) := by
  rw [addParameter_eq hi]
  refine ⟨Entries.nodup_insert hi.nodup, fun name => ?_, fun name f hf => ?_⟩
  · rw [List.mem_append, List.mem_singleton, hi.mem_held_iff, Entries.find?_insert]
    by_cases hn : fieldName held p = name
    · simp [hn, parameterField, ParameterLocation.toField_ne_body]
    · simp [hn, Ne.symm hn]
  · rw [Entries.find?_insert] at hf
    split_ifs at hf
    · obtain rfl := Option.some.inj hf
      exact ParameterLocation.toField_ne_input _
    · exact hi.ne_input name f hf

theorem mem_required_addParameter (hi : i.Keyed held) (p : EndpointParameter) :
    k ∈ (i.addParameter e p).required ↔
      k ∈ i.required ∨ (p.required = true ∧ k = fieldName held p) := by
  rw [addParameter_eq hi]
  by_cases hr : p.required = true
  · by_cases hc : fieldName held p ∈ i.required
    · have hc' := List.contains_iff_mem.2 hc
      simp only [hr, hc', Bool.not_true, Bool.and_false, Bool.false_eq_true, if_false, true_and]
      exact ⟨.inl, fun h => h.elim id fun h => h ▸ hc⟩
    · simp [hr, hc]
  · simp [hr]

/-! ### All parameters -/

/-- The input after the parameters. -/
def addParameters (e : Endpoint) (i : Input) (ps : List EndpointParameter) : Input :=
  ps.foldl (addParameter e) i

@[simp] theorem addParameters_nil (e : Endpoint) (i : Input) : addParameters e i [] = i := rfl

@[simp] theorem addParameters_cons (e : Endpoint) (i : Input) (p : EndpointParameter)
    (ps : List EndpointParameter) :
    addParameters e i (p :: ps) = addParameters e (i.addParameter e p) ps := rfl

theorem addParameters_append (e : Endpoint) (i : Input) (ps qs : List EndpointParameter) :
    addParameters e i (ps ++ qs) = addParameters e (addParameters e i ps) qs :=
  List.foldl_append

theorem Keyed.addParameters (hi : i.Keyed held) (e : Endpoint) (ps : List EndpointParameter) :
    (addParameters e i ps).Keyed (held ++ fieldNames held ps) := by
  induction ps generalizing i held with
  | nil => simpa [fieldNames] using hi
  | cons p ps ih => simpa [fieldNames] using ih (hi.addParameter p)

theorem mem_keys_addParameters (hi : i.Keyed held) (ps : List EndpointParameter) :
    k ∈ Entries.keys (addParameters e i ps).fields ↔
      k ∈ Entries.keys i.fields ∨ k ∈ fieldNames held ps := by
  induction ps generalizing i held with
  | nil => simp [fieldNames]
  | cons p ps ih =>
    rw [addParameters_cons, ih (hi.addParameter p), addParameter_eq hi, Entries.mem_keys_insert,
      fieldNames, List.mem_cons, or_assoc]

/-- A field keeps its value unless a parameter gets its name. -/
theorem find?_addParameters_of_notMem (hi : i.Keyed held) {ps : List EndpointParameter}
    (hk : k ∉ fieldNames held ps) :
    Entries.find? k (addParameters e i ps).fields = Entries.find? k i.fields := by
  induction ps generalizing i held with
  | nil => rfl
  | cons p ps ih =>
    rw [fieldNames, List.mem_cons, not_or] at hk
    rw [addParameters_cons, ih (hi.addParameter p) hk.2, addParameter_eq hi,
      Entries.find?_insert_of_ne (Ne.symm hk.1)]

theorem map_snd_zip_fieldNames (held : List String) (ps : List EndpointParameter) :
    (ps.zip (fieldNames held ps)).map Prod.snd = fieldNames held ps :=
  List.map_snd_zip (Nat.le_of_eq (length_fieldNames held ps))

/-- A field is that of the last parameter that gets its name. -/
theorem find?_addParameters_of_lastOf (hi : i.Keyed held) {ps : List EndpointParameter}
    {p : EndpointParameter} (h : LastOf Prod.snd (ps.zip (fieldNames held ps)) (p, k)) :
    Entries.find? k (addParameters e i ps).fields = some (parameterField p) := by
  induction ps generalizing i held with
  | nil => exact absurd h.mem List.not_mem_nil
  | cons q ps ih =>
    rw [fieldNames, List.zip_cons_cons, ← List.singleton_append, lastOf_append, lastOf_singleton,
      map_snd_zip_fieldNames] at h
    rcases h with h | ⟨hq, hk⟩
    · exact ih (hi.addParameter q) h
    · obtain ⟨rfl, rfl⟩ := Prod.mk.inj hq
      rw [addParameters_cons, find?_addParameters_of_notMem (hi.addParameter p) hk,
        addParameter_eq hi, Entries.find?_insert_self]

/-- Parameters whose field names differ all keep their fields. -/
theorem forall₂_addParameters (e : Endpoint) (hi : i.Keyed held) (ps : List EndpointParameter)
    (hd : (fieldNames held ps).Nodup) :
    List.Forall₂ (fun p name =>
      Entries.find? name (addParameters e i ps).fields = some (parameterField p))
      ps (fieldNames held ps) := by
  rw [← map_snd_zip_fieldNames] at hd
  exact List.forall₂_iff_zip.2 ⟨(length_fieldNames held ps).symm, fun hp =>
    find?_addParameters_of_lastOf hi ((lastOf_iff_mem hd).2 hp)⟩

theorem mem_required_addParameters (hi : i.Keyed held) (ps : List EndpointParameter) :
    k ∈ (addParameters e i ps).required ↔
      k ∈ i.required ∨ ∃ x ∈ ps.zip (fieldNames held ps), x.1.required = true ∧ k = x.2 := by
  induction ps generalizing i held with
  | nil => simp
  | cons p ps ih =>
    rw [addParameters_cons, ih (hi.addParameter p), mem_required_addParameter hi, fieldNames,
      List.zip_cons_cons, or_assoc]
    simp only [List.mem_cons, exists_eq_or_imp]

theorem notes_addParameter (e : Endpoint) (i : Input) (p : EndpointParameter) :
    (i.addParameter e p).notes = i.notes ++ (i.placeFor e p).2 := rfl

/-- What is noted about parameters is noted when their turn comes. -/
theorem mem_notes_addParameters {note : Diagnostic} {ps : List EndpointParameter} :
    note ∈ (addParameters e i ps).notes ↔ note ∈ i.notes ∨
      ∃ before p after, ps = before ++ p :: after ∧
        note ∈ ((addParameters e i before).placeFor e p).2 := by
  induction ps using List.reverseRecOn with
  | nil => simp
  | append_singleton ps q ih =>
    rw [addParameters_append, addParameters_cons, addParameters_nil, notes_addParameter,
      List.mem_append, ih, or_assoc]
    refine or_congr_right ⟨?_, ?_⟩
    · rintro (⟨before, p, after, rfl, h⟩ | h)
      · exact ⟨before, p, after ++ [q], by simp, h⟩
      · exact ⟨ps, q, [], rfl, h⟩
    · rintro ⟨before, p, after, hs, h⟩
      -- the parameter is the last one or comes before it
      rcases List.eq_nil_or_concat after with rfl | ⟨after, a, rfl⟩
      · obtain ⟨rfl, hq⟩ := List.append_inj' hs rfl
        obtain rfl := List.singleton_inj.1 hq
        exact .inr h
      · refine .inl ⟨before, p, after, ?_, h⟩
        rw [List.concat_eq_append, ← List.cons_append, ← List.append_assoc] at hs
        exact (List.append_inj' hs rfl).1

/-! ### The whole input -/

theorem ofEndpoint_eq (e : Endpoint) (b : BodyFields) :
    ofEndpoint e b =
      e.credentials.foldl (addCredential e) (addParameters e (ofBody b) e.parameters) := rfl

theorem nodup_keys_ofEndpoint (e : Endpoint) (b : BodyFields) :
    (Entries.keys (ofEndpoint e b).fields).Nodup :=
  nodup_addCredentials _ ((Keyed.ofBody b).addParameters e _).nodup

/-- A field that is there before the credentials is no credential in the end. -/
theorem find?_ofEndpoint {f : InputField}
    (hf : Entries.find? k (addParameters e (ofBody b) e.parameters).fields = some f) :
    Entries.find? k (ofEndpoint e b).fields = some f ∧ f.location ≠ .input :=
  ⟨find?_addCredentials _ hf, ((Keyed.ofBody b).addParameters e _).ne_input k f hf⟩

theorem exists_find?_ofEndpoint
    (hk : k ∈ Entries.keys (addParameters e (ofBody b) e.parameters).fields) :
    ∃ f, Entries.find? k (ofEndpoint e b).fields = some f ∧ f.location ≠ .input := by
  obtain ⟨f, hf⟩ := Entries.exists_find?_iff.2 hk
  exact ⟨f, find?_ofEndpoint hf⟩

theorem find?_properties (i : Input) (k : String) :
    Entries.find? k i.toSchema.properties = (Entries.find? k i.fields).map (·.schema) :=
  Entries.find?_map _

theorem find?_fieldLocations (i : Input) (k : String) :
    Entries.find? k i.toSchema.fieldLocations = (Entries.find? k i.fields).map (·.location) :=
  Entries.find?_map _

theorem keys_fieldLocations (i : Input) :
    Entries.keys i.toSchema.fieldLocations = Entries.keys i.toSchema.properties :=
  (Entries.keys_map_snd InputField.location i.fields).trans
    (Entries.keys_map_snd InputField.schema i.fields).symm

theorem mem_required_iff (i : Input) :
    k ∈ i.toSchema.required ↔
      k ∈ i.required ∧ Entries.find? k i.toSchema.fieldLocations ≠ some .input := by
  rw [find?_fieldLocations]
  change k ∈ i.required.filter _ ↔ _
  rw [List.mem_filter, isCredential]
  cases Entries.find? k i.fields <;> simp

theorem mem_keys_of_required
    (hk : k ∈ (addParameters e (ofBody b) e.parameters).required) :
    k ∈ Entries.keys (addParameters e (ofBody b) e.parameters).fields := by
  rw [mem_keys_addParameters (Keyed.ofBody b)]
  rcases (mem_required_addParameters (Keyed.ofBody b) _).1 hk with h | ⟨x, hx, -, rfl⟩
  · left
    rw [fields_ofBody, Entries.keys_map_snd, Entries.mem_keys_ofPairs]
    exact b.mem_keys h
  · exact .inr (List.of_mem_zip hx).2

/-- No credential has a required name, so leaving them out of the required names changes nothing. -/
theorem required_toSchema (e : Endpoint) (b : BodyFields) :
    (ofEndpoint e b).toSchema.required = (addParameters e (ofBody b) e.parameters).required := by
  change List.filter _ _ = _
  rw [ofEndpoint_eq, required_addCredentials, List.filter_eq_self]
  intro name hn
  obtain ⟨f, hf, hl⟩ := exists_find?_ofEndpoint (mem_keys_of_required hn)
  rw [← ofEndpoint_eq, isCredential, hf]
  simpa using hl

/-- **The required names** of an input are those that the body requires and the field names of the
required parameters; credentials add nothing and take nothing away. -/
theorem mem_required_toSchema :
    k ∈ (ofEndpoint e b).toSchema.required ↔ k ∈ b.required ∨
      ∃ x ∈ e.parameters.zip (fieldNames [] e.parameters), x.1.required = true ∧ k = x.2 := by
  rw [required_toSchema]
  exact mem_required_addParameters (Keyed.ofBody b) e.parameters

/-- The required-set law: `bodyRequires` are the names that the body requires, and `s` is the schema
of an input with the parameters `ps`. -/
structure RequiredLaw (bodyRequires : String → Prop) (ps : List EndpointParameter)
    (s : Schema) : Prop where
  /-- Required is what the body requires and what a required parameter is called. -/
  mem_required_iff : ∀ name, name ∈ s.required ↔ bodyRequires name ∨
    ∃ x ∈ ps.zip (fieldNames [] ps), x.1.required = true ∧ name = x.2
  /-- No credential is required. -/
  ne_input : ∀ name ∈ s.required, Entries.find? name s.fieldLocations ≠ some .input
  /-- Every required name is that of a property. -/
  mem_keys : ∀ name ∈ s.required, name ∈ Entries.keys s.properties
  /-- Every parameter in the path is required. -/
  path_required : ∀ x ∈ ps.zip (fieldNames [] ps), x.1.location = .path → x.2 ∈ s.required
  /-- Locations are told of exactly the properties, in their order. -/
  keys_eq : Entries.keys s.fieldLocations = Entries.keys s.properties

theorem requiredLaw_toSchema {bodyRequires : String → Prop}
    (hb : ∀ name, name ∈ b.required ↔ bodyRequires name)
    (hp : ∀ p ∈ e.parameters, p.location = .path → p.required = true) :
    RequiredLaw bodyRequires e.parameters (ofEndpoint e b).toSchema where
  mem_required_iff name := by rw [mem_required_toSchema, hb]
  ne_input name h := ((mem_required_iff _).1 h).2
  mem_keys name h := by
    have hr := ((mem_required_iff _).1 h).1
    rw [ofEndpoint_eq, required_addCredentials] at hr
    obtain ⟨f, hf, -⟩ := exists_find?_ofEndpoint (mem_keys_of_required hr)
    rw [← Entries.exists_find?_iff, find?_properties, hf]
    exact ⟨f.schema, rfl⟩
  path_required x hx hl :=
    mem_required_toSchema.2 (.inr ⟨x, hx, hp x.1 (List.of_mem_zip hx).1 hl, rfl⟩)
  keys_eq := keys_fieldLocations _

end Input

end ApiModel
