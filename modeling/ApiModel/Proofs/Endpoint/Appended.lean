import ApiModel.Proofs.Endpoint.Input

/-!
# Inputs with and without credentials

The input of an endpoint is compared with the one that it would have without credentials
(`Endpoint.withoutCredentials`).  The fields of credentials are put behind all others, nothing else
of the schema changes, and each credential that gets no field is noted once behind everything else
that is noted (`Input.credentials_last`).

That the required names stay the same is not plain from their definition, which leaves the names of
credentials out of them: no name is ever left out, because a body requires only names of its own
properties (`BodyFields.has_of_required`).
-/

namespace ApiModel

/-- The endpoint without its credentials. -/
def Endpoint.withoutCredentials (e : Endpoint) : Endpoint :=
  { e with credentials := [] }

namespace Input

/-- The names of the fields that are there before the credentials: those of the properties of the
body and those of the parameters. -/
def namesBefore (e : Endpoint) (b : BodyFields) : List String :=
  Entries.keys b.properties ++ fieldNames [] e.parameters

/-- The credentials of an endpoint come last in its input `i`: `base` is the input without them,
`added` are the credentials that get a field, and `dropped` are the others. -/
structure CredentialsLast (e : Endpoint) (b : BodyFields) (base i : Input)
    (added dropped : List Credential) : Prop where
  /-- A credential gets a field if its name is that of no property of the body, of no parameter and
  of no earlier credential. -/
  divided : Credential.Divided (namesBefore e b) e.credentials added dropped
  /-- Behind the properties stands a text for each of these credentials, in their order. -/
  properties_eq : i.toSchema.properties = base.toSchema.properties ++
    added.map fun c => (c.name, .inline { type := some (.single .string) })
  /-- Each of them is told to be a credential. -/
  fieldLocations_eq : i.toSchema.fieldLocations = base.toSchema.fieldLocations ++
    added.map fun c => (c.name, .input)
  /-- None of them is required. -/
  optional : ∀ c ∈ added, c.name ∉ i.toSchema.required
  /-- The required names are the same. -/
  required_eq : i.toSchema.required = base.toSchema.required
  /-- Nothing else of the schema is different. -/
  rest_eq : { i.toSchema with
    properties := base.toSchema.properties
    required := base.toSchema.required
    fieldLocations := base.toSchema.fieldLocations } = base.toSchema
  /-- Each of the other credentials is noted once, behind everything else that is noted. -/
  notes_eq : i.notes = base.notes ++ dropped.map (droppedNote e)

variable {e : Endpoint} {b : BodyFields} {added dropped : List Credential}

theorem mem_keys_iff_namesBefore (e : Endpoint) (b : BodyFields) (name : String) :
    name ∈ Entries.keys (addParameters e (ofBody b) e.parameters).fields ↔
      name ∈ namesBefore e b := by
  rw [mem_keys_addParameters (Keyed.ofBody b), fields_ofBody, Entries.keys_map_snd,
    Entries.mem_keys_ofPairs, namesBefore, List.mem_append]

theorem ofEndpoint_withoutCredentials (e : Endpoint) (b : BodyFields) :
    ofEndpoint e.withoutCredentials b = addParameters e (ofBody b) e.parameters := rfl

/-- The input of an endpoint by the input without its credentials. -/
theorem ofEndpoint_eq_of_divided
    (h : Credential.Divided (namesBefore e b) e.credentials added dropped) :
    ofEndpoint e b =
      { ofEndpoint e.withoutCredentials b with
        fields := (ofEndpoint e.withoutCredentials b).fields ++ credentialFields added
        notes := (ofEndpoint e.withoutCredentials b).notes ++ dropped.map (droppedNote e) } := by
  rw [ofEndpoint_withoutCredentials, ofEndpoint_eq]
  exact addCredentials_eq e (mem_keys_iff_namesBefore e b) h

theorem find?_fieldLocations_of_mem_added
    (h : Credential.Divided (namesBefore e b) e.credentials added dropped) {c : Credential}
    (hc : c ∈ added) :
    Entries.find? c.name (ofEndpoint e b).toSchema.fieldLocations = some .input := by
  have hmem : (c.name, credentialField) ∈ (ofEndpoint e b).fields := by
    rw [ofEndpoint_eq_of_divided h]
    exact List.mem_append_right _ (List.mem_map_of_mem hc)
  rw [find?_fieldLocations, Entries.find?_of_mem (nodup_keys_ofEndpoint e b) hmem]
  rfl

/-- **Credentials come last**: they add optional fields behind all others, and nothing that is there
without them is different. -/
theorem credentials_last (e : Endpoint) (b : BodyFields) :
    ∃ added dropped, CredentialsLast e b (ofEndpoint e.withoutCredentials b) (ofEndpoint e b)
      added dropped := by
  obtain ⟨added, dropped, h⟩ := Credential.exists_divided (namesBefore e b) e.credentials
  refine ⟨added, dropped, ?_⟩
  have hi := ofEndpoint_eq_of_divided h
  constructor
  case divided => exact h
  case properties_eq =>
    rw [hi]
    simp [toSchema, credentialFields, credentialField, credentialSchema]
  case fieldLocations_eq =>
    rw [hi]
    simp [toSchema, credentialFields, credentialField]
  case optional =>
    intro c hc hreq
    exact ((mem_required_iff _).1 hreq).2 (find?_fieldLocations_of_mem_added h hc)
  case required_eq =>
    rw [required_toSchema, required_toSchema]
    rfl
  case rest_eq => rfl
  case notes_eq => rw [hi]

/-- A body with a photo for a badge. -/
def photo : Schema where
  type := some (.single .object)
  properties := [("image", .inline {}), ("token", .inline {})]
  required := ["image"]

/-- An endpoint with a key that has two places, a token that the body has already, and the name of a
parameter. -/
def badge : Endpoint where
  method := .put
  path := "/badges/{id}"
  tag := "badges"
  name := .ofText "putBadge"
  parameters := [{ name := .ofText "id", wireName := "id", location := .path, required := true }]
  credentials :=
    [{ name := "key", location := .query, scheme := "inQuery", type := .apiKey },
      { name := "token", location := .query, scheme := "token", type := .apiKey },
      { name := "key", location := .header, scheme := "inHeader", type := .apiKey },
      { name := "id", location := .cookie, scheme := "session", type := .apiKey },
      { name := "authorization", location := .header, scheme := "bearer", type := .http }]

theorem credentials_last_badge :
    ∃ added dropped,
      CredentialsLast badge (BodyFields.ofObject photo)
        (ofEndpoint badge.withoutCredentials (BodyFields.ofObject photo))
        (ofEndpoint badge (BodyFields.ofObject photo)) added dropped ∧
      (ofEndpoint badge (BodyFields.ofObject photo)).toSchema.required =
        (ofEndpoint badge.withoutCredentials (BodyFields.ofObject photo)).toSchema.required ∧
      Entries.keys (ofEndpoint badge (BodyFields.ofObject photo)).toSchema.properties =
        ["image", "token", "id", "key", "authorization"] := by
  obtain ⟨added, dropped, h⟩ := credentials_last badge (BodyFields.ofObject photo)
  exact ⟨added, dropped, h, h.required_eq, by decide⟩

end Input

end ApiModel
