import ApiModel.Proofs.Endpoint.Appended
import ApiModel.Proofs.Endpoint.Parameters
import ApiModel.Proofs.Endpoint.Slots

/-!
# Headers in inputs

Whether two fields of an input travel in the same slot of a request.  The credentials of an endpoint
are composed by slots, in which the case of header names does not count, but an input tells its fields
apart by their names as they are spelled.  `Input.oneField_iff` says that no credential has a field
beside a declared parameter of the same slot and that no header travels in two fields **exactly
when** the spelling shows it (`Input.SpelledAlike`).  A declared header `Authorization` beside a
bearer token is a case where it does not (`Input.not_oneField_account`).
-/

namespace ApiModel

/-- The slot in which a parameter travels. -/
def EndpointParameter.slot (p : EndpointParameter) : ParameterLocation × String :=
  slotOf p.location p.wireName

theorem eq_of_slotOf_eq {l l' : ParameterLocation} {name name' : String}
    (h : slotOf l name = slotOf l' name') (hl : l ≠ .header) : name = name' := by
  obtain ⟨rfl, hn⟩ := Prod.mk.inj h
  rwa [if_neg hl, if_neg hl] at hn

/-- The parameters and the credentials of an endpoint are those that a document states for an
operation. -/
structure Endpoint.Tuned (e : Endpoint) : Prop where
  /-- The parameters of a path and of an operation are merged. -/
  merged : ∃ (r : Resolver) (ofPath ofOperation : List (OrRef Parameter)) (ps : List Parameter),
    Parameter.merge r ofPath ofOperation = .ok ps ∧ e.parameters = ps.map (·.toEndpoint)
  /-- The security requirements of a document and of an operation are composed. -/
  composed : ∃ (r : Resolver) (ofDocument : List SecurityRequirement)
    (ofOperation : Option (List SecurityRequirement)) (operation : String),
    (Credential.compose r ofDocument ofOperation operation).2 = .ok e.credentials

namespace Endpoint.Tuned

variable {e : Endpoint} (he : e.Tuned)
include he

theorem nodup_parameters : (e.parameters.map fun p => (p.wireName, p.location)).Nodup := by
  obtain ⟨r, ofPath, ofOperation, ps, hps, hp⟩ := he.merged
  obtain ⟨found, -, hlasts⟩ := Parameter.exists_lasts_of_merge hps
  rw [hp, List.map_map]
  exact hlasts.nodup

theorem nodup_slots : (e.credentials.map Credential.slot).Nodup := by
  obtain ⟨r, ofDocument, ofOperation, operation, hc⟩ := he.composed
  exact Credential.nodup_slots_of_compose hc

end Endpoint.Tuned

namespace Input

variable {e : Endpoint} {b : BodyFields} {p : EndpointParameter} {c : Credential} {k : String}

/-! ### What has a field -/

/-- The declared parameters of an endpoint with their field names. -/
def named (e : Endpoint) : List (EndpointParameter × String) :=
  e.parameters.zip (fieldNames [] e.parameters)

/-- The field with a name is that of a declared parameter: it is the last one that gets the name. -/
structure OwnsField (e : Endpoint) (b : BodyFields) (p : EndpointParameter) (k : String) : Prop where
  /-- No later parameter gets the name. -/
  last : LastOf Prod.snd (named e) (p, k)
  /-- The field has the schema of the parameter. -/
  property : Entries.find? k (ofEndpoint e b).toSchema.properties = some (p.schema.getD (.inline {}))
  /-- It is told to travel where the parameter does. -/
  location : Entries.find? k (ofEndpoint e b).toSchema.fieldLocations = some p.location.toField

/-- There is a field for a credential. -/
structure HasField (e : Endpoint) (b : BodyFields) (c : Credential) : Prop where
  /-- No earlier credential has the name. -/
  first : FirstOf (·.name) e.credentials c
  /-- The field with its name is that of a credential. -/
  location : Entries.find? c.name (ofEndpoint e b).toSchema.fieldLocations = some .input

theorem ownsField_iff : OwnsField e b p k ↔ LastOf Prod.snd (named e) (p, k) := by
  refine ⟨OwnsField.last, fun h => ?_⟩
  obtain ⟨hf, -⟩ := find?_ofEndpoint (find?_addParameters_of_lastOf (Keyed.ofBody b) h)
  constructor
  case last => exact h
  case property =>
    rw [find?_properties, hf]
    rfl
  case location =>
    rw [find?_fieldLocations, hf]
    rfl

theorem eq_of_mem_named (he : e.Tuned) {q : EndpointParameter} {l : String} (hp : (p, k) ∈ named e)
    (hq : (q, l) ∈ named e) (hname : p.wireName = q.wireName) (hl : p.location = q.location) :
    k = l := by
  have hfst : (named e).map Prod.fst = e.parameters :=
    List.map_fst_zip (Nat.le_of_eq (length_fieldNames [] e.parameters).symm)
  have hd := he.nodup_parameters
  rw [← hfst, List.map_map] at hd
  exact congrArg Prod.snd (List.inj_on_of_nodup_map hd hp hq (Prod.ext hname hl))

theorem OwnsField.mem (h : OwnsField e b p k) : p ∈ e.parameters :=
  (List.of_mem_zip h.last.mem).1

/-- A credential has a field if it is the first one of its name and no other field has this name. -/
theorem hasField_iff :
    HasField e b c ↔ c.name ∉ namesBefore e b ∧ FirstOf (·.name) e.credentials c := by
  constructor
  · intro h
    refine ⟨fun hn => ?_, h.first⟩
    obtain ⟨f, hf, hl⟩ := exists_find?_ofEndpoint ((mem_keys_iff_namesBefore e b c.name).2 hn)
    have hi := h.location
    rw [find?_fieldLocations, hf, Option.map_some, Option.some_inj] at hi
    exact hl hi
  · intro hc
    obtain ⟨added, dropped, h⟩ := Credential.exists_divided (namesBefore e b) e.credentials
    exact ⟨hc.2, find?_fieldLocations_of_mem_added h (h.mem_added_iff.2 hc)⟩

theorem droppedNote_mem (hc : c ∈ e.credentials) (hf : ¬ HasField e b c) :
    droppedNote e c ∈ (ofEndpoint e b).notes := by
  obtain ⟨added, dropped, h⟩ := Credential.exists_divided (namesBefore e b) e.credentials
  have hdropped : c ∈ dropped :=
    (List.mem_append.1 (h.perm.mem_iff.2 hc)).resolve_left fun hadded =>
      hf (hasField_iff.2 (h.mem_added_iff.1 hadded))
  rw [ofEndpoint_eq_of_divided h]
  exact List.mem_append_right _ (List.mem_map_of_mem hdropped)

/-! ### Exactly when there is one field -/

/-- A header of a request, in small letters, travels in the field with a name. -/
inductive CarriesHeader (e : Endpoint) (b : BodyFields) (header k : String) : Prop
  /-- The field is that of a declared header. -/
  | declared {p : EndpointParameter} (hp : OwnsField e b p k) (hs : p.slot = (.header, header))
  /-- The field is that of a credential. -/
  | credential {c : Credential} (hc : HasField e b c) (hk : c.name = k)
    (hs : c.slot = (.header, header))

/-- Whatever travels in the same slot of a request has one field in the input. -/
structure OneField (e : Endpoint) (b : BodyFields) : Prop where
  /-- A credential in the slot of a declared parameter has no field, and this is noted. -/
  dropped : ∀ p ∈ e.parameters, ∀ c ∈ e.credentials, p.slot = c.slot →
    ¬ HasField e b c ∧ droppedNote e c ∈ (ofEndpoint e b).notes
  /-- No header travels in two fields. -/
  header_unique : ∀ header k l, CarriesHeader e b header k → CarriesHeader e b header l → k = l

/-- The spelling of names shows what travels in the same slot. -/
structure SpelledAlike (e : Endpoint) (b : BodyFields) : Prop where
  /-- Declared parameters that have fields for the same slot have the same name. -/
  declared : ∀ p k q l, LastOf Prod.snd (named e) (p, k) → LastOf Prod.snd (named e) (q, l) →
    p.slot = q.slot → p.wireName = q.wireName
  /-- The name of a credential in the slot of a declared parameter is taken by some field or by an
  earlier credential. -/
  credential : ∀ p ∈ e.parameters, ∀ c ∈ e.credentials, p.slot = c.slot →
    c.name ∈ namesBefore e b ∨ ¬ FirstOf (·.name) e.credentials c

/-- This is so in particular if all names that share a slot are the same. -/
theorem SpelledAlike.of_names
    (hp : ∀ p ∈ e.parameters, ∀ q ∈ e.parameters, p.slot = q.slot → p.wireName = q.wireName)
    (hc : ∀ p ∈ e.parameters, ∀ c ∈ e.credentials, p.slot = c.slot → p.wireName = c.name) :
    SpelledAlike e b := by
  constructor
  case declared =>
    exact fun p k q l hpk hql hs =>
      hp p (List.of_mem_zip hpk.mem).1 q (List.of_mem_zip hql.mem).1 hs
  case credential =>
    intro p hmem c hcred hs
    have hw : p.wireName ∈ fieldNames [] e.parameters :=
      (wireName_mem_fieldNames hmem).resolve_left List.not_mem_nil
    exact .inl (hc p hmem c hcred hs ▸ List.mem_append_right _ hw)

theorem OneField.spelledAlike (h : OneField e b) : SpelledAlike e b := by
  constructor
  case declared =>
    intro p k q l hp hq hs
    by_cases hl : p.location = .header
    · -- both parameters are declared headers, and their field is the same one
      have hslot : p.slot = (.header, p.slot.2) := Prod.ext hl rfl
      have hkl : k = l := h.header_unique p.slot.2 k l (.declared (ownsField_iff.2 hp) hslot)
        (.declared (ownsField_iff.2 hq) (hs ▸ hslot))
      exact congrArg (·.1.wireName) (hp.eq hq hkl)
    · exact eq_of_slotOf_eq hs hl
  case credential =>
    intro p hp c hc hs
    have hn := (h.dropped p hp c hc hs).1
    rwa [hasField_iff, not_and_or, not_not] at hn

theorem SpelledAlike.oneField (he : e.Tuned) (h : SpelledAlike e b) : OneField e b := by
  have hshadowed : ∀ p ∈ e.parameters, ∀ c ∈ e.credentials, p.slot = c.slot → ¬ HasField e b c := by
    intro p hp c hc hs hf
    obtain ⟨hn, hfirst⟩ := hasField_iff.1 hf
    exact (h.credential p hp c hc hs).elim hn (not_not.2 hfirst)
  constructor
  case dropped =>
    intro p hp c hc hs
    have hf := hshadowed p hp c hc hs
    exact ⟨hf, droppedNote_mem hc hf⟩
  case header_unique =>
    rintro header k l (⟨hp, hs⟩ | ⟨hc, rfl, hs⟩) (⟨hq, hs'⟩ | ⟨hd, rfl, hs'⟩)
    · -- two declared headers in one slot are the same parameter
      have hname := h.declared _ k _ l hp.last hq.last (hs.trans hs'.symm)
      exact eq_of_mem_named he hp.last.mem hq.last.mem hname
        (congrArg Prod.fst (hs.trans hs'.symm))
    · exact absurd hd (hshadowed _ hp.mem _ hd.first.mem (hs.trans hs'.symm))
    · exact absurd hc (hshadowed _ hq.mem _ hc.first.mem (hs'.trans hs.symm))
    · -- two credentials in one slot are the same one
      have hcd := List.inj_on_of_nodup_map he.nodup_slots hc.first.mem hd.first.mem
        (hs.trans hs'.symm)
      rw [hcd]

/-- **Whatever travels in the same slot has one field exactly when the spelling shows it.** -/
theorem oneField_iff (e : Endpoint) (b : BodyFields) (he : e.Tuned) :
    OneField e b ↔ SpelledAlike e b :=
  ⟨OneField.spelledAlike, SpelledAlike.oneField he⟩

/-- A document with a scheme that asks for a bearer token. -/
def signedIn : Resolver where
  components := { securitySchemes := [("login", { type := .oauth2 })] }

/-- An endpoint with a header beside a bearer token. -/
def account (header : String) : Endpoint where
  method := .get
  path := "/account"
  tag := "account"
  name := .ofText "getAccount"
  parameters := [{ name := .ofText header, wireName := header, location := .header }]
  credentials :=
    [{ name := "authorization", location := .header, scheme := "login", type := .oauth2
       httpScheme := some "bearer" }]

theorem tuned_account (header : String) : (account header).Tuned := by
  constructor
  case merged =>
    exact ⟨{}, [], [.inline { name := header, location := .header }],
      [{ name := header, location := .header }], rfl, rfl⟩
  case composed => exact ⟨signedIn, [[("login", [])]], none, "getAccount", rfl⟩

theorem oneField_iff_account :
    (account "authorization").Tuned ∧ OneField (account "authorization") {} := by
  have he := tuned_account "authorization"
  refine ⟨he, (oneField_iff _ _ he).2 (.of_names ?_ ?_)⟩
  · intro p hp q hq _
    rw [List.mem_singleton.1 hp, List.mem_singleton.1 hq]
  · intro p hp c hc _
    rw [List.mem_singleton.1 hp, List.mem_singleton.1 hc]

/-- **A bearer token has a field of its own** beside a declared header `Authorization`. -/
theorem not_oneField_account :
    (account "Authorization").Tuned ∧ ¬ OneField (account "Authorization") {} := by
  refine ⟨tuned_account "Authorization", fun h => ?_⟩
  have hslot : slotOf .header "Authorization" = slotOf .header "authorization" := by
    have hupper : "Authorization".map Char.toLower = "authorization" := map_toLower_eq (by decide)
    have hlower : "authorization".map Char.toLower = "authorization" := map_toLower_eq (by decide)
    simp [slotOf, hupper, hlower]
  refine (h.dropped _ List.mem_cons_self _ List.mem_cons_self hslot).1 ?_
  constructor
  case first => exact ⟨[], [], rfl, by simp⟩
  case location => decide

end Input

end ApiModel
