import ApiModel.Proofs.Endpoint.Credentials
import ApiModel.Proofs.Places
import ApiModel.Proofs.Pointwise
import Mathlib.Data.List.ReduceOption

/-!
# Slots of credentials

A credential travels in a slot of a request: a location together with a name, in which case does not
count for headers.  `Credential.sameSlot_iff` says that this is what the composer compares, so that
slots are keys and the laws of `Firsts` and `Lasts` apply: within a level the first credential of a
slot stays, and one of an operation takes the place of one of the document.  What each scheme asks
for is told by `Resolver.Asks`; the composed credentials follow from it alone
(`Credential.compose_fillsSlots`).
-/

namespace ApiModel

/-! ### Slots -/

/-- The location as that of a declared parameter. -/
def KeyLocation.toParameter : KeyLocation → ParameterLocation
  | query => .query
  | header => .header
  | cookie => .cookie

theorem KeyLocation.toParameter_inj {l l' : KeyLocation} :
    l.toParameter = l'.toParameter ↔ l = l' := by
  cases l <;> cases l' <;> simp [toParameter]

/-- The slot of a request in which something with a name travels.  The case of ASCII letters does not
count in the names of headers. -/
def slotOf (l : ParameterLocation) (name : String) : ParameterLocation × String :=
  (l, if l = .header then name.map Char.toLower else name)

theorem map_toLower_eq {s t : String} (h : s.toList.map Char.toLower = t.toList) :
    s.map Char.toLower = t := by
  rw [← String.toList_inj, String.toList_map, h]

namespace Credential

/-- The slot in which a credential travels. -/
def slot (c : Credential) : ParameterLocation × String :=
  slotOf c.location.toParameter c.name

theorem sameSlot_iff (c d : Credential) : c.sameSlot d = true ↔ c.slot = d.slot := by
  rw [sameSlot, slot, slot, slotOf, slotOf, Prod.mk.injEq, KeyLocation.toParameter_inj]
  cases hl : c.location <;> cases hd : d.location <;> simp [KeyLocation.toParameter]

theorem keepFirst_eq (cs : List Credential) (c : Credential) :
    keepFirst cs c = if c.slot ∈ cs.map slot then cs else cs ++ [c] := by
  have hany : cs.any (·.sameSlot c) = true ↔ c.slot ∈ cs.map slot := by
    simp only [List.any_eq_true, List.mem_map, sameSlot_iff]
  simp only [keepFirst, hany]

/-- One credential after the other, the first of each slot stays. -/
theorem firsts_foldl_keepFirst {vs ms : List Credential} (h : Firsts slot vs ms)
    (us : List Credential) : Firsts slot (vs ++ us) (us.foldl keepFirst ms) := by
  induction us generalizing vs ms with
  | nil => simpa using h
  | cons u us ih =>
    rw [List.append_cons, List.foldl_cons, keepFirst_eq]
    exact ih (h.concat u)

theorem firsts_keepFirst (cs : List Credential) : Firsts slot cs (cs.foldl keepFirst []) :=
  firsts_foldl_keepFirst (.nil slot) cs

/-- A credential of the operation takes the place of the one of the document in its slot. -/
theorem lasts_override {shared : List Credential} (h : (shared.map slot).Nodup)
    (own : List Credential) : Lasts slot (shared ++ own) (override shared own) :=
  (Lasts.self h).putInPlace sameSlot_iff own

/-! ### Names that are not blank -/

/-- A name holds nothing but blanks. -/
def Blank (name : String) : Prop :=
  ∀ c ∈ name.toList, Text.isBlank c = true

theorem trim_eq_nil_iff {s : List Char} : Text.trim s = [] ↔ ∀ c ∈ s, Text.isBlank c = true := by
  rw [Text.trim, List.reverse_eq_nil_iff, List.dropWhile_eq_nil_iff]
  simp only [List.mem_reverse]
  constructor
  · intro h c hc
    rw [← List.takeWhile_append_dropWhile (p := Text.isBlank) (l := s), List.mem_append] at hc
    exact hc.elim List.mem_takeWhile_imp (h c)
  · exact fun h c hc => h c ((List.dropWhile_sublist _).mem hc)

theorem usable?_eq_some_iff {name : Option String} {key : String} :
    usable? name = some key ↔ name = some key ∧ ¬ Blank key := by
  rw [usable?, Option.filter_eq_some_iff, Blank, ← trim_eq_nil_iff]
  simp

theorem usable?_eq_none_iff {name : Option String} :
    usable? name = none ↔ ∀ key ∈ name, Blank key := by
  rw [usable?, Option.filter_eq_none_iff]
  simp only [Blank, ← trim_eq_nil_iff]
  simp

end Credential

/-! ### What a scheme asks for -/

/-- What the scheme with a name asks for: a credential, none, or an error. -/
inductive Resolver.Asks (r : Resolver) (name : String) : Except BuildError (Option Credential) → Prop
  /-- There is no such scheme. -/
  | undeclared (h : name ∉ Entries.keys r.components.securitySchemes) :
    Asks r name (.error (.badRef (.unresolved ("#/components/securitySchemes/" ++ name))))
  /-- An HTTP scheme asks for an authorization header with its own keyword. -/
  | http {s : SecurityScheme} (hs : Entries.find? name r.components.securitySchemes = some s)
    (ht : s.type = .http) :
    Asks r name (.ok (some
      { name := "authorization", location := .header, scheme := name, type := s.type
        httpScheme := s.scheme.map (·.map Char.toLower) }))
  /-- OAuth and OpenID Connect ask for an authorization header with a bearer token. -/
  | bearer {s : SecurityScheme} (hs : Entries.find? name r.components.securitySchemes = some s)
    (ht : s.type = .oauth2 ∨ s.type = .openIdConnect) :
    Asks r name (.ok (some
      { name := "authorization", location := .header, scheme := name, type := s.type
        httpScheme := some "bearer" }))
  /-- An API key travels where the scheme says. -/
  | apiKey {s : SecurityScheme} {location : KeyLocation} {key : String}
    (hs : Entries.find? name r.components.securitySchemes = some s) (ht : s.type = .apiKey)
    (hl : s.location = some location) (hk : s.name = some key) (hb : ¬ Credential.Blank key) :
    Asks r name (.ok (some { name := key, location, scheme := name, type := .apiKey }))
  /-- An API key without a location is an error. -/
  | noLocation {s : SecurityScheme} (hs : Entries.find? name r.components.securitySchemes = some s)
    (ht : s.type = .apiKey) (hl : s.location = none) :
    Asks r name (.error (.missingField name "in"))
  /-- An API key without a name that is not blank is an error. -/
  | noName {s : SecurityScheme} {location : KeyLocation}
    (hs : Entries.find? name r.components.securitySchemes = some s) (ht : s.type = .apiKey)
    (hl : s.location = some location) (hk : ∀ key ∈ s.name, Credential.Blank key) :
    Asks r name (.error (.missingField name "name"))
  /-- Mutual TLS asks for nothing in the request. -/
  | mutualTls {s : SecurityScheme} (hs : Entries.find? name r.components.securitySchemes = some s)
    (ht : s.type = .mutualTls) : Asks r name (.ok none)

/-- Whether the scheme with a name is mutual TLS. -/
def Resolver.isMutualTls (r : Resolver) (name : String) : Bool :=
  (Entries.find? name r.components.securitySchemes).any (·.type == .mutualTls)

namespace Credential

variable {r : Resolver} {name : String} {x : Except BuildError (Option Credential)}

theorem ofName_of_find? {s : SecurityScheme}
    (hs : Entries.find? name r.components.securitySchemes = some s) :
    ofName r name = ofScheme name s := by
  rw [ofName, Resolver.securityScheme, hs]
  rfl

theorem ofName_of_notMem (h : name ∉ Entries.keys r.components.securitySchemes) :
    ofName r name = .error (.badRef (.unresolved ("#/components/securitySchemes/" ++ name))) := by
  rw [ofName, Resolver.securityScheme, Entries.find?_eq_none_iff.2 h]
  rfl

/-- **What a scheme asks for** is told exactly. -/
theorem ofName_eq_iff : ofName r name = x ↔ r.Asks name x := by
  constructor
  · rintro rfl
    rcases hs : Entries.find? name r.components.securitySchemes with _ | s
    · have hn := Entries.find?_eq_none_iff.1 hs
      exact ofName_of_notMem hn ▸ .undeclared hn
    · rw [ofName_of_find? hs, ofScheme]
      cases ht : s.type with
      | http => exact .http hs ht
      | oauth2 => exact .bearer hs (.inl ht)
      | openIdConnect => exact .bearer hs (.inr ht)
      | mutualTls => exact .mutualTls hs ht
      | apiKey =>
        rcases hl : s.location with _ | location
        · exact .noLocation hs ht hl
        · rcases hk : usable? s.name with _ | key
          · exact .noName hs ht hl (usable?_eq_none_iff.1 hk)
          · obtain ⟨hk, hb⟩ := usable?_eq_some_iff.1 hk
            exact .apiKey hs ht hl hk hb
  · intro h
    cases h with
    | undeclared h => exact ofName_of_notMem h
    | http hs ht => simp [ofName_of_find? hs, ofScheme, ht, inAuthorization, authorizationHeader]
    | bearer hs ht =>
      rcases ht with ht | ht <;>
        simp [ofName_of_find? hs, ofScheme, ht, inAuthorization, authorizationHeader]
    | apiKey hs ht hl hk hb =>
      simp [ofName_of_find? hs, ofScheme, ht, hl, usable?_eq_some_iff.2 ⟨hk, hb⟩]
    | noLocation hs ht hl => simp [ofName_of_find? hs, ofScheme, ht, hl]
    | noName hs ht hl hk =>
      simp [ofName_of_find? hs, ofScheme, ht, hl, usable?_eq_none_iff.2 hk]
    | mutualTls hs ht => simp [ofName_of_find? hs, ofScheme, ht]

theorem required_of_asks {c : Credential} (h : r.Asks name (.ok (some c))) : c.required = false := by
  cases h <;> rfl

theorem isMutualTls_iff : r.isMutualTls name = true ↔ r.Asks name (.ok none) := by
  constructor
  · intro h
    obtain ⟨s, hs, ht⟩ := (Option.any_eq_true _ _).1 h
    exact .mutualTls hs (beq_iff_eq.1 ht)
  · intro h
    cases h with
    | mutualTls hs ht => simp [Resolver.isMutualTls, hs, ht]

/-! ### Levels -/

theorem snd_addLevel_eq (r : Resolver) (operation : String) (cs : List Credential)
    (requirements : List SecurityRequirement) :
    (addLevel r operation cs requirements).2 = ((firstSchemes requirements).mapM (ofName r)).map
      fun asked => asked.reduceOption.foldl keepFirst cs := by
  induction requirements generalizing cs with
  | nil => rfl
  | cons requirement rest ih =>
    cases requirement with
    | nil => exact ih cs
    | cons first more =>
      obtain ⟨scheme, scopes⟩ := first
      have hfirst : firstSchemes (((scheme, scopes) :: more) :: rest) = scheme :: firstSchemes rest :=
        rfl
      rw [addLevel, hfirst, List.mapM_cons]
      rcases ofName r scheme with err | _ | c
      · rfl
      · refine (ih cs).trans ?_
        rcases (firstSchemes rest).mapM (ofName r) with err | asked <;> rfl
      · refine (ih (keepFirst cs c)).trans ?_
        rcases (firstSchemes rest).mapM (ofName r) with err | asked <;> rfl

/-- Mutual TLS is noted for each scheme up to the first one that fails. -/
theorem fst_addLevel_eq (r : Resolver) (operation : String) (cs : List Credential)
    (requirements : List SecurityRequirement) :
    (addLevel r operation cs requirements).1 =
      (((firstSchemes requirements).takeWhile r.grants).filter r.isMutualTls).map
        (mutualTlsNote operation) := by
  induction requirements generalizing cs with
  | nil => rfl
  | cons requirement rest ih =>
    cases requirement with
    | nil => exact ih cs
    | cons first more =>
      obtain ⟨scheme, scopes⟩ := first
      have hfirst : firstSchemes (((scheme, scopes) :: more) :: rest) = scheme :: firstSchemes rest :=
        rfl
      have hgrants := isOk_ofName r scheme
      have htls : r.isMutualTls scheme = true ↔ ofName r scheme = .ok none :=
        isMutualTls_iff.trans ofName_eq_iff.symm
      rw [addLevel, hfirst, List.takeWhile_cons, ← hgrants]
      rcases hx : ofName r scheme with err | _ | c
      · rfl
      · have htls : r.isMutualTls scheme = true := htls.2 hx
        simp [Except.isOk, Except.toBool, htls, ih]
      · have htls : r.isMutualTls scheme = false := by
          rw [← Bool.not_eq_true, htls, hx]
          simp
        simp [Except.isOk, Except.toBool, htls, ih]

/-! ### Both levels -/

section Compose

variable {ofDocument : List SecurityRequirement} {ofOperation : Option (List SecurityRequirement)}
  {operation : String}

/-- The schemes that count for an operation: those of the document and its own ones. -/
def countingSchemes (ofDocument : List SecurityRequirement)
    (ofOperation : Option (List SecurityRequirement)) : List String :=
  firstSchemes ofDocument ++ firstSchemes (ofOperation.getD [])

/-- Composing asks the schemes of both levels and puts the credentials of the operation over those of
the document. -/
theorem snd_compose_eq (r : Resolver) (ofDocument : List SecurityRequirement)
    (ofOperation : Option (List SecurityRequirement)) (operation : String) :
    (compose r ofDocument ofOperation operation).2 = do
      let shared ← (firstSchemes ofDocument).mapM (ofName r)
      let own ← (firstSchemes (ofOperation.getD [])).mapM (ofName r)
      return override (shared.reduceOption.foldl keepFirst [])
        (own.reduceOption.foldl keepFirst []) := by
  have hshared := snd_addLevel_eq r operation [] ofDocument
  have hown := snd_addLevel_eq r operation [] (ofOperation.getD [])
  unfold compose
  rcases hx : addLevel r operation [] ofDocument with ⟨notes, result⟩
  rw [hx] at hshared
  obtain rfl : result = _ := hshared
  rcases (firstSchemes ofDocument).mapM (ofName r) with err | shared
  · rfl
  · rcases ofOperation with _ | requirements
    · rfl
    · rw [Option.getD_some] at hown ⊢
      simp only [Except.map, hown]
      rcases (firstSchemes requirements).mapM (ofName r) with err | own <;> rfl

theorem fst_compose_eq (r : Resolver) (ofDocument : List SecurityRequirement)
    (ofOperation : Option (List SecurityRequirement)) (operation : String) :
    (compose r ofDocument ofOperation operation).1 =
      (((countingSchemes ofDocument ofOperation).takeWhile r.grants).filter r.isMutualTls).map
        (mutualTlsNote operation) := by
  have hnotes := fst_addLevel_eq r operation [] ofDocument
  have hok := isOk_addLevel r operation [] ofDocument
  unfold compose
  rcases hx : addLevel r operation [] ofDocument with ⟨notes, err | cs⟩
  · -- the schemes of the operation are not asked after one of the document has failed
    rw [hx] at hnotes hok
    obtain rfl : notes = _ := hnotes
    have hfails : ¬ ∀ name ∈ firstSchemes ofDocument, r.grants name = true := by
      rw [← List.all_eq_true, ← hok]
      simp [Except.isOk, Except.toBool]
    have hlength : ((firstSchemes ofDocument).takeWhile r.grants).length ≠
        (firstSchemes ofDocument).length := fun h =>
      hfails (List.takeWhile_eq_self_iff.1 ((List.takeWhile_prefix _).eq_of_length h))
    rw [countingSchemes, List.takeWhile_append, if_neg hlength]
  · rw [hx] at hnotes hok
    obtain rfl : notes = _ := hnotes
    have hall : ∀ name ∈ firstSchemes ofDocument, r.grants name = true :=
      List.all_eq_true.1 hok.symm
    rw [countingSchemes, List.takeWhile_append_of_pos hall, List.filter_append, List.map_append,
      List.takeWhile_eq_self_iff.2 hall]
    rcases ofOperation with _ | requirements
    · simp [firstSchemes]
    · simp [fst_addLevel_eq]

theorem snd_compose_eq_error_iff {err : BuildError} :
    (compose r ofDocument ofOperation operation).2 = .error err ↔
      FirstError r.Asks (countingSchemes ofDocument ofOperation) err := by
  have hasks : r.Asks = fun name x => ofName r name = x :=
    funext fun name => funext fun x => propext ofName_eq_iff.symm
  rw [hasks, ← mapM_eq_error_iff, countingSchemes, List.mapM_append, snd_compose_eq]
  rcases (firstSchemes ofDocument).mapM (ofName r) with e | shared
  · simp [bind, Except.bind]
  · rcases (firstSchemes (ofOperation.getD [])).mapM (ofName r) with e | own <;>
      simp [bind, Except.bind, pure, Except.pure]

/-- What stands in the slots of a request: the credentials of the operation are `own` and those of
the document are `shared`, each as its scheme asks for it. -/
structure FillsSlots (shared own cs : List Credential) : Prop where
  /-- No two credentials take the same slot. -/
  nodup : (cs.map slot).Nodup
  /-- The slots are those that are asked for, in the order in which they first come, with the
  document before the operation. -/
  slots_eq : cs.map slot = ((shared ++ own).map slot).eraseDups
  /-- In each slot stands the first credential of the operation if there is one, or else the first
  one of the document. -/
  first : ∀ c ∈ cs, FirstOf slot (own ++ shared) c
  /-- No credential is required. -/
  optional : ∀ c ∈ cs, c.required = false

/-- The credentials of each level go first for their slots, and those of the operation go before
those of the document. -/
theorem firstOf_of_mem_override {shared own : List Credential} {c : Credential}
    (h : c ∈ override (shared.foldl keepFirst []) (own.foldl keepFirst [])) :
    FirstOf slot (own ++ shared) c := by
  have hshared := firsts_keepFirst shared
  have hown := firsts_keepFirst own
  rw [firstOf_append, ← hown.mem_iff, ← hshared.mem_iff, ← hown.mem_keys_iff]
  rcases lastOf_append.1 (((lasts_override hshared.nodup _).mem_iff c).1 h) with hc | ⟨hc, hslot⟩
  · exact .inl hc.mem
  · exact .inr ⟨hc.mem, hslot⟩

theorem slots_override (shared own : List Credential) :
    (override (shared.foldl keepFirst []) (own.foldl keepFirst [])).map slot =
      ((shared ++ own).map slot).eraseDups := by
  have hshared := firsts_keepFirst shared
  have hown := firsts_keepFirst own
  rw [(lasts_override hshared.nodup _).keys_eq, List.map_append, hshared.keys_eq, hown.keys_eq,
    eraseDups_append_eraseDups, List.map_append]

theorem exists_override_of_compose {cs : List Credential}
    (h : (compose r ofDocument ofOperation operation).2 = .ok cs) :
    ∃ shared own,
      List.Forall₂ (fun name c => r.Asks name (.ok c)) (firstSchemes ofDocument) shared ∧
      List.Forall₂ (fun name c => r.Asks name (.ok c)) (firstSchemes (ofOperation.getD [])) own ∧
      override (shared.reduceOption.foldl keepFirst []) (own.reduceOption.foldl keepFirst []) =
        cs := by
  rw [snd_compose_eq, bind_eq_ok_iff] at h
  obtain ⟨shared, hshared, h⟩ := h
  obtain ⟨own, hown, h⟩ := bind_eq_ok_iff.1 h
  simp only [mapM_eq_ok_iff, ofName_eq_iff] at hshared hown
  exact ⟨shared, own, hshared, hown, pure_eq_ok_iff.1 h⟩

theorem nodup_slots_of_compose {cs : List Credential}
    (h : (compose r ofDocument ofOperation operation).2 = .ok cs) : (cs.map slot).Nodup := by
  obtain ⟨shared, own, -, -, rfl⟩ := exists_override_of_compose h
  exact slots_override _ _ ▸ nodup_eraseDups _

/-- **Composing credentials** fails exactly if a scheme that counts is not declared or is an API key
that lacks its location or a name that is not blank, with the error of the first such one, even if
the operation has something else in its slot.  Otherwise each slot that is asked for is filled once,
and mutual TLS is noted for each scheme of it. -/
theorem compose_fillsSlots (r : Resolver) (ofDocument : List SecurityRequirement)
    (ofOperation : Option (List SecurityRequirement)) (operation : String) :
    (∀ err, (compose r ofDocument ofOperation operation).2 = .error err ↔
      FirstError r.Asks (countingSchemes ofDocument ofOperation) err) ∧
    ∀ cs, (compose r ofDocument ofOperation operation).2 = .ok cs →
      (∃ shared own,
        List.Forall₂ (fun name c => r.Asks name (.ok c)) (firstSchemes ofDocument) shared ∧
        List.Forall₂ (fun name c => r.Asks name (.ok c)) (firstSchemes (ofOperation.getD [])) own ∧
        FillsSlots shared.reduceOption own.reduceOption cs) ∧
      (compose r ofDocument ofOperation operation).1 =
        ((countingSchemes ofDocument ofOperation).filter r.isMutualTls).map
          (mutualTlsNote operation) := by
  refine ⟨fun err => snd_compose_eq_error_iff, fun cs h => ⟨?_, ?_⟩⟩
  · have hnodup := nodup_slots_of_compose h
    obtain ⟨shared, own, hshared, hown, rfl⟩ := exists_override_of_compose h
    refine ⟨shared, own, hshared, hown, ?_⟩
    constructor
    case nodup => exact hnodup
    case slots_eq => exact slots_override _ _
    case first => exact fun c hc => firstOf_of_mem_override hc
    case optional =>
      intro c hc
      rcases List.mem_append.1 (firstOf_of_mem_override hc).mem with hm | hm
      · obtain ⟨name, -, hasks⟩ := exists_of_mem_right hown (List.reduceOption_mem_iff.1 hm)
        exact required_of_asks hasks
      · obtain ⟨name, -, hasks⟩ := exists_of_mem_right hshared (List.reduceOption_mem_iff.1 hm)
        exact required_of_asks hasks
  · have hgrants := isOk_compose r ofDocument ofOperation operation
    rw [isOk_of_eq_ok h] at hgrants
    have hall : ∀ name ∈ countingSchemes ofDocument ofOperation, r.grants name = true := by
      rw [countingSchemes, ← List.all_eq_true, List.all_append, ← hgrants]
    rw [fst_compose_eq, List.takeWhile_eq_self_iff.2 hall]

/-- Schemes two of which want the same header in other letters. -/
def vault : Resolver where
  components :=
    { securitySchemes :=
        [("session", { type := .http, scheme := some "Bearer" }),
          ("oldKey", { type := .apiKey, location := some .header, name := some "X-API-Key" }),
          ("newKey", { type := .apiKey, location := some .header, name := some "x-api-key" }),
          ("certificate", { type := .mutualTls })] }

/-- What the document requires: an old key or a session. -/
def keyOrSession : List SecurityRequirement :=
  [[("oldKey", [])], [("session", [])]]

/-- What an operation requires: nothing, a certificate, or a new key, with which the session does not
count. -/
def newKeyOnly : List SecurityRequirement :=
  [[], [("certificate", [])], [("newKey", []), ("session", [])]]

/-- What the session asks for. -/
def session : Credential where
  name := "authorization"
  location := .header
  scheme := "session"
  type := .http
  httpScheme := some ("Bearer".map Char.toLower)

/-- What the old key asks for. -/
def oldKey : Credential where
  name := "X-API-Key"
  location := .header
  scheme := "oldKey"
  type := .apiKey

/-- What the new key asks for. -/
def newKey : Credential where
  name := "x-api-key"
  location := .header
  scheme := "newKey"
  type := .apiKey

/-- The new key takes the place of the old one. -/
theorem compose_vault : (compose vault keyOrSession (some newKeyOnly) "open").2 =
    .ok [newKey, session] := by
  have hshared : (firstSchemes keyOrSession).mapM (ofName vault) =
      .ok [some oldKey, some session] := rfl
  have hown : (firstSchemes newKeyOnly).mapM (ofName vault) = .ok [none, some newKey] := rfl
  have hold : "X-API-Key".map Char.toLower = "x-api-key" := map_toLower_eq (by decide)
  have hnew : "x-api-key".map Char.toLower = "x-api-key" := map_toLower_eq (by decide)
  have hsession : "authorization".map Char.toLower = "authorization" := map_toLower_eq (by decide)
  have hsame : oldKey.sameSlot newKey = true := by simp [sameSlot, oldKey, newKey, hold, hnew]
  have hother : oldKey.sameSlot session = false := by
    simp [sameSlot, oldKey, session, hold, hsession]
  rw [snd_compose_eq, hshared, Option.getD_some, hown]
  refine congrArg Except.ok ?_
  simp [keepFirst, hother, override, putInPlace, hsame]

theorem compose_fillsSlots_vault :
    ∃ cs, (compose vault keyOrSession (some newKeyOnly) "open").2 = .ok cs ∧
      cs.map (·.scheme) = ["newKey", "session"] ∧
      (∃ shared own,
        List.Forall₂ (fun name c => vault.Asks name (.ok c)) (firstSchemes keyOrSession) shared ∧
        List.Forall₂ (fun name c => vault.Asks name (.ok c)) (firstSchemes newKeyOnly) own ∧
        FillsSlots shared.reduceOption own.reduceOption cs) ∧
      (compose vault keyOrSession (some newKeyOnly) "open").1 =
        [mutualTlsNote "open" "certificate"] := by
  have hlaw := (compose_fillsSlots vault keyOrSession (some newKeyOnly) "open").2 _ compose_vault
  have htls : (countingSchemes keyOrSession (some newKeyOnly)).filter vault.isMutualTls =
      ["certificate"] := by decide +kernel
  rw [htls, List.map_singleton] at hlaw
  exact ⟨_, compose_vault, rfl, hlaw.1, hlaw.2⟩

end Compose

end Credential

end ApiModel
