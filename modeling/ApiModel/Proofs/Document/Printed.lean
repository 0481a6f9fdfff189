import ApiModel.Document.Parse
import ApiModel.Proofs.Document.Schema

/-!
# Printed documents

A document that was read from a JSON text and printed is read back as the same document, with all maps
in the same order (`Document.parse_compact`).  Each part of a document is read back by itself, record
by record.  A request body and the paths are printed even when the text left them out, so these records
need some levels below them; they stand so far from the innermost level that there is room for what is
written.
-/

namespace ApiModel

open ApiModel.Tree Json

variable {n : Nat}

theorem Info.faithful : Faithful n ofTree? toJson := by
  intro t i ht h
  simp only [ofTree?, Option.bind_eq_bind, Option.bind_eq_some_iff] at h
  obtain ⟨r, hr, title, htitle, description, hdescription, version, hversion, h⟩ := h
  cases h
  obtain ⟨m, rfl, hf⟩ := ht.fields hr
  have hmembers := (Presents.required hf faithful_string htitle)
    |>.append (.optional hf faithful_string hdescription)
    |>.append (.required hf faithful_string hversion)
  refine hmembers.returns outline.names rfl (by decide) rfl ?_
  intro r hr h
  simp [ofTree?, hr, h]

theorem Server.faithful : Faithful n ofTree? toJson := by
  intro t s ht h
  simp only [ofTree?, Option.bind_eq_bind, Option.bind_eq_some_iff] at h
  obtain ⟨r, hr, url, hurl, description, hdescription, placeholders, hplaceholders, h⟩ := h
  cases h
  obtain ⟨m, rfl, hf⟩ := ht.fields hr
  have hmembers := (Presents.required hf faithful_string hurl)
    |>.append (.optional hf faithful_string hdescription)
    |>.append (.entries hf (fun _ _ => faithful_json) hplaceholders)
  refine hmembers.returns outline.names rfl (by decide) rfl ?_
  intro r hr h
  simp [ofTree?, hr, h]

theorem Tag.faithful : Faithful n ofTree? toJson := by
  intro t tag ht h
  simp only [ofTree?, Option.bind_eq_bind, Option.bind_eq_some_iff] at h
  obtain ⟨r, hr, name, hname, description, hdescription, h⟩ := h
  cases h
  obtain ⟨m, rfl, hf⟩ := ht.fields hr
  have hmembers := (Presents.required hf faithful_string hname)
    |>.append (.optional hf faithful_string hdescription)
  refine hmembers.returns outline.names rfl (by decide) rfl ?_
  intro r hr h
  simp [ofTree?, hr, h]

theorem SecurityRequirement.faithful_list : Faithful n listOfTree? listToJson :=
  Faithful.list fun _ _ => Faithful.entries fun _ _ => Faithful.list fun _ _ => faithful_string

theorem SchemeType.faithful : Faithful n (choice? names) fun t => .string t.name :=
  faithful_choice fun t => by cases t <;> rfl

theorem KeyLocation.faithful : Faithful n (choice? names) fun l => .string l.name :=
  faithful_choice fun l => by cases l <;> rfl

theorem SecurityScheme.faithful : Faithful n ofTree? toJson := by
  intro t s ht h
  simp only [ofTree?, Option.bind_eq_bind, Option.bind_eq_some_iff] at h
  obtain ⟨r, hr, type, htype, description, hdescription, name, hname, location, hlocation, scheme,
    hscheme, bearerFormat, hbearerFormat, flows, hflows, url, hurl, h⟩ := h
  cases h
  obtain ⟨m, rfl, hf⟩ := ht.fields hr
  have hmembers := (Presents.required hf SchemeType.faithful htype)
    |>.append (.optional hf faithful_string hdescription)
    |>.append (.optional hf faithful_string hname)
    |>.append (.optional hf KeyLocation.faithful hlocation)
    |>.append (.optional hf faithful_string hscheme)
    |>.append (.optional hf faithful_string hbearerFormat)
    |>.append (.optional hf faithful_json hflows)
    |>.append (.optional hf faithful_string hurl)
  refine hmembers.returns outline.names rfl (by decide) rfl ?_
  intro r hr h
  simp [ofTree?, hr, h]

/-! ### What may be a reference -/

theorem ParameterLocation.faithful : Faithful n (choice? names) fun l => .string l.name :=
  faithful_choice fun l => by cases l <;> rfl

namespace Parameter

theorem faithful : Faithful n ofTree? toJson := by
  intro t p ht h
  simp only [ofTree?, Option.bind_eq_bind, Option.bind_eq_some_iff] at h
  obtain ⟨r, hr, name, hname, location, hlocation, description, hdescription, required, hrequired,
    deprecated, hdeprecated, schema, hschema, style, hstyle, explode, hexplode, h⟩ := h
  cases h
  obtain ⟨m, rfl, hf⟩ := ht.fields hr
  have hmembers := (Presents.required hf faithful_string hname)
    |>.append (.required hf ParameterLocation.faithful hlocation)
    |>.append (.optional hf faithful_string hdescription)
    |>.append (.always hf faithful_bool (.bool false) rfl hrequired)
    |>.append (.optional hf faithful_bool hdeprecated)
    |>.append (.optional hf Schema.faithful hschema)
    |>.append (.optional hf faithful_string hstyle)
    |>.append (.optional hf faithful_bool hexplode)
  refine hmembers.returns
    ["name", "in", "description", "required", "deprecated", "schema", "style", "explode"] rfl
    (by decide) rfl ?_
  intro r hr h
  simp [ofTree?, hr, h]

/-- **Parameters and references to them.** -/
theorem faithful_ref : Faithful n refOfTree? (OrRef.toJson toJson) :=
  OrRef.faithful faithful fun p => pointer?_object <| by
    simp [notMem_keys_member, notMem_keys_optionalMember]

end Parameter

theorem MediaType.faithful : Faithful n ofTree? toJson := by
  intro t type ht h
  simp only [ofTree?, Option.bind_eq_bind, Option.bind_eq_some_iff] at h
  obtain ⟨r, hr, schema, hschema, encoding, hencoding, sample, hsample, h⟩ := h
  cases h
  obtain ⟨m, rfl, hf⟩ := ht.fields hr
  have hmembers := (Presents.optional hf Schema.faithful hschema)
    |>.append (.entries hf (fun _ _ => faithful_json) hencoding)
    |>.append (.optional hf faithful_json hsample)
  refine hmembers.returns ["schema", "encoding", "example"] rfl (by decide) rfl ?_
  intro r hr h
  simp [ofTree?, hr, h]

namespace RequestBody

/-- A request body always has a content, so it needs a level for that. -/
theorem faithful (hn : 2 ≤ n) : Faithful n ofTree? toJson := by
  intro t b ht h
  simp only [ofTree?, Option.bind_eq_bind, Option.bind_eq_some_iff] at h
  obtain ⟨r, hr, description, hdescription, content, hcontent, required, hrequired, h⟩ := h
  cases h
  obtain ⟨m, rfl, hf⟩ := ht.fields hr
  obtain ⟨k, rfl⟩ : ∃ k, m = k + 1 := ⟨m - 1, by omega⟩
  have hmembers := (Presents.optional hf faithful_string hdescription)
    |>.append (.always hf (Faithful.entries fun _ _ => MediaType.faithful) (.object (by simp)) rfl
      hcontent)
    |>.append (.always hf faithful_bool (.bool false) rfl hrequired)
  refine hmembers.returns ["description", "content", "required"] rfl (by decide) rfl ?_
  intro r hr h
  simp [ofTree?, hr, h]

/-- **Request bodies and references to them.** -/
theorem faithful_ref (hn : 2 ≤ n) : Faithful n refOfTree? (OrRef.toJson toJson) :=
  OrRef.faithful (faithful hn) fun b => pointer?_object <| by
    simp [notMem_keys_member, notMem_keys_optionalMember]

end RequestBody

namespace Response

theorem faithful : Faithful n ofTree? toJson := by
  intro t s ht h
  simp only [ofTree?, Option.bind_eq_bind, Option.bind_eq_some_iff] at h
  obtain ⟨r, hr, description, hdescription, content, hcontent, headers, hheaders, h⟩ := h
  cases h
  obtain ⟨m, rfl, hf⟩ := ht.fields hr
  have hmembers := (Presents.always hf faithful_string (.string "") rfl hdescription)
    |>.append (.entries hf (fun _ _ => MediaType.faithful) hcontent)
    |>.append (.entries hf (fun _ _ => faithful_json) hheaders)
  refine hmembers.returns ["description", "content", "headers"] rfl (by decide) rfl ?_
  intro r hr h
  simp [ofTree?, hr, h]

/-- **Responses and references to them.** -/
theorem faithful_ref : Faithful n refOfTree? (OrRef.toJson toJson) :=
  OrRef.faithful faithful fun r => pointer?_object <| by
    simp [notMem_keys_member, notMem_keys_mapMember]

end Response

/-! ### Operations and paths -/

theorem Operation.faithful (hn : 3 ≤ n) : Faithful n ofTree? toJson := by
  intro t op ht h
  simp only [ofTree?, Option.bind_eq_bind, Option.bind_eq_some_iff] at h
  obtain ⟨r, hr, operationId, hoperationId, summary, hsummary, description, hdescription, tags, htags,
    parameters, hparameters, requestBody, hrequestBody, responses, hresponses, deprecated,
    hdeprecated, security, hsecurity, h⟩ := h
  cases h
  obtain ⟨m, rfl, hf⟩ := ht.fields hr
  have hmembers := (Presents.optional hf faithful_string hoperationId)
    |>.append (.optional hf faithful_string hsummary)
    |>.append (.optional hf faithful_string hdescription)
    |>.append (.list hf (fun _ _ => faithful_string) htags)
    |>.append (.list hf (fun _ _ => Parameter.faithful_ref) hparameters)
    |>.append (.optional hf (RequestBody.faithful_ref (by omega)) hrequestBody)
    |>.append (.entries hf (fun _ _ => Response.faithful_ref) hresponses)
    |>.append (.optional hf faithful_bool hdeprecated)
    |>.append (.optional hf SecurityRequirement.faithful_list hsecurity)
  refine hmembers.returns outline.names rfl (by decide) rfl ?_
  intro r hr h
  simp [ofTree?, hr, h]

namespace PathItem

/-- The operations present the methods. -/
theorem presents_operations {m : Nat} (hm : 3 ≤ m) {r : Record}
    (hf : ∀ f ∈ r.fields, f.2.Within m) {methods : List Method}
    {ops : List (Method × Operation)} (h : operationsOf? r methods = some ops) :
    Presents m (methods.map Method.lowerName)
      (ops.map fun op => (op.1.lowerName, op.2.toJson)) (operationsOf? · methods = some ops) := by
  induction methods generalizing ops with
  | nil =>
    cases h
    exact ⟨List.Sublist.refl _, by simp, fun _ _ _ => rfl⟩
  | cons method methods ih =>
    simp only [operationsOf?, Option.bind_eq_bind, Option.bind_eq_some_iff] at h
    obtain ⟨op, hop, later, hlater, h⟩ := h
    have hmembers := (Presents.optional hf (Operation.faithful hm) hop).append (ih hlater)
    cases op with
    | none =>
      cases h
      refine hmembers.imp fun r h => ?_
      simp [operationsOf?, h]
    | some op =>
      cases h
      refine hmembers.imp fun r h => ?_
      simp [operationsOf?, h]

theorem faithful (hn : 4 ≤ n) : Faithful n ofTree? toJson := by
  intro t item ht h
  simp only [ofTree?, Option.bind_eq_bind, Option.bind_eq_some_iff] at h
  obtain ⟨r, hr, summary, hsummary, description, hdescription, parameters, hparameters, operations,
    hoperations, h⟩ := h
  cases h
  obtain ⟨m, rfl, hf⟩ := ht.fields hr
  have hmembers := (Presents.optional hf faithful_string hsummary)
    |>.append (.optional hf faithful_string hdescription)
    |>.append (.list hf (fun _ _ => Parameter.faithful_ref) hparameters)
    |>.append (presents_operations (by omega) hf hoperations)
  refine hmembers.returns outline.names rfl (by decide) rfl ?_
  intro r hr h
  simp [ofTree?, hr, h]

end PathItem

/-! ### Documents -/

theorem Components.faithful (hn : 4 ≤ n) : Faithful n ofTree? toJson := by
  intro t c ht h
  simp only [ofTree?, Option.bind_eq_bind, Option.bind_eq_some_iff] at h
  obtain ⟨r, hr, schemas, hschemas, responses, hresponses, parameters, hparameters, requestBodies,
    hrequestBodies, securitySchemes, hsecuritySchemes, h⟩ := h
  cases h
  obtain ⟨m, rfl, hf⟩ := ht.fields hr
  have hmembers := (Presents.entries hf (fun _ _ => Schema.faithful) hschemas)
    |>.append (.entries hf (fun _ _ => Response.faithful_ref) hresponses)
    |>.append (.entries hf (fun _ _ => Parameter.faithful_ref) hparameters)
    |>.append (.entries hf (fun k hk => RequestBody.faithful_ref (by omega)) hrequestBodies)
    |>.append (.entries hf (fun _ _ => SecurityScheme.faithful) hsecuritySchemes)
  refine hmembers.returns outline.names rfl (by decide) rfl ?_
  intro r hr h
  simp [ofTree?, hr, h]

namespace Document

theorem faithful (hn : 6 ≤ n) : Faithful n ofTree? toJson := by
  intro t d ht h
  simp only [ofTree?, Option.bind_eq_bind, Option.bind_eq_some_iff] at h
  obtain ⟨r, hr, openapi, hopenapi, info, hinfo, servers, hservers, paths, hpaths, components,
    hcomponents, tags, htags, security, hsecurity, h⟩ := h
  cases h
  obtain ⟨m, rfl, hf⟩ := ht.fields hr
  obtain ⟨k, rfl⟩ : ∃ k, m = k + 1 := ⟨m - 1, by omega⟩
  have hitems (j : Nat) (hj : k + 1 = j + 1) : Faithful j PathItem.ofTree? PathItem.toJson :=
    PathItem.faithful (by omega)
  have hmembers := (Presents.required hf faithful_string hopenapi)
    |>.append (.required hf Info.faithful hinfo)
    |>.append (.list hf (fun _ _ => Server.faithful) hservers)
    |>.append (.always hf (Faithful.entries hitems) (.object (by simp)) rfl hpaths)
    |>.append (.optional hf (Components.faithful (by omega)) hcomponents)
    |>.append (.list hf (fun _ _ => Tag.faithful) htags)
    |>.append (.optional hf SecurityRequirement.faithful_list hsecurity)
  refine hmembers.returns outline.names rfl (by decide) rfl ?_
  intro r hr h
  simp [ofTree?, hr, h]

/-- A document is parsed from a JSON text if its tree is read as one and its version is supported. -/
theorem parse_json_eq_ok_iff {text : String} {d : Document} :
    parse .json text = .ok d ↔
      (ofJsonText? text).bind ofTree? = some d ∧ d.openapi.startsWith "3." = true := by
  rw [parse, Syntax.tree?]
  constructor
  · intro h
    split at h
    · cases h
    · rename_i d' hd
      split_ifs at h with hversion
      cases h
      exact ⟨hd, hversion⟩
  · rintro ⟨hd, hversion⟩
    simp [hd, hversion]

/-- **Printing a document and reading it again loses nothing.**  A document that was read from a JSON
text is what its compact text says, with all maps in the same order, so the compact text is printed
again when it is read.  Numbers with a fraction have to be read back from their own texts. -/
theorem parse_compact {text : String} {d : Document} (h : parse .json text = .ok d)
    (hfloat : ∀ x, .float x ∈ d.toJson.numbers → (Json.Number.float x).ReadsBack) :
    parse .json d.toJson.compact = .ok d ∧
      (parse .json d.toJson.compact).map (·.toJson.compact) = .ok d.toJson.compact := by
  suffices hback : parse .json d.toJson.compact = .ok d from ⟨hback, by rw [hback]; rfl⟩
  obtain ⟨hd, hversion⟩ := parse_json_eq_ok_iff.1 h
  obtain ⟨t, htext, ht⟩ := Option.bind_eq_some_iff.1 hd
  have hreturns := faithful (by decide) (within_of_ofJsonText? htext) ht
  have hnested : d.toJson.Nested Json.Number.ReadsBack Json.Reader.maxLevel := by
    refine hreturns.fits.of_numbers fun x hx hvalid => ?_
    cases x with
    | int i => exact Json.Number.readsBack_int (hvalid i rfl)
    | float x => exact hfloat x hx
  have hprinted := Json.ofJsonText?_compact hnested le_rfl
  refine parse_json_eq_ok_iff.2 ⟨?_, hversion⟩
  rw [hprinted, Option.bind_some, hreturns.back]

/-- A document with a reference, a bound, a free-form value and a request body without a content, in
another order than it is printed in. -/
def orchardJson : Json :=
  let half : Json := .number (.float (.ofDecimal false 5 (-1)))
  let height : Json :=
    .object [("maximum", .null), ("minimum", half), ("type", .object [("number", .null)])]
  let graft : Json :=
    .object [("type", .string "object"), ("$ref", .string "#/components/schemas/Tree")]
  let tree : Json :=
    .object
      [("properties", .object [("height", height), ("graft", graft)]),
        ("example", .object [("name", .string "Elstar"), ("age", .number (.int 3))])]
  .object
    [("paths", .object [("/trees", .object [("post", .object [("requestBody", .object [])])])]),
      ("x-season", .number (.int 4)),
      ("components", .object [("schemas", .object [("Tree", tree)])]),
      ("info", .array [.string "Orchard", .null, .string "1"]),
      ("openapi", .string "3.1.0")]

/-- What it says. -/
def orchard : Document where
  openapi := "3.1.0"
  info := { title := "Orchard", version := "1" }
  paths := [("/trees", { operations := [(.post, { requestBody := some (.inline {}) })] })]
  components := some
    { schemas := [("Tree", .inline
        { properties :=
            [("height", .inline
                { type := some (.single .number)
                  constraints := { minimum := some (.ofDecimal false 5 (-1)) } }),
              ("graft", .ref "#/components/schemas/Tree")]
          sample := some (.object [("age", .number (.int 3)), ("name", .string "Elstar")]) })] }

theorem parse_compact_orchard :
    parse .json orchardJson.pretty = .ok orchard ∧
      (∀ x, .float x ∈ orchard.toJson.numbers → (Json.Number.float x).ReadsBack) ∧
      parse .json orchard.toJson.compact = .ok orchard ∧
      (parse .json orchard.toJson.compact).map (·.toJson.compact) = .ok orchard.toJson.compact := by
  have hparse : parse .json orchardJson.pretty = .ok orchard := by
    rw [parse_json_eq_ok_iff, Json.pretty, ofJsonText?_ofList]
    decide +kernel
  have hfloat : ∀ x, .float x ∈ orchard.toJson.numbers → (Json.Number.float x).ReadsBack := by
    intro x hx
    have hnumbers : orchard.toJson.numbers = [.float (.ofDecimal false 5 (-1)), .int 3] := by
      decide +kernel
    obtain rfl : x = .ofDecimal false 5 (-1) := by simpa [hnumbers] using hx
    have htext : (Json.Number.float (.ofDecimal false 5 (-1))).text = "0.5" := by decide +kernel
    rw [Json.Number.ReadsBack, htext]
    exact ⟨⟨false, [0], some [5], none⟩, rfl, by decide +kernel⟩
  exact ⟨hparse, hfloat, parse_compact hparse hfloat⟩

end Document

end ApiModel
