import ApiModel.Endpoint.Input
import ApiModel.Proofs.Pointwise
import ApiModel.Proofs.Schemas.Allocation

/-!
# Registering the inputs of an endpoint

For every content type of its request body an endpoint registers one input schema, under a new name.
`Endpoint.registerInputs_content` says so of a whole request body: which content types get an input,
which body fields each input is made from, under which name the registry then holds it, and that the
body refers to it by this name.
-/

namespace ApiModel

namespace Endpoint

variable {e : Endpoint} {c : Components} {required : Bool} {d d' : Draft}

/-- The content for which inputs are registered: that of the body, or an empty media type under a
content type of its own. -/
def inputContent (body : RequestBody) : List (String × MediaType) :=
  if body.content.isEmpty then [(noBodyContentType, {})] else body.content

/-- A draft holds the input for a media type under a name.  The body fields are those that the media
type had when the registry was shorter. -/
def HasInput (e : Endpoint) (c : Components) (required : Bool) (d : Draft)
    (content : String × MediaType) (input : String × String) : Prop :=
  input.1 = content.1 ∧
    ∃ table fields notes, table <+: d.registry.entries ∧
      e.bodyFields ⟨c, table⟩ required content.1 content.2 = .ok (fields, notes) ∧
      d.registry.find? input.2 = some (.inline (Input.ofEndpoint e fields).toSchema)

theorem HasInput.adds {names : List String} {content : String × MediaType}
    {input : String × String} (h : e.HasInput c required d content input)
    (ha : d.Adds d' names) : e.HasInput c required d' content input := by
  obtain ⟨hc, table, fields, notes, ht, hb, hf⟩ := h
  refine ⟨hc, table, fields, notes, ht.trans ha.entries_prefix, hb, ?_⟩
  obtain ⟨new, he, -⟩ := ha.entries
  rw [Registry.find?, he]
  exact Entries.find?_append_of_some hf

theorem registerInput_outcome (e : Endpoint) (d : Draft) (b : BodyFields) :
    Outcome BuildError.NotTaken
      (fun r => d.Adds r.2 [r.1] ∧
        r.2.registry.find? r.1 = some (.inline (Input.ofEndpoint e b).toSchema))
      (e.registerInput d b) := by
  refine (Draft.register_outcome _ _ _).mono fun r ⟨ha, hr⟩ => ?_
  refine ⟨(Draft.adds_note d _).trans ha, ?_⟩
  have hf := Entries.find?_eq_none_iff.2 (ha.fresh r.1 List.mem_cons_self)
  rw [hr]
  change Entries.find? r.1 (_ ++ [(r.1, _)]) = _
  rw [Entries.find?_append, hf]
  simp [Entries.find?]

/-- **Every media type gets its own input**, and the media types come back with references to
them. -/
theorem registerContent_outcome (e : Endpoint) (c : Components) (required : Bool)
    (content : List (String × MediaType)) (d : Draft) :
    Outcome BuildError.NotTaken
      (fun r => d.Adds r.2.2 (r.1.map (·.2)) ∧
        List.Forall₂ (e.HasInput c required r.2.2) content r.1 ∧
        r.2.1 = List.zipWith (fun m n => (m.1, pointAt m.2 n.2)) content r.1)
      (e.registerContent c required d content) := by
  induction content generalizing d with
  | nil => exact .ok ⟨Draft.Adds.refl d, .nil, rfl⟩
  | cons m rest ih =>
    obtain ⟨contentType, media⟩ := m
    refine (liftRef_outcome _).bind ?_
    rintro ⟨fields, notes⟩ hb
    refine (registerInput_outcome e (d.note notes) fields).bind ?_
    rintro ⟨name, d₁⟩ ⟨ha, hf⟩
    refine (ih d₁).bind ?_
    rintro ⟨names, content', d₂⟩ ⟨hr, hall, hz⟩
    -- the input that was registered first is still there in the end
    have hd := (Draft.adds_note d notes).trans ha
    refine .ok ⟨hd.trans hr, .cons ?_ hall, congrArg (List.cons _) hz⟩
    exact HasInput.adds ⟨rfl, _, fields, notes, hd.entries_prefix, hb, hf⟩ hr

/-- **The inputs of a request body**: one for each of its media types, or one of no media type.  The
body comes back with references to them. -/
theorem registerInputs_content (e : Endpoint) (c : Components) (d : Draft) (op : Operation) :
    Outcome BuildError.NotTaken
      (fun r => d.Adds r.2.2 (r.1.map (·.2)) ∧
        ∃ declared, declaredBody d c op = .ok declared ∧
          List.Forall₂ (e.HasInput c (declared.getD {}).required r.2.2)
            (inputContent (declared.getD {})) r.1 ∧
          r.2.1.content = List.zipWith (fun m n => (m.1, pointAt m.2 n.2))
            (inputContent (declared.getD {})) r.1)
      (e.registerInputs c d op) := by
  refine (liftRef_outcome _).bind fun declared hd => ?_
  by_cases hc : (declared.getD {}).content.isEmpty
  · simp only [hc, if_true]
    refine (registerInput_outcome e d {}).bind ?_
    rintro ⟨name, d₁⟩ ⟨ha, hf⟩
    refine .ok ⟨ha, declared, hd, ?_⟩
    rw [inputContent, if_pos hc]
    exact ⟨.cons ⟨rfl, d.registry.entries, {}, _, ha.entries_prefix, rfl, hf⟩ .nil, rfl⟩
  · simp only [hc]
    refine (registerContent_outcome e c _ _ d).bind ?_
    rintro ⟨names, content, d₁⟩ ⟨ha, hall, hz⟩
    refine .ok ⟨ha, declared, hd, ?_⟩
    rw [inputContent, if_neg hc]
    exact ⟨hall, hz⟩

theorem registerInputs_outcome (e : Endpoint) (c : Components) (d : Draft) (op : Operation) :
    Outcome BuildError.NotTaken
      (fun r => d.Adds r.2.2 (r.1.map (·.2)) ∧
        ∃ declared, declaredBody d c op = .ok declared ∧
          List.Forall₂ (e.HasInput c (declared.getD {}).required r.2.2)
            (inputContent (declared.getD {})) r.1)
      (e.registerInputs c d op) :=
  (registerInputs_content e c d op).mono
    fun _ ⟨ha, declared, hd, hall, _⟩ => ⟨ha, declared, hd, hall⟩

end Endpoint

end ApiModel
