import ApiModel.Endpoint.Responses
import ApiModel.Proofs.Endpoint.Credentials
import ApiModel.Proofs.Endpoint.Input
import ApiModel.Proofs.Endpoint.Parameters
import ApiModel.Proofs.Endpoint.Registration
import ApiModel.Proofs.Schemas.Extends

/-!
# Endpoints of a document

An input is put together from the properties of a body, which are pieces of the document, and from
the schemas of parameters.  So the schemas that an endpoint registers mention nothing but what the
document mentions, and the resolver over the registry goes on extending the document
(`Resolver.Extends.registerInputs_outcome`).  What can go wrong is said by `Document.Accounts`: the
names are exhausted, or the document has a fault of its own.
-/

namespace ApiModel

namespace Document

/-- The schemes that count in the security requirements of the document and of its operations. -/
def requiredSchemes (d : Document) : List String :=
  firstSchemes d.defaultSecurity ++
    d.operations.flatMap fun o => firstSchemes (o.2.2.security.getD [])

/-- Some security requirement counts on a scheme that is not there or lacks a field. -/
def LacksScheme (d : Document) : Prop :=
  ∃ name ∈ d.requiredSchemes, d.resolver.grants name = false

/-- An error comes of a fault of the document, or of there being no more names. -/
def Accounts (d : Document) (err : BuildError) : Prop :=
  (∃ base, err = .namesExhausted base) ∨ d.Dangles ∨ d.LacksScheme

variable {d : Document}

theorem liftRef_outcome {α : Type} {P : α → Prop} {x : Except RefError α}
    (hx : Outcome (fun _ => d.Dangles) P x) : Outcome d.Accounts P (liftRef x) := by
  cases hx with
  | ok h => exact .ok h
  | error h => exact .error (.inr (.inl h))

end Document

/-- The mentions in the body of a response case. -/
def ResponseCase.mentions (c : ResponseCase) : List Mention :=
  c.body.elim [] Schema.mentionsOfRef

namespace Input

variable {e : Endpoint} {d : Document}

/-- The fields of an input mention only what the document mentions. -/
def Covered (i : Input) (d : Document) : Prop :=
  ∀ x ∈ i.fields, Schema.mentionsOfRef x.2.schema ⊆ d.mentions

theorem Covered.ofBody {b : BodyFields} (hb : d.Covers b.properties) : (ofBody b).Covered d := by
  intro x hx
  obtain ⟨e, he, rfl⟩ := List.mem_map.1 (Entries.mem_of_mem_ofPairs hx)
  exact hb e he

theorem Covered.addParameter {i : Input} (hi : i.Covered d) {p : EndpointParameter}
    (hp : p.schema.elim [] Schema.mentionsOfRef ⊆ d.mentions) : (i.addParameter e p).Covered d := by
  have hs : Schema.mentionsOfRef (p.schema.getD (.inline {})) ⊆ d.mentions := by
    cases hs : p.schema with
    | none => exact List.nil_subset _
    | some s =>
      rw [hs] at hp
      exact hp
  intro x hx
  rcases Entries.mem_of_mem_insert hx with rfl | hx
  · exact hs
  · exact hi x hx

theorem Covered.addParameters {i : Input} (hi : i.Covered d) {ps : List EndpointParameter}
    (hps : ∀ p ∈ ps, p.schema.elim [] Schema.mentionsOfRef ⊆ d.mentions) :
    (addParameters e i ps).Covered d := by
  induction ps generalizing i with
  | nil => exact hi
  | cons p ps ih =>
    rw [List.forall_mem_cons] at hps
    exact ih (hi.addParameter hps.1) hps.2

theorem Covered.addCredentials {i : Input} (hi : i.Covered d) (cs : List Credential) :
    (cs.foldl (Input.addCredential e) i).Covered d := by
  obtain ⟨added, dropped, -, heq⟩ := exists_addCredentials_eq e i cs
  intro x hx
  rw [heq] at hx
  rcases List.mem_append.1 hx with hx | hx
  · exact hi x hx
  · obtain ⟨c, -, rfl⟩ := List.mem_map.1 hx
    exact List.nil_subset _

/-- The mentions in the schema of an input are those in its fields. -/
theorem Covered.toSchema {i : Input} (hi : i.Covered d) : i.toSchema.mentions ⊆ d.mentions := by
  have hm : i.toSchema.mentions = i.fields.flatMap fun x => Schema.mentionsOfRef x.2.schema := by
    rw [Schema.mentions_eq]
    simp [Input.toSchema, Schema.emptyObject, List.flatMap_map, Schema.mentionsOfItems,
      Schema.mentionsOfAdditional]
  rw [hm]
  intro u hu
  obtain ⟨x, hx, hu⟩ := List.mem_flatMap.1 hu
  exact hi x hx hu

/-- **An input mentions nothing but what its body and its parameters mention.** -/
theorem Covered.ofEndpoint {b : BodyFields} (hb : d.Covers b.properties)
    (hps : ∀ p ∈ e.parameters, p.schema.elim [] Schema.mentionsOfRef ⊆ d.mentions) :
    (ofEndpoint e b).Covered d := by
  rw [ofEndpoint_eq]
  exact ((Covered.ofBody hb).addParameters hps).addCredentials _

end Input

namespace Resolver.Extends

variable {d : Document} {r : Resolver} {e : Endpoint} {draft : Draft} {c : Components}

/-! ### Parameters -/

theorem mergeInto_outcome (h : r.Extends d) {merged : List Parameter}
    {declared : List (OrRef Parameter)} (hm : ∀ p ∈ merged, p.mentions ⊆ d.mentions)
    (hd : Parameter.mentionsOfList declared ⊆ d.mentions) :
    Outcome (fun _ => d.Dangles) (fun ps => ∀ p ∈ ps, p.mentions ⊆ d.mentions)
      (Parameter.mergeInto r merged declared) := by
  induction declared generalizing merged with
  | nil => exact .ok hm
  | cons s rest ih =>
    rw [Parameter.mentionsOfList, List.flatMap_cons, List.append_subset] at hd
    refine (h.parameter_outcome hd.1).bind fun p hp => ih ?_ hd.2
    intro q hq
    rcases mem_of_mem_putInPlace hq with rfl | hq
    · exact hp
    · exact hm q hq

/-- **Merging parameters** of the document. -/
theorem merge_parameters_outcome (h : r.Extends d) {ofPath ofOperation : List (OrRef Parameter)}
    (hp : Parameter.mentionsOfList ofPath ⊆ d.mentions)
    (ho : Parameter.mentionsOfList ofOperation ⊆ d.mentions) :
    Outcome (fun _ => d.Dangles) (fun ps => ∀ p ∈ ps, p.mentions ⊆ d.mentions)
      (Parameter.merge r ofPath ofOperation) := by
  refine h.mergeInto_outcome (by simp) ?_
  rw [Parameter.mentionsOfList, List.flatMap_append]
  exact List.append_subset.2 ⟨hp, ho⟩

/-! ### Responses -/

theorem mentions_ofResponse_subset {status : String} {response : Response} {c : ResponseCase}
    (hc : c ∈ ResponseCase.ofResponse status response) : c.mentions ⊆ response.mentions := by
  by_cases hempty : response.content.isEmpty = true
  · rw [ResponseCase.ofResponse, if_pos hempty] at hc
    rw [List.mem_singleton.1 hc]
    exact List.nil_subset _
  · rw [ResponseCase.ofResponse, if_neg hempty] at hc
    obtain ⟨media, hm, rfl⟩ := List.mem_map.1 hc
    intro u hu
    exact List.mem_flatMap.2 ⟨media, hm, hu⟩

/-- **The responses of a document** mention only what the document mentions. -/
theorem ofDocument_outcome (h : r.Extends d) {responses : List (String × OrRef Response)}
    (hr : ∀ x ∈ responses, x.2.mentions .responses Response.mentions ⊆ d.mentions) :
    Outcome (fun _ => d.Dangles) (fun cs => ∀ c ∈ cs, c.mentions ⊆ d.mentions)
      (ResponseCase.ofDocument r responses) := by
  induction responses with
  | nil => exact .ok (by simp)
  | cons x rest ih =>
    rw [List.forall_mem_cons] at hr
    refine (h.response_outcome hr.1).bind fun response hresponse => ?_
    refine (ih hr.2).bind fun cases hcases => .ok fun c hc => ?_
    rcases List.mem_append.1 hc with hc | hc
    · exact List.Subset.trans (mentions_ofResponse_subset hc) hresponse
    · exact hcases c hc

/-! ### Bodies -/

theorem ofBody_outcome (h : r.Extends d) {s : OrRef Schema} (required : Bool)
    (hs : Schema.mentionsOfRef s ⊆ d.mentions) :
    Outcome (fun _ => d.Dangles) (fun b => d.Covers b.properties)
      (BodyFields.ofBody r s required) := by
  have hwrapped : d.Covers (BodyFields.wrapped s required).properties := by
    intro x hx
    rw [List.mem_singleton.1 hx]
    exact hs
  refine (h.schema_outcome hs).bind fun t ht => ?_
  split
  · rw [BodyFields.ofComposition]
    split
    · rename_i err hm
      exact .error ((h.merge_outcome ht).of_error hm)
    · rename_i shape hm
      exact .ok ((h.merge_outcome ht).of_ok hm).properties
  · refine .ok ?_
    split_ifs
    · intro x hx
      exact List.Subset.trans (Schema.mentionsOfRef_subset_of_mem_properties hx) ht
    · exact hwrapped
  · exact .ok hwrapped

theorem bodyFields_outcome (h : r.Extends d) (e : Endpoint) (required : Bool)
    (contentType : String) {media : MediaType} (hm : media.mentions ⊆ d.mentions) :
    Outcome (fun _ => d.Dangles) (fun b => d.Covers b.1.properties)
      (e.bodyFields r required contentType media) := by
  rw [Endpoint.bodyFields]
  rw [MediaType.mentions] at hm
  split
  · rename_i s hs
    rw [hs] at hm
    refine ((h.ofBody_outcome required hm).map _).mono ?_
    rintro _ ⟨b, hb, rfl⟩
    exact hb
  · exact .ok d.covers_nil

/-! ### Inputs -/

theorem push (h : (draft.resolver c).Extends d) (name : String) {s : OrRef Schema}
    (hs : Schema.mentionsOfRef s ⊆ d.mentions) : ((draft.push name s).resolver c).Extends d := by
  refine ⟨h.components_eq, h.schemas_prefix.trans (List.prefix_append _ _), ?_⟩
  intro x hx
  rcases List.mem_append.1 hx with hx | hx
  · exact h.covers x hx
  · rw [List.mem_singleton.1 hx]
    exact hs

/-- The declared parameters of an endpoint mention only what the document mentions. -/
def CoversParameters (d : Document) (e : Endpoint) : Prop :=
  ∀ p ∈ e.parameters, p.schema.elim [] Schema.mentionsOfRef ⊆ d.mentions

theorem registerInput_outcome (h : (draft.resolver c).Extends d) (he : CoversParameters d e)
    {b : BodyFields} (hb : d.Covers b.properties) :
    Outcome d.Accounts (fun r => (r.2.resolver c).Extends d) (e.registerInput draft b) := by
  have hs := (Input.Covered.ofEndpoint hb he).toSchema
  rcases hx : e.registerInput draft b with err | r
  · exact .error (.inl (Draft.exhausted_of_register hx))
  · have hr := ((Draft.register_outcome _ _ _).of_ok hx).2
    refine .ok ?_
    rw [hr]
    exact h.push r.1 hs

theorem registerContent_outcome (required : Bool) (he : CoversParameters d e)
    {content : List (String × MediaType)} (hc : ∀ m ∈ content, m.2.mentions ⊆ d.mentions)
    (h : (draft.resolver c).Extends d) :
    Outcome d.Accounts (fun r => (r.2.2.resolver c).Extends d)
      (e.registerContent c required draft content) := by
  induction content generalizing draft with
  | nil => exact .ok h
  | cons m rest ih =>
    obtain ⟨contentType, media⟩ := m
    rw [List.forall_mem_cons] at hc
    refine (Document.liftRef_outcome (h.bodyFields_outcome e required contentType hc.1)).bind ?_
    rintro ⟨fields, notes⟩ hb
    have hnote : ((draft.note notes).resolver c).Extends d := h
    refine (registerInput_outcome hnote he hb).bind ?_
    rintro ⟨name, draft'⟩ h'
    refine (ih hc.2 h').bind ?_
    rintro ⟨names, content, draft''⟩ h''
    exact .ok h''

/-- **Registering the inputs of an endpoint** keeps the registry to what the document mentions. -/
theorem registerInputs_outcome (h : (draft.resolver c).Extends d) (he : CoversParameters d e)
    {op : Operation}
    (ho : op.requestBody.elim [] (OrRef.mentions .requestBodies RequestBody.mentions) ⊆
      d.mentions) :
    Outcome d.Accounts (fun r => (r.2.2.resolver c).Extends d) (e.registerInputs c draft op) := by
  have hdecl : Outcome (fun _ => d.Dangles) (fun declared => (declared.getD {}).mentions ⊆ d.mentions)
      (Endpoint.declaredBody draft c op) := by
    rw [Endpoint.declaredBody]
    cases hb : op.requestBody with
    | none => exact .ok (List.nil_subset _)
    | some body =>
      rw [hb] at ho
      refine ((h.requestBody_outcome ho).map _).mono ?_
      rintro _ ⟨b, hm, rfl⟩
      exact hm
  refine (Document.liftRef_outcome hdecl).bind fun declared hm => ?_
  have hm : ∀ m ∈ (declared.getD {}).content, m.2.mentions ⊆ d.mentions :=
    fun m hmem u hu => hm (List.mem_flatMap.2 ⟨m, hmem, hu⟩)
  by_cases hc : (declared.getD {}).content.isEmpty
  · simp only [hc, if_true]
    refine (registerInput_outcome h he (b := {}) d.covers_nil).bind ?_
    rintro ⟨name, draft'⟩ h'
    exact .ok h'
  · simp only [hc]
    refine (registerContent_outcome _ he hm h).bind ?_
    rintro ⟨names, content, draft'⟩ h'
    exact .ok h'

end Resolver.Extends

end ApiModel
