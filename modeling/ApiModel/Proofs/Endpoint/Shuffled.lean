import ApiModel.Model.Build
import ApiModel.Proofs.Endpoint.Body
import ApiModel.Proofs.Schemas.Shuffled

/-!
# Settling over tables in another order

The steps that settle an endpoint only follow pointers and look whether a schema name is given.  So
resolvers that agree lead to the same parameters, credentials, responses, body fields and paging, and
drafts that hold the same schemas in another order (`Draft.Shuffles`) give the same names to inputs
and stay the same up to the order (`Draft.Shuffles.registerInputs`).
-/

namespace ApiModel

namespace Resolver.Agrees

variable {r r' : Resolver} (h : r.Agrees r')
include h

theorem mergeParameters_eq : Parameter.merge r = Parameter.merge r' := by
  have hparameter : r.parameter = r'.parameter := congrArg OrRef.deref h.parameterAt_eq
  funext ofPath ofOperation
  rw [Parameter.merge, Parameter.merge]
  generalize ofPath ++ ofOperation = declared
  generalize ([] : List Parameter) = merged
  induction declared generalizing merged with
  | nil => rfl
  | cons p rest ih => simp only [Parameter.mergeInto, hparameter, ih]

theorem compose_eq : Credential.compose r = Credential.compose r' := by
  have hname : Credential.ofName r = Credential.ofName r' := by
    funext name
    rw [Credential.ofName, Credential.ofName, h.securityScheme_eq]
  have hlevel : Credential.addLevel r = Credential.addLevel r' := by
    funext operation cs requirements
    induction requirements generalizing cs with
    | nil => rfl
    | cons requirement rest ih =>
      cases requirement with
      | nil => exact ih cs
      | cons scheme _ => simp only [Credential.addLevel, hname, ih]
  funext ofDocument ofOperation operation
  simp only [Credential.compose, hlevel]

theorem responses_eq (setting : Build.Setting) :
    Build.responses setting r = Build.responses setting r' := by
  have hresponse : r.response = r'.response := congrArg OrRef.deref h.responseAt_eq
  have hdocument : ResponseCase.ofDocument r = ResponseCase.ofDocument r' := by
    funext declared
    induction declared with
    | nil => rfl
    | cons v rest ih => simp only [ResponseCase.ofDocument, hresponse, ih]
  have hbodies : ResponseCase.checkBodies r = ResponseCase.checkBodies r' := by
    funext cases
    induction cases with
    | nil => rfl
    | cons case rest ih => simp only [ResponseCase.checkBodies, h.checkSchema_eq, ih]
  funext name op
  simp only [Build.responses, hdocument, hbodies]

theorem bodyFields_eq (e : Endpoint) : e.bodyFields r = e.bodyFields r' := by
  have hcomposition : BodyFields.ofComposition r = BodyFields.ofComposition r' := by
    funext s
    exact BodyFields.ofComposition_congr (congrFun h.merge_eq s)
  have hbody : BodyFields.ofBody r = BodyFields.ofBody r' := by
    funext s required
    simp only [BodyFields.ofBody, h.schema_eq, hcomposition]
  funext required contentType media
  simp only [Endpoint.bodyFields, hbody]

/-- **How endpoints are paged** does not depend on the order of the tables. -/
theorem paging_eq (rules : PagingRules) : Analysis.paging rules r = Analysis.paging rules r' := by
  have hproperties : PagingRules.properties? r = PagingRules.properties? r' := by
    funext body
    simp only [PagingRules.properties?, h.schema_eq, h.merge_eq]
  have hlist : PagingRules.isList r = PagingRules.isList r' := by
    funext s
    rw [PagingRules.isList, PagingRules.isList, h.schema_eq]
  have hpage : rules.page? r = rules.page? r' := by
    funext body
    simp only [PagingRules.page?, PagingRules.itemsField?, hproperties, hlist]
  funext es
  simp only [Analysis.paging, PagingRules.infer, hpage]

end Resolver.Agrees

/-- Drafts that differ in the order of their schemas. -/
structure Draft.Shuffles (d d' : Draft) : Prop where
  /-- The schemas are the same. -/
  entries : Entries.Shuffles d.registry.entries d'.registry.entries
  /-- The same ones are synthesized. -/
  synthesized : d.registry.synthesized = d'.registry.synthesized
  /-- The same names are reserved. -/
  reserved : d.reserved = d'.reserved
  /-- The same was noted. -/
  diagnostics : d.diagnostics = d'.diagnostics

/-- The same values, and beside them related ones. -/
def Beside {α σ : Type} (R : σ → σ → Prop) (x y : α × σ) : Prop :=
  x.1 = y.1 ∧ R x.2 y.2

namespace Draft.Shuffles

variable {d d' : Draft} {c c' : Components} (h : d.Shuffles d')
include h

theorem agrees (hc : c.Shuffles c') : (d.resolver c).Agrees (d'.resolver c') :=
  hc.agrees h.entries

theorem note (ds : List Diagnostic) : (d.note ds).Shuffles (d'.note ds) :=
  ⟨h.entries, h.synthesized, h.reserved, congrArg (· ++ ds) h.diagnostics⟩

/-- **A synthesized schema gets the same name.** -/
theorem register (candidates : List String) (s : OrRef Schema) :
    Parallel (Beside Draft.Shuffles) (d.register candidates s) (d'.register candidates s) := by
  have hcontains : d.registry.contains = d'.registry.contains := funext h.entries.has_eq
  have hallocate : d.allocate candidates = d'.allocate candidates := by
    rw [allocate, allocate, hcontains, h.reserved]
  refine .bind_eq hallocate fun name _ => ?_
  simp only [Registry.synthesize, Registry.declare, ← hcontains]
  by_cases hname : d.registry.contains name = true
  · rw [if_pos hname, if_pos hname]
    exact .error _ _
  · rw [if_neg hname, if_neg hname]
    have hfresh : name ∉ Entries.keys d.registry.entries := fun hm => hname (Entries.has_iff.2 hm)
    exact .ok ⟨rfl, h.entries.concat hfresh, congrArg (· ++ [name]) h.synthesized, h.reserved,
      h.diagnostics⟩

theorem registerInput (e : Endpoint) (b : BodyFields) :
    Parallel (Beside Draft.Shuffles) (e.registerInput d b) (e.registerInput d' b) :=
  (h.note _).register _ _

theorem registerContent (hc : c.Shuffles c') (e : Endpoint) (required : Bool)
    (content : List (String × MediaType)) :
    Parallel (Beside (Beside Draft.Shuffles)) (e.registerContent c required d content)
      (e.registerContent c' required d' content) := by
  induction content generalizing d d' with
  | nil => exact .ok ⟨rfl, rfl, h⟩
  | cons m rest ih =>
    rw [Endpoint.registerContent, Endpoint.registerContent, (h.agrees hc).bodyFields_eq]
    refine .bind_eq rfl fun ⟨fields, notes⟩ _ => ?_
    refine ((h.note notes).registerInput e fields).bind ?_
    rintro ⟨name, draft⟩ ⟨_, draft'⟩ ⟨rfl, hdraft⟩
    refine (ih hdraft).bind ?_
    rintro ⟨names, media, last⟩ ⟨_, _, last'⟩ ⟨rfl, rfl, hlast⟩
    exact .ok ⟨rfl, rfl, hlast⟩

/-- **The inputs of an endpoint** get the same names. -/
theorem registerInputs (hc : c.Shuffles c') (e : Endpoint) (op : Operation) :
    Parallel (Beside (Beside Draft.Shuffles)) (e.registerInputs c d op)
      (e.registerInputs c' d' op) := by
  have hdeclared : Endpoint.declaredBody d c op = Endpoint.declaredBody d' c' op := by
    have hbody : (d.resolver c).requestBody = (d'.resolver c').requestBody :=
      congrArg OrRef.deref (h.agrees hc).requestBodyAt_eq
    simp only [Endpoint.declaredBody, hbody]
  rw [Endpoint.registerInputs, Endpoint.registerInputs, hdeclared]
  refine .bind_eq rfl fun declared _ => ?_
  dsimp only
  by_cases hcontent : (declared.getD {}).content.isEmpty = true
  · rw [if_pos hcontent, if_pos hcontent]
    refine (h.registerInput e {}).bind ?_
    rintro ⟨name, draft⟩ ⟨_, draft'⟩ ⟨rfl, hdraft⟩
    exact .ok ⟨rfl, rfl, hdraft⟩
  · rw [if_neg hcontent, if_neg hcontent]
    refine (h.registerContent hc e _ _).bind ?_
    rintro ⟨names, media, draft⟩ ⟨_, _, draft'⟩ ⟨rfl, rfl, hdraft⟩
    exact .ok ⟨rfl, rfl, hdraft⟩

end Draft.Shuffles

end ApiModel
