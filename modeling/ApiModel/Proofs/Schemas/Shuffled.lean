import ApiModel.Model.Analysis
import ApiModel.Proofs.Entries
import ApiModel.Proofs.Outcome
import ApiModel.Proofs.Schemas.Reach

/-!
# Tables in another order

Pointers are followed by name, so the order of a table does not matter to them
(`follow_eq_of_shuffles`).  What is found out about schemas is found out by following pointers, except
for the bound on how deep a merge goes, and that counts the pointers of the table without their order.
So resolvers over the same tables in another order give the same of everything
(`Resolver.Agrees.merge_eq`), and the analysis of the named schemas differs at most in its order
(`Analysis.ofEntries_shuffles`).
-/

namespace ApiModel

variable {α : Type} {sec : Section} {table table' : List (String × OrRef α)}

/-- **Following a pointer** does not depend on the order of the table. -/
theorem follow_eq_of_shuffles (h : Entries.Shuffles table table') :
    follow sec table = follow sec table' := by
  have hfrom : ∀ start fuel seen pointer,
      followFrom sec table start fuel seen pointer =
        followFrom sec table' start fuel seen pointer := by
    intro start fuel
    induction fuel with
    | zero => exact fun _ _ => rfl
    | succ fuel ih =>
      intro seen pointer
      simp only [followFrom, h.find?_eq, ih]
  funext pointer
  rw [follow, follow, hfrom, h.perm.length_eq]

/-- Resolvers that give the same for every pointer, and whose tables hold as many pointers. -/
structure Resolver.Agrees (r r' : Resolver) : Prop where
  /-- Schemas are the same. -/
  schemaAt_eq : r.schemaAt = r'.schemaAt
  /-- Parameters are the same. -/
  parameterAt_eq : r.parameterAt = r'.parameterAt
  /-- Request bodies are the same. -/
  requestBodyAt_eq : r.requestBodyAt = r'.requestBodyAt
  /-- Responses are the same. -/
  responseAt_eq : r.responseAt = r'.responseAt
  /-- Security schemes are the same. -/
  securityScheme_eq : r.securityScheme = r'.securityScheme
  /-- The same schemas are there. -/
  has_eq : Entries.has r.schemas = Entries.has r'.schemas
  /-- The tables of schemas hold as many pointers. -/
  length_eq : (Composition.tablePointers r.schemas).length =
    (Composition.tablePointers r'.schemas).length

/-- Components that differ in the order of their entries. -/
structure Components.Shuffles (c c' : Components) : Prop where
  /-- The schemas are the same. -/
  schemas : Entries.Shuffles c.schemas c'.schemas
  /-- The responses are the same. -/
  responses : Entries.Shuffles c.responses c'.responses
  /-- The parameters are the same. -/
  parameters : Entries.Shuffles c.parameters c'.parameters
  /-- The request bodies are the same. -/
  requestBodies : Entries.Shuffles c.requestBodies c'.requestBodies
  /-- The security schemes are the same. -/
  securitySchemes : Entries.Shuffles c.securitySchemes c'.securitySchemes

theorem Components.Shuffles.symm {c c' : Components} (h : c.Shuffles c') : c'.Shuffles c :=
  ⟨h.schemas.symm, h.responses.symm, h.parameters.symm, h.requestBodies.symm,
    h.securitySchemes.symm⟩

theorem Components.Shuffles.withSchemas {c c' : Components} (h : c.Shuffles c')
    {es es' : List (String × OrRef Schema)} (hes : Entries.Shuffles es es') :
    Components.Shuffles { c with schemas := es } { c' with schemas := es' } :=
  ⟨hes, h.responses, h.parameters, h.requestBodies, h.securitySchemes⟩

/-- **Resolvers over the same tables in another order agree.** -/
theorem Components.Shuffles.agrees {c c' : Components} (hc : c.Shuffles c')
    {es es' : List (String × OrRef Schema)} (hes : Entries.Shuffles es es') :
    Resolver.Agrees ⟨c, es⟩ ⟨c', es'⟩ where
  schemaAt_eq := follow_eq_of_shuffles hes
  parameterAt_eq := follow_eq_of_shuffles hc.parameters
  requestBodyAt_eq := follow_eq_of_shuffles hc.requestBodies
  responseAt_eq := follow_eq_of_shuffles hc.responses
  securityScheme_eq := by
    funext name
    simp only [Resolver.securityScheme, hc.securitySchemes.find?_eq]
  has_eq := funext hes.has_eq
  length_eq := (hes.flatMap_perm _).length_eq

namespace Resolver.Agrees

variable {r r' : Resolver} (h : r.Agrees r')
include h

theorem schema_eq : r.schema = r'.schema :=
  congrArg OrRef.deref h.schemaAt_eq

theorem securitySchemeAt_eq : r.securitySchemeAt = r'.securitySchemeAt := by
  funext pointer
  rw [securitySchemeAt, securitySchemeAt, h.securityScheme_eq]

theorem checkPointer_eq : r.checkPointer = r'.checkPointer := by
  funext kind pointer
  simp only [checkPointer, resolve, h.schemaAt_eq, h.parameterAt_eq, h.requestBodyAt_eq,
    h.responseAt_eq, h.securitySchemeAt_eq, h.has_eq]

theorem checkSchema_eq : r.checkSchema = r'.checkSchema := by
  have hvisit : r.checkVisit = r'.checkVisit := by
    funext kind pointer
    rw [checkVisit, checkVisit, h.checkPointer_eq]
  funext s
  rw [checkSchema, checkSchema, hvisit]

/-! ### Unions and merges -/

theorem ofBranches_eq : VariantSet.ofBranches r = VariantSet.ofBranches r' := by
  have hvariant : VariantSet.variantOf r = VariantSet.variantOf r' := by
    funext d branch
    simp only [VariantSet.variantOf, Discriminator.tagOf, h.schema_eq]
  have hvariants : VariantSet.variantsOf r = VariantSet.variantsOf r' := by
    funext d branches
    induction branches with
    | nil => rfl
    | cons branch rest ih => rw [VariantSet.variantsOf, VariantSet.variantsOf, hvariant, ih]
  funext kind branches d
  rw [VariantSet.ofBranches, VariantSet.ofBranches, hvariants]

theorem addOwn_eq : Shape.addOwn r = Shape.addOwn r' := by
  funext s shape
  simp only [Shape.addOwn, VariantSet.ofSchema, h.ofBranches_eq]

theorem mergeSchema_eq (desc : Composition.Descend) (way : List String) (s : Schema)
    (shape : Shape) :
    Composition.mergeSchema r desc way s shape = Composition.mergeSchema r' desc way s shape := by
  induction s using Composition.inline_induction generalizing shape with
  | step s ih =>
    have hbranch : ∀ b ∈ s.allOf, ∀ shape, Composition.mergeBranch r desc way b shape =
        Composition.mergeBranch r' desc way b shape := by
      intro b hb shape
      cases b with
      | ref p => rfl
      | inline u => exact ih u hb shape
    rw [Composition.mergeSchema_eq, Composition.mergeSchema_eq, h.addOwn_eq,
      Composition.mergeBranches_congr hbranch]

theorem descend_eq (depth : Nat) : Composition.descend r depth = Composition.descend r' depth := by
  induction depth with
  | zero => rfl
  | succ depth ih =>
    funext way pointer shape
    simp only [Composition.descend, h.schemaAt_eq, h.mergeSchema_eq, ih]

theorem merge_eq : Composition.merge r = Composition.merge r' := by
  funext s
  have hdepth : Composition.maxDepth r s = Composition.maxDepth r' s := by
    rw [Composition.maxDepth, Composition.maxDepth, h.length_eq]
  rw [Composition.merge, Composition.merge, hdepth, h.descend_eq, h.mergeSchema_eq]

/-! ### Named schemas -/

theorem ofSchema_eq : Analysis.ofSchema r = Analysis.ofSchema r' := by
  funext name s
  cases s with
  | ref p => rfl
  | inline s => simp only [Analysis.ofSchema, h.ofBranches_eq, h.merge_eq]

theorem ofEntries_eq : Analysis.ofEntries r = Analysis.ofEntries r' := by
  funext es
  induction es with
  | nil => rfl
  | cons e es ih => rw [Analysis.ofEntries, Analysis.ofEntries, h.ofSchema_eq, ih]

end Resolver.Agrees

namespace Analysis

variable {r r' : Resolver} {es es' : List (String × OrRef Schema)} {a b : Analysis}

/-- Analyses that differ at most in their order. -/
structure Perm (a b : Analysis) : Prop where
  /-- The unions are the same. -/
  unions : a.unions.Perm b.unions
  /-- The compositions are the same. -/
  compositions : a.compositions.Perm b.compositions

/-- **The order of named schemas** only matters to the order of the analysis. -/
theorem ofEntries_parallel (h : es.Perm es') :
    Parallel Perm (ofEntries r es) (ofEntries r es') := by
  induction h with
  | nil => exact .ok ⟨.nil, .nil⟩
  | cons e _ ih =>
    rw [ofEntries, ofEntries]
    refine .bind_eq rfl fun one _ => ih.bind fun others others' h => ?_
    exact .ok ⟨h.unions.append_left _, h.compositions.append_left _⟩
  | swap e f es =>
    simp only [ofEntries]
    -- all three parts have to succeed, in whatever order they are tried
    rcases ofSchema r e.1 e.2 with err | a
    · rcases ofSchema r f.1 f.2 with err' | b
      · exact .error _ _
      · exact .error _ _
    · rcases ofSchema r f.1 f.2 with err' | b
      · exact .error _ _
      · rcases ofEntries r es with err'' | c
        · exact .error _ _
        · refine .ok ⟨?_, ?_⟩
          · exact List.perm_append_comm_assoc _ _ _
          · exact List.perm_append_comm_assoc _ _ _
  | trans _ _ ih ih' =>
    exact ih.trans ih' fun _ _ _ h h' =>
      ⟨h.unions.trans h'.unions, h.compositions.trans h'.compositions⟩

theorem keys_ofSchema {name : String} {s : OrRef Schema} (h : ofSchema r name s = .ok a) :
    (Entries.keys a.unions).Sublist [name] ∧ (Entries.keys a.compositions).Sublist [name] := by
  cases s with
  | ref p =>
    cases h
    exact ⟨List.nil_sublist _, List.nil_sublist _⟩
  | inline s =>
    rw [ofSchema] at h
    split at h
    · obtain ⟨u, -, rfl⟩ := map_eq_ok_iff.1 h
      exact ⟨List.Sublist.refl _, List.nil_sublist _⟩
    · obtain ⟨shape, -, rfl⟩ := map_eq_ok_iff.1 h
      exact ⟨List.nil_sublist _, List.Sublist.refl _⟩
    · cases h
      exact ⟨List.nil_sublist _, List.nil_sublist _⟩

theorem keys_ofEntries (h : ofEntries r es = .ok a) :
    (Entries.keys a.unions).Sublist (Entries.keys es) ∧
      (Entries.keys a.compositions).Sublist (Entries.keys es) := by
  induction es generalizing a with
  | nil =>
    cases h
    exact ⟨.slnil, .slnil⟩
  | cons e es ih =>
    rw [ofEntries] at h
    simp only [bind_eq_ok_iff] at h
    obtain ⟨one, hone, others, hothers, h⟩ := h
    cases pure_eq_ok_iff.1 h
    obtain ⟨hu, hc⟩ := keys_ofSchema hone
    obtain ⟨hus, hcs⟩ := ih hothers
    simp only [Entries.keys_append]
    exact ⟨hu.append hus, hc.append hcs⟩

/-- Analyses that are the same maps. -/
structure Shuffles (a b : Analysis) : Prop where
  /-- The unions are the same. -/
  unions : Entries.Shuffles a.unions b.unions
  /-- The compositions are the same. -/
  compositions : Entries.Shuffles a.compositions b.compositions

/-- **The analysis of the same named schemas is the same map**, in whatever order they stand. -/
theorem ofEntries_shuffles (hr : r.Agrees r') (h : Entries.Shuffles es es') :
    Parallel Shuffles (ofEntries r es) (ofEntries r' es') := by
  rw [← hr.ofEntries_eq]
  refine (ofEntries_parallel h.perm).mono_of_ok fun a b ha hab => ?_
  obtain ⟨hu, hc⟩ := keys_ofEntries ha
  exact ⟨⟨hab.unions, h.nodup.sublist hu⟩, ⟨hab.compositions, h.nodup.sublist hc⟩⟩

end Analysis

end ApiModel
