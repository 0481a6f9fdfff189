import ApiModel.Model.Build
import ApiModel.Proofs.Endpoint.Credentials
import ApiModel.Proofs.Endpoint.Registration

/-!
# Runs of the build

Building a model settles one operation after the other.  `Build.Settles` says everything that
settling one operation does; `Build.Run` puts such steps in a row, so that what a step keeps holds of
a whole run by induction (`Build.Run.adds`, `Build.Run.forall₂`).  Only a run gives endpoints, and
what ends one early is no conflict of schema names (`Build.paths_outcome`).
-/

namespace ApiModel

namespace Build

/-- An operation with its place in the document and the parameters of its path. -/
structure Site where
  /-- The path. -/
  path : String
  /-- The parameters of the path. -/
  parameters : List (OrRef Parameter)
  /-- The method. -/
  method : Method
  /-- The operation. -/
  operation : Operation

/-- The operations of a path with their places. -/
def sitesOfItem (path : String) (parameters : List (OrRef Parameter))
    (ops : List (Method × Operation)) : List Site :=
  ops.map fun (method, op) => ⟨path, parameters, method, op⟩

/-- The operations of paths with their places, in their order. -/
def sites (ps : List (String × PathItem)) : List Site :=
  ps.flatMap fun (path, item) => sitesOfItem path item.parameters item.operations

/-- The name that a site gets. -/
def Site.name (site : Site) (namer : Namer) : String :=
  (namer.assign site.method site.path site.operation.operationId).1

/-- The namer after a site has got its name. -/
def Site.nextNamer (site : Site) (namer : Namer) : Namer :=
  (namer.assign site.method site.path site.operation.operationId).2

variable {setting : Setting} {s s' s'' : State} {site : Site} {e : Endpoint} {op : Operation}

/-! ### One operation -/

/-- Settling the operation of a site from state `s` gives an endpoint, the operation in its final
form, and the next state. -/
inductive Settles (setting : Setting) (s : State) (site : Site) :
    Endpoint → Operation → State → Prop
  | intro {parameters notes credentials responses inputs body draft}
    (merged : Parameter.merge (s.draft.resolver setting.components) site.parameters
      site.operation.parameters = .ok parameters)
    (composed : Credential.compose (s.draft.resolver setting.components) setting.security
      site.operation.security (Name.camelOf (site.name s.namer)) = (notes, .ok credentials))
    (answered : Build.responses setting (s.draft.resolver setting.components)
      (Name.camelOf (site.name s.namer)) site.operation = .ok responses)
    (registered : Endpoint.registerInputs
      { bareEndpoint site.method site.path (site.name s.namer) site.operation parameters with
        credentials, responses }
      setting.components (s.draft.note notes) site.operation = .ok (inputs, body, draft)) :
    Settles setting s site
      { bareEndpoint site.method site.path (site.name s.namer) site.operation parameters with
        credentials, responses, inputs }
      { site.operation with
        parameters := parameters.map .inline, requestBody := some (.inline body) }
      ⟨draft, site.nextNamer s.namer⟩

theorem Settles.adds (h : Settles setting s site e op s') :
    s.draft.Adds s'.draft (e.inputs.map (·.2)) := by
  obtain ⟨-, -, -, registered⟩ := h
  exact (Draft.adds_note _ _).trans ((Endpoint.registerInputs_outcome _ _ _ _).of_ok registered).1

/-- **What a step does**, and that it never meets a taken schema name. -/
theorem operation_outcome (setting : Setting) (s : State) (site : Site) :
    Outcome BuildError.NotTaken (fun r => Settles setting s site r.1 r.2.1 r.2.2)
      (operation setting s site.path site.parameters site.method site.operation) := by
  unfold operation tune
  refine ((liftRef_outcome _).map _).bind ?_
  rintro _ ⟨parameters, merged, rfl⟩
  refine (Credential.compose_outcome _ _ _ _).of_error_only.bind fun credentials composed => ?_
  refine (liftRef_outcome _).bind fun responses answered => ?_
  refine (Endpoint.registerInputs_outcome _ _ _ _).of_error_only.bind ?_
  rintro ⟨inputs, body, draft⟩ registered
  exact .ok (.intro merged (Prod.ext rfl composed) answered registered)

/-! ### Operations one after the other -/

/-- Settling the operations of sites one after the other. -/
inductive Run (setting : Setting) :
    State → List Site → List Endpoint → List Operation → State → Prop
  | nil {t : State} : Run setting t [] [] [] t
  | cons {t t' t'' : State} {here : Site} {x : Endpoint} {o : Operation} {rest : List Site}
    {xs : List Endpoint} {os : List Operation} (step : Settles setting t here x o t')
    (run : Run setting t' rest xs os t'') : Run setting t (here :: rest) (x :: xs) (o :: os) t''

variable {places places' : List Site} {es es' : List Endpoint} {ops ops' : List Operation}

theorem Run.append (h : Run setting s places es ops s')
    (h' : Run setting s' places' es' ops' s'') :
    Run setting s (places ++ places') (es ++ es') (ops ++ ops') s'' := by
  induction h with
  | nil => exact h'
  | cons step _ ih => exact .cons step (ih h')

theorem Run.adds (h : Run setting s places es ops s') :
    s.draft.Adds s'.draft (es.flatMap fun e => e.inputs.map (·.2)) := by
  induction h with
  | nil => exact Draft.Adds.refl _
  | cons step _ ih => exact step.adds.trans ih

/-- **Every endpoint of a run comes from a step of its own**, between the start and the end of the
run. -/
theorem Run.forall₂ (h : Run setting s places es ops s') :
    List.Forall₂ (fun site e => ∃ t t' op before after, s.draft.Adds t.draft before ∧
      Settles setting t site e op t' ∧ t'.draft.Adds s'.draft after) places es := by
  induction h with
  | nil => exact .nil
  | cons step run ih =>
    refine .cons ⟨_, _, _, _, _, Draft.Adds.refl _, step, run.adds⟩ (ih.imp ?_)
    rintro site e ⟨t, t', op, before, after, hb, hs, ha⟩
    exact ⟨t, t', op, _, after, step.adds.trans hb, hs, ha⟩

/-! ### Paths -/

/-- A path without what its operations say. -/
def frame (item : PathItem) : PathItem :=
  { item with operations := item.operations.map fun (method, _) => (method, {}) }

/-- Paths without what their operations say. -/
def frames (ps : List (String × PathItem)) : List (String × PathItem) :=
  ps.map fun (path, item) => (path, frame item)

theorem operations_outcome (setting : Setting) (path : String) (ofPath : List (OrRef Parameter))
    (s : State) (os : List (Method × Operation)) :
    Outcome BuildError.NotTaken
      (fun r => Run setting s (sitesOfItem path ofPath os) r.1 (r.2.1.map (·.2)) r.2.2 ∧
        r.2.1.map (·.1) = os.map (·.1))
      (operations setting path ofPath s os) := by
  induction os generalizing s with
  | nil => exact .ok ⟨Run.nil, rfl⟩
  | cons o rest ih =>
    obtain ⟨method, op⟩ := o
    refine (operation_outcome setting s ⟨path, ofPath, method, op⟩).bind ?_
    rintro ⟨e, op', s₁⟩ step
    refine (ih s₁).bind ?_
    rintro ⟨es, ops, s₂⟩ ⟨run, hm⟩
    exact .ok ⟨Run.cons step run, congrArg (List.cons method) hm⟩

/-- The operations of paths in their order. -/
def operationsOf (ps : List (String × PathItem)) : List Operation :=
  ps.flatMap fun p => p.2.operations.map (·.2)

/-- **Settling paths is a run** over their sites, changes nothing but what operations say, and never
meets a taken schema name. -/
theorem paths_outcome (setting : Setting) (s : State) (ps : List (String × PathItem)) :
    Outcome BuildError.NotTaken
      (fun r => Run setting s (sites ps) r.1 (operationsOf r.2.1) r.2.2 ∧
        frames r.2.1 = frames ps)
      (paths setting s ps) := by
  induction ps generalizing s with
  | nil => exact .ok ⟨Run.nil, rfl⟩
  | cons p rest ih =>
    obtain ⟨path, item⟩ := p
    refine (operations_outcome setting path item.parameters s item.operations).bind ?_
    rintro ⟨es, ops, s₁⟩ ⟨run, hm⟩
    refine (ih s₁).bind ?_
    rintro ⟨es', rest', s₂⟩ ⟨run', hf⟩
    have hitem : frame { item with operations := ops } = frame item := by
      have h := congrArg (List.map fun method => (method, ({} : Operation))) hm
      rw [List.map_map, List.map_map] at h
      exact congrArg (fun os => { item with operations := os }) h
    exact .ok ⟨run.append run', congrArg₂ (fun i is => (path, i) :: is) hitem hf⟩

end Build

end ApiModel
