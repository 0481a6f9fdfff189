import ApiModel.Endpoint.Credentials
import ApiModel.Proofs.Schemas.Allocation

/-!
# Errors of credentials

Composing the credentials of an endpoint can fail, on a scheme that is not there or lacks a field.
It has nothing to do with the registry, so it never finds a schema name taken
(`Credential.compose_outcome`).  It succeeds exactly if the first scheme of every requirement is there
with all fields that its kind needs (`Credential.isOk_compose`).
-/

namespace ApiModel

/-- Whether a scheme has the fields that its kind needs: an API key has a location and a name that is
not blank. -/
def SecurityScheme.isComplete (s : SecurityScheme) : Bool :=
  s.type != .apiKey || (s.location.isSome && (Credential.usable? s.name).isSome)

/-- Whether there is a complete scheme with a name. -/
def Resolver.grants (r : Resolver) (name : String) : Bool :=
  (Entries.find? name r.components.securitySchemes).any (·.isComplete)

/-- The schemes that count in requirements: the first one of each. -/
def firstSchemes (requirements : List SecurityRequirement) : List String :=
  requirements.filterMap fun requirement => requirement.head?.map (·.1)

namespace Credential

theorem ofScheme_outcome (name : String) (s : SecurityScheme) :
    Outcome BuildError.NotTaken (fun _ => True) (ofScheme name s) := by
  unfold ofScheme
  cases s.type with
  | http => exact .ok trivial
  | oauth2 => exact .ok trivial
  | openIdConnect => exact .ok trivial
  | mutualTls => exact .ok trivial
  | apiKey =>
    rcases s.location with _ | location
    · exact .error (BuildError.notTaken_missingField name "in")
    · rcases usable? s.name with _ | key
      · exact .error (BuildError.notTaken_missingField name "name")
      · exact .ok trivial

theorem ofName_outcome (r : Resolver) (name : String) :
    Outcome BuildError.NotTaken (fun _ => True) (ofName r name) :=
  (liftRef_outcome _).bind fun s _ => ofScheme_outcome name s

theorem addLevel_outcome (r : Resolver) (operation : String) (cs : List Credential)
    (requirements : List SecurityRequirement) :
    Outcome BuildError.NotTaken (fun _ => True) (addLevel r operation cs requirements).2 := by
  induction requirements generalizing cs with
  | nil => exact .ok trivial
  | cons requirement rest ih =>
    cases requirement with
    | nil => exact ih cs
    | cons first _ =>
      obtain ⟨scheme, -⟩ := first
      rw [addLevel]
      split
      · rename_i err h
        exact .error ((ofName_outcome r scheme).of_error h)
      · exact ih _
      · exact ih cs

/-- **Composing credentials never ends in a taken name.** -/
theorem compose_outcome (r : Resolver) (ofDocument : List SecurityRequirement)
    (ofOperation : Option (List SecurityRequirement)) (operation : String) :
    Outcome BuildError.NotTaken (fun _ => True) (compose r ofDocument ofOperation operation).2 := by
  have hd := addLevel_outcome r operation [] ofDocument
  unfold compose
  rcases hx : addLevel r operation [] ofDocument with ⟨notes, err | cs⟩
  · rw [hx] at hd
    exact hd
  · cases ofOperation with
    | none => exact .ok trivial
    | some requirements =>
      exact ((addLevel_outcome r operation [] requirements).map _).mono fun _ _ => trivial

/-! ### When composing succeeds -/

theorem isOk_ofScheme (name : String) (s : SecurityScheme) :
    (ofScheme name s).isOk = s.isComplete := by
  unfold ofScheme SecurityScheme.isComplete
  cases ht : s.type with
  | http => rfl
  | oauth2 => rfl
  | openIdConnect => rfl
  | mutualTls => rfl
  | apiKey =>
    rcases s.location with _ | location
    · rfl
    · rcases usable? s.name with _ | key <;> rfl

theorem isOk_ofName (r : Resolver) (name : String) : (ofName r name).isOk = r.grants name := by
  rw [ofName, Resolver.securityScheme, Resolver.grants]
  rcases Entries.find? name r.components.securitySchemes with _ | s
  · rfl
  · exact isOk_ofScheme name s

theorem isOk_addLevel (r : Resolver) (operation : String) (cs : List Credential)
    (requirements : List SecurityRequirement) :
    (addLevel r operation cs requirements).2.isOk = (firstSchemes requirements).all r.grants := by
  induction requirements generalizing cs with
  | nil => rfl
  | cons requirement rest ih =>
    cases requirement with
    | nil => exact ih cs
    | cons first more =>
      obtain ⟨scheme, scopes⟩ := first
      have hg := isOk_ofName r scheme
      have hall : (firstSchemes (((scheme, scopes) :: more) :: rest)).all r.grants =
          (r.grants scheme && (firstSchemes rest).all r.grants) := rfl
      rw [addLevel, hall, ← hg]
      rcases ofName r scheme with err | _ | c
      · rfl
      · exact ih cs
      · exact ih _

/-- **Composing credentials succeeds exactly if every scheme that counts is there and complete.** -/
theorem isOk_compose (r : Resolver) (ofDocument : List SecurityRequirement)
    (ofOperation : Option (List SecurityRequirement)) (operation : String) :
    (compose r ofDocument ofOperation operation).2.isOk =
      ((firstSchemes ofDocument).all r.grants &&
        (firstSchemes (ofOperation.getD [])).all r.grants) := by
  have hd := isOk_addLevel r operation [] ofDocument
  unfold compose
  rw [← hd]
  rcases addLevel r operation [] ofDocument with ⟨notes, err | cs⟩
  · rfl
  · cases ofOperation with
    | none => rfl
    | some requirements =>
      have ho := isOk_addLevel r operation [] requirements
      rw [Option.getD_some, ← ho]
      simp only
      rcases addLevel r operation [] requirements with ⟨more, err | own⟩ <;> rfl

end Credential

end ApiModel
