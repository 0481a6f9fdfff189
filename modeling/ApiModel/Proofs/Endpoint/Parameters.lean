import ApiModel.Endpoint.Parameters
import ApiModel.Proofs.Outcome
import ApiModel.Proofs.Places
import ApiModel.Proofs.Pointwise

/-!
# Merged parameters

Merging finds all declared parameters first and then puts them, settled, in place
(`Parameter.mergeInto_eq`).  So it fails with the error of the first one that cannot be found, and
otherwise it keeps the last parameter of each name and location in the place of the first
(`Parameter.merge_keeps_last`).
-/

namespace ApiModel

theorem mem_of_mem_putInPlace {α : Type} {agrees : α → α → Bool} {v w : α} {vs : List α}
    (h : w ∈ putInPlace agrees v vs) : w = v ∨ w ∈ vs := by
  induction vs with
  | nil => exact .inl (List.mem_singleton.1 h)
  | cons x xs ih =>
    rw [putInPlace] at h
    split_ifs at h with hx
    · exact (List.mem_cons.1 h).imp_right (List.mem_cons_of_mem _)
    · rcases List.mem_cons.1 h with rfl | h
      · exact .inr List.mem_cons_self
      · exact (ih h).imp_right (List.mem_cons_of_mem _)

namespace Parameter

variable {r : Resolver} {ps : List Parameter} {ofPath ofOperation : List (OrRef Parameter)}

theorem isRequired_settled (p : Parameter) : p.settled.isRequired = p.settled.required := by
  simp [settled, isRequired]

theorem agrees_iff (p q : Parameter) : p.agrees q = true ↔ p.key = q.key :=
  beq_iff_eq

/-- Merging finds the declared parameters and puts them in place one after the other. -/
theorem mergeInto_eq (r : Resolver) (merged : List Parameter) (declared : List (OrRef Parameter)) :
    mergeInto r merged declared = (declared.mapM r.parameter).map fun found =>
      (found.map settled).foldl (fun ps p => putInPlace agrees p ps) merged := by
  induction declared generalizing merged with
  | nil => rfl
  | cons s rest ih =>
    rw [mergeInto, List.mapM_cons]
    rcases r.parameter s with err | p
    · rfl
    · refine (ih (putInPlace agrees p.settled merged)).trans ?_
      rcases rest.mapM r.parameter with err | found <;> rfl

theorem merge_eq_error_iff {err : RefError} :
    merge r ofPath ofOperation = .error err ↔
      FirstError (fun s x => r.parameter s = x) (ofPath ++ ofOperation) err := by
  rw [merge, mergeInto_eq, ← mapM_eq_error_iff]
  rcases (ofPath ++ ofOperation).mapM r.parameter with e | found <;> simp [Except.map]

/-- **Merged are the last parameters** with their names and locations, settled. -/
theorem exists_lasts_of_merge (h : merge r ofPath ofOperation = .ok ps) :
    ∃ found, List.Forall₂ (fun s p => r.parameter s = .ok p) (ofPath ++ ofOperation) found ∧
      Lasts key (found.map settled) ps := by
  rw [merge, mergeInto_eq, map_eq_ok_iff] at h
  obtain ⟨found, hfound, rfl⟩ := h
  refine ⟨found, mapM_eq_ok_iff.1 hfound, ?_⟩
  exact (Lasts.nil key).putInPlace agrees_iff (found.map settled)

theorem exists_of_merge (h : merge r ofPath ofOperation = .ok ps) {q : Parameter} (hq : q ∈ ps) :
    ∃ s ∈ ofPath ++ ofOperation, ∃ p, r.parameter s = .ok p ∧ q = p.settled := by
  obtain ⟨found, hfound, hlasts⟩ := exists_lasts_of_merge h
  obtain ⟨p, hp, rfl⟩ := List.mem_map.1 ((hlasts.mem_iff q).1 hq).mem
  obtain ⟨s, hs, hr⟩ := exists_of_mem_right hfound hp
  exact ⟨s, hs, p, hr, rfl⟩

theorem found_of_merge (h : merge r ofPath ofOperation = .ok ps) :
    ∀ s ∈ ofPath ++ ofOperation, ∃ p, r.parameter s = .ok p := by
  intro s hs
  obtain ⟨found, hfound, -⟩ := exists_lasts_of_merge h
  obtain ⟨p, -, hp⟩ := exists_of_mem_left hfound hs
  exact ⟨p, hp⟩

/-- What merging makes of the parameters that were found, in the order in which they are declared. -/
structure KeepsLast (found ps : List Parameter) : Prop where
  /-- No two merged parameters have the same name and location. -/
  nodup : (ps.map key).Nodup
  /-- Names and locations are those of the parameters, in the order in which they first came. -/
  keys_eq : ps.map key = (found.map key).eraseDups
  /-- Each merged parameter is the last one with its name and location; only that a parameter in the
  path is required, whatever it says. -/
  last : ∀ q ∈ ps, ∃ p, LastOf key found p ∧
    q = { p with required := p.required || p.location == .path }

/-- **Merging parameters** fails exactly if one of them cannot be found, with the error of the first
such one.  Otherwise it keeps the last parameter of each name and location, so that those of an
operation win over those of its path, in the place of the first. -/
theorem merge_keeps_last (r : Resolver) (ofPath ofOperation : List (OrRef Parameter)) :
    (∀ err, merge r ofPath ofOperation = .error err ↔
      FirstError (fun s x => r.parameter s = x) (ofPath ++ ofOperation) err) ∧
    ∀ ps, merge r ofPath ofOperation = .ok ps →
      ∃ found, List.Forall₂ (fun s p => r.parameter s = .ok p) (ofPath ++ ofOperation) found ∧
        KeepsLast found ps := by
  refine ⟨fun err => merge_eq_error_iff, fun ps h => ?_⟩
  obtain ⟨found, hfound, hlasts⟩ := exists_lasts_of_merge h
  refine ⟨found, hfound, ?_⟩
  constructor
  case nodup => exact hlasts.nodup
  case keys_eq =>
    rw [hlasts.keys_eq, List.map_map]
    rfl
  case last =>
    intro q hq
    obtain ⟨p, hp, rfl⟩ := ((hlasts.mem_iff q).1 hq).exists_of_map
    exact ⟨p, hp, rfl⟩

/-- Components with a parameter that others refer to. -/
def limited : Resolver where
  components := { parameters := [("Limit", .inline { name := "limit", location := .query })] }

/-- The parameters of a path, one of which a path cannot do without. -/
def ofShelf : List (OrRef Parameter) :=
  [.inline { name := "shelf", location := .path }, .ref "#/components/parameters/Limit",
    .inline { name := "shelf", location := .path, description := some "where it stands" }]

/-- The parameters of an operation, one of which is in the place of one of its path. -/
def ofListing : List (OrRef Parameter) :=
  [.inline { name := "limit", location := .header },
    .inline { name := "limit", location := .query, required := true }]

theorem merge_keeps_last_shelf :
    ∃ ps, merge limited ofShelf ofListing = .ok ps ∧
      ps.map key = [("shelf", .path), ("limit", .query), ("limit", .header)] ∧
      ps.map (·.required) = [true, true, false] ∧
      ∃ found, List.Forall₂ (fun s p => limited.parameter s = .ok p) (ofShelf ++ ofListing) found ∧
        KeepsLast found ps := by
  have hok : (merge limited ofShelf ofListing).isOk = true := by decide +kernel
  have hshelf : (merge limited ofShelf ofListing).map (·.map fun p => (p.key, p.required)) =
      .ok [(("shelf", .path), true), (("limit", .query), true), (("limit", .header), false)] := by
    decide +kernel
  obtain ⟨ps, hps⟩ := exists_eq_ok hok
  obtain ⟨-, hlaw⟩ := merge_keeps_last limited ofShelf ofListing
  rw [hps] at hshelf
  have hmap := Except.ok.inj hshelf
  refine ⟨ps, hps, ?_, ?_, hlaw ps hps⟩
  · simpa [List.map_map, Function.comp_def] using congrArg (List.map Prod.fst) hmap
  · simpa [List.map_map, Function.comp_def] using congrArg (List.map Prod.snd) hmap

end Parameter

end ApiModel
