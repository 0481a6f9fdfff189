import ApiModel.Document.Walk
import ApiModel.Proofs.Entries
import Mathlib.Data.List.Forall2

/-!
# What walks keep

A walk puts other pointers into a document and leaves everything else as it is.  Here this is said
of what decides names: the names of the component schemas (`Components.keys_schemas_mapPointers`) and
the paths, methods and ids of the operations (`Document.nameSources_mapPointers`).
-/

namespace ApiModel

variable {σ α β : Type} {f : α → StateM σ α} {g r : α → β}

/-- What can be said of the result of visiting one value can be said of each value of a map. -/
theorem map_walkEntries (hg : ∀ v s, g ((f v).run s).1 = r v) (es : List (String × α)) (s : σ) :
    ((walkEntries f es).run s).1.map (fun e => (e.1, g e.2)) = es.map fun e => (e.1, r e.2) := by
  induction es generalizing s with
  | nil => rfl
  | cons e es ih =>
    obtain ⟨k, v⟩ := e
    exact congrArg₂ (fun v' rest => (k, v') :: rest) (hg v s) (ih _)

theorem keys_walkEntries (f : α → StateM σ α) (es : List (String × α)) (s : σ) :
    Entries.keys ((walkEntries f es).run s).1 = Entries.keys es := by
  have h := congrArg (List.map Prod.fst) (map_walkEntries (f := f) (g := fun _ => ())
    (r := fun _ => ()) (fun _ _ => rfl) es s)
  rw [List.map_map, List.map_map] at h
  exact h

theorem forall₂_walkEntries {R : α → α → Prop} {f : α → StateM σ α}
    (h : ∀ v s, R v ((f v).run s).1) (es : List (String × α)) (s : σ) :
    List.Forall₂ (fun e e' => e'.1 = e.1 ∧ R e.2 e'.2) es ((walkEntries f es).run s).1 := by
  induction es generalizing s with
  | nil => exact .nil
  | cons e es ih => exact .cons ⟨rfl, h e.2 s⟩ (ih _)

theorem exists_walkEntries_append (f : α → StateM σ α) (es more : List (String × α)) (s : σ) :
    ∃ s', ((walkEntries f (es ++ more)).run s).1 =
      ((walkEntries f es).run s).1 ++ ((walkEntries f more).run s').1 := by
  induction es generalizing s with
  | nil => exact ⟨s, rfl⟩
  | cons e es ih =>
    obtain ⟨k, v⟩ := e
    obtain ⟨s', h⟩ := ih ((f v).run s).2
    exact ⟨s', congrArg (List.cons _) h⟩

/-- What decides the name of an operation: its path, its method and its id. -/
abbrev NameSource := String × Method × Option String

/-- What decides the names of the operations of a path. -/
def PathItem.nameSources (path : String) (item : PathItem) : List NameSource :=
  item.operations.map fun (method, op) => (path, method, op.operationId)

/-- What decides the names of the operations of a document, in their order. -/
def Document.nameSources (d : Document) : List NameSource :=
  d.paths.flatMap fun (path, item) => item.nameSources path

theorem PathItem.map_walkOperations (visit : Visit (StateM σ)) (ops : List (Method × Operation))
    (s : σ) :
    ((PathItem.walkOperations visit ops).run s).1.map (fun o => (o.1, o.2.operationId)) =
      ops.map fun o => (o.1, o.2.operationId) := by
  induction ops generalizing s with
  | nil => rfl
  | cons o ops ih =>
    obtain ⟨method, op⟩ := o
    exact congrArg (List.cons (method, op.operationId)) (ih _)

theorem Components.keys_schemas_mapPointers (f : Nat → PointerKind → String → String)
    (c : Components) : Entries.keys (c.mapPointers f).schemas = Entries.keys c.schemas :=
  keys_walkEntries (Schema.walkRef (Visit.replace f)) c.schemas 0

/-- **No walk changes what decides the names of operations.** -/
theorem Document.nameSources_mapPointers (f : Nat → PointerKind → String → String) (d : Document) :
    (d.mapPointers f).nameSources = d.nameSources := by
  let ids (item : PathItem) := item.operations.map fun o => (o.1, o.2.operationId)
  have hids := map_walkEntries (f := PathItem.walk (Visit.replace f)) (g := ids) (r := ids)
    (fun item s => PathItem.map_walkOperations (Visit.replace f) item.operations _) d.paths 0
  have hsources : ∀ d : Document, d.nameSources =
      (d.paths.map fun p => (p.1, ids p.2)).flatMap fun p => p.2.map fun o => (p.1, o) := by
    intro d
    simp only [Document.nameSources, List.flatMap_map, PathItem.nameSources, ids, List.map_map]
    rfl
  rw [hsources, hsources d]
  exact congrArg (List.flatMap fun p => p.2.map fun o => (p.1, o)) hids

end ApiModel
