import ApiModel.Proofs.Document.Parse
import ApiModel.Proofs.Model.Agreement
import ApiModel.Proofs.Naming.Groups

/-!
# Every declared operation is settled once

A run settles each operation at its own place (`Build.Run.map_place`), and the renaming of reserved
schemas moves none.  So the endpoints of a model stand for the declared operations: one for each path
and method, in the order of the paths and, within a path, in the order of `Method.all`.  The groups
of the model divide them by tag (`Model.build_covers`).  Parsed documents meet the assumption that
what is declared is in order (`Document.ordered_of_parse`).
-/

namespace ApiModel

/-- Whether a path declares an operation for a method. -/
def PathItem.declares (item : PathItem) (method : Method) : Bool :=
  item.operations.any (·.1 == method)

/-- The declared places: the paths in their order, each with its methods in the order of
`Method.all`. -/
def Document.places (d : Document) : List (String × Method) :=
  d.paths.flatMap fun (path, item) =>
    (Method.all.filter item.declares).map fun method => (path, method)

theorem PathItem.declares_iff {item : PathItem} {method : Method} :
    item.declares method = true ↔ method ∈ item.operations.map (·.1) := by
  simp [declares]

theorem Method.nodup_all : Method.all.Nodup := by decide

theorem filter_eq_of_sublist {α : Type} {as all : List α} {p : α → Bool} (hall : all.Nodup)
    (hs : as.Sublist all) (hp : ∀ a ∈ all, p a = true ↔ a ∈ as) : all.filter p = as := by
  induction hs with
  | slnil => rfl
  | cons a hs ih =>
    rw [List.nodup_cons] at hall
    rw [List.forall_mem_cons] at hp
    rw [List.filter_cons_of_neg fun h => hall.1 (hs.subset (hp.1.1 h))]
    exact ih hall.2 hp.2
  | cons_cons a hs ih =>
    rw [List.nodup_cons] at hall
    rw [List.forall_mem_cons] at hp
    rw [List.filter_cons_of_pos (hp.1.2 List.mem_cons_self)]
    refine congrArg _ (ih hall.2 fun b hb => ?_)
    have hne : b ≠ a := fun h => hall.1 (h ▸ hb)
    simp [hp.2 b hb, hne]

namespace Document

variable {d : Document}

theorem Ordered.places_eq (h : d.Ordered) :
    d.places = d.operations.map fun o => (o.1, o.2.1) := by
  simp only [places, operations, List.map_flatMap, List.map_map]
  refine List.flatMap_congr fun p hp => ?_
  have hm := filter_eq_of_sublist Method.nodup_all (h.methods_sublist p hp) (p := p.2.declares)
    fun method _ => PathItem.declares_iff
  rw [hm, List.map_map]
  rfl

theorem Ordered.nodup_places (h : d.Ordered) : d.places.Nodup := by
  have hpaths : d.paths.Pairwise fun p q => p.1 ≠ q.1 := List.pairwise_map.1 h.paths_nodup
  refine List.nodup_flatMap.2 ⟨fun p _ => ?_, hpaths.imp fun {p q} hne place hp hq => ?_⟩
  · exact (Method.nodup_all.filter _).map fun _ _ he => (Prod.mk.inj he).2
  · obtain ⟨_, -, rfl⟩ := List.mem_map.1 hp
    obtain ⟨_, -, he⟩ := List.mem_map.1 hq
    exact hne (Prod.mk.inj he).1.symm

end Document

namespace Build

variable {setting : Setting} {s s' : State} {site : Site} {e : Endpoint} {op : Operation}

theorem Settles.place_eq (h : Settles setting s site e op s') :
    (e.path, e.method) = (site.path, site.method) := by
  obtain ⟨-, -, -, -⟩ := h
  rfl

/-- **A run settles the operations at their places**, in their order. -/
theorem Run.map_place {places : List Site} {es : List Endpoint} {ops : List Operation}
    (h : Run setting s places es ops s') :
    es.map (fun e => (e.path, e.method)) = places.map fun site => (site.path, site.method) := by
  induction h with
  | nil => rfl
  | cons step _ ih => exact congrArg₂ List.cons step.place_eq ih

end Build

namespace Model

variable {options : Options} {analyzers : Analyzers} {d : Document} {m : Model}

/-- The groups of a model are made from the tags of its endpoints. -/
theorem groups_eq (h : build options analyzers d = .ok m) :
    m.groups = Group.ofTags (m.endpoints.map (·.tag)) := by
  unfold build at h
  simp only [bind_eq_ok_iff] at h
  obtain ⟨_, -, _, -, _, -, ⟨es, _, _⟩, -, hfinish⟩ := h
  have hok := (liftRef_outcome _).of_ok hfinish
  unfold Build.finish at hok
  simp only [bind_eq_ok_iff] at hok
  obtain ⟨_, -, _, -, hm⟩ := hok
  cases pure_eq_ok_iff.1 hm
  rfl

/-- **Coverage and grouping.**  The endpoints of a model stand for the declared operations, one for
each path and method and in the declared order, and the groups divide them by tag. -/
theorem build_covers (hd : d.Ordered) (h : build options analyzers d = .ok m) :
    m.endpoints.map (fun e => (e.path, e.method)) = d.places ∧ d.places.Nodup ∧
      Group.Partitions m.groups (m.endpoints.map (·.tag)) := by
  obtain ⟨t⟩ := exists_trace h
  have hplaces : m.endpoints.map (fun e => (e.path, e.method)) = d.places := by
    calc m.endpoints.map (fun e => (e.path, e.method))
        = (Build.sites t.renamed.paths).map fun site => (site.path, site.method) :=
          t.run.map_place
      _ = m.document.operations.map fun o => (o.1, o.2.1) := t.place_operations.symm
      _ = d.operations.map fun o => (o.1, o.2.1) := t.place_eq
      _ = d.places := hd.places_eq.symm
  refine ⟨hplaces, hd.nodup_places, ?_⟩
  rw [groups_eq h]
  exact Group.partitions_ofTags _

/-- A document with operations whose tags are declared, blank, taken from the path, and missing. -/
def museum : Document where
  openapi := "3.0.0"
  info := { title := "Museum", version := "1" }
  paths :=
    [("/tours/\x7bid\x7d",
      { parameters := [.inline { name := "id", location := .path }]
        operations :=
          [(.get, { operationId := some "tour", tags := ["  ", "visits"] }),
            (.delete, { operationId := some "cancelTour" })] }),
      ("/\x7broom\x7d", { operations := [(.get, { tags := [" "] })] }),
      ("/rooms", { operations := [(.get, {}), (.post, { tags := ["visits", "rooms"] })] })]

theorem build_covers_museum :
    museum.Ordered ∧ ∃ m, build {} [] museum = .ok m ∧
      m.endpoints.map (fun e => (e.path, e.method)) = museum.places ∧ museum.places.Nodup ∧
      Group.Partitions m.groups (m.endpoints.map (·.tag)) := by
  have hd : museum.Ordered := ⟨by decide, by decide⟩
  have hok : (build {} [] museum).isOk = true := by decide +kernel
  obtain ⟨m, hm⟩ := exists_eq_ok hok
  exact ⟨hd, m, hm, build_covers hd hm⟩

end Model

end ApiModel
