import ApiModel.Proofs.Model.Trace
import ApiModel.Proofs.Naming.Namer

/-!
# Names of endpoints

The namer never gives a name twice, but an endpoint is known by the camel case form of the name that
it was given, and casing a name once more can make two names the same.  So the names of endpoints
differ **exactly when** that last casing keeps the given names apart (`Model.distinctNames_iff`).  It
does so for documents in ASCII whose aliases are settled, in particular without aliases; and it does
not for two operations of which one has the alias `a_b_c` (`Model.not_distinct_twice`).
-/

namespace ApiModel

namespace Build

/-- What decides the name of a site. -/
def Site.source (site : Site) : NameSource :=
  (site.path, site.method, site.operation.operationId)

theorem Run.names {setting : Setting} {s s' : State} {places : List Site} {es : List Endpoint}
    {ops : List Operation} (h : Run setting s places es ops s') :
    es.map (·.canonicalName) = (s.namer.given (places.map Site.source)).map Name.camelOf := by
  induction h with
  | nil => rfl
  | cons step _ ih =>
    obtain ⟨-, -, -, -⟩ := step
    exact congrArg (List.cons _) ih

theorem map_source_sites (d : Document) : (sites d.paths).map Site.source = d.nameSources := by
  simp only [sites, sitesOfItem, Document.nameSources, PathItem.nameSources, List.map_flatMap,
    List.map_map]
  rfl

end Build

/-- The namer before any name is given. -/
def Options.namer (options : Options) : Namer :=
  { strategy := options.strategy, aliases := options.aliases }

namespace Model

variable {options : Options} {analyzers : Analyzers} {d : Document} {m : Model}

/-- The endpoints of a model can be told apart by their names. -/
structure DistinctNames (m : Model) : Prop where
  /-- No two endpoints have the same name. -/
  nodup : (m.endpoints.map (·.canonicalName)).Nodup
  /-- There is one paging hint for each endpoint. -/
  hints : Entries.keys m.paging = m.endpoints.map (·.canonicalName)
  /-- Looking up the name of an endpoint gives that endpoint. -/
  found : ∀ e ∈ m.endpoints, m.endpoint? e.canonicalName = some e

theorem Trace.names (t : Trace options analyzers d m) :
    m.endpoints.map (·.canonicalName) =
      (options.namer.given d.nameSources).map Name.camelOf := by
  rw [t.run.names, Build.map_source_sites, t.nameSources_eq]
  rfl

theorem endpoint?_canonicalName (hd : (m.endpoints.map (·.canonicalName)).Nodup) {e : Endpoint}
    (he : e ∈ m.endpoints) : m.endpoint? e.canonicalName = some e := by
  have hsome : (m.endpoint? e.canonicalName).isSome := by
    rw [endpoint?, List.find?_isSome]
    exact ⟨e, he, by simp⟩
  obtain ⟨e', he'⟩ := Option.isSome_iff_exists.1 hsome
  have hn : e'.canonicalName = e.canonicalName := by simpa using List.find?_some he'
  rw [he', List.inj_on_of_nodup_map hd (List.mem_of_find?_eq_some he') he hn]

/-- **Names that differ tell the endpoints apart.** -/
theorem Trace.distinctNames (t : Trace options analyzers d m)
    (hd : (m.endpoints.map (·.canonicalName)).Nodup) : m.DistinctNames := by
  refine ⟨hd, ?_, fun e he => endpoint?_canonicalName hd he⟩
  have hk : Entries.keys (m.endpoints.map fun e => (e.canonicalName,
      options.paging.infer (t.final.draft.resolver { t.components with schemas := [] }) e)) =
      m.endpoints.map (·.canonicalName) := by
    rw [Entries.keys, List.map_map]
    rfl
  rw [t.paging_eq, Analysis.paging, Entries.ofPairs_eq_self (hk ▸ hd), hk]

/-- **The endpoints of a model can be told apart exactly when casing the given names once more keeps
them apart.**  It does for documents in ASCII whose aliases are settled. -/
theorem distinctNames_iff (h : build options analyzers d = .ok m) :
    (m.DistinctNames ↔
      ∀ s ∈ options.namer.given d.nameSources, ∀ t ∈ options.namer.given d.nameSources,
        Name.camelOf s = Name.camelOf t → s = t) ∧
      (Namer.Settling options.aliases d.nameSources → m.DistinctNames) := by
  obtain ⟨t⟩ := exists_trace h
  have hgiven := (options.namer.nodup_given d.nameSources).1
  have hiff : m.DistinctNames ↔
      ∀ s ∈ options.namer.given d.nameSources, ∀ t ∈ options.namer.given d.nameSources,
        Name.camelOf s = Name.camelOf t → s = t := by
    constructor
    · intro hm s hs s' hs' he
      have hd := hm.nodup
      rw [t.names] at hd
      exact List.inj_on_of_nodup_map hd hs hs' he
    · intro hinj
      refine t.distinctNames ?_
      rw [t.names]
      exact hgiven.map_on fun s hs s' hs' he => hinj s hs s' hs' he
  refine ⟨hiff, fun hsettling => hiff.2 fun s hs s' hs' he => ?_⟩
  -- stable names are their own camel case forms
  have hstable := Namer.stable_of_mem_given (n := options.namer) hsettling
  rwa [(hstable s hs).camelOf_eq, (hstable s' hs').camelOf_eq] at he

/-- A document with two operations. -/
def twice : Document where
  openapi := "3.0.0"
  info := { title := "Twice", version := "1" }
  paths :=
    [("/a", { operations := [(.get, { operationId := some "x" })] }),
      ("/b", { operations := [(.get, { operationId := some "aBc" })] })]

theorem distinctNames_twice : ∃ m, build {} [] twice = .ok m ∧ m.DistinctNames := by
  have hok : (build {} [] twice).isOk = true := by decide +kernel
  obtain ⟨m, hm⟩ := exists_eq_ok hok
  exact ⟨m, hm, (distinctNames_iff hm).2
    ⟨by decide +kernel, by decide +kernel, by simp, by simp⟩⟩

/-- **Two endpoints have the same name**: the namer gives `aBC` and `aBc`, and casing the first once
more makes it the second. -/
theorem not_distinct_twice :
    ∃ m, build { aliases := [("x", "a_b_c")] } [] twice = .ok m ∧ ¬ m.DistinctNames := by
  have hnames : (build { aliases := [("x", "a_b_c")] } [] twice).toOption.map
      (fun m => m.endpoints.map (·.canonicalName)) = some ["aBc", "aBc"] := by decide +kernel
  rcases hb : build { aliases := [("x", "a_b_c")] } [] twice with err | m
  · rw [hb] at hnames
    cases hnames
  · rw [hb] at hnames
    have hn : m.endpoints.map (·.canonicalName) = ["aBc", "aBc"] := Option.some.inj hnames
    refine ⟨m, rfl, fun h => absurd h.nodup ?_⟩
    rw [hn]
    decide

end Model

end ApiModel
