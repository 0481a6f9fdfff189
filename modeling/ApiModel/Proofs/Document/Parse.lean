import ApiModel.Document.Parse
import ApiModel.Proofs.Entries
import ApiModel.Proofs.Pointwise

/-!
# Parsed documents are well-formed

What is read as a map has no key twice, so a document that was parsed names every component schema
once (`Document.nodup_schemas_of_parse`).  It declares no path twice, either, and its operations come
in the order of `Method.all` (`Document.ordered_of_parse`).
-/

namespace ApiModel

namespace Tree

variable {α : Type} {read : Tree → Option α}

theorem nodup_of_entriesOf? {t : Tree} {es : List (String × α)} (h : entriesOf? read t = some es) :
    (Entries.keys es).Nodup := by
  simp only [entriesOf?, Option.bind_eq_bind, Option.bind_eq_some_iff] at h
  obtain ⟨_, _, pairs, _, h⟩ := h
  cases h
  exact Entries.nodup_ofPairs pairs

theorem exists_of_mem_entriesOf? {t : Tree} {es : List (String × α)}
    (h : entriesOf? read t = some es) {e : String × α} (he : e ∈ es) :
    ∃ t', read t' = some e.2 := by
  simp only [entriesOf?, Option.bind_eq_bind, Option.bind_eq_some_iff] at h
  obtain ⟨entries, -, pairs, hpairs, h⟩ := h
  cases h
  obtain ⟨⟨k, v⟩, -, hread⟩ :=
    exists_of_mem_right (mapM_eq_some_iff.1 hpairs) (Entries.mem_of_mem_ofPairs he)
  simp only [Option.bind_eq_some_iff] at hread
  obtain ⟨name, -, value, hv, he⟩ := hread
  cases he
  exact ⟨v, hv⟩

/-- A field that is a map has no key twice, also when it is missing. -/
theorem Record.nodup_of_getD? {r : Record} {name : String} {es : List (String × α)}
    (h : r.getD? name (entriesOf? read) [] = some es) : (Entries.keys es).Nodup := by
  rw [getD?] at h
  split at h
  · exact nodup_of_entriesOf? h
  · cases h
    exact List.nodup_nil

theorem Record.exists_of_optional? {r : Record} {name : String} {v : α}
    (h : r.optional? name read = some (some v)) : ∃ t, read t = some v := by
  have hmap : ∀ t, (read t).map some = some (some v) → ∃ t, read t = some v := by
    intro t ht
    obtain ⟨w, hw, he⟩ := Option.map_eq_some_iff.1 ht
    cases he
    exact ⟨t, hw⟩
  rw [Record.optional?] at h
  split at h
  · unfold Tree.optional? at h
    split at h
    · cases h
    · split_ifs at h
      · cases h
      · exact hmap _ h
    · split_ifs at h
      · cases h
      · exact hmap _ h
    · exact hmap _ h
  · split_ifs at h
    cases h

theorem Record.exists_of_mem_getD? {r : Record} {name : String} {es : List (String × α)}
    (h : r.getD? name (entriesOf? read) [] = some es) {e : String × α} (he : e ∈ es) :
    ∃ t, read t = some e.2 := by
  rw [getD?] at h
  split at h
  · exact exists_of_mem_entriesOf? h he
  · cases h
    cases he

end Tree

theorem Components.nodup_schemas_of_ofTree? {t : Tree} {c : Components} (h : ofTree? t = some c) :
    (Entries.keys c.schemas).Nodup := by
  simp only [ofTree?, Option.bind_eq_bind, Option.bind_eq_some_iff] at h
  obtain ⟨_, _, schemas, hs, _, _, _, _, _, _, _, _, h⟩ := h
  cases h
  exact Tree.Record.nodup_of_getD? hs

theorem Document.exists_of_parse {language : Syntax} {text : String} {d : Document}
    (h : parse language text = .ok d) : ∃ t, ofTree? t = some d := by
  rw [parse] at h
  split at h
  · cases h
  · rename_i d' hd
    split_ifs at h
    cases h
    obtain ⟨t, -, ht⟩ := Option.bind_eq_some_iff.1 hd
    exact ⟨t, ht⟩

/-- **A parsed document names every component schema once.** -/
theorem Document.nodup_schemas_of_parse {language : Syntax} {text : String} {d : Document}
    (h : parse language text = .ok d) : (Entries.keys d.componentsD.schemas).Nodup := by
  obtain ⟨t, ht⟩ := exists_of_parse h
  simp only [ofTree?, Option.bind_eq_bind, Option.bind_eq_some_iff] at ht
  obtain ⟨_, _, _, _, _, _, _, _, _, _, components, hc, _, _, _, _, ht⟩ := ht
  cases ht
  rcases components with _ | c
  · exact List.nodup_nil
  · obtain ⟨t', ht'⟩ := Tree.Record.exists_of_optional? hc
    exact Components.nodup_schemas_of_ofTree? ht'

/-! ### Paths and methods -/

/-- What a document declares is in order: no path stands twice, and the operations of a path come in
the order of `Method.all`. -/
structure Document.Ordered (d : Document) : Prop where
  /-- No path stands twice. -/
  paths_nodup : (Entries.keys d.paths).Nodup
  /-- The methods of a path are in order, and none of them stands twice. -/
  methods_sublist : ∀ p ∈ d.paths, (p.2.operations.map (·.1)).Sublist Method.all

theorem PathItem.sublist_of_operationsOf? {r : Tree.Record} {methods : List Method}
    {ops : List (Method × Operation)} (h : operationsOf? r methods = some ops) :
    (ops.map (·.1)).Sublist methods := by
  induction methods generalizing ops with
  | nil =>
    cases h
    exact List.Sublist.slnil
  | cons method rest ih =>
    simp only [operationsOf?, Option.bind_eq_bind, Option.bind_eq_some_iff] at h
    obtain ⟨op, -, later, hlater, h⟩ := h
    cases op with
    | none =>
      cases h
      exact (ih hlater).cons method
    | some op =>
      cases h
      exact (ih hlater).cons_cons method

theorem PathItem.sublist_of_ofTree? {t : Tree} {item : PathItem} (h : ofTree? t = some item) :
    (item.operations.map (·.1)).Sublist Method.all := by
  simp only [ofTree?, Option.bind_eq_bind, Option.bind_eq_some_iff] at h
  obtain ⟨_, _, _, _, _, _, _, _, ops, hops, h⟩ := h
  cases h
  exact sublist_of_operationsOf? hops

/-- **What a parsed document declares is in order.** -/
theorem Document.ordered_of_parse {language : Syntax} {text : String} {d : Document}
    (h : parse language text = .ok d) : d.Ordered := by
  obtain ⟨t, ht⟩ := exists_of_parse h
  simp only [ofTree?, Option.bind_eq_bind, Option.bind_eq_some_iff] at ht
  obtain ⟨_, _, _, _, _, _, _, _, paths, hp, _, _, _, _, _, _, ht⟩ := ht
  cases ht
  refine ⟨Tree.Record.nodup_of_getD? hp, fun p hmem => ?_⟩
  obtain ⟨t', ht'⟩ := Tree.Record.exists_of_mem_getD? hp hmem
  exact PathItem.sublist_of_ofTree? ht'

end ApiModel
