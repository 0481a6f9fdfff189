import ApiModel.Proofs.Document.Parse
import ApiModel.Proofs.Model.Trace

/-!
# Registries of models

The three writers of a registry, the renaming of reserved schemas, the declaring of component
schemas and the registering of inputs, keep one invariant: every name is registered once, and none
is reserved (`Draft.Sound`).  `Model.registry_sound` says so of every model, and that the document of
the model holds exactly the registered schemas.  Parsed documents meet its assumption
(`Document.nodup_schemas_of_parse`).
-/

namespace ApiModel

namespace Model

variable {options : Options} {analyzers : Analyzers} {d : Document} {m : Model}

theorem Trace.sound_start (t : Trace options analyzers d m)
    (hd : (Entries.keys d.componentsD.schemas).Nodup) :
    Draft.Sound
      { registry := ⟨t.components.schemas, []⟩, reserved := ⟨options.reserved⟩ } := by
  obtain ⟨renames, hren, h⟩ := bind_eq_ok_iff.1 t.renamed_eq
  have hk := Document.keys_schemas_rename { d with components := none } hren hd
  rw [pure_eq_ok_iff.1 h] at hk
  exact ⟨hk.1, hk.2⟩

theorem Trace.sound_final (t : Trace options analyzers d m)
    (hd : (Entries.keys d.componentsD.schemas).Nodup) :
    t.final.draft.Sound ∧ t.final.draft.reserved = ⟨options.reserved⟩ :=
  ⟨t.run.adds.sound (t.sound_start hd), t.run.adds.reserved⟩

/-- **Registries are sound**: the names in the registry of a model are different, none of them is
reserved, and the document of the model has exactly the registered schemas.  No schema name is ever
found taken. -/
theorem registry_sound (options : Options) (analyzers : Analyzers) (d : Document)
    (hd : (Entries.keys d.componentsD.schemas).Nodup) :
    (∀ m, build options analyzers d = .ok m →
      (Entries.keys m.registry.entries).Nodup ∧
        (∀ name ∈ Entries.keys m.registry.entries,
          name ∉ Reserved.words ∧ name ∉ options.reserved) ∧
        m.document.componentsD.schemas = m.registry.entries) ∧
      ∀ name, build options analyzers d ≠ .error (.nameTaken name) := by
  refine ⟨fun m h => ?_, fun name h => ?_⟩
  · obtain ⟨t⟩ := exists_trace h
    obtain ⟨hs, hr⟩ := t.sound_final hd
    rw [t.registry_eq]
    refine ⟨hs.nodup, fun name hm => ?_, ?_⟩
    · have hf := hs.free name hm
      rw [hr, Reserved.contains, Bool.or_eq_false_iff] at hf
      exact ⟨by simpa using hf.1, by simpa using hf.2⟩
    · rw [t.document_eq, Document.componentsD]
      exact Build.schemas_finalComponents _ _
  · exact (build_outcome options analyzers d).of_error h hd name rfl

/-- A document with a reserved schema name, in which the next name for that schema is declared. -/
def reservedObject : Document where
  openapi := "3.0.0"
  info := { title := "Objects", version := "1" }
  paths :=
    [("/objects",
      { operations :=
          [(.post,
            { operationId := some "putObject"
              requestBody := some (.inline
                { content :=
                    [("application/json",
                      { schema := some (.ref "#/components/schemas/Object") })] }) })] })]
  components := some
    { schemas :=
        [("Object", .inline { properties := [("id", .inline {})] }),
          ("Object2", .ref "#/components/schemas/Object")] }

theorem registry_sound_reservedObject :
    (Entries.keys reservedObject.componentsD.schemas).Nodup ∧
      ∃ m, build { reserved := ["PutObjectInput"] } [] reservedObject = .ok m ∧
        (Entries.keys m.registry.entries).Nodup ∧
        (∀ name ∈ Entries.keys m.registry.entries,
          name ∉ Reserved.words ∧ name ∉ ["PutObjectInput"]) ∧
        m.document.componentsD.schemas = m.registry.entries := by
  have hd : (Entries.keys reservedObject.componentsD.schemas).Nodup := by decide
  have hok : (build { reserved := ["PutObjectInput"] } [] reservedObject).isOk = true := by
    decide +kernel
  obtain ⟨m, hm⟩ := exists_eq_ok hok
  exact ⟨hd, m, hm, (registry_sound { reserved := ["PutObjectInput"] } [] _ hd).1 m hm⟩

end Model

end ApiModel
