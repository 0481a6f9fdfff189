import ApiModel.Endpoint.Input
import ApiModel.Proofs.Entries
import ApiModel.Proofs.Places

/-!
# Credentials that get fields

Credentials come last into an input and take no name that is there.  `Credential.Divided` tells which
of them get a field: those whose name is neither that of another field nor that of an earlier
credential.  `Input.addCredentials_eq` says that the loop over the credentials does exactly this, so
everything else about the loop follows from it without another induction.
-/

namespace ApiModel

/-- The credentials `cs` in their order, divided into those that get a field of their own and those
that are dropped.  The names in `held` are those of other fields. -/
inductive Credential.Divided (held : List String) :
    List Credential → List Credential → List Credential → Prop
  | nil : Divided held [] [] []
  /-- The name is neither that of another field nor that of an earlier credential. -/
  | added {cs added dropped : List Credential} {c : Credential}
    (h : Divided held cs added dropped) (hc : c.name ∉ held ∧ c.name ∉ cs.map (·.name)) :
    Divided held (cs ++ [c]) (added ++ [c]) dropped
  /-- The name is that of another field or of an earlier credential. -/
  | dropped {cs added dropped : List Credential} {c : Credential}
    (h : Divided held cs added dropped) (hc : c.name ∈ held ∨ c.name ∈ cs.map (·.name)) :
    Divided held (cs ++ [c]) added (dropped ++ [c])

namespace Credential

variable {held : List String} {cs added dropped : List Credential} {c : Credential} {name : String}

theorem exists_divided (held : List String) (cs : List Credential) :
    ∃ added dropped, Divided held cs added dropped := by
  induction cs using List.reverseRecOn with
  | nil => exact ⟨[], [], .nil⟩
  | append_singleton cs c ih =>
    obtain ⟨added, dropped, h⟩ := ih
    by_cases hc : c.name ∈ held ∨ c.name ∈ cs.map (·.name)
    · exact ⟨added, dropped ++ [c], h.dropped hc⟩
    · exact ⟨added ++ [c], dropped, h.added (not_or.1 hc)⟩

namespace Divided

variable (h : Divided held cs added dropped)
include h

/-- A dropped credential has a name that is taken, so it takes no other one. -/
theorem mem_names_iff :
    name ∈ held ∨ name ∈ added.map (·.name) ↔ name ∈ held ∨ name ∈ cs.map (·.name) := by
  induction h with
  | nil => rfl
  | added h hc ih => simp only [List.map_append, List.mem_append, ← or_assoc, ih]
  | dropped h hc ih =>
    rw [ih, List.map_append, List.mem_append, ← or_assoc, List.map_singleton, List.mem_singleton]
    refine ⟨.inl, fun hn => hn.elim id ?_⟩
    rintro rfl
    exact hc

theorem nodup (hd : held.Nodup) : (held ++ added.map (·.name)).Nodup := by
  induction h with
  | nil => simpa using hd
  | @added _ added _ c h hc ih =>
    have hnew : c.name ∉ held ++ added.map (·.name) :=
      List.mem_append.not.2 (h.mem_names_iff.not.2 (not_or.2 hc))
    rw [List.map_append, List.map_singleton, ← List.append_assoc]
    exact ih.append (List.nodup_singleton _) (List.disjoint_singleton.2 hnew)
  | dropped h hc ih => exact ih

/-- A credential gets a field if its name is free and it is the first one of this name. -/
theorem mem_added_iff : c ∈ added ↔ c.name ∉ held ∧ FirstOf (·.name) cs c := by
  induction h with
  | nil => exact ⟨by simp, fun hc => hc.2.mem⟩
  | added h hc ih =>
    rw [List.mem_append, ih, List.mem_singleton, firstOf_append, firstOf_singleton, and_or_left]
    refine or_congr_right ⟨?_, fun hn => hn.2.1⟩
    rintro rfl
    exact ⟨hc.1, rfl, hc.2⟩
  | dropped h hc ih =>
    rw [ih, firstOf_append, firstOf_singleton, and_or_left, iff_self_or]
    rintro ⟨hn, rfl, hk⟩
    exact absurd hc (not_or.2 ⟨hn, hk⟩)

theorem perm : (added ++ dropped).Perm cs := by
  induction h with
  | nil => exact .refl _
  | @added _ added _ c _ _ ih =>
    rw [List.append_assoc]
    refine (List.perm_append_comm.append_left added).trans ?_
    rw [← List.append_assoc]
    exact ih.append_right [c]
  | @dropped _ _ _ c _ _ ih =>
    rw [← List.append_assoc]
    exact ih.append_right [c]

end Divided

end Credential

namespace Input

variable {e : Endpoint} {i : Input} {held : List String} {k : String}
  {cs added dropped : List Credential}

/-- The field of a credential. -/
def credentialField : InputField :=
  ⟨.inline credentialSchema, .input⟩

/-- The fields of credentials by their names. -/
def credentialFields (cs : List Credential) : List (String × InputField) :=
  cs.map fun c => (c.name, credentialField)

@[simp] theorem keys_credentialFields (cs : List Credential) :
    Entries.keys (credentialFields cs) = cs.map (·.name) := by
  simp [Entries.keys, credentialFields]

theorem has_iff_of_divided (hk : ∀ name, name ∈ Entries.keys i.fields ↔ name ∈ held)
    (h : Credential.Divided held cs added dropped) :
    Entries.has (i.fields ++ credentialFields added) k = true ↔
      k ∈ held ∨ k ∈ cs.map (·.name) := by
  rw [Entries.has_iff, Entries.keys_append, List.mem_append, keys_credentialFields, hk,
    h.mem_names_iff]

/-- **What credentials do to an input**: those that get a field stand behind the fields that are
there, and the others are noted. -/
theorem addCredentials_eq (e : Endpoint) (hk : ∀ name, name ∈ Entries.keys i.fields ↔ name ∈ held)
    (h : Credential.Divided held cs added dropped) :
    cs.foldl (addCredential e) i =
      { i with
        fields := i.fields ++ credentialFields added
        notes := i.notes ++ dropped.map (droppedNote e) } := by
  induction h with
  | nil => simp [credentialFields]
  | added h hc ih =>
    rw [List.foldl_append, List.foldl_cons, List.foldl_nil, ih, addCredential,
      if_neg ((has_iff_of_divided hk h).not.2 (not_or.2 hc))]
    simp [credentialFields, credentialField]
  | dropped h hc ih =>
    rw [List.foldl_append, List.foldl_cons, List.foldl_nil, ih, addCredential,
      if_pos ((has_iff_of_divided hk h).2 hc)]
    simp

/-- The same without a word about other names: they are those of the fields that are there. -/
theorem exists_addCredentials_eq (e : Endpoint) (i : Input) (cs : List Credential) :
    ∃ added dropped, Credential.Divided (Entries.keys i.fields) cs added dropped ∧
      cs.foldl (addCredential e) i =
        { i with
          fields := i.fields ++ credentialFields added
          notes := i.notes ++ dropped.map (droppedNote e) } := by
  obtain ⟨added, dropped, h⟩ := Credential.exists_divided (Entries.keys i.fields) cs
  exact ⟨added, dropped, h, addCredentials_eq e (fun _ => Iff.rfl) h⟩

theorem find?_addCredentials {f : InputField} (cs : List Credential)
    (hf : Entries.find? k i.fields = some f) :
    Entries.find? k (cs.foldl (addCredential e) i).fields = some f := by
  obtain ⟨added, dropped, -, hi⟩ := exists_addCredentials_eq e i cs
  rw [hi]
  exact Entries.find?_append_of_some hf

theorem location_addCredentials {f : InputField} (cs : List Credential)
    (hf : Entries.find? k (cs.foldl (addCredential e) i).fields = some f) :
    Entries.find? k i.fields = some f ∨ f.location = .input := by
  obtain ⟨added, dropped, -, hi⟩ := exists_addCredentials_eq e i cs
  rw [hi, Entries.find?_append, Option.or_eq_some_iff] at hf
  refine hf.imp_right fun hf => ?_
  obtain ⟨c, -, hc⟩ := List.mem_map.1 (Entries.mem_of_find? hf.2)
  rw [← (Prod.mk.inj hc).2]
  rfl

@[simp] theorem required_addCredentials (cs : List Credential) :
    (cs.foldl (addCredential e) i).required = i.required := by
  obtain ⟨added, dropped, -, hi⟩ := exists_addCredentials_eq e i cs
  rw [hi]

theorem nodup_addCredentials (cs : List Credential) (hd : (Entries.keys i.fields).Nodup) :
    (Entries.keys (cs.foldl (addCredential e) i).fields).Nodup := by
  obtain ⟨added, dropped, h, hi⟩ := exists_addCredentials_eq e i cs
  rw [hi, Entries.keys_append, keys_credentialFields]
  exact h.nodup hd

theorem mem_notes_addCredentials {note : Diagnostic} (cs : List Credential)
    (hn : note.kind ≠ .securityFieldShadowed) :
    note ∈ (cs.foldl (addCredential e) i).notes ↔ note ∈ i.notes := by
  obtain ⟨added, dropped, -, hi⟩ := exists_addCredentials_eq e i cs
  rw [hi, List.mem_append, or_iff_left]
  intro hd
  obtain ⟨c, -, rfl⟩ := List.mem_map.1 hd
  exact hn rfl

end Input

end ApiModel
