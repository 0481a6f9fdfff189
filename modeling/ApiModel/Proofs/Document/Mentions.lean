import ApiModel.Resolver

/-!
# Mentions of pointers

A pointer stands in a place of the document, and the place decides what it should lead to: a `$ref`
where a schema is wanted should lead to a schema, whatever section the pointer itself names.
`Document.mentions` lists the pointers of a document with their places, in the order of the walk: a
walk that only looks at pointers looks at exactly these (`Document.walk_look`), and they are the
pointers of the document (`Document.pointers_eq`).
-/

namespace ApiModel

/-- Where a pointer stands, and so what it should lead to. -/
inductive Place where
  /-- In a `$ref`, where an entry of a section is wanted. -/
  | ref (wanted : Section)
  /-- In the mapping of a discriminator. -/
  | mapping
  deriving DecidableEq, Repr

/-- The kind of pointer that stands in a place. -/
def Place.kind : Place → PointerKind
  | ref _ => .ref
  | mapping => .mapping

/-- A pointer and the place where it stands. -/
structure Mention where
  /-- Where it stands. -/
  place : Place
  /-- The pointer. -/
  pointer : String
  deriving DecidableEq, Repr

/-! ### The mentions in a document -/

/-- The mentions in a value that may be a reference to one in a section. -/
def OrRef.mentions {α : Type} (wanted : Section) (inside : α → List Mention) :
    OrRef α → List Mention
  | .ref p => [⟨.ref wanted, p⟩]
  | .inline v => inside v

/-- The mentions in a discriminator. -/
def Discriminator.mentions (d : Discriminator) : List Mention :=
  d.mapping.map fun (_, target) => ⟨.mapping, target⟩

namespace Schema

mutual

/-- The mentions in a schema. -/
def mentions : Schema → List Mention
  | ⟨_, _, _, _, _, _, properties, _, additional, items, allOf, oneOf, anyOf, discriminator, _, _,
      _, _, _, _, _⟩ =>
    mentionsOfProperties properties ++ mentionsOfItems items ++ mentionsOfBranches allOf ++
      mentionsOfBranches oneOf ++ mentionsOfBranches anyOf ++ mentionsOfAdditional additional ++
      discriminator.elim [] Discriminator.mentions

/-- The mentions in a schema or a reference to one. -/
def mentionsOfRef : OrRef Schema → List Mention
  | .ref p => [⟨.ref .schemas, p⟩]
  | .inline s => mentions s

/-- The mentions in the properties. -/
def mentionsOfProperties : List (String × OrRef Schema) → List Mention
  | [] => []
  | (_, s) :: rest => mentionsOfRef s ++ mentionsOfProperties rest

/-- The mentions in the schema of the items. -/
def mentionsOfItems : Option (OrRef Schema) → List Mention
  | none => []
  | some s => mentionsOfRef s

/-- The mentions in branches. -/
def mentionsOfBranches : List (OrRef Schema) → List Mention
  | [] => []
  | s :: rest => mentionsOfRef s ++ mentionsOfBranches rest

/-- The mentions in the schema of additional properties. -/
def mentionsOfAdditional : Option (Additional Schema) → List Mention
  | none => []
  | some (.allowed _) => []
  | some (.schema s) => mentionsOfRef s

end

theorem mentionsOfProperties_eq (ps : List (String × OrRef Schema)) :
    mentionsOfProperties ps = ps.flatMap fun e => mentionsOfRef e.2 := by
  induction ps with
  | nil => rfl
  | cons e ps ih => rw [mentionsOfProperties, ih, List.flatMap_cons]

theorem mentionsOfBranches_eq (bs : List (OrRef Schema)) :
    mentionsOfBranches bs = bs.flatMap mentionsOfRef := by
  induction bs with
  | nil => rfl
  | cons s bs ih => rw [mentionsOfBranches, ih, List.flatMap_cons]

/-- The mentions in a schema, part by part. -/
theorem mentions_eq (s : Schema) :
    s.mentions = (s.properties.flatMap fun e => mentionsOfRef e.2) ++ mentionsOfItems s.items ++
      s.allOf.flatMap mentionsOfRef ++ s.oneOf.flatMap mentionsOfRef ++
      s.anyOf.flatMap mentionsOfRef ++ mentionsOfAdditional s.additionalProperties ++
      s.discriminator.elim [] Discriminator.mentions := by
  cases s
  simp only [mentions, mentionsOfProperties_eq, mentionsOfBranches_eq]

theorem mentionsOfRef_eq : mentionsOfRef = OrRef.mentions .schemas mentions := by
  funext s
  cases s <;> rfl

variable {s : Schema} {b : OrRef Schema}

theorem mentionsOfRef_subset_of_mem_properties {k : String} (h : (k, b) ∈ s.properties) :
    mentionsOfRef b ⊆ s.mentions := by
  intro u hu
  have hp : u ∈ s.properties.flatMap fun e => mentionsOfRef e.2 := List.mem_flatMap.2 ⟨_, h, hu⟩
  simp [mentions_eq, hp]

theorem mentionsOfRef_subset_of_mem_allOf (h : b ∈ s.allOf) : mentionsOfRef b ⊆ s.mentions := by
  intro u hu
  have hp : u ∈ s.allOf.flatMap mentionsOfRef := List.mem_flatMap.2 ⟨_, h, hu⟩
  simp [mentions_eq, hp]

theorem mentionsOfRef_subset_of_mem_oneOf (h : b ∈ s.oneOf) : mentionsOfRef b ⊆ s.mentions := by
  intro u hu
  have hp : u ∈ s.oneOf.flatMap mentionsOfRef := List.mem_flatMap.2 ⟨_, h, hu⟩
  simp [mentions_eq, hp]

theorem mentionsOfRef_subset_of_mem_anyOf (h : b ∈ s.anyOf) : mentionsOfRef b ⊆ s.mentions := by
  intro u hu
  have hp : u ∈ s.anyOf.flatMap mentionsOfRef := List.mem_flatMap.2 ⟨_, h, hu⟩
  simp [mentions_eq, hp]

end Schema

/-- The mentions in a parameter. -/
def Parameter.mentions (p : Parameter) : List Mention :=
  p.schema.elim [] Schema.mentionsOfRef

/-- The mentions in a media type. -/
def MediaType.mentions (t : MediaType) : List Mention :=
  t.schema.elim [] Schema.mentionsOfRef

/-- The mentions in a request body. -/
def RequestBody.mentions (b : RequestBody) : List Mention :=
  b.content.flatMap fun (_, t) => t.mentions

/-- The mentions in a response. -/
def Response.mentions (r : Response) : List Mention :=
  r.content.flatMap fun (_, t) => t.mentions

/-- The mentions in parameters. -/
def Parameter.mentionsOfList (ps : List (OrRef Parameter)) : List Mention :=
  ps.flatMap (OrRef.mentions .parameters Parameter.mentions)

/-- The mentions in an operation. -/
def Operation.mentions (op : Operation) : List Mention :=
  Parameter.mentionsOfList op.parameters ++
    op.requestBody.elim [] (OrRef.mentions .requestBodies RequestBody.mentions) ++
    op.responses.flatMap fun (_, r) => r.mentions .responses Response.mentions

/-- The mentions in a path. -/
def PathItem.mentions (item : PathItem) : List Mention :=
  Parameter.mentionsOfList item.parameters ++ item.operations.flatMap fun (_, op) => op.mentions

/-- The mentions in components. -/
def Components.mentions (c : Components) : List Mention :=
  (c.schemas.flatMap fun (_, s) => Schema.mentionsOfRef s) ++
    (c.parameters.flatMap fun (_, p) => p.mentions .parameters Parameter.mentions) ++
    (c.requestBodies.flatMap fun (_, b) => b.mentions .requestBodies RequestBody.mentions) ++
    c.responses.flatMap fun (_, r) => r.mentions .responses Response.mentions

theorem Components.mem_mentions_iff {c : Components} {u : Mention} :
    u ∈ c.mentions ↔ (∃ e ∈ c.schemas, u ∈ Schema.mentionsOfRef e.2) ∨
      (∃ e ∈ c.parameters, u ∈ e.2.mentions .parameters Parameter.mentions) ∨
      (∃ e ∈ c.requestBodies, u ∈ e.2.mentions .requestBodies RequestBody.mentions) ∨
      ∃ e ∈ c.responses, u ∈ e.2.mentions .responses Response.mentions := by
  simp only [Components.mentions, List.mem_append, List.mem_flatMap, or_assoc]

/-- The mentions in a document. -/
def Document.mentions (d : Document) : List Mention :=
  (d.paths.flatMap fun (_, item) => item.mentions) ++ d.componentsD.mentions

theorem Document.mentions_eq (d : Document) :
    d.mentions = (d.paths.flatMap fun p => p.2.mentions) ++
      d.components.elim [] Components.mentions := by
  rw [mentions, componentsD]
  cases d.components <;> rfl

/-! ### Parts of records -/

/-- A part of a record, and what puts another one in its place. -/
structure IsPart {α β : Type} (part : β → α) (put : α → β → β) : Prop where
  /-- What was put in is the part. -/
  part_put : ∀ v b, part (put v b) = v
  /-- What stood there before does not count. -/
  put_put : ∀ v w b, put w (put v b) = put w b
  /-- Putting the part in again changes nothing. -/
  put_part : ∀ b, put (part b) b = b

theorem Parameter.isPart_schema : IsPart schema fun schema p => { p with schema } :=
  ⟨fun _ _ => rfl, fun _ _ _ => rfl, fun _ => rfl⟩

theorem MediaType.isPart_schema : IsPart schema fun schema t => { t with schema } :=
  ⟨fun _ _ => rfl, fun _ _ _ => rfl, fun _ => rfl⟩

theorem RequestBody.isPart_content : IsPart content fun content b => { b with content } :=
  ⟨fun _ _ => rfl, fun _ _ _ => rfl, fun _ => rfl⟩

theorem Response.isPart_content : IsPart content fun content r => { r with content } :=
  ⟨fun _ _ => rfl, fun _ _ _ => rfl, fun _ => rfl⟩

/-! ### Walks that only look -/

section Look

variable {m : Type → Type} [Monad m] {α : Type}

/-- The visit that only looks at a pointer. -/
def Visit.look (act : PointerKind → String → m Unit) : Visit m := fun kind p => do
  act kind p
  pure p

/-- Looks at mentions one after the other. -/
def lookAt (act : PointerKind → String → m Unit) (ms : List Mention) : m Unit :=
  ms.forM fun u => act u.place.kind u.pointer

/-- A walk looks at the mentions in a value, in their order, and leaves the value as it is. -/
def LooksAt (act : PointerKind → String → m Unit) (f : α → m α) (inside : α → List Mention) : Prop :=
  ∀ v, f v = lookAt act (inside v) >>= fun _ => pure v

variable {act : PointerKind → String → m Unit}

@[simp] theorem lookAt_nil : lookAt act [] = pure () := rfl

variable [LawfulMonad m]

@[simp] theorem lookAt_append (us vs : List Mention) :
    lookAt act (us ++ vs) = lookAt act us >>= fun _ => lookAt act vs :=
  List.forM_append

@[simp] theorem lookAt_singleton (u : Mention) : lookAt act [u] = act u.place.kind u.pointer := by
  simp [lookAt]

variable {f : α → m α} {inside : α → List Mention}

theorem LooksAt.walkEntries (h : LooksAt act f inside) :
    LooksAt act (walkEntries f) fun es => es.flatMap fun e => inside e.2 := by
  intro es
  induction es with
  | nil => simp [ApiModel.walkEntries]
  | cons e es ih => simp [ApiModel.walkEntries, h e.2, ih]

theorem LooksAt.walkList (h : LooksAt act f inside) :
    LooksAt act (walkList f) fun vs => vs.flatMap inside := by
  intro vs
  induction vs with
  | nil => simp [ApiModel.walkList]
  | cons v vs ih => simp [ApiModel.walkList, h v, ih]

theorem LooksAt.walkOption (h : LooksAt act f inside) :
    LooksAt act (walkOption f) fun o => o.elim [] inside := by
  intro o
  cases o with
  | none => simp [ApiModel.walkOption]
  | some v => simp [ApiModel.walkOption, h v]

theorem LooksAt.orRef (h : LooksAt act f inside) (wanted : Section) :
    LooksAt act (OrRef.walk (Visit.look act) f) (OrRef.mentions wanted inside) := by
  intro s
  cases s with
  | ref p => simp [OrRef.walk, OrRef.mentions, Visit.look, Place.kind]
  | inline v => simp [OrRef.walk, OrRef.mentions, h v]

theorem LooksAt.part {β : Type} {part : β → α} {put : α → β → β} (h : LooksAt act f inside)
    (hp : IsPart part put) :
    LooksAt act (fun b => f (part b) >>= fun v => pure (put v b)) fun b => inside (part b) := by
  intro b
  simp [h (part b), hp.put_part]

theorem Discriminator.looksAt : LooksAt act (walk (Visit.look act)) mentions := by
  intro d
  have h : LooksAt act (Visit.look act .mapping) fun target => [⟨.mapping, target⟩] := by
    intro target
    simp [Visit.look, Place.kind]
  have hm : d.mentions = d.mapping.flatMap fun e => [⟨.mapping, e.2⟩] :=
    List.map_eq_flatMap
  rw [walk, h.walkEntries d.mapping, hm]
  simp

namespace Schema

mutual

theorem walk_look (act : PointerKind → String → m Unit) :
    ∀ s : Schema, walk (Visit.look act) s = lookAt act (mentions s) >>= fun _ => pure s
  | ⟨_, _, _, _, _, _, properties, _, additional, items, allOf, oneOf, anyOf, discriminator, _, _,
      _, _, _, _, _⟩ => by
    simp only [walk, mentions, walkProperties_look act properties, walkItems_look act items,
      walkBranches_look act allOf, walkBranches_look act oneOf, walkBranches_look act anyOf,
      walkAdditional_look act additional, Discriminator.looksAt.walkOption discriminator,
      lookAt_append, bind_assoc, pure_bind]

theorem walkRef_look (act : PointerKind → String → m Unit) :
    ∀ s : OrRef Schema,
      walkRef (Visit.look act) s = lookAt act (mentionsOfRef s) >>= fun _ => pure s
  | .ref p => by simp [walkRef, mentionsOfRef, Visit.look, Place.kind]
  | .inline s => by simp [walkRef, mentionsOfRef, walk_look act s]

theorem walkProperties_look (act : PointerKind → String → m Unit) :
    ∀ ps : List (String × OrRef Schema),
      walkProperties (Visit.look act) ps = lookAt act (mentionsOfProperties ps) >>= fun _ => pure ps
  | [] => by simp [walkProperties, mentionsOfProperties]
  | (_, s) :: rest => by
    simp [walkProperties, mentionsOfProperties, walkRef_look act s, walkProperties_look act rest]

theorem walkItems_look (act : PointerKind → String → m Unit) :
    ∀ i : Option (OrRef Schema),
      walkItems (Visit.look act) i = lookAt act (mentionsOfItems i) >>= fun _ => pure i
  | none => by simp [walkItems, mentionsOfItems]
  | some s => by simp [walkItems, mentionsOfItems, walkRef_look act s]

theorem walkBranches_look (act : PointerKind → String → m Unit) :
    ∀ bs : List (OrRef Schema),
      walkBranches (Visit.look act) bs = lookAt act (mentionsOfBranches bs) >>= fun _ => pure bs
  | [] => by simp [walkBranches, mentionsOfBranches]
  | s :: rest => by
    simp [walkBranches, mentionsOfBranches, walkRef_look act s, walkBranches_look act rest]

theorem walkAdditional_look (act : PointerKind → String → m Unit) :
    ∀ a : Option (Additional Schema),
      walkAdditional (Visit.look act) a = lookAt act (mentionsOfAdditional a) >>= fun _ => pure a
  | none => by simp [walkAdditional, mentionsOfAdditional]
  | some (.allowed _) => by simp [walkAdditional, mentionsOfAdditional]
  | some (.schema s) => by simp [walkAdditional, mentionsOfAdditional, walkRef_look act s]

end

theorem looksAt : LooksAt act (walkRef (Visit.look act)) mentionsOfRef :=
  walkRef_look act

end Schema

theorem Parameter.looksAt : LooksAt act (walk (Visit.look act)) mentions :=
  Schema.looksAt.walkOption.part isPart_schema

theorem MediaType.looksAt : LooksAt act (walk (Visit.look act)) mentions :=
  Schema.looksAt.walkOption.part isPart_schema

theorem RequestBody.looksAt : LooksAt act (walk (Visit.look act)) mentions :=
  MediaType.looksAt.walkEntries.part isPart_content

theorem Response.looksAt : LooksAt act (walk (Visit.look act)) mentions :=
  MediaType.looksAt.walkEntries.part isPart_content

theorem Operation.looksAt : LooksAt act (walk (Visit.look act)) mentions := by
  intro op
  rw [walk, (Parameter.looksAt.orRef .parameters).walkList op.parameters,
    (RequestBody.looksAt.orRef .requestBodies).walkOption op.requestBody,
    (Response.looksAt.orRef .responses).walkEntries op.responses]
  simp [mentions, Parameter.mentionsOfList]

theorem PathItem.walkOperations_look (ops : List (Method × Operation)) :
    walkOperations (Visit.look act) ops =
      lookAt act (ops.flatMap fun o => o.2.mentions) >>= fun _ => pure ops := by
  induction ops with
  | nil => simp [walkOperations]
  | cons o ops ih => simp [walkOperations, Operation.looksAt o.2, ih]

theorem PathItem.looksAt : LooksAt act (walk (Visit.look act)) mentions := by
  intro item
  rw [walk, (Parameter.looksAt.orRef .parameters).walkList item.parameters,
    walkOperations_look item.operations]
  simp [mentions, Parameter.mentionsOfList]

theorem Components.looksAt : LooksAt act (walk (Visit.look act)) mentions := by
  intro c
  rw [walk, Schema.looksAt.walkEntries c.schemas,
    (Parameter.looksAt.orRef .parameters).walkEntries c.parameters,
    (RequestBody.looksAt.orRef .requestBodies).walkEntries c.requestBodies,
    (Response.looksAt.orRef .responses).walkEntries c.responses]
  simp [mentions]

/-- **A walk that only looks at pointers looks at the mentions**, in their order. -/
theorem Document.walk_look (act : PointerKind → String → m Unit) (d : Document) :
    d.walk (Visit.look act) = lookAt act d.mentions >>= fun _ => pure d := by
  rw [walk, PathItem.looksAt.walkEntries d.paths, Components.looksAt.walkOption d.components]
  simp [mentions_eq]

end Look

/-- Noting mentions puts their pointers in front of those noted before. -/
theorem run_lookAt_note (ms : List Mention) (noted : List (PointerKind × String)) :
    ((lookAt (fun kind p => modify ((kind, p) :: ·)) ms :
        StateM (List (PointerKind × String)) Unit).run noted).2 =
      (ms.map fun u => (u.place.kind, u.pointer)).reverse ++ noted := by
  induction ms generalizing noted with
  | nil => rfl
  | cons u ms ih =>
    refine (ih ((u.place.kind, u.pointer) :: noted)).trans ?_
    simp

/-- **The pointers of a document are its mentions** without their places. -/
theorem Document.pointers_eq (d : Document) :
    d.pointers = d.mentions.map fun u => (u.place.kind, u.pointer) := by
  have hw : d.walk Visit.note = _ := Document.walk_look (fun kind p => modify ((kind, p) :: ·)) d
  have hr := run_lookAt_note d.mentions []
  rw [List.append_nil, ← List.reverse_eq_iff] at hr
  rw [pointers, hw]
  exact hr

end ApiModel
