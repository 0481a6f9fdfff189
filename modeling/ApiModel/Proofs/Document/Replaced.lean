import ApiModel.Proofs.Document.Rewritten
import ApiModel.Proofs.Document.Walk

/-!
# Replaced pointers

Where the new pointer does not depend on the place in the walk, the walk turns each mention into the
mention of the new pointer, and keeps their order (`Replaces`).  It makes no reference out of a value
and no value out of a reference, so that what is found under a name is what was found there before,
up to its pointers (`inStep_walkEntries`).  Of a schema it keeps the title, the branches and the keys of the mapping
(`Schema.Repointed`).
-/

namespace ApiModel

variable {α β : Type} {f : PointerKind → String → String}

/-- The mention in the same place after its pointer has been replaced. -/
def Mention.under (f : PointerKind → String → String) (u : Mention) : Mention :=
  ⟨u.place, f u.place.kind u.pointer⟩

/-- A walk turns each mention in a value into that of its new pointer. -/
def Replaces (f : PointerKind → String → String) (walk : α → StateM Nat α)
    (inside : α → List Mention) : Prop :=
  ∀ v s, inside ((walk v).run s).1 = (inside v).map (Mention.under f)

/-- The visit that replaces a pointer wherever in the walk it stands. -/
abbrev Visit.replaceBy (f : PointerKind → String → String) : Visit (StateM Nat) :=
  Visit.replace fun _ => f

/-- Under each name the second table has what the first one has, up to pointers: a value for a value,
and for a reference the reference with the new pointer. -/
def InStep (f : PointerKind → String → String) (table table' : List (String × OrRef α)) : Prop :=
  ∀ name, (Entries.find? name table').map OrRef.pointer? =
    (Entries.find? name table).map fun x => x.pointer?.map (f .ref)

/-- **A walk makes no value out of a reference and no reference out of a value.** -/
theorem inStep_walkEntries (walk : α → StateM Nat α) (es : List (String × OrRef α)) (s : Nat) :
    InStep f es ((walkEntries (OrRef.walk (.replaceBy f) walk) es).run s).1 := by
  intro name
  have hone : ∀ x s, OrRef.pointer? ((OrRef.walk (.replaceBy f) walk x).run s).1 =
      x.pointer?.map (f .ref) := by
    intro x s
    cases x <;> rfl
  rw [← Entries.find?_map, map_walkEntries hone]
  exact Entries.find?_map fun x : OrRef α => x.pointer?.map (f .ref)

/-- What is found in the second table comes from the first one. -/
theorem InStep.exists_find? {table table' : List (String × OrRef α)} (h : InStep f table table')
    {name : String} {x : OrRef α} (hx : Entries.find? name table' = some x) :
    ∃ y, Entries.find? name table = some y ∧ x.pointer? = y.pointer?.map (f .ref) := by
  have hn := h name
  rw [hx] at hn
  obtain ⟨y, hy, he⟩ := Option.map_eq_some_iff.1 hn.symm
  exact ⟨y, hy, he.symm⟩

/-- What is found in the first table is found in the second one. -/
theorem InStep.exists_find?_after {table table' : List (String × OrRef α)} (h : InStep f table table')
    {name : String} {x : OrRef α} (hx : Entries.find? name table = some x) :
    ∃ y, Entries.find? name table' = some y ∧ y.pointer? = x.pointer?.map (f .ref) := by
  have hn := h name
  rw [hx] at hn
  obtain ⟨y, hy, he⟩ := Option.map_eq_some_iff.1 hn
  exact ⟨y, hy, he⟩

namespace Replaces

variable {walk : α → StateM Nat α} {inside : α → List Mention}

theorem nothing (walk : α → StateM Nat α) : Replaces f walk fun _ => [] :=
  fun _ _ => rfl

theorem walkEntries (h : Replaces f walk inside) :
    Replaces f (walkEntries walk) fun es => es.flatMap fun e => inside e.2 := by
  intro es s
  induction es generalizing s with
  | nil => rfl
  | cons e es ih =>
    refine (congrArg₂ (· ++ ·) (h e.2 s) (ih _)).trans ?_
    simp

theorem walkList (h : Replaces f walk inside) :
    Replaces f (walkList walk) fun vs => vs.flatMap inside := by
  intro vs s
  induction vs generalizing s with
  | nil => rfl
  | cons v vs ih =>
    refine (congrArg₂ (· ++ ·) (h v s) (ih _)).trans ?_
    simp

theorem walkOption (h : Replaces f walk inside) :
    Replaces f (walkOption walk) fun o => o.elim [] inside := by
  intro o s
  cases o with
  | none => rfl
  | some v => exact h v s

theorem orRef (h : Replaces f walk inside) (wanted : Section) :
    Replaces f (OrRef.walk (.replaceBy f) walk) (OrRef.mentions wanted inside) := by
  intro x s
  cases x with
  | ref p => rfl
  | inline v => exact h v s

end Replaces

theorem Rewritten.eq_map {n m : Nat} {us us' : List Mention} (h : Rewritten (fun _ => f) n us us' m) :
    us' = us.map (Mention.under f) := by
  induction h with
  | nil => rfl
  | cons u _ ih => rw [List.map_cons, ih, Mention.under]

/-- What is known of every replacement is known of one that does not look at the places. -/
theorem Rewrites.replaces {walk : α → StateM Nat α} {inside : α → List Mention} {blank : α → α}
    (h : Rewrites (fun _ => f) walk inside blank) : Replaces f walk inside := by
  intro v n
  obtain ⟨v', m, hrun, hm, -⟩ := h v n
  rw [hrun, hm.eq_map]

namespace Schema

theorem walkRef_eq (visit : Visit (StateM Nat)) : walkRef visit = OrRef.walk visit (walk visit) := by
  funext x
  cases x <;> rfl

/-- A reference to a schema. -/
theorem replaces_reference :
    Replaces f (walkRef (.replaceBy f)) (OrRef.mentions .schemas fun _ => []) := by
  rw [walkRef_eq]
  exact (Replaces.nothing _).orRef .schemas

end Schema

theorem Parameter.replaces : Replaces f (walk (.replaceBy f)) mentions :=
  rewrites.replaces

theorem Response.replaces : Replaces f (walk (.replaceBy f)) mentions :=
  rewrites.replaces

/-- What holds of the walk over one operation holds of that over all operations of a path. -/
theorem Replaces.walkOperations {inside : Operation → List Mention}
    (h : Replaces f (Operation.walk (.replaceBy f)) inside) :
    Replaces f (PathItem.walkOperations (.replaceBy f)) fun os => os.flatMap fun o => inside o.2 := by
  intro os s
  induction os generalizing s with
  | nil => rfl
  | cons o os ih =>
    refine (congrArg₂ (· ++ ·) (h o.2 s) (ih _)).trans ?_
    simp

theorem PathItem.replaces : Replaces f (walk (.replaceBy f)) mentions :=
  rewrites.replaces

theorem Components.replaces : Replaces f (walk (.replaceBy f)) mentions :=
  rewrites.replaces

/-! ### What a schema keeps -/

/-- The second one is the first one with other pointers: the reference with the new pointer for a
reference, and a related value for a value. -/
inductive OrRef.Repointed (f : PointerKind → String → String) (R : α → α → Prop) :
    OrRef α → OrRef α → Prop
  | ref (p : String) : Repointed f R (.ref p) (.ref (f .ref p))
  | inline {v w : α} (h : R v w) : Repointed f R (.inline v) (.inline w)

/-- A discriminator with other targets. -/
def Discriminator.under (f : PointerKind → String → String) (d : Discriminator) : Discriminator :=
  { d with mapping := d.mapping.map fun e => (e.1, f .mapping e.2) }

/-- The second schema is the first one with other pointers, as far as a union is concerned. -/
structure Schema.Repointed (f : PointerKind → String → String) (s s' : Schema) : Prop where
  /-- The title is the same. -/
  title : s'.title = s.title
  /-- The branches of `oneOf` are those with other pointers, under the same titles. -/
  oneOf : List.Forall₂ (OrRef.Repointed f fun t t' => t'.title = t.title) s.oneOf s'.oneOf
  /-- The branches of `anyOf` are those with other pointers, under the same titles. -/
  anyOf : List.Forall₂ (OrRef.Repointed f fun t t' => t'.title = t.title) s.anyOf s'.anyOf
  /-- The discriminator is the one with other targets. -/
  discriminator : s'.discriminator = s.discriminator.map (Discriminator.under f)

namespace OrRef.Repointed

variable {R : α → α → Prop} {x y : OrRef α}

theorem pointer? (h : Repointed f R x y) : y.pointer? = x.pointer?.map (f .ref) := by
  cases h <;> rfl

theorem of_pointer? (h : y.pointer? = x.pointer?.map (f .ref)) :
    Repointed f (fun _ _ => True) x y := by
  cases x with
  | ref p =>
    cases y with
    | ref q =>
      obtain rfl : q = f .ref p := Option.some.inj h
      exact .ref p
    | inline w => cases h
  | inline v =>
    cases y with
    | ref q => cases h
    | inline w => exact .inline trivial

theorem of_walk {walk : α → StateM Nat α} (h : ∀ v n, R v ((walk v).run n).1) (x : OrRef α)
    (n : Nat) : Repointed f R x ((OrRef.walk (.replaceBy f) walk x).run n).1 := by
  cases x with
  | ref p => exact .ref p
  | inline v => exact .inline (h v n)

/-- Nothing changes if no pointer does. -/
theorem refl (h : ∀ v, R v v) (x : OrRef α) : Repointed (fun _ p => p) R x x := by
  cases x with
  | ref p => exact .ref p
  | inline v => exact .inline (h v)

end OrRef.Repointed

namespace Schema

theorem Repointed.refl (s : Schema) : Repointed (fun _ p => p) s s := by
  have hbranches : ∀ bs : List (OrRef Schema),
      List.Forall₂ (OrRef.Repointed (fun _ p => p) fun t t' => t'.title = t.title) bs bs :=
    fun bs => List.forall₂_same.2 fun b _ =>
      .refl (R := fun t t' : Schema => t'.title = t.title) (fun _ => rfl) b
  have hid : Discriminator.under (fun _ p => p) = id := by
    funext d
    simp [Discriminator.under]
  exact ⟨rfl, hbranches _, hbranches _, by rw [hid, Option.map_id]; rfl⟩

theorem title_walk (visit : Visit (StateM Nat)) (s : Schema) (n : Nat) :
    ((walk visit s).run n).1.title = s.title := by
  cases s
  rw [walk]
  rfl

theorem repointed_branches (bs : List (OrRef Schema)) (n : Nat) :
    List.Forall₂ (OrRef.Repointed f fun t t' => t'.title = t.title) bs
      ((walkBranches (.replaceBy f) bs).run n).1 := by
  induction bs generalizing n with
  | nil => exact .nil
  | cons b bs ih =>
    refine .cons ?_ (ih _)
    have hb : OrRef.Repointed f (fun t t' : Schema => t'.title = t.title) b
        ((OrRef.walk (.replaceBy f) (walk (.replaceBy f)) b).run n).1 :=
      .of_walk (title_walk _) b n
    rw [← walkRef_eq] at hb
    exact hb

theorem walk_discriminator (d : Option Discriminator) (n : Nat) :
    ((walkOption (Discriminator.walk (.replaceBy f)) d).run n).1 = d.map (Discriminator.under f) := by
  cases d with
  | none => rfl
  | some d =>
    have hm : ((walkEntries (Visit.replaceBy f .mapping) d.mapping).run n).1 =
        d.mapping.map fun e => (e.1, f .mapping e.2) := by
      simpa using map_walkEntries (g := id) (r := f .mapping) (fun _ _ => rfl) d.mapping n
    exact congrArg (fun mapping => some { d with mapping }) hm

/-- **A walk keeps what a union is concerned with.** -/
theorem repointed_walk (s : Schema) (n : Nat) :
    Repointed f s ((walk (.replaceBy f) s).run n).1 := by
  cases s
  rw [walk]
  constructor
  case title => rfl
  case oneOf => exact repointed_branches _ _
  case anyOf => exact repointed_branches _ _
  case discriminator => exact walk_discriminator _ _

theorem repointed_walkRef (x : OrRef Schema) (n : Nat) :
    OrRef.Repointed f (Repointed f) x ((walkRef (.replaceBy f) x).run n).1 := by
  rw [walkRef_eq]
  exact .of_walk repointed_walk x n

end Schema

/-! ### What settling takes apart -/

/-- The mentions in the schemas that a request body gives itself. -/
def RequestBody.looseMentions (b : RequestBody) : List Mention :=
  b.content.flatMap fun (_, t) => t.schema.elim [] fun x => x.value?.elim [] Schema.mentions

/-- The other mentions in a request body: its references to schemas. -/
def RequestBody.firmMentions (b : RequestBody) : List Mention :=
  b.content.flatMap fun (_, t) => t.schema.elim [] (OrRef.mentions .schemas fun _ => [])

/-- The mentions in the parameters and in the schemas of the request body that an operation gives
itself.  These are taken apart when its input is put together. -/
def Operation.looseMentions (op : Operation) : List Mention :=
  (op.parameters.flatMap fun x => x.value?.elim [] Parameter.mentions) ++
    op.requestBody.elim [] fun x => x.value?.elim [] RequestBody.looseMentions

/-- The other mentions in an operation. -/
def Operation.firmMentions (op : Operation) : List Mention :=
  op.parameters.flatMap (OrRef.mentions .parameters fun _ => []) ++
    op.requestBody.elim [] (OrRef.mentions .requestBodies RequestBody.firmMentions) ++
    op.responses.flatMap fun (_, r) => r.mentions .responses Response.mentions

/-- The mentions in what the operations of a path give themselves. -/
def PathItem.looseMentions (item : PathItem) : List Mention :=
  item.operations.flatMap fun (_, op) => op.looseMentions

/-- The other mentions in a path. -/
def PathItem.firmMentions (item : PathItem) : List Mention :=
  Parameter.mentionsOfList item.parameters ++
    item.operations.flatMap fun (_, op) => op.firmMentions

/-- The mentions in what the operations of a document give themselves. -/
def Document.looseMentions (d : Document) : List Mention :=
  d.paths.flatMap fun (_, item) => item.looseMentions

/-- The other mentions in a document. -/
def Document.firmMentions (d : Document) : List Mention :=
  (d.paths.flatMap fun (_, item) => item.firmMentions) ++ d.componentsD.mentions

theorem RequestBody.mem_mentions_iff {b : RequestBody} {u : Mention} :
    u ∈ b.mentions ↔ u ∈ b.firmMentions ∨ u ∈ b.looseMentions := by
  simp only [mentions, firmMentions, looseMentions, List.mem_flatMap, ← exists_or, ← and_or_left]
  refine exists_congr fun x => and_congr_right fun _ => ?_
  rw [MediaType.mentions]
  cases x.2.schema with
  | none => simp
  | some y => cases y <;> simp [Schema.mentionsOfRef, OrRef.mentions, OrRef.value?]

theorem Operation.mem_mentions_iff {op : Operation} {u : Mention} :
    u ∈ op.mentions ↔ u ∈ op.firmMentions ∨ u ∈ op.looseMentions := by
  have hp : u ∈ Parameter.mentionsOfList op.parameters ↔
      u ∈ op.parameters.flatMap (OrRef.mentions .parameters fun _ => []) ∨
        u ∈ op.parameters.flatMap fun x => x.value?.elim [] Parameter.mentions := by
    simp only [Parameter.mentionsOfList, List.mem_flatMap, ← exists_or, ← and_or_left]
    refine exists_congr fun x => and_congr_right fun _ => ?_
    cases x <;> simp [OrRef.mentions, OrRef.value?]
  have hb : u ∈ op.requestBody.elim [] (OrRef.mentions .requestBodies RequestBody.mentions) ↔
      u ∈ op.requestBody.elim [] (OrRef.mentions .requestBodies RequestBody.firmMentions) ∨
        u ∈ op.requestBody.elim [] fun x => x.value?.elim [] RequestBody.looseMentions := by
    cases op.requestBody with
    | none => simp
    | some x => cases x <;> simp [OrRef.mentions, OrRef.value?, RequestBody.mem_mentions_iff]
  simp only [mentions, firmMentions, looseMentions, List.mem_append, hp, hb]
  tauto

/-- **Each mention in a document stands in something that is taken apart or not.** -/
theorem Document.mem_mentions_iff {d : Document} {u : Mention} :
    u ∈ d.mentions ↔ u ∈ d.firmMentions ∨ u ∈ d.looseMentions := by
  have hp : (u ∈ d.paths.flatMap fun p => p.2.mentions) ↔
      (u ∈ d.paths.flatMap fun p => p.2.firmMentions) ∨
        u ∈ d.paths.flatMap fun p => p.2.looseMentions := by
    simp only [List.mem_flatMap, PathItem.mentions, PathItem.firmMentions, PathItem.looseMentions,
      List.mem_append, Operation.mem_mentions_iff, ← exists_or, ← and_or_left, or_assoc]
  simp only [mentions, firmMentions, looseMentions, List.mem_append, hp]
  tauto

theorem RequestBody.replaces_firm : Replaces f (walk (.replaceBy f)) firmMentions := by
  intro b s
  have h : Replaces f (MediaType.walk (.replaceBy f)) fun t =>
      t.schema.elim [] (OrRef.mentions .schemas fun _ => []) :=
    fun t s => Schema.replaces_reference.walkOption t.schema s
  exact h.walkEntries b.content s

theorem Operation.replaces_firm : Replaces f (walk (.replaceBy f)) firmMentions := by
  intro op s
  simp only [firmMentions, List.map_append]
  rw [← ((Replaces.nothing _).orRef .parameters).walkList op.parameters s,
    ← (RequestBody.replaces_firm.orRef .requestBodies).walkOption op.requestBody _,
    ← (Response.replaces.orRef .responses).walkEntries op.responses _]
  rfl

theorem PathItem.replaces_firm : Replaces f (walk (.replaceBy f)) firmMentions := by
  intro item s
  simp only [firmMentions, List.map_append]
  rw [← Operation.replaces_firm.walkOperations item.operations _]
  have hp : Replaces f _ Parameter.mentionsOfList := (Parameter.replaces.orRef .parameters).walkList
  rw [← hp item.parameters s]
  rfl

end ApiModel
