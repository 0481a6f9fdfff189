import ApiModel.Proofs.Document.Mentions
import Mathlib.Logic.Basic

/-!
# Pointers rewritten by their places

The walk that reads the pointers of a document and the walk that replaces them meet the same
pointers in the same order.  So a replacement may depend on the place of a pointer in the walk: what
is read from the new document is, place by place, what the old pointers were replaced by.

What is no pointer stays.  To say so, every pointer of a document is emptied (`Document.blank`): the
old and the new document are the same blank.  A blank together with the pointers is the whole document
(`Document.eq_of_blank_eq`), so the two statements leave nothing open: they tell exactly which document
the replacing walk gives (`Document.mapPointers_exact`).
-/

namespace ApiModel

variable {α : Type} {f : Nat → PointerKind → String → String}

/-! ### Documents without their pointers -/

/-- A value without its pointers, or an empty pointer. -/
def OrRef.blank (inside : α → α) : OrRef α → OrRef α
  | .ref _ => .ref ""
  | .inline v => .inline (inside v)

/-- A map without the pointers in its values. -/
def blankEntries (inside : α → α) (es : List (String × α)) : List (String × α) :=
  es.map fun (k, v) => (k, inside v)

/-- A discriminator without its targets. -/
def Discriminator.blank (d : Discriminator) : Discriminator :=
  { d with mapping := blankEntries (fun _ => "") d.mapping }

namespace Schema

mutual

/-- A schema without its pointers. -/
def blank : Schema → Schema
  | ⟨type, format, title, description, default, nullable, properties, required, additional, items,
      allOf, oneOf, anyOf, discriminator, enum, const, readOnly, writeOnly, sample, constraints,
      locations⟩ =>
    ⟨type, format, title, description, default, nullable, blankProperties properties, required,
      blankAdditional additional, blankItems items, blankBranches allOf, blankBranches oneOf,
      blankBranches anyOf, discriminator.map Discriminator.blank, enum, const, readOnly, writeOnly,
      sample, constraints, locations⟩

/-- A schema without its pointers, or an empty reference. -/
def blankRef : OrRef Schema → OrRef Schema
  | .ref _ => .ref ""
  | .inline s => .inline (blank s)

/-- Properties without their pointers. -/
def blankProperties : List (String × OrRef Schema) → List (String × OrRef Schema)
  | [] => []
  | (k, s) :: rest => (k, blankRef s) :: blankProperties rest

/-- The schema of the items without its pointers. -/
def blankItems : Option (OrRef Schema) → Option (OrRef Schema)
  | none => none
  | some s => some (blankRef s)

/-- Branches without their pointers. -/
def blankBranches : List (OrRef Schema) → List (OrRef Schema)
  | [] => []
  | s :: rest => blankRef s :: blankBranches rest

/-- The schema of additional properties without its pointers. -/
def blankAdditional : Option (Additional Schema) → Option (Additional Schema)
  | none => none
  | some (.allowed b) => some (.allowed b)
  | some (.schema s) => some (.schema (blankRef s))

end

end Schema

/-- A parameter without its pointers. -/
def Parameter.blank (p : Parameter) : Parameter :=
  { p with schema := p.schema.map Schema.blankRef }

/-- A media type without its pointers. -/
def MediaType.blank (t : MediaType) : MediaType :=
  { t with schema := t.schema.map Schema.blankRef }

/-- A request body without its pointers. -/
def RequestBody.blank (b : RequestBody) : RequestBody :=
  { b with content := blankEntries MediaType.blank b.content }

/-- A response without its pointers. -/
def Response.blank (r : Response) : Response :=
  { r with content := blankEntries MediaType.blank r.content }

/-- An operation without its pointers. -/
def Operation.blank (op : Operation) : Operation :=
  { op with
    parameters := op.parameters.map (OrRef.blank Parameter.blank)
    requestBody := op.requestBody.map (OrRef.blank RequestBody.blank)
    responses := blankEntries (OrRef.blank Response.blank) op.responses }

/-- A path without its pointers. -/
def PathItem.blank (item : PathItem) : PathItem :=
  { item with
    parameters := item.parameters.map (OrRef.blank Parameter.blank)
    operations := item.operations.map fun (method, op) => (method, op.blank) }

/-- Components without their pointers. -/
def Components.blank (c : Components) : Components :=
  { c with
    schemas := blankEntries Schema.blankRef c.schemas
    parameters := blankEntries (OrRef.blank Parameter.blank) c.parameters
    requestBodies := blankEntries (OrRef.blank RequestBody.blank) c.requestBodies
    responses := blankEntries (OrRef.blank Response.blank) c.responses }

/-- A document without its pointers: what is left if each of them is emptied. -/
def Document.blank (d : Document) : Document :=
  { d with
    paths := blankEntries PathItem.blank d.paths
    components := d.components.map Components.blank }

/-! ### What the walk makes of the pointers -/

/-- The mentions that a walk meets between two places, and what it makes of them. -/
inductive Rewritten (f : Nat → PointerKind → String → String) :
    Nat → List Mention → List Mention → Nat → Prop
  | nil (n : Nat) : Rewritten f n [] [] n
  | cons {n m : Nat} {us us' : List Mention} (u : Mention) (h : Rewritten f (n + 1) us us' m) :
    Rewritten f n (u :: us) (⟨u.place, f n u.place.kind u.pointer⟩ :: us') m

/-- What is met first, and then what is met behind it. -/
theorem Rewritten.append {n m k : Nat} {us us' vs vs' : List Mention} (h : Rewritten f n us us' m)
    (h' : Rewritten f m vs vs' k) : Rewritten f n (us ++ vs) (us' ++ vs') k := by
  induction h with
  | nil => exact h'
  | cons u _ ih => exact .cons u (ih h')

theorem Rewritten.eq_mapIdx {n m : Nat} {us us' : List Mention} (h : Rewritten f n us us' m) :
    us' = us.mapIdx fun i u => ⟨u.place, f (n + i) u.place.kind u.pointer⟩ := by
  induction h with
  | nil => rfl
  | @cons n m us us' u _ ih =>
    rw [List.mapIdx_cons, ih]
    simp only [Nat.add_zero, Nat.add_assoc, Nat.add_comm 1]

/-- A walk that replaces pointers by their places: it meets the mentions in a value, it leaves those
that they are replaced by, and it leaves the same blank. -/
def RewritesAt (f : Nat → PointerKind → String → String) (walk : α → StateM Nat α)
    (inside : α → List Mention) (blank : α → α) (v : α) : Prop :=
  ∀ n, ∃ v' m, (walk v).run n = (v', m) ∧ Rewritten f n (inside v) (inside v') m ∧ blank v' = blank v

/-- A walk does so to every value. -/
abbrev Rewrites (f : Nat → PointerKind → String → String) (walk : α → StateM Nat α)
    (inside : α → List Mention) (blank : α → α) : Prop :=
  ∀ v, RewritesAt f walk inside blank v

theorem run_bind_eq {σ β : Type} {x : StateM σ α} {s s' : σ} {a : α} (h : x.run s = (a, s'))
    (g : α → StateM σ β) : (x >>= g).run s = (g a).run s' := by
  change (g (x.run s).1).run (x.run s).2 = _
  rw [h]

namespace Rewrites

variable {walk : α → StateM Nat α} {inside : α → List Mention} {blank : α → α}

theorem walkEntries (h : Rewrites f walk inside blank) :
    Rewrites f (walkEntries walk) (fun es => es.flatMap fun e => inside e.2) (blankEntries blank) := by
  intro es
  induction es with
  | nil => exact fun n => ⟨[], n, rfl, .nil n, rfl⟩
  | cons e es ih =>
    intro n
    obtain ⟨v, n₁, hv, hm, hb⟩ := h e.2 n
    obtain ⟨es', n₂, hes, hm', hb'⟩ := ih n₁
    refine ⟨(e.1, v) :: es', n₂, ?_, hm.append hm', ?_⟩
    · rw [ApiModel.walkEntries, run_bind_eq hv, run_bind_eq hes]
      rfl
    · exact congrArg₂ (fun v es => (e.1, v) :: es) hb hb'

theorem walkList (h : Rewrites f walk inside blank) :
    Rewrites f (walkList walk) (fun vs => vs.flatMap inside) (List.map blank) := by
  intro vs
  induction vs with
  | nil => exact fun n => ⟨[], n, rfl, .nil n, rfl⟩
  | cons v vs ih =>
    intro n
    obtain ⟨v', n₁, hv, hm, hb⟩ := h v n
    obtain ⟨vs', n₂, hvs, hm', hb'⟩ := ih n₁
    refine ⟨v' :: vs', n₂, ?_, hm.append hm', congrArg₂ List.cons hb hb'⟩
    rw [ApiModel.walkList, run_bind_eq hv, run_bind_eq hvs]
    rfl

theorem walkOption (h : Rewrites f walk inside blank) :
    Rewrites f (walkOption walk) (fun o => o.elim [] inside) (Option.map blank) := by
  intro o n
  cases o with
  | none => exact ⟨none, n, rfl, .nil n, rfl⟩
  | some v =>
    obtain ⟨v', n₁, hv, hm, hb⟩ := h v n
    refine ⟨some v', n₁, ?_, hm, congrArg some hb⟩
    rw [ApiModel.walkOption, run_bind_eq hv]
    rfl

theorem orRef (h : Rewrites f walk inside blank) (wanted : Section) :
    Rewrites f (OrRef.walk (.replace f) walk) (OrRef.mentions wanted inside) (OrRef.blank blank) := by
  intro x n
  cases x with
  | ref p => exact ⟨.ref (f n .ref p), n + 1, rfl, .cons _ (.nil _), rfl⟩
  | inline v =>
    obtain ⟨v', n₁, hv, hm, hb⟩ := h v n
    refine ⟨.inline v', n₁, ?_, hm, congrArg OrRef.inline hb⟩
    rw [OrRef.walk, run_bind_eq hv]
    rfl

theorem part {β : Type} {part : β → α} {put : α → β → β} (h : Rewrites f walk inside blank)
    (hp : IsPart part put) :
    Rewrites f (fun b => walk (part b) >>= fun v => pure (put v b)) (fun b => inside (part b))
      fun b => put (blank (part b)) b := by
  intro b n
  obtain ⟨v, m, hv, hm, hb⟩ := h (part b) n
  refine ⟨put v b, m, run_bind_eq hv _, ?_, ?_⟩
  · simp only [hp.part_put]
    exact hm
  · simp only [hp.part_put, hp.put_put, hb]

end Rewrites

theorem Discriminator.rewrites : Rewrites f (walk (.replace f)) mentions blank := by
  intro d n
  have h : Rewrites f (fun p => Visit.replace f .mapping p) (fun target => [⟨.mapping, target⟩])
      (fun _ => "") := fun p n => ⟨f n .mapping p, n + 1, rfl, .cons _ (.nil _), rfl⟩
  have hm : ∀ d : Discriminator, d.mentions = d.mapping.flatMap fun e => [⟨.mapping, e.2⟩] :=
    fun _ => List.map_eq_flatMap
  obtain ⟨mapping, m, hrun, hmap, hb⟩ := h.walkEntries d.mapping n
  refine ⟨{ d with mapping }, m, ?_, ?_, congrArg (fun mapping => { d with mapping }) hb⟩
  · rw [walk, run_bind_eq hrun]
    rfl
  · rw [hm, hm]
    exact hmap

namespace Schema

mutual

theorem rewrites_walk (f : Nat → PointerKind → String → String) :
    ∀ x : Schema, RewritesAt f (walk (.replace f)) mentions blank x
  | ⟨type, format, title, description, default, nullable, properties, required, additional, items,
      allOf, oneOf, anyOf, discriminator, enum, const, readOnly, writeOnly, sample, constraints,
      locations⟩ => by
    intro n
    -- the parts in the order of the walk, each from the place where the one before it stopped
    obtain ⟨ps, n₁, hps, hp, hp'⟩ := rewrites_properties f properties n
    obtain ⟨i, n₂, his, hi, hi'⟩ := rewrites_items f items n₁
    obtain ⟨as, n₃, has, ha, ha'⟩ := rewrites_branches f allOf n₂
    obtain ⟨os, n₄, hos, ho, ho'⟩ := rewrites_branches f oneOf n₃
    obtain ⟨ys, n₅, hys, hy, hy'⟩ := rewrites_branches f anyOf n₄
    obtain ⟨e, n₆, hes, he, he'⟩ := rewrites_additional f additional n₅
    obtain ⟨d, n₇, hds, hd, hd'⟩ := Discriminator.rewrites.walkOption discriminator n₆
    refine ⟨⟨type, format, title, description, default, nullable, ps, required, e, i, as, os, ys, d,
      enum, const, readOnly, writeOnly, sample, constraints, locations⟩, n₇, ?_,
      (((((hp.append hi).append ha).append ho).append hy).append he).append hd, ?_⟩
    · rw [walk, run_bind_eq hps, run_bind_eq his, run_bind_eq has, run_bind_eq hos, run_bind_eq hys,
        run_bind_eq hes, run_bind_eq hds]
      rfl
    · simp only [blank, hp', hi', ha', ho', hy', he', hd']

theorem rewrites_ref (f : Nat → PointerKind → String → String) :
    ∀ x : OrRef Schema, RewritesAt f (walkRef (.replace f)) mentionsOfRef blankRef x
  | .ref p => fun n => ⟨.ref (f n .ref p), n + 1, rfl, .cons _ (.nil _), rfl⟩
  | .inline s => by
    intro n
    obtain ⟨s', m, hs, hm, hb⟩ := rewrites_walk f s n
    refine ⟨.inline s', m, ?_, hm, congrArg OrRef.inline hb⟩
    rw [walkRef, run_bind_eq hs]
    rfl

theorem rewrites_properties (f : Nat → PointerKind → String → String) :
    ∀ ps : List (String × OrRef Schema),
      RewritesAt f (walkProperties (.replace f)) mentionsOfProperties blankProperties ps
  | [] => fun n => ⟨[], n, rfl, .nil n, rfl⟩
  | (k, x) :: rest => by
    intro n
    obtain ⟨x', n₁, hx, hm, hb⟩ := rewrites_ref f x n
    obtain ⟨rest', n₂, hr, hm', hb'⟩ := rewrites_properties f rest n₁
    refine ⟨(k, x') :: rest', n₂, ?_, hm.append hm',
      congrArg₂ (fun x rest => (k, x) :: rest) hb hb'⟩
    rw [walkProperties, run_bind_eq hx, run_bind_eq hr]
    rfl

theorem rewrites_items (f : Nat → PointerKind → String → String) :
    ∀ i : Option (OrRef Schema), RewritesAt f (walkItems (.replace f)) mentionsOfItems blankItems i
  | none => fun n => ⟨none, n, rfl, .nil n, rfl⟩
  | some x => by
    intro n
    obtain ⟨x', m, hx, hm, hb⟩ := rewrites_ref f x n
    refine ⟨some x', m, ?_, hm, congrArg some hb⟩
    rw [walkItems, run_bind_eq hx]
    rfl

theorem rewrites_branches (f : Nat → PointerKind → String → String) :
    ∀ bs : List (OrRef Schema),
      RewritesAt f (walkBranches (.replace f)) mentionsOfBranches blankBranches bs
  | [] => fun n => ⟨[], n, rfl, .nil n, rfl⟩
  | x :: rest => by
    intro n
    obtain ⟨x', n₁, hx, hm, hb⟩ := rewrites_ref f x n
    obtain ⟨rest', n₂, hr, hm', hb'⟩ := rewrites_branches f rest n₁
    refine ⟨x' :: rest', n₂, ?_, hm.append hm', congrArg₂ List.cons hb hb'⟩
    rw [walkBranches, run_bind_eq hx, run_bind_eq hr]
    rfl

theorem rewrites_additional (f : Nat → PointerKind → String → String) :
    ∀ a : Option (Additional Schema),
      RewritesAt f (walkAdditional (.replace f)) mentionsOfAdditional blankAdditional a
  | none => fun n => ⟨none, n, rfl, .nil n, rfl⟩
  | some (.allowed b) => fun n => ⟨some (.allowed b), n, rfl, .nil n, rfl⟩
  | some (.schema x) => by
    intro n
    obtain ⟨x', m, hx, hm, hb⟩ := rewrites_ref f x n
    refine ⟨some (.schema x'), m, ?_, hm, congrArg (fun x => some (Additional.schema x)) hb⟩
    rw [walkAdditional, run_bind_eq hx]
    rfl

end

theorem rewrites : Rewrites f (walkRef (.replace f)) mentionsOfRef blankRef :=
  rewrites_ref f

end Schema

theorem Parameter.rewrites : Rewrites f (walk (.replace f)) mentions blank :=
  Schema.rewrites.walkOption.part isPart_schema

theorem MediaType.rewrites : Rewrites f (walk (.replace f)) mentions blank :=
  Schema.rewrites.walkOption.part isPart_schema

theorem RequestBody.rewrites : Rewrites f (walk (.replace f)) mentions blank :=
  MediaType.rewrites.walkEntries.part isPart_content

theorem Response.rewrites : Rewrites f (walk (.replace f)) mentions blank :=
  MediaType.rewrites.walkEntries.part isPart_content

theorem Operation.rewrites : Rewrites f (walk (.replace f)) mentions blank := by
  intro op n
  obtain ⟨parameters, n₁, hps, hp, hp'⟩ :=
    (Parameter.rewrites.orRef .parameters).walkList op.parameters n
  obtain ⟨requestBody, n₂, hbs, hb, hb'⟩ :=
    (RequestBody.rewrites.orRef .requestBodies).walkOption op.requestBody n₁
  obtain ⟨responses, n₃, hrs, hr, hr'⟩ :=
    (Response.rewrites.orRef .responses).walkEntries op.responses n₂
  refine ⟨{ op with parameters, requestBody, responses }, n₃, ?_, (hp.append hb).append hr, ?_⟩
  · rw [walk, run_bind_eq hps, run_bind_eq hbs, run_bind_eq hrs]
    rfl
  · simp only [blank, hp', hb', hr']

/-- What holds of the walk over one operation holds of that over all operations of a path. -/
theorem PathItem.rewrites_operations (os : List (Method × Operation)) :
    RewritesAt f (walkOperations (.replace f)) (fun os => os.flatMap fun o => o.2.mentions)
      (List.map fun o => (o.1, o.2.blank)) os := by
  induction os with
  | nil => exact fun n => ⟨[], n, rfl, .nil n, rfl⟩
  | cons o os ih =>
    intro n
    obtain ⟨op, n₁, hop, hm, hb⟩ := Operation.rewrites o.2 n
    obtain ⟨os', n₂, hos, hm', hb'⟩ := ih n₁
    refine ⟨(o.1, op) :: os', n₂, ?_, hm.append hm',
      congrArg₂ (fun op os => (o.1, op) :: os) hb hb'⟩
    rw [walkOperations, run_bind_eq hop, run_bind_eq hos]
    rfl

theorem PathItem.rewrites : Rewrites f (walk (.replace f)) mentions blank := by
  intro item n
  obtain ⟨parameters, n₁, hps, hp, hp'⟩ :=
    (Parameter.rewrites.orRef .parameters).walkList item.parameters n
  obtain ⟨operations, n₂, hos, ho, ho'⟩ := rewrites_operations item.operations n₁
  refine ⟨{ item with parameters, operations }, n₂, ?_, hp.append ho, ?_⟩
  · rw [walk, run_bind_eq hps, run_bind_eq hos]
    rfl
  · simp only [blank, hp', ho']

theorem Components.rewrites : Rewrites f (walk (.replace f)) mentions blank := by
  intro c n
  obtain ⟨schemas, n₁, hss, hs, hs'⟩ := Schema.rewrites.walkEntries c.schemas n
  obtain ⟨parameters, n₂, hps, hp, hp'⟩ :=
    (Parameter.rewrites.orRef .parameters).walkEntries c.parameters n₁
  obtain ⟨requestBodies, n₃, hbs, hb, hb'⟩ :=
    (RequestBody.rewrites.orRef .requestBodies).walkEntries c.requestBodies n₂
  obtain ⟨responses, n₄, hrs, hr, hr'⟩ :=
    (Response.rewrites.orRef .responses).walkEntries c.responses n₃
  refine ⟨{ c with schemas, parameters, requestBodies, responses }, n₄, ?_,
    ((hs.append hp).append hb).append hr, ?_⟩
  · rw [walk, run_bind_eq hss, run_bind_eq hps, run_bind_eq hbs, run_bind_eq hrs]
    rfl
  · simp only [blank, hs', hp', hb', hr']

/-- **The walk over a document** meets its mentions and leaves what these are replaced by. -/
theorem Document.rewrites : Rewrites f (walk (.replace f)) mentions blank := by
  intro d n
  obtain ⟨paths, n₁, hps, hp, hp'⟩ := PathItem.rewrites.walkEntries d.paths n
  obtain ⟨components, n₂, hcs, hc, hc'⟩ := Components.rewrites.walkOption d.components n₁
  refine ⟨{ d with paths, components }, n₂, ?_, ?_, ?_⟩
  · rw [walk, run_bind_eq hps, run_bind_eq hcs]
    rfl
  · rw [mentions_eq, mentions_eq]
    exact hp.append hc
  · simp only [blank, hp', hc']

/-! ### A blank and its pointers -/

/-- A value is told by its blank and the pointers in it, which are read from the front of a row.  What
follows in the row is arbitrary, so that the parts of a value can be told one after the other. -/
def ToldAt (inside : α → List Mention) (blank : α → α) (v : α) : Prop :=
  ∀ w ps qs, blank v = blank w →
    (inside v).map Mention.pointer ++ ps = (inside w).map Mention.pointer ++ qs → v = w ∧ ps = qs

/-- Every value is. -/
abbrev Told (inside : α → List Mention) (blank : α → α) : Prop :=
  ∀ v, ToldAt inside blank v

namespace Told

variable {inside : α → List Mention} {blank : α → α}

theorem blankEntries (h : Told inside blank) :
    Told (fun es : List (String × α) => es.flatMap fun e => inside e.2) (blankEntries blank) := by
  intro es
  induction es with
  | nil =>
    intro fs ps qs hb hp
    obtain rfl := List.map_eq_nil_iff.1 hb.symm
    exact ⟨rfl, hp⟩
  | cons e es ih =>
    intro fs ps qs hb hp
    rcases fs with _ | ⟨e', fs⟩
    · cases hb
    obtain ⟨he, hes⟩ := List.cons.inj hb
    obtain ⟨hk, hv⟩ := Prod.mk.inj he
    simp only [List.flatMap_cons, List.map_append, List.append_assoc] at hp
    obtain ⟨hv, hrest⟩ := h e.2 e'.2 _ _ hv hp
    obtain ⟨rfl, hps⟩ := ih fs ps qs hes hrest
    exact ⟨congrArg (· :: es) (Prod.ext hk hv), hps⟩

theorem map (h : Told inside blank) :
    Told (fun vs : List α => vs.flatMap inside) (List.map blank) := by
  intro vs
  induction vs with
  | nil =>
    intro ws ps qs hb hp
    obtain rfl := List.map_eq_nil_iff.1 hb.symm
    exact ⟨rfl, hp⟩
  | cons v vs ih =>
    intro ws ps qs hb hp
    rcases ws with _ | ⟨w, ws⟩
    · cases hb
    obtain ⟨hv, hvs⟩ := List.cons.inj hb
    simp only [List.flatMap_cons, List.map_append, List.append_assoc] at hp
    obtain ⟨rfl, hrest⟩ := h v w _ _ hv hp
    obtain ⟨rfl, hps⟩ := ih ws ps qs hvs hrest
    exact ⟨rfl, hps⟩

theorem option (h : Told inside blank) :
    Told (fun o : Option α => o.elim [] inside) (Option.map blank) := by
  intro o o' ps qs hb hp
  cases o with
  | none =>
    obtain rfl := Option.map_eq_none_iff.1 hb.symm
    exact ⟨rfl, hp⟩
  | some v =>
    obtain ⟨w, rfl, hw⟩ := Option.map_eq_some_iff.1 hb.symm
    obtain ⟨rfl, hps⟩ := h v w ps qs hw.symm hp
    exact ⟨rfl, hps⟩

theorem orRef (h : Told inside blank) (wanted : Section) :
    Told (OrRef.mentions wanted inside) (OrRef.blank blank) := by
  intro x y ps qs hb hp
  cases x with
  | ref p =>
    cases y with
    | ref q =>
      obtain ⟨rfl, hps⟩ := List.cons.inj hp
      exact ⟨rfl, hps⟩
    | inline w => cases hb
  | inline v =>
    cases y with
    | ref q => cases hb
    | inline w =>
      obtain ⟨rfl, hps⟩ := h v w ps qs (OrRef.inline.inj hb) hp
      exact ⟨rfl, hps⟩

theorem part {β : Type} {part : β → α} {put : α → β → β} (h : Told inside blank)
    (hp : IsPart part put) :
    Told (fun b => inside (part b)) fun b => put (blank (part b)) b := by
  intro b c ps qs hb hq
  dsimp only at hb
  have hblank : blank (part b) = blank (part c) := by
    rw [← hp.part_put (blank (part b)) b, hb, hp.part_put]
  obtain ⟨hpart, hps⟩ := h (part b) (part c) ps qs hblank hq
  refine ⟨?_, hps⟩
  calc b = put (part b) (put (blank (part b)) b) := by rw [hp.put_put, hp.put_part]
    _ = put (part c) (put (blank (part c)) c) := by rw [hb, hpart]
    _ = c := by rw [hp.put_put, hp.put_part]

end Told

theorem Discriminator.told : Told mentions blank := by
  intro d d' ps qs hb hp
  have h : Told (fun target : String => [⟨.mapping, target⟩]) fun _ => "" := by
    intro p q ps qs _ hp
    exact List.cons.inj hp
  have hm : ∀ d : Discriminator, d.mentions = d.mapping.flatMap fun e => [⟨.mapping, e.2⟩] :=
    fun _ => List.map_eq_flatMap
  rw [hm, hm] at hp
  cases d
  cases d'
  obtain ⟨rfl, hmap⟩ := Discriminator.mk.inj hb
  obtain ⟨rfl, hps⟩ := h.blankEntries _ _ ps qs hmap hp
  exact ⟨rfl, hps⟩

namespace Schema

mutual

theorem told_schema : ∀ x : Schema, ToldAt mentions blank x
  | ⟨_, _, _, _, _, _, properties, _, additional, items, allOf, oneOf, anyOf, discriminator, _, _,
      _, _, _, _, _⟩ => by
    intro y ps qs hb hp
    cases y
    simp only [mentions, List.map_append, List.append_assoc] at hp
    simp only [blank, mk.injEq] at hb
    obtain ⟨rfl, rfl, rfl, rfl, rfl, rfl, hprops, rfl, hadd, hitems, hall, hone, hany, hdisc, rfl, rfl,
      rfl, rfl, rfl, rfl, rfl⟩ := hb
    -- each part takes its pointers from the front and leaves those of the parts behind it
    obtain ⟨rfl, hp₁⟩ := told_properties properties _ _ _ hprops hp
    obtain ⟨rfl, hp₂⟩ := told_items items _ _ _ hitems hp₁
    obtain ⟨rfl, hp₃⟩ := told_branches allOf _ _ _ hall hp₂
    obtain ⟨rfl, hp₄⟩ := told_branches oneOf _ _ _ hone hp₃
    obtain ⟨rfl, hp₅⟩ := told_branches anyOf _ _ _ hany hp₄
    obtain ⟨rfl, hp₆⟩ := told_additional additional _ _ _ hadd hp₅
    obtain ⟨rfl, hps⟩ := Discriminator.told.option discriminator _ _ _ hdisc hp₆
    exact ⟨rfl, hps⟩

theorem told_ref : ∀ x : OrRef Schema, ToldAt mentionsOfRef blankRef x
  | .ref p, y, ps, qs, hb, hp => by
    cases y with
    | ref q =>
      obtain ⟨rfl, hps⟩ := List.cons.inj hp
      exact ⟨rfl, hps⟩
    | inline t => cases hb
  | .inline s, y, ps, qs, hb, hp => by
    cases y with
    | ref q => cases hb
    | inline t =>
      obtain ⟨rfl, hps⟩ := told_schema s t ps qs (OrRef.inline.inj hb) hp
      exact ⟨rfl, hps⟩

theorem told_properties :
    ∀ x : List (String × OrRef Schema), ToldAt mentionsOfProperties blankProperties x
  | [], y, ps, qs, hb, hp => by
    cases y with
    | nil => exact ⟨rfl, hp⟩
    | cons => cases hb
  | (k, s) :: rest, y, ps, qs, hb, hp => by
    rcases y with _ | ⟨⟨l, t⟩, rest'⟩
    · cases hb
    simp only [mentionsOfProperties, List.map_append, List.append_assoc] at hp
    simp only [blankProperties, List.cons.injEq, Prod.mk.injEq] at hb
    obtain ⟨⟨rfl, hs⟩, hrest⟩ := hb
    obtain ⟨rfl, hnext⟩ := told_ref s t _ _ hs hp
    obtain ⟨rfl, hps⟩ := told_properties rest rest' ps qs hrest hnext
    exact ⟨rfl, hps⟩

theorem told_items : ∀ x : Option (OrRef Schema), ToldAt mentionsOfItems blankItems x
  | none, y, ps, qs, hb, hp => by
    cases y with
    | none => exact ⟨rfl, hp⟩
    | some => cases hb
  | some s, y, ps, qs, hb, hp => by
    cases y with
    | none => cases hb
    | some t =>
      obtain ⟨rfl, hps⟩ := told_ref s t ps qs (Option.some.inj hb) hp
      exact ⟨rfl, hps⟩

theorem told_branches : ∀ x : List (OrRef Schema), ToldAt mentionsOfBranches blankBranches x
  | [], y, ps, qs, hb, hp => by
    cases y with
    | nil => exact ⟨rfl, hp⟩
    | cons => cases hb
  | s :: rest, y, ps, qs, hb, hp => by
    rcases y with _ | ⟨t, rest'⟩
    · cases hb
    simp only [mentionsOfBranches, List.map_append, List.append_assoc] at hp
    simp only [blankBranches, List.cons.injEq] at hb
    obtain ⟨rfl, hnext⟩ := told_ref s t _ _ hb.1 hp
    obtain ⟨rfl, hps⟩ := told_branches rest rest' ps qs hb.2 hnext
    exact ⟨rfl, hps⟩

theorem told_additional :
    ∀ x : Option (Additional Schema), ToldAt mentionsOfAdditional blankAdditional x
  | none, y, ps, qs, hb, hp => by
    rcases y with _ | ⟨_ | _⟩
    · exact ⟨rfl, hp⟩
    · cases hb
    · cases hb
  | some (.allowed b), y, ps, qs, hb, hp => by
    rcases y with _ | ⟨_ | _⟩
    · cases hb
    · exact ⟨hb, hp⟩
    · cases hb
  | some (.schema s), y, ps, qs, hb, hp => by
    rcases y with _ | ⟨_ | t⟩
    · cases hb
    · cases hb
    · obtain ⟨rfl, hps⟩ := told_ref s t ps qs (Additional.schema.inj (Option.some.inj hb)) hp
      exact ⟨rfl, hps⟩

end

theorem told : Told mentionsOfRef blankRef :=
  told_ref

end Schema

theorem Parameter.told : Told mentions blank :=
  Schema.told.option.part isPart_schema

theorem MediaType.told : Told mentions blank :=
  Schema.told.option.part isPart_schema

theorem RequestBody.told : Told mentions blank :=
  MediaType.told.blankEntries.part isPart_content

theorem Response.told : Told mentions blank :=
  MediaType.told.blankEntries.part isPart_content

theorem Operation.told : Told mentions blank := by
  intro op op' ps qs hb hp
  cases op
  cases op'
  simp only [mentions, List.map_append, List.append_assoc] at hp
  simp only [blank, mk.injEq] at hb
  obtain ⟨rfl, rfl, rfl, rfl, hparams, hbody, hres, rfl, rfl⟩ := hb
  obtain ⟨rfl, hp₁⟩ := (Parameter.told.orRef .parameters).map _ _ _ _ hparams hp
  obtain ⟨rfl, hp₂⟩ := (RequestBody.told.orRef .requestBodies).option _ _ _ _ hbody hp₁
  obtain ⟨rfl, hps⟩ := (Response.told.orRef .responses).blankEntries _ _ ps qs hres hp₂
  exact ⟨rfl, hps⟩

/-- An operation is told together with its method, which holds no pointers. -/
theorem PathItem.told_operation :
    Told (fun o : Method × Operation => o.2.mentions) fun o => (o.1, o.2.blank) := by
  intro o o' ps qs hb hp
  obtain ⟨hm, hop⟩ := Prod.mk.inj hb
  obtain ⟨ho, hps⟩ := Operation.told o.2 o'.2 ps qs hop hp
  exact ⟨Prod.ext hm ho, hps⟩

theorem PathItem.told : Told mentions blank := by
  intro item item' ps qs hb hp
  cases item
  cases item'
  simp only [mentions, List.map_append, List.append_assoc] at hp
  simp only [blank, mk.injEq] at hb
  obtain ⟨rfl, rfl, hparams, hops⟩ := hb
  obtain ⟨rfl, hp₁⟩ := (Parameter.told.orRef .parameters).map _ _ _ _ hparams hp
  obtain ⟨rfl, hps⟩ := told_operation.map _ _ ps qs hops hp₁
  exact ⟨rfl, hps⟩

theorem Components.told : Told mentions blank := by
  intro c c' ps qs hb hp
  cases c
  cases c'
  simp only [mentions, List.map_append, List.append_assoc] at hp
  simp only [blank, mk.injEq] at hb
  obtain ⟨hschemas, hresponses, hparams, hbodies, rfl⟩ := hb
  obtain ⟨rfl, hp₁⟩ := Schema.told.blankEntries _ _ _ _ hschemas hp
  obtain ⟨rfl, hp₂⟩ := (Parameter.told.orRef .parameters).blankEntries _ _ _ _ hparams hp₁
  obtain ⟨rfl, hp₃⟩ := (RequestBody.told.orRef .requestBodies).blankEntries _ _ _ _ hbodies hp₂
  obtain ⟨rfl, hps⟩ := (Response.told.orRef .responses).blankEntries _ _ ps qs hresponses hp₃
  exact ⟨rfl, hps⟩

namespace Document

theorem told : Told mentions blank := by
  intro d d' ps qs hb hp
  rw [mentions_eq, mentions_eq] at hp
  cases d
  cases d'
  simp only [List.map_append, List.append_assoc] at hp
  simp only [blank, mk.injEq] at hb
  obtain ⟨rfl, rfl, rfl, hpaths, hcomponents, rfl, rfl⟩ := hb
  obtain ⟨rfl, hp₁⟩ := PathItem.told.blankEntries _ _ _ _ hpaths hp
  obtain ⟨rfl, hps⟩ := Components.told.option _ _ ps qs hcomponents hp₁
  exact ⟨rfl, hps⟩

/-- A document is its blank and its pointers. -/
theorem eq_of_blank_eq {d d' : Document} (hb : d.blank = d'.blank)
    (hp : d.pointers = d'.pointers) : d = d' := by
  -- only the texts are compared: the blanks tell the places
  have hm : d.mentions.map Mention.pointer = d'.mentions.map Mention.pointer := by
    have h := congrArg (List.map Prod.snd) hp
    rwa [pointers_eq, pointers_eq, List.map_map, List.map_map] at h
  exact (told d d' [] [] hb (by rw [hm])).1

/-- The pointers of the new document are those of the old one, each replaced in its place. -/
theorem pointers_mapPointers (d : Document) (f : Nat → PointerKind → String → String) :
    (d.mapPointers f).pointers = d.pointers.mapIdx fun i u => (u.1, f i u.1 u.2) := by
  obtain ⟨d', m, hrun, hm, -⟩ := rewrites (f := f) d 0
  have hd : d.mapPointers f = d' := congrArg Prod.fst hrun
  rw [hd, pointers_eq, pointers_eq, hm.eq_mapIdx]
  refine List.ext_getElem? fun i => ?_
  simp [Function.comp_def]

/-- Nothing but pointers is replaced. -/
theorem blank_mapPointers (d : Document) (f : Nat → PointerKind → String → String) :
    (d.mapPointers f).blank = d.blank := by
  obtain ⟨d', m, hrun, -, hb⟩ := rewrites (f := f) d 0
  have hd : d.mapPointers f = d' := congrArg Prod.fst hrun
  rw [hd, hb]

/-- **The walk that replaces pointers and the walk that reads them agree.**  What is read from the
new document is what is read from the old one, each pointer replaced by what its place, its kind and
its text give; nothing else is replaced; no other document is like that; and pointers replaced by
themselves leave the document as it is. -/
theorem mapPointers_exact (d : Document) (f : Nat → PointerKind → String → String) :
    (d.mapPointers f).pointers = d.pointers.mapIdx (fun i u => (u.1, f i u.1 u.2)) ∧
      (d.mapPointers f).blank = d.blank ∧
      (∀ d' : Document, d'.pointers = d.pointers.mapIdx (fun i u => (u.1, f i u.1 u.2)) ∧
        d'.blank = d.blank ↔ d' = d.mapPointers f) ∧
      d.mapPointers (fun _ _ p => p) = d := by
  refine ⟨pointers_mapPointers d f, blank_mapPointers d f, fun d' => ⟨?_, ?_⟩, ?_⟩
  · rintro ⟨hp, hb⟩
    exact eq_of_blank_eq (hb.trans (blank_mapPointers d f).symm)
      (hp.trans (pointers_mapPointers d f).symm)
  · rintro rfl
    exact ⟨pointers_mapPointers d f, blank_mapPointers d f⟩
  · refine eq_of_blank_eq (blank_mapPointers d _) ?_
    rw [pointers_mapPointers]
    refine List.ext_getElem? fun i => ?_
    simp

end Document

end ApiModel
