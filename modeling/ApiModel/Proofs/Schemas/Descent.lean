import ApiModel.Proofs.Schemas.Reach
import Mathlib.Data.Finset.Card
import Mathlib.Data.List.Dedup

/-!
# Merging with one way for all calls

`Composition.merge` hands each call a way of its own and a bound on the depth.  Here a composition is
merged in place: one way is shared by all calls, a pointer is put on it before the schema that it
leads to is merged and taken off afterwards, also if that failed, and nothing bounds the depth.  The
calls that have not come back are a stack of tasks, and `Moment.next?` is what happens next.

No pointer is ever twice on the way (`Moment.Sound`), so the way is no longer than there are pointers
in `allOf`, and a call that follows one has one less to follow, while a call of an inline branch has a
smaller schema to merge.  So every call comes back, with the way as it was and with what the bounded
functions compute (`Composition.runs_merge`), and the merge as a whole ends with the merged shape or
an error (`Composition.merge_descends`).
-/

namespace ApiModel

namespace Composition

/-! ### Merging in place -/

/-- What is still to be done. -/
inductive Task where
  /-- Merging a schema. -/
  | merge (s : Schema)
  /-- Merging branches in their order. -/
  | branches (bs : List (OrRef Schema))
  /-- Adding what a schema itself says. -/
  | own (s : Schema)
  /-- Taking the last pointer off the way. -/
  | leave
  deriving DecidableEq

/-- A moment while a composition is merged. -/
structure Moment where
  /-- What is still to be done, the first thing first. -/
  tasks : List Task
  /-- The pointers on the way down, the last one first. -/
  way : List String
  /-- The shape so far, or the error that ends the merge. -/
  shape : Except RefError Shape
  deriving DecidableEq

namespace Task

/-- What a task makes of a way and a shape when the tasks of `rest` stand behind it. -/
def perform (r : Resolver) (way : List String) (shape : Shape) (rest : List Task) : Task → Moment
  | merge s => ⟨branches s.allOf :: own s :: rest, way, .ok shape⟩
  | branches [] => ⟨rest, way, .ok shape⟩
  | branches (.inline s :: bs) => ⟨merge s :: branches bs :: rest, way, .ok shape⟩
  | branches (.ref p :: bs) =>
    if p ∈ way then ⟨branches bs :: rest, way, .ok shape⟩
    else
      match r.schemaAt p with
      | .error e => ⟨branches bs :: rest, way, .error e⟩
      | .ok s => ⟨merge s :: leave :: branches bs :: rest, p :: way, .ok shape⟩
  | own s => ⟨rest, way, shape.addOwn r s⟩
  | leave => ⟨rest, way.tail, .ok shape⟩

/-- What a task that an error finds makes of the way: only taking a pointer off it is still done. -/
def unwind (way : List String) : Task → List String
  | leave => way.tail
  | merge _ | branches _ | own _ => way

/-- The pointers that a task can follow by itself. -/
def pointers : Task → List String
  | merge s => Composition.pointers s
  | branches bs => pointersOfList bs
  | own _ | leave => []

/-- Whether a task takes a pointer off the way. -/
def leaves : Task → Bool
  | leave => true
  | merge _ | branches _ | own _ => false

end Task

/-- The pointers in the `allOf` of a schema of a table, if the entry is one. -/
def inlinePointers : OrRef Schema → List String
  | .inline s => pointers s
  | .ref _ => []

/-- The pointers that stand in `allOf`, in a schema or in those of the table. -/
def branchPointers (r : Resolver) (root : Schema) : List String :=
  pointers root ++ r.schemas.flatMap fun (_, s) => inlinePointers s

namespace Moment

/-- What comes after a moment. -/
def next? (r : Resolver) : Moment → Option Moment
  | ⟨[], _, _⟩ => none
  | ⟨task :: rest, way, .ok shape⟩ => some (task.perform r way shape rest)
  | ⟨task :: rest, way, .error e⟩ => some ⟨rest, task.unwind way, .error e⟩

/-- The moment at which the merge of a schema begins. -/
def start (root : Schema) : Moment :=
  ⟨[.merge root], [], .ok {}⟩

/-- How many pointers are followed whose calls have not come back. -/
def depth (m : Moment) : Nat :=
  m.tasks.countP Task.leaves

end Moment

/-- One moment after the other, where there is more to do than the tasks of `rest`. -/
def Before (r : Resolver) (rest : List Task) (m m' : Moment) : Prop :=
  rest.length < m.tasks.length ∧ m.next? r = some m'

/-- A later moment, the tasks of `rest` being untouched until then. -/
abbrev Runs (r : Resolver) (rest : List Task) : Moment → Moment → Prop :=
  Relation.ReflTransGen (Before r rest)

variable {r : Resolver} {rest : List Task} {task : Task} {way L : List String} {s root : Schema}
  {shape : Shape} {m m' : Moment} {d : Nat}

theorem runs_perform (r : Resolver) (rest : List Task) (task : Task) (way : List String)
    (shape : Shape) :
    Runs r rest ⟨task :: rest, way, .ok shape⟩ (task.perform r way shape rest) :=
  .single ⟨by simp, rfl⟩

theorem runs_unwind (r : Resolver) (rest : List Task) (task : Task) (way : List String)
    (e : RefError) :
    Runs r rest ⟨task :: rest, way, .error e⟩ ⟨rest, task.unwind way, .error e⟩ :=
  .single ⟨by simp, rfl⟩

theorem runs_leave (r : Resolver) (rest : List Task) (way : List String)
    (shape : Except RefError Shape) :
    Runs r rest ⟨.leave :: rest, way, shape⟩ ⟨rest, way.tail, shape⟩ := by
  cases shape with
  | error e => exact runs_unwind r rest .leave way e
  | ok shape => exact runs_perform r rest .leave way shape

theorem Runs.above (h : Runs r (task :: rest) m m') : Runs r rest m m' :=
  Relation.ReflTransGen.mono (fun _ _ hb => ⟨(Nat.lt_succ_self _).trans hb.1, hb.2⟩) _ _ h

/-! ### Calls come back -/

theorem runs_branches {desc : Descend} {bs : List (OrRef Schema)}
    (hb : ∀ b ∈ bs, ∀ bs shape, Runs r rest ⟨.branches (b :: bs) :: rest, way, .ok shape⟩
      ⟨.branches bs :: rest, way, mergeBranch r desc way b shape⟩) (shape : Shape) :
    Runs r rest ⟨.branches bs :: rest, way, .ok shape⟩
      ⟨rest, way, mergeBranches r desc way bs shape⟩ := by
  induction bs generalizing shape with
  | nil => exact runs_perform r rest (.branches []) way shape
  | cons b bs ih =>
    rw [List.forall_mem_cons] at hb
    refine (hb.1 bs shape).trans ?_
    rw [mergeBranches]
    rcases mergeBranch r desc way b shape with e | mid
    · exact runs_unwind r rest (.branches bs) way e
    · exact ih hb.2 mid

theorem runs_schema {desc : Descend}
    (hb : ∀ b ∈ s.allOf, ∀ bs rest shape, Runs r rest ⟨.branches (b :: bs) :: rest, way, .ok shape⟩
      ⟨.branches bs :: rest, way, mergeBranch r desc way b shape⟩)
    (rest : List Task) (shape : Shape) :
    Runs r rest ⟨.merge s :: rest, way, .ok shape⟩ ⟨rest, way, mergeSchema r desc way s shape⟩ := by
  have hbranches : Runs r (.own s :: rest) ⟨.branches s.allOf :: .own s :: rest, way, .ok shape⟩
      ⟨.own s :: rest, way, mergeBranches r desc way s.allOf shape⟩ :=
    runs_branches (fun b hm bs shape => hb b hm bs _ shape) shape
  refine (runs_perform r rest (.merge s) way shape).trans (hbranches.above.trans ?_)
  rw [mergeSchema_eq]
  rcases mergeBranches r desc way s.allOf shape with e | after
  · exact runs_unwind r rest (.own s) way e
  · exact runs_perform r rest (.own s) way after

/-- A pointer that is not on the way is followed in place if the schema that it leads to is merged
in place. -/
theorem runs_ref {p : String} (hw : p ∉ way)
    (hcall : ∀ u, r.schemaAt p = .ok u → ∀ rest shape,
      Runs r rest ⟨.merge u :: rest, p :: way, .ok shape⟩
        ⟨rest, p :: way, mergeSchema r (descend r d) (p :: way) u shape⟩)
    (bs : List (OrRef Schema)) (rest : List Task) (shape : Shape) :
    Runs r rest ⟨.branches (.ref p :: bs) :: rest, way, .ok shape⟩
      ⟨.branches bs :: rest, way, mergeBranch r (descend r (d + 1)) way (.ref p) shape⟩ := by
  refine (runs_perform r rest (.branches (.ref p :: bs)) way shape).trans ?_
  rw [Task.perform, if_neg hw, mergeBranch_ref_eq hw]
  rcases hu : r.schemaAt p with e | u
  · exact .refl
  · -- the call comes back to the task that takes the pointer off the way
    have hback := hcall u hu (.leave :: .branches bs :: rest) shape
    exact hback.above.above.trans (runs_leave r _ (p :: way) _).above

/-- What a way leaves room for: there are at most `d` pointers that are not on it. -/
structure Room (L : List String) (d : Nat) (way : List String) : Prop where
  /-- No pointer is on the way twice. -/
  nodup : way.Nodup
  /-- The way is among the pointers that can be met. -/
  subset : way ⊆ L
  /-- The way and the depth cover them all. -/
  card_le : L.toFinset.card ≤ way.length + d

theorem length_le_card (hn : way.Nodup) (hs : way ⊆ L) : way.length ≤ L.toFinset.card := by
  rw [← List.toFinset_card_of_nodup hn]
  exact Finset.card_le_card fun p hp => List.mem_toFinset.2 (hs (List.mem_toFinset.1 hp))

/-- A pointer that is not on the way can be put on it. -/
theorem Room.enter (h : Room L d way) {p : String} (hp : p ∈ L) (hw : p ∉ way) :
    ∃ e, d = e + 1 ∧ Room L e (p :: way) := by
  have hn : (p :: way).Nodup := List.nodup_cons.2 ⟨hw, h.nodup⟩
  have hs : p :: way ⊆ L := List.cons_subset.2 ⟨hp, h.subset⟩
  have hlength := length_le_card hn hs
  have hcard := h.card_le
  rw [List.length_cons] at hlength
  refine ⟨d - 1, by omega, hn, hs, ?_⟩
  rw [List.length_cons]
  omega

/-- **Every call comes back**: a schema is merged in place with the way as it was, and with what the
bounded functions compute as long as their bound leaves room for the way. -/
theorem runs_merge (htable : ∀ p u, r.schemaAt p = .ok u → pointers u ⊆ L) (hroom : Room L d way)
    (hs : pointers s ⊆ L) (rest : List Task) (shape : Shape) :
    Runs r rest ⟨.merge s :: rest, way, .ok shape⟩
      ⟨rest, way, mergeSchema r (descend r d) way s shape⟩ := by
  induction d, s using walk_induction generalizing way rest shape with
  | step d s ihs ihd =>
    refine runs_schema (fun b hb bs rest shape => ?_) rest shape
    have hsub : pointersOfRef b ⊆ L := List.Subset.trans (mem_pointersOfList hb) (pointers_eq s ▸ hs)
    cases b with
    | inline u =>
      refine (runs_perform r rest (.branches (.inline u :: bs)) way shape).trans ?_
      exact Runs.above (ihs u hb hroom hsub (.branches bs :: rest) shape)
    | ref p =>
      by_cases hw : p ∈ way
      · have hskip := runs_perform r rest (.branches (.ref p :: bs)) way shape
        rw [Task.perform, if_pos hw] at hskip
        rwa [mergeBranch, if_pos hw]
      · obtain ⟨e, rfl, hless⟩ := hroom.enter (hsub (by simp [pointersOfRef])) hw
        exact runs_ref hw (fun u hu => ihd e e.lt_succ_self u hless (htable p u hu)) bs rest shape

/-! ### Every moment -/

theorem pointers_subset_branchPointers (root : Schema) :
    pointers root ⊆ branchPointers r root :=
  List.subset_append_left _ _

theorem pointers_subset_branchPointers_of_schemaAt (root : Schema) (p : String) (u : Schema)
    (h : r.schemaAt p = .ok u) : pointers u ⊆ branchPointers r root := by
  obtain ⟨name, hm⟩ := Resolver.mem_of_schemaAt h
  intro q hq
  exact List.mem_append_right _ (List.mem_flatMap.2 ⟨_, hm, hq⟩)

/-- What holds at every moment of a merge. -/
structure Moment.Sound (r : Resolver) (root : Schema) (m : Moment) : Prop where
  /-- No pointer is on the way twice. -/
  nodup : m.way.Nodup
  /-- Each of them stands in `allOf`, in the schema or in those of the table. -/
  subset : m.way ⊆ branchPointers r root
  /-- So does each pointer that is still to be followed. -/
  tasks_subset : ∀ task ∈ m.tasks, task.pointers ⊆ branchPointers r root
  /-- The pointers on the way are those whose calls have not come back. -/
  depth_eq : m.depth = m.way.length

theorem sound_start (r : Resolver) (root : Schema) : (Moment.start root).Sound r root where
  nodup := List.nodup_nil
  subset := List.nil_subset _
  tasks_subset := by simpa [Moment.start, Task.pointers] using pointers_subset_branchPointers root
  depth_eq := rfl

section

variable {before after : Except RefError Shape}

theorem Moment.Sound.replace (h : Moment.Sound r root ⟨task :: rest, way, before⟩)
    (htask : task.leaves = false) (new : List Task)
    (hnew : ∀ t ∈ new, t.leaves = false ∧ t.pointers ⊆ task.pointers) :
    Moment.Sound r root ⟨new ++ rest, way, after⟩ := by
  obtain ⟨htop, hrest⟩ := List.forall_mem_cons.1 h.tasks_subset
  refine ⟨h.nodup, h.subset, fun t ht => ?_, ?_⟩
  · rcases List.mem_append.1 ht with ht | ht
    · exact List.Subset.trans (hnew t ht).2 htop
    · exact hrest t ht
  · have hdepth := h.depth_eq
    rw [Moment.depth, List.countP_cons_of_neg (by simp [htask])] at hdepth
    have hnone : new.countP Task.leaves = 0 :=
      List.countP_eq_zero.2 fun t ht => by simp [(hnew t ht).1]
    rw [Moment.depth, List.countP_append, hnone, Nat.zero_add, hdepth]

theorem Moment.Sound.leave (h : Moment.Sound r root ⟨.leave :: rest, way, before⟩) :
    Moment.Sound r root ⟨rest, way.tail, after⟩ := by
  have hdepth := h.depth_eq
  rw [Moment.depth, List.countP_cons_of_pos rfl] at hdepth
  refine ⟨h.nodup.tail, List.Subset.trans (List.tail_subset way) h.subset,
    (List.forall_mem_cons.1 h.tasks_subset).2, ?_⟩
  rw [Moment.depth, List.length_tail]
  exact Nat.eq_sub_of_add_eq hdepth

theorem Moment.Sound.enter {p : String} {bs : List (OrRef Schema)}
    (h : Moment.Sound r root ⟨.branches (.ref p :: bs) :: rest, way, before⟩) (hw : p ∉ way)
    {u : Schema} (hu : r.schemaAt p = .ok u) :
    Moment.Sound r root ⟨.merge u :: .leave :: .branches bs :: rest, p :: way, after⟩ := by
  obtain ⟨htop, hrest⟩ := List.forall_mem_cons.1 h.tasks_subset
  rw [Task.pointers, pointersOfList, pointersOfRef, List.append_subset, List.cons_subset] at htop
  obtain ⟨⟨hp, -⟩, hbs⟩ := htop
  refine ⟨List.nodup_cons.2 ⟨hw, h.nodup⟩, List.cons_subset.2 ⟨hp, h.subset⟩, ?_, ?_⟩
  · refine List.forall_mem_cons.2 ⟨pointers_subset_branchPointers_of_schemaAt root p u hu, ?_⟩
    exact List.forall_mem_cons.2 ⟨List.nil_subset _, List.forall_mem_cons.2 ⟨hbs, hrest⟩⟩
  · have hdepth := h.depth_eq
    simp only [Moment.depth, List.countP_cons, Task.leaves, List.length_cons] at hdepth ⊢
    rw [← hdepth]
    rfl

end

/-- **What one step keeps.** -/
theorem Moment.Sound.next (h : m.Sound r root) (hn : m.next? r = some m') : m'.Sound r root := by
  obtain ⟨tasks, way, shape⟩ := m
  cases tasks with
  | nil => cases hn
  | cons task rest =>
    cases shape with
    | error e =>
      -- behind an error tasks are dropped, but the way is still left step by step
      cases hn
      cases task with
      | leave => exact h.leave
      | merge | branches | own => exact h.replace rfl [] (by simp)
    | ok shape =>
      cases hn
      cases task with
      | merge s =>
        exact h.replace rfl [.branches s.allOf, .own s]
          (by simp [Task.leaves, Task.pointers, pointers_eq])
      | own s => exact h.replace rfl [] (by simp)
      | leave => exact h.leave
      | branches bs =>
        rcases bs with _ | ⟨p | u, bs⟩
        · exact h.replace rfl [] (by simp)
        · have hbs : ∀ {after}, Moment.Sound r root ⟨.branches bs :: rest, way, after⟩ :=
            h.replace rfl [.branches bs]
              (by simp [Task.leaves, Task.pointers, pointersOfList])
          rw [Task.perform]
          split_ifs with hw
          · exact hbs
          · rcases hu : r.schemaAt p with e | u
            · exact hbs
            · exact h.enter hw hu
        · exact h.replace rfl [.merge u, .branches bs]
            (by simp [Task.leaves, Task.pointers, pointersOfList, pointersOfRef])

/-- **What holds at every moment.** -/
theorem sound_of_runs (h : Runs r [] (.start root) m) : m.Sound r root := by
  induction h with
  | refl => exact sound_start r root
  | tail _ hb ih => exact ih.next hb.2

/-! ### The whole merge -/

theorem length_inlinePointers_le (s : OrRef Schema) :
    (inlinePointers s).length ≤ (pointersOfRef s).length := by
  cases s with
  | ref p => exact Nat.zero_le _
  | inline s => exact Nat.le_refl _

theorem length_branchPointers_le (r : Resolver) (root : Schema) :
    (branchPointers r root).length ≤ maxDepth r root := by
  have htable : ∀ table : List (String × OrRef Schema),
      (table.flatMap fun (_, s) => inlinePointers s).length ≤ (tablePointers table).length := by
    intro table
    induction table with
    | nil => exact Nat.le_refl _
    | cons e table ih =>
      rw [tablePointers, List.flatMap_cons, List.flatMap_cons, List.length_append,
        List.length_append]
      exact Nat.add_le_add (length_inlinePointers_le e.2) ih
  have hschemas := htable r.schemas
  rw [branchPointers, maxDepth, List.length_append]
  omega

theorem before_rightUnique (r : Resolver) (rest : List Task) :
    Relator.RightUnique (Before r rest) := fun _ _ _ h h' =>
  Option.some.inj (h.2.symm.trans h'.2)

/-- What is known of a moment of a merge in place. -/
structure Descends (r : Resolver) (root : Schema) (m : Moment) : Prop where
  /-- The pointers on the way are different texts. -/
  nodup : m.way.Nodup
  /-- Each of them stands in `allOf`, in the schema or in those of the table. -/
  subset : m.way ⊆ branchPointers r root
  /-- They are the pointers that are followed and whose calls have not come back. -/
  depth_eq : m.depth = m.way.length
  /-- No more of them are followed at a time than there are different texts. -/
  depth_le : m.depth ≤ (branchPointers r root).toFinset.card
  /-- A call that begins now comes back with a shape or an error, the way being as it is now. -/
  returns : ∀ s rest shape, m.tasks = .merge s :: rest → m.shape = .ok shape →
    Runs r rest m ⟨rest, m.way, mergeSchema r (descend r (maxDepth r root)) m.way s shape⟩
  /-- The merge ends, with an empty way, and what it ends with is the merged shape or the error. -/
  ends : ∃ result, Runs r [] m ⟨[], [], result⟩ ∧ result.map Shape.restrict = merge r root

/-- The depth of the bounded functions leaves room for every way. -/
theorem Moment.Sound.room (h : m.Sound r root) :
    Room (branchPointers r root) (maxDepth r root) m.way := by
  have hcard := List.toFinset_card_le (branchPointers r root)
  have hlength := length_branchPointers_le r root
  exact ⟨h.nodup, h.subset, by omega⟩

/-- **Merging in place is well-founded**: however the schemas of a table lead back to each other, at
every moment the pointers on the way are different ones of those in `allOf`, every call comes back
with the way as it was, and the merge ends with the merged shape or an error. -/
theorem merge_descends (h : Runs r [] (.start root) m) : Descends r root m := by
  have hsound := sound_of_runs h
  have htable := pointers_subset_branchPointers_of_schemaAt (r := r) root
  have hends : Runs r [] (.start root)
      ⟨[], [], mergeSchema r (descend r (maxDepth r root)) [] root {}⟩ :=
    runs_merge htable (sound_start r root).room (pointers_subset_branchPointers root) [] {}
  constructor
  case nodup => exact hsound.nodup
  case subset => exact hsound.subset
  case depth_eq => exact hsound.depth_eq
  case depth_le => exact hsound.depth_eq ▸ length_le_card hsound.nodup hsound.subset
  case returns =>
    obtain ⟨tasks, way, before⟩ := m
    rintro s rest shape rfl rfl
    exact runs_merge htable hsound.room (List.forall_mem_cons.1 hsound.tasks_subset).1 rest shape
  case ends =>
    refine ⟨_, ?_, rfl⟩
    -- nothing comes after the end, so it comes after this moment
    rcases Relation.ReflTransGen.total_of_right_unique (before_rightUnique r []) h hends with h | h
    · exact h
    · rcases h.cases_head with rfl | ⟨_, ⟨hlt, -⟩, -⟩
      · exact .refl
      · exact absurd hlt (Nat.not_lt_zero _)

/-- A schema that leads back to itself by two spellings of its name. -/
def knot : Schema where
  allOf := [.ref "#/components/schemas/k~1t", .ref "#/components/schemas/k/t"]

/-- The table of `knot`. -/
def knots : Resolver where
  schemas := [("k/t", .inline knot)]

/-- What is left to do when the first spelling is followed. -/
def afterFirst : List Task :=
  [.leave, .branches [.ref "#/components/schemas/k/t"], .own knot]

/-- The moment at which both spellings are on the way. -/
def knotted : Moment where
  tasks := .merge knot :: .leave :: .branches [] :: .own knot :: afterFirst
  way := ["#/components/schemas/k/t", "#/components/schemas/k~1t"]
  shape := .ok {}

theorem merge_descends_knot :
    Runs knots [] (.start knot) knotted ∧ Descends knots knot knotted := by
  have hfirst : Runs knots [] (.start knot)
      ⟨.merge knot :: afterFirst, ["#/components/schemas/k~1t"], .ok {}⟩ :=
    .head ⟨by decide, rfl⟩ (.single ⟨by decide, by decide +kernel⟩)
  have hagain : Runs knots [] ⟨.merge knot :: afterFirst, ["#/components/schemas/k~1t"], .ok {}⟩
      ⟨.branches [.ref "#/components/schemas/k/t"] :: .own knot :: afterFirst,
        ["#/components/schemas/k~1t"], .ok {}⟩ :=
    .head ⟨by decide, rfl⟩ (.single ⟨by decide, by decide +kernel⟩)
  have hsecond : Runs knots []
      ⟨.branches [.ref "#/components/schemas/k/t"] :: .own knot :: afterFirst,
        ["#/components/schemas/k~1t"], .ok {}⟩ knotted :=
    .single ⟨by decide, by decide +kernel⟩
  have hruns := hfirst.trans (hagain.trans hsecond)
  exact ⟨hruns, merge_descends hruns⟩

end Composition

end ApiModel
