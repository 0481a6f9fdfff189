import ApiModel.Proofs.Document.Check
import ApiModel.Proofs.Document.Replaced
import Mathlib.Data.List.Perm.Subperm
import Mathlib.Logic.Relation

/-!
# What following a pointer means

Following counts its steps and keeps the pointers that it has seen.  What it computes can be said
without either: a pointer leads to the value that it names, or to where the reference that it names
leads (`Leads`, `follow_eq_ok_iff`).  A pointer that leads somewhere is on no cycle, so it was not
seen before, and a way without repetition is no longer than the table allows.  A schema or a
reference denotes the schema that is found there (`Resolver.Denotes`).
-/

namespace ApiModel

variable {α : Type} {sec : Section} {table table' : List (String × OrRef α)} {start p q : String}
  {v : α}

/-- A pointer leads to a value of a section. -/
inductive Leads (sec : Section) (table : List (String × OrRef α)) : String → α → Prop
  | found {p name : String} {v : α} (hp : Pointer.target? p = some (sec, name))
      (he : Entries.find? name table = some (.inline v)) : Leads sec table p v
  | next {p name q : String} {v : α} (hp : Pointer.target? p = some (sec, name))
      (he : Entries.find? name table = some (.ref q)) (h : Leads sec table q v) :
      Leads sec table p v

/-- A pointer names an entry that is another pointer. -/
def Next (sec : Section) (table : List (String × OrRef α)) (p q : String) : Prop :=
  ∃ name, Pointer.target? p = some (sec, name) ∧ Entries.find? name table = some (.ref q)

/-- The pointers that are entries of a table. -/
def entryPointers (table : List (String × OrRef α)) : List String :=
  table.filterMap fun e => e.2.pointer?

theorem Next.eq (h : Next sec table p q) {q' : String} (h' : Next sec table p q') : q = q' := by
  obtain ⟨name, hp, he⟩ := h
  obtain ⟨name', hp', he'⟩ := h'
  rw [hp] at hp'
  obtain ⟨-, rfl⟩ := Prod.mk.inj (Option.some.inj hp')
  rw [he] at he'
  exact OrRef.ref.inj (Option.some.inj he')

theorem Next.mem (h : Next sec table p q) : q ∈ entryPointers table := by
  obtain ⟨name, -, he⟩ := h
  exact List.mem_filterMap.2 ⟨_, Entries.mem_of_find? he, rfl⟩

theorem Leads.exists_target? (h : Leads sec table p v) :
    ∃ name ∈ Entries.keys table, Pointer.target? p = some (sec, name) := by
  cases h with
  | found hp he => exact ⟨_, Entries.mem_keys_of_find? he, hp⟩
  | next hp he _ => exact ⟨_, Entries.mem_keys_of_find? he, hp⟩

/-- **A pointer that leads somewhere is on no cycle.** -/
theorem Leads.not_cyclic (h : Leads sec table p v) : ¬ Relation.TransGen (Next sec table) p p := by
  induction h with
  | @found p name v hp he =>
    intro hc
    obtain ⟨q, ⟨name', hp', he'⟩, -⟩ := Relation.TransGen.head'_iff.1 hc
    rw [hp] at hp'
    obtain ⟨-, rfl⟩ := Prod.mk.inj (Option.some.inj hp')
    rw [he] at he'
    cases he'
  | @next p name q v hp he h ih =>
    intro hc
    have hn : Next sec table p q := ⟨name, hp, he⟩
    obtain ⟨q', hn', hc⟩ := Relation.TransGen.head'_iff.1 hc
    obtain rfl := hn.eq hn'
    -- the cycle through the pointer is one through the next pointer, too
    exact ih (Relation.TransGen.tail' hc hn)

theorem leads_of_followFrom {fuel : Nat} {seen : List String}
    (h : followFrom sec table start fuel seen p = .ok v) : Leads sec table p v := by
  induction fuel generalizing seen p with
  | zero => cases h
  | succ fuel ih =>
    obtain ⟨-, name, ht, he | ⟨q, he, h⟩⟩ := followFrom_succ_eq_ok_iff.1 h
    · exact .found ht he
    · exact .next ht he (ih h)

/-- The invariant of following: the pointers that were seen are those on the way to this one. -/
structure OnWay (sec : Section) (table : List (String × OrRef α)) (start : String)
    (seen : List String) (p : String) : Prop where
  /-- From each of them the way goes on to this pointer. -/
  before : ∀ x ∈ seen, Relation.TransGen (Next sec table) x p
  /-- None was seen twice. -/
  nodup : seen.Nodup
  /-- All but the first pointer are entries of the table. -/
  subset : p :: seen ⊆ start :: entryPointers table

variable {seen : List String}

theorem OnWay.first (sec : Section) (table : List (String × OrRef α)) (start : String) :
    OnWay sec table start [] start :=
  ⟨by simp, List.nodup_nil, List.cons_subset.2 ⟨List.mem_cons_self, List.nil_subset _⟩⟩

/-- A pointer that leads somewhere was not seen before, and the way to it is not too long. -/
theorem OnWay.notMem (hw : OnWay sec table start seen p) (h : Leads sec table p v) :
    p ∉ seen ∧ seen.length ≤ table.length := by
  have hp : p ∉ seen := fun hm => h.not_cyclic (hw.before p hm)
  have hlength := ((List.nodup_cons.2 ⟨hp, hw.nodup⟩).subperm hw.subset).length_le
  have hentries : (entryPointers table).length ≤ table.length := List.length_filterMap_le _ _
  simp only [List.length_cons] at hlength
  exact ⟨hp, by omega⟩

theorem OnWay.next (hw : OnWay sec table start seen p) (hp : p ∉ seen) (hn : Next sec table p q) :
    OnWay sec table start (p :: seen) q := by
  refine ⟨fun x hx => ?_, List.nodup_cons.2 ⟨hp, hw.nodup⟩,
    List.cons_subset.2 ⟨List.mem_cons_of_mem _ hn.mem, hw.subset⟩⟩
  rcases List.mem_cons.1 hx with rfl | hx
  · exact .single hn
  · exact (hw.before x hx).tail hn

theorem followFrom_of_leads (h : Leads sec table p v) {fuel : Nat}
    (hw : OnWay sec table start seen p) (hfuel : fuel + seen.length = table.length + 2) :
    followFrom sec table start fuel seen p = .ok v := by
  induction h generalizing fuel seen with
  | @found p name v ht he =>
    obtain ⟨hp, hlength⟩ := hw.notMem (.found ht he)
    obtain ⟨fuel, rfl⟩ : ∃ k, fuel = k + 1 := ⟨fuel - 1, by omega⟩
    exact followFrom_succ_eq_ok_iff.2 ⟨hp, name, ht, .inl he⟩
  | @next p name q v ht he h ih =>
    obtain ⟨hp, hlength⟩ := hw.notMem (.next ht he h)
    obtain ⟨fuel, rfl⟩ : ∃ k, fuel = k + 1 := ⟨fuel - 1, by omega⟩
    have hlength' : fuel + (p :: seen).length = table.length + 2 := by
      rw [List.length_cons]
      omega
    have hgo := ih (hw.next hp ⟨name, ht, he⟩) hlength'
    exact followFrom_succ_eq_ok_iff.2 ⟨hp, name, ht, .inr ⟨q, he, hgo⟩⟩

/-- **Following gives a value exactly if the pointer leads to it.** -/
theorem follow_eq_ok_iff : follow sec table p = .ok v ↔ Leads sec table p v := by
  constructor
  · intro h
    exact leads_of_followFrom h
  · intro h
    exact followFrom_of_leads h (.first sec table p) rfl

/-- What a schema or a reference to one denotes: the schema itself, or the one that the reference
leads to. -/
inductive Resolver.Denotes (r : Resolver) : OrRef Schema → Schema → Prop
  | inline {s : Schema} : Denotes r (.inline s) s
  | ref {p : String} {s : Schema} (h : Leads .schemas r.schemas p s) : Denotes r (.ref p) s

theorem Resolver.schema_eq_ok_iff {r : Resolver} {b : OrRef Schema} {s : Schema} :
    r.schema b = .ok s ↔ r.Denotes b s := by
  cases b with
  | inline u =>
    constructor
    · intro h
      cases h
      exact .inline
    · rintro ⟨⟩
      rfl
  | ref p =>
    constructor
    · intro h
      exact .ref (follow_eq_ok_iff.1 h)
    · rintro ⟨⟩
      rename_i h
      exact follow_eq_ok_iff.2 h

theorem Resolver.Denotes.eq {r : Resolver} {b : OrRef Schema} {s s' : Schema} (h : r.Denotes b s)
    (h' : r.Denotes b s') : s = s' := by
  rw [← schema_eq_ok_iff] at h h'
  exact Except.ok.inj (h.symm.trans h')

/-! ### Ways that go in step -/

/-- **Where a replaced pointer leads in another table the pointer leads in its own**, to a related
value, if each step is one in its own table.  The pointers for which this cannot be said are in
`Stray`. -/
theorem Leads.in_step {f : PointerKind → String → String} {Stray : PointerKind → String → Prop}
    {R : α → α → Prop}
    (hstep : ∀ kind p name x, Pointer.target? (f kind p) = some (sec, name) →
      Entries.find? name table' = some x → Stray kind p ∨ ∃ old y,
        Pointer.target? p = some (sec, old) ∧ Entries.find? old table = some y ∧
          OrRef.Repointed f R y x) {p' : String} {w : α} (h : Leads sec table' p' w) :
    ∀ kind p, f kind p = p' →
      (Stray kind p ∨ ∃ q, Relation.TransGen (Next sec table) p q ∧ Stray .ref q) ∨
        ∃ v, Leads sec table p v ∧ R v w := by
  induction h with
  | @found p' name w hp he =>
    rintro kind p rfl
    rcases hstep kind p name _ hp he with hs | ⟨old, y, ht, hy, hr⟩
    · exact .inl (.inl hs)
    · cases hr with
      | inline hr => exact .inr ⟨_, .found ht hy, hr⟩
  | @next p' name q' w hp he h ih =>
    rintro kind p rfl
    rcases hstep kind p name _ hp he with hs | ⟨old, y, ht, hy, hr⟩
    · exact .inl (.inl hs)
    · cases hr with
      | ref q =>
        have hn : Next sec table p q := ⟨old, ht, hy⟩
        rcases ih .ref q rfl with (hs | ⟨x, hx, hs⟩) | ⟨v, hv, hr⟩
        · exact .inl (.inr ⟨q, .single hn, hs⟩)
        · exact .inl (.inr ⟨x, .head hn hx, hs⟩)
        · exact .inr ⟨v, .next ht hy hv, hr⟩

/-- **Where a pointer leads in its own table the replaced pointer leads in another one**, if each step
can be made there, too.  What is known of the pointers on the way is in `Held`. -/
theorem Leads.under {f : PointerKind → String → String} {Held : PointerKind → String → Prop}
    (hstep : ∀ kind p name x, Held kind p → Pointer.target? p = some (sec, name) →
      Entries.find? name table = some x → ∃ new y, Pointer.target? (f kind p) = some (sec, new) ∧
        Entries.find? new table' = some y ∧ y.pointer? = x.pointer?.map (f .ref))
    (hentries : ∀ q ∈ entryPointers table, Held .ref q) (h : Leads sec table p v) :
    ∀ kind, Held kind p → ∃ w, Leads sec table' (f kind p) w := by
  induction h with
  | @found p name v hp he =>
    intro kind hheld
    obtain ⟨new, y, ht, hy, hr⟩ := hstep kind p name _ hheld hp he
    cases y with
    | ref q => cases hr
    | inline w => exact ⟨w, .found ht hy⟩
  | @next p name q v hp he h ih =>
    intro kind hheld
    obtain ⟨new, y, ht, hy, hr⟩ := hstep kind p name _ hheld hp he
    have hq : q ∈ entryPointers table := Next.mem ⟨name, hp, he⟩
    obtain ⟨w, hw⟩ := ih .ref (hentries q hq)
    cases y with
    | inline w => cases hr
    | ref q' =>
      obtain rfl : q' = f .ref q := Option.some.inj hr
      exact ⟨w, .next ht hy hw⟩

/-- If a replaced pointer that names the section was not replaced at all, there are no strays. -/
theorem isOk_follow_of_inStep {f : PointerKind → String → String} (htable : InStep f table table')
    (hf : ∀ kind p name, Pointer.target? (f kind p) = some (sec, name) → f kind p = p)
    {kind : PointerKind} (h : (follow sec table' (f kind p)).isOk = true) :
    (follow sec table p).isOk = true := by
  have hstep : ∀ kind p name x, Pointer.target? (f kind p) = some (sec, name) →
      Entries.find? name table' = some x → False ∨ ∃ old y,
        Pointer.target? p = some (sec, old) ∧ Entries.find? old table = some y ∧
          OrRef.Repointed f (fun _ _ => True) y x := by
    intro kind p name x ht hx
    obtain ⟨y, hy, he⟩ := htable.exists_find? hx
    rw [hf kind p name ht] at ht
    exact .inr ⟨name, y, ht, hy, .of_pointer? he⟩
  obtain ⟨v, hv⟩ := exists_eq_ok h
  have hleads := (follow_eq_ok_iff.1 hv).in_step hstep kind p rfl
  simp only [and_false, exists_false, or_false, false_or, and_true] at hleads
  obtain ⟨w, hw⟩ := hleads
  exact isOk_of_eq_ok (follow_eq_ok_iff.2 hw)

end ApiModel
