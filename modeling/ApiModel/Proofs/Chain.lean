import ApiModel.Proofs.Follow

/-!
# Where following a pointer stops

A pointer and the entries of a table make a chain: the pointer, the one that stands in the entry that
it names, and so on (`chain`).  Following stops at the first pointer of the chain that came before,
that names no entry of the section, or that names a value, and the result says which of these it is
(`EndsAt`).  It never goes on for longer than there are pointers among the entries
(`stops_follow`), also where the chain leads back to itself.  Pointers to schemas, parameters, request
bodies and responses are all followed like this, and what a pointer is resolved to stands in the
section that the pointer names (`Resolver.chains_stop`).
-/

namespace ApiModel

variable {α : Type} {sec : Section} {table : List (String × OrRef α)} {p q q' : String} {k : Nat}

/-! ### Chains -/

/-- The pointer that stands in the entry that a pointer names. -/
def hop? (sec : Section) (table : List (String × OrRef α)) (p : String) : Option String :=
  (Pointer.target? p).bind fun (s, name) =>
    if s = sec then (Entries.find? name table).bind OrRef.pointer? else none

/-- The pointers that come one after the other when a pointer is followed. -/
def chain (sec : Section) (table : List (String × OrRef α)) (p : String) : Nat → Option String
  | 0 => some p
  | k + 1 => (chain sec table p k).bind (hop? sec table)

/-- A pointer of a chain that did not come before. -/
structure NewAt (sec : Section) (table : List (String × OrRef α)) (p : String) (k : Nat)
    (q : String) : Prop where
  /-- The pointer stands there. -/
  reached : chain sec table p k = some q
  /-- It did not come before. -/
  new : ∀ i < k, chain sec table p i ≠ some q

/-- How following a pointer ends at a pointer of its chain. -/
inductive EndsAt (sec : Section) (table : List (String × OrRef α)) (p : String) (k : Nat) :
    Except RefError α → Prop
  /-- The pointer came before. -/
  | circular {i : Nat} {q : String} (hi : i < k) (hq : chain sec table p k = some q)
    (hagain : chain sec table p i = some q) : EndsAt sec table p k (.error (.circular p))
  /-- It is no pointer at all. -/
  | malformed {q : String} (hq : NewAt sec table p k q) (ht : Pointer.target? q = none) :
    EndsAt sec table p k (.error (.malformed q))
  /-- It is a pointer to another section. -/
  | misplaced {other : Section} {q name : String} (hq : NewAt sec table p k q)
    (ht : Pointer.target? q = some (other, name)) (hs : other ≠ sec) :
    EndsAt sec table p k (.error (.malformed ("expected " ++ sec.title ++ " pointer, got " ++ q)))
  /-- It names no entry. -/
  | unresolved {q name : String} (hq : NewAt sec table p k q)
    (ht : Pointer.target? q = some (sec, name)) (he : name ∉ Entries.keys table) :
    EndsAt sec table p k (.error (.unresolved q))
  /-- It names a value. -/
  | found {q name : String} {v : α} (hq : NewAt sec table p k q)
    (ht : Pointer.target? q = some (sec, name))
    (he : Entries.find? name table = some (.inline v)) : EndsAt sec table p k (.ok v)

/-- Following a pointer stops at a pointer of its chain, and not earlier. -/
structure StopsAt (sec : Section) (table : List (String × OrRef α)) (p : String) (k : Nat)
    (x : Except RefError α) : Prop where
  /-- It ends there. -/
  ends : EndsAt sec table p k x
  /-- It does not end before. -/
  first : ∀ j < k, ∀ y, ¬ EndsAt sec table p j y

/-- Following a pointer stops after at most one more pointer than there are among the entries. -/
def Stops (sec : Section) (table : List (String × OrRef α)) (p : String)
    (x : Except RefError α) : Prop :=
  ∃ k ≤ (entryPointers table).length + 1, StopsAt sec table p k x

theorem Next.hop?_eq (h : Next sec table p q) : hop? sec table p = some q := by
  obtain ⟨name, hp, he⟩ := h
  simp [hop?, hp, he, OrRef.pointer?]

theorem NewAt.not_ends (h : NewAt sec table p k q) (hn : Next sec table q q')
    {y : Except RefError α} : ¬ EndsAt sec table p k y := by
  obtain ⟨name, hq, he⟩ := hn
  have hsame : ∀ {q₁ : String}, NewAt sec table p k q₁ → q₁ = q := fun h₁ =>
    Option.some.inj (h₁.reached.symm.trans h.reached)
  intro hends
  cases hends with
  | @circular i q₁ hi h₁ hagain =>
    obtain rfl : q₁ = q := Option.some.inj (h₁.symm.trans h.reached)
    exact h.new i hi hagain
  | malformed h₁ ht =>
    obtain rfl := hsame h₁
    cases ht.symm.trans hq
  | misplaced h₁ ht hs =>
    obtain rfl := hsame h₁
    exact hs (Prod.mk.inj (Option.some.inj (ht.symm.trans hq))).1
  | unresolved h₁ ht hk =>
    obtain rfl := hsame h₁
    cases ht.symm.trans hq
    exact hk (Entries.mem_keys_of_find? he)
  | found h₁ ht hv =>
    obtain rfl := hsame h₁
    cases ht.symm.trans hq
    cases hv.symm.trans he

/-! ### Following -/

/-- The invariant of following, with what was seen as a part of the chain. -/
structure Reading (sec : Section) (table : List (String × OrRef α)) (p : String)
    (seen : List String) (q : String) : Prop extends OnWay sec table p seen q where
  /-- The pointer is the next one of the chain. -/
  reached : chain sec table p seen.length = some q
  /-- What was seen are the pointers of the chain before it. -/
  mem_seen_iff : ∀ x, x ∈ seen ↔ ∃ i < seen.length, chain sec table p i = some x
  /-- Following did not end at any of them. -/
  goes_on : ∀ j < seen.length, ∀ y, ¬ EndsAt sec table p j y

variable {seen : List String}

namespace Reading

theorem start (sec : Section) (table : List (String × OrRef α)) (p : String) :
    Reading sec table p [] p where
  toOnWay := .first sec table p
  reached := rfl
  mem_seen_iff := by simp
  goes_on := by simp

/-- What was seen is at most one more than the pointers among the entries. -/
theorem length_le (h : Reading sec table p seen q) :
    seen.length ≤ (entryPointers table).length + 1 := by
  have hsub : seen ⊆ p :: entryPointers table := (List.cons_subset.1 h.subset).2
  exact (h.nodup.subperm hsub).length_le

theorem newAt (h : Reading sec table p seen q) (hq : q ∉ seen) :
    NewAt sec table p seen.length q :=
  ⟨h.reached, fun i hi he => hq ((h.mem_seen_iff q).2 ⟨i, hi, he⟩)⟩

theorem next (h : Reading sec table p seen q) (hq : q ∉ seen) (hn : Next sec table q q') :
    Reading sec table p (q :: seen) q' where
  toOnWay := h.toOnWay.next hq hn
  reached := by rw [List.length_cons, chain, h.reached, Option.bind_some, hn.hop?_eq]
  mem_seen_iff x := by
    rw [List.mem_cons, List.length_cons, h.mem_seen_iff, Nat.exists_lt_succ_right, h.reached,
      Option.some.injEq, eq_comm, or_comm]
  goes_on j hj y := by
    rcases Nat.lt_succ_iff_lt_or_eq.1 hj with hj | rfl
    · exact h.goes_on j hj y
    · exact (h.newAt hq).not_ends hn

/-- **Following stops where the chain ends.** -/
theorem stops (h : Reading sec table p seen q) {fuel : Nat}
    (hfuel : fuel + seen.length = table.length + 2) :
    Stops sec table p (followFrom sec table p fuel seen q) := by
  induction fuel generalizing seen q with
  | zero =>
    -- what was seen is too little to use up the fuel
    have hentries : (entryPointers table).length ≤ table.length := List.length_filterMap_le _ _
    have hlength := h.length_le
    omega
  | succ fuel ih =>
    have hstop : ∀ {x : Except RefError α}, EndsAt sec table p seen.length x →
        Stops sec table p x := fun hx => ⟨_, h.length_le, hx, h.goes_on⟩
    rw [followFrom]
    by_cases hq : q ∈ seen
    · obtain ⟨i, hi, he⟩ := (h.mem_seen_iff q).1 hq
      rw [if_pos hq]
      exact hstop (.circular hi h.reached he)
    · have hnew := h.newAt hq
      rw [if_neg hq, Pointer.nameIn, Pointer.target]
      rcases ht : Pointer.target? q with _ | ⟨other, name⟩
      · exact hstop (.malformed hnew ht)
      · by_cases hs : other = sec
        · subst hs
          simp only [if_true]
          rcases he : Entries.find? name table with _ | (q' | v)
          · exact hstop (.unresolved hnew ht (Entries.find?_eq_none_iff.1 he))
          · refine ih (h.next hq ⟨name, ht, he⟩) ?_
            rw [List.length_cons]
            omega
          · exact hstop (.found hnew ht he)
        · simp only [if_neg hs]
          exact hstop (.misplaced hnew ht hs)

end Reading

/-- **Following a pointer stops** at the first pointer of its chain that ends it. -/
theorem stops_follow (sec : Section) (table : List (String × OrRef α)) (p : String) :
    Stops sec table p (follow sec table p) :=
  (Reading.start sec table p).stops rfl

/-! ### Sections -/

/-- The section to which a value belongs. -/
def Resolved.home : Resolved → Section
  | .schema _ => .schemas
  | .parameter _ => .parameters
  | .securityScheme _ => .securitySchemes
  | .requestBody _ => .requestBodies
  | .response _ => .responses

namespace Resolver

variable {r : Resolver} {v : Resolved}

/-- A value stands in its section. -/
inductive Holds (r : Resolver) : Resolved → Prop
  | schema {name : String} {s : Schema} (h : (name, .inline s) ∈ r.schemas) : Holds r (.schema s)
  | parameter {name : String} {p : Parameter} (h : (name, .inline p) ∈ r.components.parameters) :
    Holds r (.parameter p)
  | securityScheme {name : String} {s : SecurityScheme}
    (h : (name, s) ∈ r.components.securitySchemes) : Holds r (.securityScheme s)
  | requestBody {name : String} {b : RequestBody}
    (h : (name, .inline b) ∈ r.components.requestBodies) : Holds r (.requestBody b)
  | response {name : String} {x : Response} (h : (name, .inline x) ∈ r.components.responses) :
    Holds r (.response x)

theorem mem_of_securityScheme {name : String} {s : SecurityScheme}
    (h : r.securityScheme name = .ok s) : (name, s) ∈ r.components.securitySchemes := by
  rw [securityScheme] at h
  split at h
  · cases h
    exact Entries.mem_of_find? ‹_›
  · cases h

/-- **What a pointer is resolved to stands in the section that it names.** -/
theorem holds_of_resolve (h : r.resolve p = .ok v) :
    r.Holds v ∧ ∃ name, Pointer.target? p = some (v.home, name) := by
  rw [resolve, Pointer.target] at h
  rcases ht : Pointer.target? p with _ | ⟨sec, name⟩
  · rw [ht] at h
    cases h
  · rw [ht] at h
    cases sec with
    | schemas =>
      obtain ⟨s, hs, rfl⟩ := map_eq_ok_iff.1 h
      obtain ⟨_, hm⟩ := mem_of_followFrom hs
      exact ⟨.schema hm, name, rfl⟩
    | parameters =>
      obtain ⟨s, hs, rfl⟩ := map_eq_ok_iff.1 h
      obtain ⟨_, hm⟩ := mem_of_followFrom hs
      exact ⟨.parameter hm, name, rfl⟩
    | securitySchemes =>
      obtain ⟨s, hs, rfl⟩ := map_eq_ok_iff.1 h
      obtain ⟨_, -, hs⟩ := bind_eq_ok_iff.1 hs
      exact ⟨.securityScheme (mem_of_securityScheme hs), name, rfl⟩
    | requestBodies =>
      obtain ⟨s, hs, rfl⟩ := map_eq_ok_iff.1 h
      obtain ⟨_, hm⟩ := mem_of_followFrom hs
      exact ⟨.requestBody hm, name, rfl⟩
    | responses =>
      obtain ⟨s, hs, rfl⟩ := map_eq_ok_iff.1 h
      obtain ⟨_, hm⟩ := mem_of_followFrom hs
      exact ⟨.response hm, name, rfl⟩

/-- **Every chain of pointers stops**, whatever the tables are, with the result of the first pointer
that ends it; and what a pointer is resolved to stands in the section that it names. -/
theorem chains_stop (r : Resolver) (p : String) :
    Stops .schemas r.schemas p (r.schemaAt p) ∧
      Stops .parameters r.components.parameters p (r.parameterAt p) ∧
      Stops .requestBodies r.components.requestBodies p (r.requestBodyAt p) ∧
      Stops .responses r.components.responses p (r.responseAt p) ∧
      ∀ v, r.resolve p = .ok v → r.Holds v ∧ ∃ name, Pointer.target? p = some (v.home, name) :=
  ⟨stops_follow _ _ _, stops_follow _ _ _, stops_follow _ _ _, stops_follow _ _ _,
    fun _ => holds_of_resolve⟩

/-- Schemas that are other names of each other.  The second pointer is another way to write the name
of the entry in which it stands. -/
def synonyms : Resolver where
  schemas :=
    [("Pet", .ref "#/components/schemas/Animal"),
      ("Animal", .inline { title := "an animal" }),
      ("pets/cat", .ref "#/components/schemas/pets~1cat")]

theorem chains_stop_synonyms :
    (∃ v, synonyms.resolve "#/components/schemas/Pet" = .ok v ∧ synonyms.Holds v ∧
      ∃ name, Pointer.target? "#/components/schemas/Pet" = some (v.home, name)) ∧
      Stops .schemas synonyms.schemas "#/components/schemas/pets/cat"
        (.error (.circular "#/components/schemas/pets/cat")) := by
  have hok : (synonyms.resolve "#/components/schemas/Pet").isOk = true := by decide +kernel
  have hcat : synonyms.schemaAt "#/components/schemas/pets/cat" =
      .error (.circular "#/components/schemas/pets/cat") := by decide +kernel
  obtain ⟨v, hv⟩ := exists_eq_ok hok
  obtain ⟨-, -, -, -, hresolve⟩ := chains_stop synonyms "#/components/schemas/Pet"
  obtain ⟨hstops, -⟩ := chains_stop synonyms "#/components/schemas/pets/cat"
  rw [hcat] at hstops
  exact ⟨⟨v, hv, hresolve v hv⟩, hstops⟩

end Resolver

end ApiModel
