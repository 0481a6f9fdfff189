import ApiModel.Naming.Namer
import ApiModel.Proofs.Entries
import ApiModel.Proofs.Naming.Fresh

/-!
# How the name of an operation is chosen

An operation gets the first of its candidates that is not taken: the alias or the primary name, the
whole id, the name of its route.  If all of them are taken it gets the first one with the least
number that makes a name that is not taken (`Namer.Chosen`).  There always is such a number, and it
fits into 32 bits as long as fewer names are taken than there are numbers to try
(`Namer.assign_gives`).
-/

namespace ApiModel

namespace Namer

variable {n : Namer} {taken : List String} {method : Method} {path : String} {id : Option String}

/-! ### Candidates -/

/-- The name that the id of an operation stands for, or else its route. -/
def primary (n : Namer) (method : Method) (path : String) (id : Option String) : String :=
  ((n.explicitId? id).bind OperationId.localName?).getD (routeName method path)

/-- What the name of an operation is best made from: the alias of the id as it is written, else the
alias of the primary name, else the primary name. -/
inductive Prefers (n : Namer) (method : Method) (path : String) (id : Option String) :
    String → Prop
  | aliasOfId {i t : String} (hi : n.explicitId? id = some i)
    (ht : Entries.find? i n.aliases = some t) : Prefers n method path id t
  | aliasOfPrimary {t : String} (hi : ∀ i ∈ n.explicitId? id, i ∉ Entries.keys n.aliases)
    (ht : Entries.find? (n.primary method path id) n.aliases = some t) : Prefers n method path id t
  | plain (hi : ∀ i ∈ n.explicitId? id, i ∉ Entries.keys n.aliases)
    (hp : n.primary method path id ∉ Entries.keys n.aliases) :
    Prefers n method path id (n.primary method path id)

/-- The whole id in camel case, if the id counts and anything is left of it. -/
def whole? (n : Namer) (id : Option String) : Option String :=
  (n.explicitId? id).bind OperationId.fullName?

/-- **The candidates** begin with what is preferred; the whole id and the route stand behind it. -/
theorem exists_prefers (n : Namer) (method : Method) (path : String) (id : Option String) :
    ∃ first, n.Prefers method path id first ∧ n.candidates method path id =
      Name.camelOf first ::
        ((n.whole? id).toList ++ [routeName method path]).map Name.camelOf := by
  suffices h : ∃ first, n.Prefers method path id first ∧
      n.proposals method path id = first :: ((n.whole? id).toList ++ [routeName method path]) by
    obtain ⟨first, hf, hp⟩ := h
    exact ⟨first, hf, by rw [candidates, hp, List.map_cons]⟩
  rcases hd : (n.explicitId? id).bind (Entries.find? · n.aliases) with _ | t
  · have hi : ∀ i ∈ n.explicitId? id, i ∉ Entries.keys n.aliases := fun i hi =>
      Entries.find?_eq_none_iff.1 (Option.bind_eq_none_iff.1 hd i hi)
    rcases hp : Entries.find? (n.primary method path id) n.aliases with _ | t
    · refine ⟨_, .plain hi (Entries.find?_eq_none_iff.1 hp), ?_⟩
      rw [primary] at hp
      simp only [proposals, hd, hp]
      rfl
    · refine ⟨t, .aliasOfPrimary hi hp, ?_⟩
      rw [primary] at hp
      simp only [proposals, hd, hp]
      rfl
  · obtain ⟨i, hi, ht⟩ := Option.bind_eq_some_iff.1 hd
    refine ⟨t, .aliasOfId hi ht, ?_⟩
    simp only [proposals, hd]
    rfl

/-! ### The choice -/

/-- The name with a number is made from the least number that makes a name that is not taken. -/
theorem numbered_spec (taken : List String) (base : String) :
    ∃ k, LeastNumber (· ∉ taken) base k ∧ k ≤ taken.toFinset.card + 2 ∧
      numbered taken base = base ++ toString k := by
  obtain ⟨k, hk, hcard⟩ := exists_leastNumber taken.toFinset base
  simp only [List.mem_toFinset] at hk
  have hlength := taken.toFinset_card_le
  have hfind : (List.range' 2 (taken.length + 1)).find? (fun k => base ++ toString k ∉ taken) =
      some k := (leastNumber_iff fun k => decide_eq_true_iff).2 ⟨hk, by omega⟩
  exact ⟨k, hk, hcard, by rw [numbered, hfind]⟩

/-- What is chosen among candidates when some names are taken. -/
inductive Chosen (taken : List String) : List String → String → Prop
  /-- The first candidate that is not taken. -/
  | free {candidates : List String} {name : String}
    (h : FirstFree (· ∉ taken) candidates name) : Chosen taken candidates name
  /-- The first candidate with a number, if all candidates are taken.  The number fits into 32 bits
  unless so many names are taken. -/
  | numbered {first : String} {rest : List String} {k : Nat}
    (hall : ∀ c ∈ first :: rest, c ∈ taken) (hk : LeastNumber (· ∉ taken) first k)
    (hfits : taken.toFinset.card < 2 ^ 32 - 2 → k < 2 ^ 32) :
    Chosen taken (first :: rest) (first ++ toString k)

theorem chosen_choose {candidates : List String} (taken : List String) (hne : candidates ≠ []) :
    Chosen taken candidates (choose taken candidates) := by
  obtain ⟨first, rest, rfl⟩ := List.exists_cons_of_ne_nil hne
  have hp : ∀ c, decide (c ∉ taken) = true ↔ c ∉ taken := fun c => decide_eq_true_iff
  rcases hf : (first :: rest).find? (· ∉ taken) with _ | name
  · have hall := (forall_not_free_iff hp).1 hf
    simp only [not_not] at hall
    obtain ⟨k, hk, hcard, he⟩ := numbered_spec taken first
    rw [choose, hf]
    simp only [List.head?_cons, Option.getD_some]
    rw [he]
    exact .numbered hall hk fun hsmall => by omega
  · rw [choose, hf]
    exact .free ((firstFree_iff hp).1 hf)

theorem Chosen.notMem {candidates : List String} {name : String}
    (h : Chosen taken candidates name) : name ∉ taken := by
  cases h with
  | free h =>
    obtain ⟨-, -, -, hfree, -⟩ := h
    exact hfree
  | numbered _ hk _ => exact hk.1.2

theorem chosen_assign (n : Namer) (method : Method) (path : String) (id : Option String) :
    Chosen n.taken (n.candidates method path id) (n.assign method path id).1 := by
  refine chosen_choose n.taken ?_
  rw [candidates, proposals]
  exact List.cons_ne_nil _ _

/-- What giving an operation a name does to a namer. -/
structure Gives (n : Namer) (method : Method) (path : String) (id : Option String) (name : String)
    (n' : Namer) : Prop where
  /-- The name is chosen among what is preferred, the whole id and the route, in camel case. -/
  chosen : ∃ first, n.Prefers method path id first ∧
    Chosen n.taken (Name.camelOf first ::
      ((n.whole? id).toList ++ [routeName method path]).map Name.camelOf) name
  /-- The name was not taken before. -/
  fresh : name ∉ n.taken
  /-- It is the only one that is taken in addition. -/
  mem_taken_iff : ∀ x, x ∈ n'.taken ↔ x = name ∨ x ∈ n.taken
  /-- Names come from the same place as before. -/
  strategy : n'.strategy = n.strategy
  /-- The aliases are the same. -/
  aliases : n'.aliases = n.aliases

/-- **The name of an operation is the first of its candidates that is not taken**, or else the first
candidate with the least number that makes it so; nothing but this name gets taken. -/
theorem assign_gives (n : Namer) (method : Method) (path : String) (id : Option String) :
    n.Gives method path id (n.assign method path id).1 (n.assign method path id).2 := by
  obtain ⟨first, hf, hc⟩ := n.exists_prefers method path id
  have hchosen := chosen_assign n method path id
  constructor
  case chosen => exact ⟨first, hf, hc ▸ hchosen⟩
  case fresh => exact hchosen.notMem
  case mem_taken_iff => exact fun x => List.mem_cons
  case strategy => rfl
  case aliases => rfl

/-- A namer that has given all the candidates for an operation, and the first one with the number
two as well. -/
def crowded : Namer where
  aliases := [("users.get", "fetch_user")]
  taken := ["fetchUser2", "getUsersMe", "usersGet", "fetchUser"]

theorem assign_gives_crowded :
    (crowded.assign .get "/users/me" (some "users.get")).1 = "fetchUser3" ∧
      crowded.Gives .get "/users/me" (some "users.get") "fetchUser3"
        (crowded.assign .get "/users/me" (some "users.get")).2 := by
  have hname : (crowded.assign .get "/users/me" (some "users.get")).1 = "fetchUser3" := by
    decide +kernel
  have hgives := assign_gives crowded .get "/users/me" (some "users.get")
  rw [hname] at hgives
  exact ⟨hname, hgives⟩

end Namer

end ApiModel
