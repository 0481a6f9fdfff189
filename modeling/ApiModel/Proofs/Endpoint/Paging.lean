import ApiModel.Endpoint.Paging
import ApiModel.Proofs.Entries
import ApiModel.Proofs.Follow
import ApiModel.Proofs.Pointwise
import ApiModel.Proofs.Schemas.Kind
import ApiModel.Proofs.Schemas.Reach
import ApiModel.Proofs.Schemas.Reference
import Mathlib.Data.Option.Basic

/-!
# What a paged endpoint is

The rules by which endpoints are taken for paged ones, said without the searches that apply them: the
endpoint fetches a collection (`PagingRules.FetchesCollection`), the body of a successful response
is picked (`SuccessBody`), it has properties (`PageProperties`), and among them there are a
list and a cursor (`HoldsItems`, `HoldsCursor`).  The classification gives exactly what these rules
say, and it sees of a body only the object that it presents (`infer_classifies`).

The two searches know nothing of each other.  So a property that is a list and has the name of a cursor
may be taken for both; when this happens is told by `infer_apart`.
-/

namespace ApiModel

namespace PagingRules

variable {rules : PagingRules} {r : Resolver} {e : Endpoint}

/-! ### Fetching a collection -/

/-- A segment of a path ends with a single `s`, be it small or capital. -/
def Plural (segment : List Char) : Prop :=
  ∃ stem c, segment = stem ++ [c] ∧ c.toLower = 's' ∧ ∀ d ∈ stem.getLast?, d.toLower ≠ 's'

/-- A name goes on after its beginning with a capital letter or a digit, or not at all. -/
def StartsWithWord (start name : String) : Prop :=
  ∃ rest, name.toList = start.toList ++ rest ∧
    ∀ c ∈ rest.head?, Text.isUpper c = true ∨ c.isDigit = true

/-- An endpoint fetches a collection. -/
structure FetchesCollection (rules : PagingRules) (e : Endpoint) : Prop where
  /-- Its method is one of the rules, whatever the case of its letters. -/
  method : ∃ m ∈ rules.methods, agree m e.method.lowerName = true
  /-- The last segment of its path is no parameter. -/
  openEnd : ∀ last ∈ (Route.segments e.path).getLast?, Route.isParameter last = false
  /-- That segment is a plural, or its name begins as the rules say. -/
  plural : (∃ last ∈ (Route.segments e.path).getLast?, Plural last) ∨
    ∃ start ∈ rules.nameStarts, StartsWithWord start e.canonicalName

theorem isPlural_iff (segment : List Char) : isPlural segment = true ↔ Plural segment := by
  rcases List.eq_nil_or_concat segment with rfl | ⟨stem, c, rfl⟩
  · simp [isPlural, Plural]
  have hplural : Plural (stem ++ [c]) ↔ c.toLower = 's' ∧ ∀ d ∈ stem.getLast?, d.toLower ≠ 's' := by
    constructor
    · rintro ⟨stem', c', h, hc⟩
      obtain ⟨rfl, hlast⟩ := List.append_inj' h rfl
      obtain rfl := List.singleton_inj.1 hlast
      exact hc
    · intro hc
      exact ⟨stem, c, rfl, hc⟩
  rw [List.concat_eq_append, hplural, isPlural, List.map_append, List.reverse_append]
  rcases List.eq_nil_or_concat stem with rfl | ⟨stem, d, rfl⟩
  · by_cases hc : c.toLower = 's' <;> simp [hc]
  · by_cases hc : c.toLower = 's' <;> by_cases hd : d.toLower = 's' <;> simp [hc, hd]

theorem beginsWith_iff (start name : String) :
    beginsWith start name = true ↔ StartsWithWord start name := by
  have hword : ∀ rest, startsWord rest = true ↔
      ∀ c ∈ rest.head?, Text.isUpper c = true ∨ c.isDigit = true := by
    intro rest
    cases rest <;> simp [startsWord]
  rw [beginsWith, Option.any_eq_true]
  constructor
  · rintro ⟨rest, hrest, h⟩
    exact ⟨rest, Pointer.eq_append_of_afterPrefix? hrest, (hword rest).1 h⟩
  · rintro ⟨rest, hrest, h⟩
    rw [hrest]
    exact ⟨rest, Pointer.afterPrefix?_append _ _, (hword rest).2 h⟩

theorem endsPlural_iff {segments : List (List Char)}
    (h : ∀ last ∈ segments.getLast?, Route.isParameter last = false) :
    endsPlural segments = true ↔ ∃ last ∈ segments.getLast?, Plural last := by
  rcases List.eq_nil_or_concat segments with rfl | ⟨stem, last, rfl⟩
  · simp [endsPlural]
  have hlast : Route.isParameter last = false := h last (by simp)
  simp [endsPlural, hlast, isPlural_iff]

/-- **Which endpoints fetch collections.** -/
theorem fetchesCollection_iff :
    (rules.allowsMethod e.method && rules.isCollection e.canonicalName e.path) = true ↔
      FetchesCollection rules e := by
  rw [Bool.and_eq_true, allowsMethod, List.any_eq_true, isCollection, Bool.and_eq_true,
    Bool.or_eq_true, List.any_eq_true, Bool.not_eq_true', Option.any_eq_false]
  constructor
  · rintro ⟨hmethod, hopen, hnamed⟩
    refine ⟨hmethod, by simpa using hopen, hnamed.symm.imp (endsPlural_iff ?_).1 ?_⟩
    · simpa using hopen
    · rintro ⟨start, hs, h⟩
      exact ⟨start, hs, (beginsWith_iff _ _).1 h⟩
  · rintro ⟨hmethod, hopen, hplural⟩
    refine ⟨hmethod, by simpa using hopen, hplural.symm.imp ?_ (endsPlural_iff hopen).2⟩
    rintro ⟨start, hs, h⟩
    exact ⟨start, hs, (beginsWith_iff _ _).2 h⟩

/-! ### The body of a successful response -/

/-- A response has a status and a body. -/
def Gives (status : String) (answer : ResponseCase) : Prop :=
  agree answer.status status = true ∧ answer.body.isSome = true

/-- The content type of a response speaks of JSON. -/
def HasJson (answer : ResponseCase) : Prop :=
  ∃ type ∈ answer.contentType, "json".toList <:+: type.toList

/-- The best response with a status: the first with JSON, or the first one if none has. -/
inductive Best (status : String) (answers : List ResponseCase) (answer : ResponseCase) : Prop
  | json (h : First (fun c => Gives status c ∧ HasJson c) answers answer)
  | other (hno : ∀ c ∈ answers, Gives status c → ¬ HasJson c) (h : First (Gives status) answers answer)

/-- The body of the best response with the first status of success for which there is one. -/
def SuccessBody (answers : List ResponseCase) (body : OrRef Schema) : Prop :=
  ∃ status answer, First (fun s => ∃ c ∈ answers, Gives s c) successStatuses status ∧
    Best status answers answer ∧ answer.body = some body

variable {answers : List ResponseCase} {body : OrRef Schema} {status : String}

theorem holds_iff {part s : List Char} : holds part s = true ↔ part <:+: s := by
  induction s with
  | nil => simp [holds]
  | cons c s ih =>
    rw [holds, Bool.or_eq_true, List.isPrefixOf_iff_prefix, ih, List.infix_cons_iff]

theorem isJson_iff (answer : ResponseCase) : isJson answer = true ↔ HasJson answer := by
  rw [isJson, Option.any_eq_true]
  exact exists_congr fun type => and_congr_right fun _ => holds_iff

theorem gives_iff (answer : ResponseCase) :
    (agree answer.status status && answer.body.isSome) = true ↔ Gives status answer :=
  Bool.and_eq_true _ _ ▸ Iff.rfl

theorem best_iff {answer : ResponseCase} :
    ((answers.filter fun c => agree c.status status && c.body.isSome).find? isJson <|>
        (answers.filter fun c => agree c.status status && c.body.isSome).head?) = some answer ↔
      Best status answers answer := by
  have hjson : ∀ c, (decide ((agree c.status status && c.body.isSome) = true ∧ isJson c = true)) = true ↔
      Gives status c ∧ HasJson c := by
    intro c
    rw [decide_eq_true_iff, gives_iff, isJson_iff]
  rw [List.find?_filter, List.head?_filter, Option.orElse_eq_some, List.find?_eq_none,
    find?_eq_some_iff_first hjson, find?_eq_some_iff_first gives_iff]
  simp only [hjson, not_and]
  constructor
  · rintro (h | ⟨hno, h⟩)
    · exact .json h
    · exact .other hno h
  · rintro (h | ⟨hno, h⟩)
    · exact .inl h
    · exact .inr ⟨hno, h⟩

theorem exists_best_iff : (∃ answer, Best status answers answer) ↔ ∃ c ∈ answers, Gives status c := by
  rw [← exists_first_iff]
  constructor
  · rintro ⟨answer, h | ⟨-, h⟩⟩
    · exact exists_first_iff.2 ⟨answer, h.mem, h.prop.1⟩
    · exact ⟨answer, h⟩
  · rintro ⟨answer, h⟩
    by_cases hjson : ∃ c ∈ answers, Gives status c ∧ HasJson c
    · obtain ⟨c, hc⟩ := exists_first_iff.2 hjson
      exact ⟨c, .json hc⟩
    · exact ⟨answer, .other (fun c hc hg hj => hjson ⟨c, hc, hg, hj⟩) h⟩

theorem Best.gives {answer : ResponseCase} (h : Best status answers answer) : Gives status answer := by
  rcases h with h | ⟨-, h⟩
  exacts [h.prop.1, h.prop]

theorem bodyFor?_eq_some_iff :
    bodyFor? answers status = some body ↔
      ∃ answer, Best status answers answer ∧ answer.body = some body := by
  rw [bodyFor?, Option.bind_eq_some_iff]
  exact exists_congr fun answer => and_congr_left fun _ => best_iff

theorem bodyFor?_eq_none_iff : bodyFor? answers status = none ↔ ∀ c ∈ answers, ¬ Gives status c := by
  rw [Option.eq_none_iff_forall_ne_some, ← not_iff_not]
  push Not
  rw [← exists_best_iff]
  simp only [bodyFor?_eq_some_iff]
  constructor
  · rintro ⟨body, answer, h, -⟩
    exact ⟨answer, h⟩
  · rintro ⟨answer, h⟩
    obtain ⟨body, hbody⟩ := Option.isSome_iff_exists.1 h.gives.2
    exact ⟨body, answer, h, hbody⟩

/-- **Which body is picked.** -/
theorem successBody?_eq_some_iff : successBody? answers = some body ↔ SuccessBody answers body := by
  rw [successBody?, List.findSome?_eq_some_iff]
  simp only [bodyFor?_eq_some_iff, bodyFor?_eq_none_iff]
  constructor
  · rintro ⟨before, status, after, hs, ⟨answer, hbest, hbody⟩, hbefore⟩
    refine ⟨status, answer, ⟨before, after, hs, exists_best_iff.1 ⟨answer, hbest⟩, ?_⟩, hbest, hbody⟩
    simpa using hbefore
  · rintro ⟨status, answer, ⟨before, after, hs, -, hbefore⟩, hbest, hbody⟩
    exact ⟨before, status, after, hs, ⟨answer, hbest, hbody⟩, by simpa using hbefore⟩

/-! ### The properties of a page -/

/-- The properties that the body of a page has. -/
inductive PageProperties (r : Resolver) (body : OrRef Schema) : List (String × OrRef Schema) → Prop
  /-- Those of an object. -/
  | object {s : Schema} (hs : r.Denotes body s) (hk : Kind.ofSchema s = .object) :
    PageProperties r body s.properties
  /-- Those of the merged shape of a composition. -/
  | composition {s : Schema} {branches : List (OrRef Schema)} {shape : Shape} (hs : r.Denotes body s)
    (hk : Kind.ofSchema s = .composition branches) (hm : Composition.merge r s = .ok shape) :
    PageProperties r body shape.properties

variable {properties : List (String × OrRef Schema)}

theorem properties?_eq_some_iff :
    properties? r body = some properties ↔ PageProperties r body properties := by
  constructor
  · intro h
    rw [properties?] at h
    split at h
    · cases h
    rename_i s hs
    have hdenotes := Resolver.schema_eq_ok_iff.1 hs
    split at h
    · rename_i hk
      obtain rfl := Option.some.inj h
      exact .object hdenotes hk
    · rename_i branches hk
      obtain ⟨shape, hshape, rfl⟩ := Option.map_eq_some_iff.1 h
      exact .composition hdenotes hk (toOption_eq_some_iff.1 hshape)
    · cases h
  · rintro (⟨hs, hk⟩ | ⟨hs, hk, hm⟩)
    · rw [properties?, Resolver.schema_eq_ok_iff.2 hs]
      simp only [hk]
    · rw [properties?, Resolver.schema_eq_ok_iff.2 hs]
      simp only [hk, toOption_eq_some_iff.2 hm, Option.map_some]

/-! ### The list and the cursor -/

/-- A property is a list, itself or by reference. -/
def ListValued (r : Resolver) (property : OrRef Schema) : Prop :=
  ∃ s, r.Denotes property s ∧ s.isArray = true

/-- A name is that of a cursor. -/
def NamesCursor (rules : PagingRules) (name : String) : Prop :=
  String.ofList (Text.snake name.toList) ∈ rules.cursorFields

/-- A property of a name is a list. -/
def HasList (r : Resolver) (properties : List (String × OrRef Schema)) (name : String) : Prop :=
  ∃ s, Entries.find? name properties = some s ∧ ListValued r s

/-- The property that holds the items: the first list of a known name, or the first list of all. -/
inductive HoldsItems (rules : PagingRules) (r : Resolver) (properties : List (String × OrRef Schema))
    (name : String) : Prop
  | known (h : First (HasList r properties) rules.itemsFields name)
  | other {s : OrRef Schema} (hno : ∀ known ∈ rules.itemsFields, ¬ HasList r properties known)
    (h : First (fun e => ListValued r e.2) properties (name, s))

/-- The property that holds the cursor: the first with the name of one. -/
def HoldsCursor (rules : PagingRules) (properties : List (String × OrRef Schema)) (name : String) :
    Prop :=
  First (NamesCursor rules) (Entries.keys properties) name

variable {name cursor items : String}

theorem isList_iff (s : OrRef Schema) : isList r s = true ↔ ListValued r s := by
  rw [isList, Option.any_eq_true]
  simp only [toOption_eq_some_iff, Resolver.schema_eq_ok_iff]
  exact Iff.rfl

theorem any_isList_iff (name : String) :
    (Entries.find? name properties).any (isList r) = true ↔ HasList r properties name := by
  rw [Option.any_eq_true]
  simp only [isList_iff]
  exact Iff.rfl

theorem itemsField?_eq_some_iff :
    itemsField? rules r properties = some name ↔ HoldsItems rules r properties name := by
  have hlist : ∀ e : String × OrRef Schema, isList r e.2 = true ↔ ListValued r e.2 :=
    fun e => isList_iff e.2
  rw [itemsField?, Option.orElse_eq_some, find?_eq_some_iff_first any_isList_iff,
    List.find?_eq_none, Option.map_eq_some_iff]
  simp only [any_isList_iff, find?_eq_some_iff_first hlist]
  constructor
  · rintro (h | ⟨hno, ⟨_, s⟩, h, rfl⟩)
    · exact .known h
    · exact .other hno h
  · rintro (h | ⟨hno, h⟩)
    · exact .inl h
    · exact .inr ⟨hno, _, h, rfl⟩

theorem cursorField?_eq_some_iff :
    cursorField? rules properties = some name ↔ HoldsCursor rules properties name :=
  find?_eq_some_iff_first fun _ => List.contains_iff_mem

/-- There are items exactly if some property is a list. -/
theorem exists_holdsItems_iff :
    (∃ name, HoldsItems rules r properties name) ↔ ∃ e ∈ properties, ListValued r e.2 := by
  constructor
  · rintro ⟨name, h | ⟨-, h⟩⟩
    · obtain ⟨s, hs, hl⟩ := h.prop
      exact ⟨_, Entries.mem_of_find? hs, hl⟩
    · exact ⟨_, h.mem, h.prop⟩
  · intro hlist
    by_cases hknown : ∃ known ∈ rules.itemsFields, HasList r properties known
    · obtain ⟨name, h⟩ := exists_first_iff.2 hknown
      exact ⟨name, .known h⟩
    · obtain ⟨⟨name, s⟩, h⟩ := exists_first_iff.2 hlist
      exact ⟨name, .other (fun known hk h => hknown ⟨known, hk, h⟩) h⟩

theorem HoldsItems.mem (h : HoldsItems rules r properties name) : name ∈ Entries.keys properties := by
  rcases h with h | ⟨-, h⟩
  · obtain ⟨s, hs, -⟩ := h.prop
    exact Entries.mem_keys_of_find? hs
  · exact Entries.mem_keys_of_mem h.mem

theorem HoldsItems.eq {name' : String} (h : HoldsItems rules r properties name)
    (h' : HoldsItems rules r properties name') : name = name' := by
  rw [← itemsField?_eq_some_iff] at h h'
  exact Option.some.inj (h.symm.trans h')

/-- The property that holds the items is a list. -/
theorem HoldsItems.listValued (h : HoldsItems rules r properties name) :
    ∃ s, (name, s) ∈ properties ∧ ListValued r s := by
  rcases h with h | ⟨-, h⟩
  · obtain ⟨s, hs, hl⟩ := h.prop
    exact ⟨s, Entries.mem_of_find? hs, hl⟩
  · exact ⟨_, h.mem, h.prop⟩

/-! ### The classification -/

/-- The success body of an endpoint has some properties. -/
def HasPage (r : Resolver) (e : Endpoint) (properties : List (String × OrRef Schema)) : Prop :=
  ∃ body, SuccessBody e.responses body ∧ PageProperties r body properties

/-- A hint says what the rules say about an endpoint. -/
structure Classifies (rules : PagingRules) (r : Resolver) (e : Endpoint) (hint : PagingHint) :
    Prop where
  /-- It is about the endpoint. -/
  operation : hint.operation = e.canonicalName
  /-- It is paged if it fetches a collection, and its body has a list and a cursor. -/
  paged_iff : hint.paged = true ↔ FetchesCollection rules e ∧ ∃ properties, HasPage r e properties ∧
    (∃ p ∈ properties, ListValued r p.2) ∧ ∃ name ∈ Entries.keys properties, NamesCursor rules name
  /-- If it is paged, the fields are those that hold the cursor and the items. -/
  fields : hint.paged = true → ∀ properties, HasPage r e properties →
    ∃ cursor items, hint.cursor = some cursor ∧ hint.items = some items ∧
      HoldsCursor rules properties cursor ∧ HoldsItems rules r properties items
  /-- Otherwise there are no fields. -/
  none : hint.paged = false → hint.cursor = .none ∧ hint.items = .none

/-- The page that an endpoint is found to have. -/
def pageOf? (rules : PagingRules) (r : Resolver) (e : Endpoint) : Option (String × String) :=
  if rules.allowsMethod e.method && rules.isCollection e.canonicalName e.path then
    (successBody? e.responses).bind (rules.page? r)
  else .none

theorem infer_eq (rules : PagingRules) (r : Resolver) (e : Endpoint) :
    rules.infer r e = ⟨e.canonicalName, (rules.pageOf? r e).isSome, (rules.pageOf? r e).map (·.1),
      (rules.pageOf? r e).map (·.2)⟩ := by
  rw [infer, ← pageOf?]
  rcases rules.pageOf? r e with _ | ⟨cursor, items⟩ <;> rfl

theorem page?_eq_some_iff :
    rules.page? r body = some (cursor, items) ↔ ∃ properties, PageProperties r body properties ∧
      HoldsCursor rules properties cursor ∧ HoldsItems rules r properties items := by
  simp only [page?, Option.bind_eq_bind, Option.bind_eq_some_iff, Option.pure_def, Option.some.injEq,
    Prod.mk.injEq, properties?_eq_some_iff, itemsField?_eq_some_iff, cursorField?_eq_some_iff]
  constructor
  · rintro ⟨properties, hp, items, hi, cursor, hc, rfl, rfl⟩
    exact ⟨properties, hp, hc, hi⟩
  · rintro ⟨properties, hp, hc, hi⟩
    exact ⟨properties, hp, items, hi, cursor, hc, rfl, rfl⟩

theorem pageOf?_eq_some_iff :
    rules.pageOf? r e = some (cursor, items) ↔ FetchesCollection rules e ∧
      ∃ properties, HasPage r e properties ∧ HoldsCursor rules properties cursor ∧
        HoldsItems rules r properties items := by
  rw [pageOf?, Option.ite_none_right_eq_some, fetchesCollection_iff, Option.bind_eq_some_iff]
  simp only [successBody?_eq_some_iff, page?_eq_some_iff]
  refine and_congr_right fun _ => ⟨?_, ?_⟩
  · rintro ⟨body, hb, properties, hp, h⟩
    exact ⟨properties, ⟨body, hb, hp⟩, h⟩
  · rintro ⟨properties, ⟨body, hb, hp⟩, h⟩
    exact ⟨body, hb, properties, hp, h⟩

theorem HasPage.eq {properties' : List (String × OrRef Schema)} (h : HasPage r e properties)
    (h' : HasPage r e properties') : properties = properties' := by
  obtain ⟨body, hb, hp⟩ := h
  obtain ⟨body', hb', hp'⟩ := h'
  rw [← successBody?_eq_some_iff] at hb hb'
  obtain rfl := Option.some.inj (hb.symm.trans hb')
  rw [← properties?_eq_some_iff] at hp hp'
  exact Option.some.inj (hp.symm.trans hp')

theorem classifies_infer (rules : PagingRules) (r : Resolver) (e : Endpoint) :
    Classifies rules r e (rules.infer r e) := by
  rw [infer_eq]
  constructor
  case operation => rfl
  case paged_iff =>
    rw [Option.isSome_iff_exists, Prod.exists]
    simp only [pageOf?_eq_some_iff]
    constructor
    · rintro ⟨cursor, items, hf, properties, hp, hc, hi⟩
      exact ⟨hf, properties, hp, exists_holdsItems_iff.1 ⟨items, hi⟩, cursor, hc.mem, hc.prop⟩
    · rintro ⟨hf, properties, hp, hlist, hcursor⟩
      obtain ⟨cursor, hc⟩ := exists_first_iff.2 hcursor
      obtain ⟨items, hi⟩ := exists_holdsItems_iff.2 hlist
      exact ⟨cursor, items, hf, properties, hp, hc, hi⟩
  case fields =>
    intro hpaged properties' hp'
    obtain ⟨⟨cursor, items⟩, h⟩ := Option.isSome_iff_exists.1 hpaged
    obtain ⟨-, properties, hp, hc, hi⟩ := pageOf?_eq_some_iff.1 h
    obtain rfl := hp.eq hp'
    simp only [h, Option.map_some]
    exact ⟨cursor, items, rfl, rfl, hc, hi⟩
  case none =>
    intro hno
    rw [Option.isSome_eq_false_iff, Option.isNone_iff_eq_none] at hno
    simp [hno]

/-! ### Bodies that present the same schema -/

/-- A composition of one branch that has nothing of its own to add to the properties. -/
structure Wraps (w : Schema) (branch : OrRef Schema) : Prop where
  /-- It has no other branch. -/
  allOf : w.allOf = [branch]
  /-- It is no union. -/
  oneOf : w.oneOf = []
  /-- It is no union. -/
  anyOf : w.anyOf = []
  /-- It has no properties of its own. -/
  properties : w.properties = []

/-- A body presents a schema: it denotes the schema, or it denotes a composition that only wraps an
object. -/
inductive Presents (r : Resolver) (s : Schema) (body : OrRef Schema) : Prop
  | plain (h : r.Denotes body s)
  | wrapped {w : Schema} {branch : OrRef Schema} (hk : Kind.ofSchema s = .object)
    (hd : (Entries.keys s.properties).Nodup) (hw : r.Denotes body w) (hwrap : Wraps w branch)
    (h : r.Denotes branch s)

variable {s w : Schema} {branch body' : OrRef Schema}

theorem Wraps.kind (h : Wraps w branch) : Kind.ofSchema w = .composition [branch] := by
  rw [Kind.ofSchema_of_allOf h.oneOf h.anyOf (by simp [h.allOf]), h.allOf]

theorem ofSchema_of_no_union (r : Resolver) (h1 : s.oneOf = []) (h2 : s.anyOf = []) :
    VariantSet.ofSchema r s = .ok none := by
  rw [VariantSet.ofSchema]
  split
  · rename_i kind branches hk
    exact absurd hk (Kind.ofSchema_ne_union h1 h2)
  · rfl

/-- What an object adds to a shape is its own properties and the names that it requires. -/
theorem mergeSchema_of_object (hk : Kind.ofSchema s = .object) (desc : Composition.Descend)
    (way : List String) (shape : Shape) :
    Composition.mergeSchema r desc way s shape =
      .ok ((shape.addProperties s.properties).addRequired s.required) := by
  obtain ⟨h1, h2, h3⟩ := Kind.branches_of_object hk
  rw [Composition.mergeSchema_eq, h3]
  exact Composition.addOwn_eq_ok_iff.2 ⟨none, ofSchema_of_no_union r h1 h2, rfl⟩

/-- **What is wrapped keeps its properties.** -/
theorem Wraps.merge (hwrap : Wraps w branch) (hk : Kind.ofSchema s = .object)
    (hd : (Entries.keys s.properties).Nodup) (h : r.Denotes branch s) :
    ∃ shape, Composition.merge r w = .ok shape ∧ shape.properties = s.properties := by
  have hown : ∀ shape : Shape, shape.addOwn r w = .ok (shape.addRequired w.required) := by
    intro shape
    refine Composition.addOwn_eq_ok_iff.2 ⟨none, ofSchema_of_no_union r hwrap.oneOf hwrap.anyOf, ?_⟩
    rw [hwrap.properties]
    rfl
  let inner : Shape := (({} : Shape).addProperties s.properties).addRequired s.required
  have hbranch : Composition.mergeBranch r (Composition.descend r (Composition.maxDepth r w)) []
      branch {} = .ok inner := by
    cases h with
    | inline => exact mergeSchema_of_object hk _ _ _
    | ref hp =>
      -- the pointer of the branch is counted among those of the composition
      have hdepth : Composition.maxDepth r w = (Composition.tablePointers r.schemas).length + 1 := by
        rw [Composition.maxDepth, Composition.pointers_eq, hwrap.allOf, Nat.add_comm]
        rfl
      rw [hdepth, Composition.mergeBranch_ref_eq List.not_mem_nil, Resolver.schemaAt,
        follow_eq_ok_iff.2 hp]
      exact mergeSchema_of_object hk _ _ _
  have hwhole : Composition.mergeSchema r (Composition.descend r (Composition.maxDepth r w)) [] w {} =
      .ok (inner.addRequired w.required) := by
    rw [Composition.mergeSchema_eq, hwrap.allOf, Composition.mergeBranches, hbranch]
    exact hown inner
  exact ⟨_, map_eq_ok_iff.2 ⟨_, hwhole, rfl⟩, Entries.ofPairs_eq_self hd⟩

/-- Bodies that present the same schema have the same properties. -/
theorem properties?_of_presents (h : Presents r s body) :
    properties? r body = properties? r (.inline s) := by
  cases h with
  | plain h => rw [properties?, Resolver.schema_eq_ok_iff.2 h, properties?, Resolver.schema,
      OrRef.deref]
  | wrapped hk hd hw hwrap h =>
    obtain ⟨shape, hm, hp⟩ := hwrap.merge hk hd h
    have hbody := PageProperties.composition hw hwrap.kind hm
    have hinline := PageProperties.object (r := r) .inline hk
    rw [properties?_eq_some_iff.2 hbody, properties?_eq_some_iff.2 hinline, hp]

/-- **How paging is inferred**: the hint says what the rules say, and of the body of a successful
response only the schema counts that it presents. -/
theorem infer_classifies (rules : PagingRules) (r : Resolver) (e : Endpoint) :
    Classifies rules r e (rules.infer r e) ∧
      ∀ answers body body' s, SuccessBody e.responses body → SuccessBody answers body' →
        Presents r s body → Presents r s body' →
          rules.infer r { e with responses := answers } = rules.infer r e := by
  refine ⟨classifies_infer rules r e, ?_⟩
  intro answers body body' s hbody hbody' h h'
  have hproperties : properties? r body' = properties? r body :=
    (properties?_of_presents h').trans (properties?_of_presents h).symm
  have hpage : rules.page? r body' = rules.page? r body := by
    rw [page?, page?, hproperties]
  have hpages : rules.pageOf? r { e with responses := answers } = rules.pageOf? r e := by
    rw [pageOf?, pageOf?, successBody?_eq_some_iff.2 hbody, successBody?_eq_some_iff.2 hbody',
      Option.bind_some, Option.bind_some, hpage]
    rfl
  rw [infer_eq, infer_eq, hpages]
  rfl

/-- An endpoint that answers with a body. -/
def events (body : OrRef Schema) : Endpoint where
  method := .get
  path := "/events"
  tag := "events"
  name := .ofText "getEvents"
  responses := [{ status := "200", contentType := some "application/json", body := some body }]

theorem successBody_events (body : OrRef Schema) : SuccessBody (events body).responses body := by
  let answer : ResponseCase :=
    { status := "200", contentType := some "application/json", body := some body }
  have hstatus : agree "200" "200" = true := by simp [agree]
  have hgives : Gives "200" answer := ⟨hstatus, rfl⟩
  have hjson : HasJson answer := ⟨_, rfl, "application/".toList, [], by decide⟩
  exact ⟨"200", answer, ⟨[], _, rfl, ⟨answer, List.mem_singleton_self _, hgives⟩, by simp⟩,
    .json ⟨[], [], rfl, ⟨hgives, hjson⟩, by simp⟩, rfl⟩

/-- A list and a cursor side by side. -/
def eventPage : Schema where
  type := some (.single .object)
  properties :=
    [("events", .inline { type := some (.single .array) }),
      ("next", .inline { type := some (.single .string) })]

/-- A document that declares the page. -/
def pages : Resolver where
  schemas := [("Page", .inline eventPage)]

theorem infer_classifies_events :
    infer {} pages (events (.inline eventPage)) = ⟨"getEvents", true, some "next", some "events"⟩ ∧
      infer {} pages (events (.inline { allOf := [Schema.reference "Page"] })) =
        infer {} pages (events (.inline eventPage)) := by
  have hpage : pages.Denotes (Schema.reference "Page") eventPage := by
    rw [← Resolver.schema_eq_ok_iff]
    rfl
  have h := infer_classifies {} pages (events (.inline eventPage))
  refine ⟨by decide +kernel, h.2 _ _ _ eventPage (successBody_events _) (successBody_events _)
    (.plain .inline) (.wrapped rfl (by decide) .inline ⟨rfl, rfl, rfl, rfl⟩ hpage)⟩

/-! ### The list beside the cursor -/

/-- A hint names two properties, one for the cursor and one for the items. -/
structure Fields (properties : List (String × OrRef Schema)) (hint : PagingHint)
    (cursor items : String) : Prop where
  /-- The one for the cursor. -/
  cursor_eq : hint.cursor = some cursor
  /-- The one for the items. -/
  items_eq : hint.items = some items
  /-- It is a property. -/
  cursor_mem : cursor ∈ Entries.keys properties
  /-- It is a property. -/
  items_mem : items ∈ Entries.keys properties

/-- **The cursor is not the list of items** of a page exactly if the first property with the name of
a cursor is not the list that is taken for the items, so always if no list has such a name. -/
theorem infer_apart (rules : PagingRules) (r : Resolver) (e : Endpoint)
    (h : (rules.infer r e).paged = true) :
    ∃ properties cursor items, HasPage r e properties ∧
      Fields properties (rules.infer r e) cursor items ∧
      (cursor ≠ items ↔ ¬ HoldsItems rules r properties cursor) ∧
      ((∀ p ∈ properties, ListValued r p.2 → ¬ NamesCursor rules p.1) → cursor ≠ items) := by
  have hint := classifies_infer rules r e
  obtain ⟨-, properties, hp, -⟩ := hint.paged_iff.1 h
  obtain ⟨cursor, items, hcursor, hitems, hc, hi⟩ := hint.fields h properties hp
  refine ⟨properties, cursor, items, hp, ⟨hcursor, hitems, hc.mem, hi.mem⟩, ?_, ?_⟩
  · rw [not_iff_not]
    constructor
    · rintro rfl
      exact hi
    · exact fun hi' => hi'.eq hi
  · rintro hno rfl
    obtain ⟨s, hs, hl⟩ := hi.listValued
    exact hno _ hs hl hc.prop

theorem infer_apart_events :
    (infer {} {} (events (.inline eventPage))).paged = true ∧
      ∃ properties cursor items, HasPage {} (events (.inline eventPage)) properties ∧
        Fields properties (infer {} {} (events (.inline eventPage))) cursor items := by
  have hpaged : (infer {} {} (events (.inline eventPage))).paged = true := by decide +kernel
  obtain ⟨properties, cursor, items, hp, hf, -⟩ := infer_apart {} {} _ hpaged
  exact ⟨hpaged, properties, cursor, items, hp, hf⟩

/-- A list that has the name of a cursor, and nothing beside it. -/
def cursorPage : Schema where
  type := some (.single .object)
  properties := [("next", .inline { type := some (.single .array) })]

/-- **One property is taken for both**, so there are not two of them. -/
theorem not_apart_events :
    (infer {} {} (events (.inline cursorPage))).paged = true ∧
      ¬ ∃ cursor items, (infer {} {} (events (.inline cursorPage))).cursor = some cursor ∧
        (infer {} {} (events (.inline cursorPage))).items = some items ∧ cursor ≠ items := by
  have hint : infer {} {} (events (.inline cursorPage)) =
      ⟨"getEvents", true, some "next", some "next"⟩ := by decide +kernel
  rw [hint]
  refine ⟨rfl, ?_⟩
  rintro ⟨cursor, items, hc, hi, hne⟩
  exact hne (Option.some.inj (hc.symm.trans hi))

end PagingRules

end ApiModel
