import ApiModel.Proofs.Follow
import ApiModel.Proofs.Pointwise
import ApiModel.Proofs.Schemas.Kind
import ApiModel.Proofs.Schemas.Meaning

/-!
# Tags of variants

A mapping decides the tag of a reference: it is the key of the first entry that names the same schema.
Without such an entry the tag is the title of the schema, or else its name (`Discriminator.Tags`).

What the tags are computed from are the texts, though: a target of the mapping is compared with the
text of the reference and with the part of it that writes the name (`Discriminator.Spelled`).  Both
give the same tags exactly when this makes no difference for any reference (`Discriminator.Agrees`),
so always for schemas whose names need no escapes (`VariantSet.ofSchema_tags`); and a schema `a/b` is
not given the tag that the mapping has for it (`VariantSet.not_tags_filed`).
-/

namespace ApiModel

namespace Discriminator

variable {d : Discriminator} {r : Resolver} {p name token target : String} {branch : OrRef Schema}
  {tag tag' : Option String} {s : Schema}

/-! ### The tags that a discriminator should give -/

/-- The first entry of the mapping whose target names a schema. -/
def FirstNames (d : Discriminator) (name : String) (key : String) : Prop :=
  ∃ target, First (fun e => Pointer.Names .mapping e.2 name) d.mapping (key, target)

/-- No target of the mapping names a schema. -/
def NoneNames (d : Discriminator) (name : String) : Prop :=
  ∀ e ∈ d.mapping, ¬ Pointer.Names .mapping e.2 name

/-- The tag of a branch. -/
inductive Tags (d : Discriminator) (r : Resolver) : OrRef Schema → Option String → Prop
  /-- The mapping names the schema of the reference. -/
  | mapped {p name key : String} (hp : Pointer.target? p = some (.schemas, name))
    (hkey : d.FirstNames name key) : Tags d r (.ref p) (some key)
  /-- It does not, so the title counts, or else the name. -/
  | named {p name : String} {s : Schema} (hp : Pointer.target? p = some (.schemas, name))
    (hno : d.NoneNames name) (hs : r.Denotes (.ref p) s) : Tags d r (.ref p) (some (s.title.getD name))
  /-- A schema that stands there itself has no name but its title. -/
  | inline {s : Schema} : Tags d r (.inline s) s.title

theorem FirstNames.eq {key key' : String} (h : d.FirstNames name key) (h' : d.FirstNames name key') :
    key = key' := by
  obtain ⟨_, h⟩ := h
  obtain ⟨_, h'⟩ := h'
  exact congrArg Prod.fst (h.eq h')

theorem FirstNames.not_noneNames {key : String} (h : d.FirstNames name key) : ¬ d.NoneNames name := by
  obtain ⟨target, h⟩ := h
  exact fun hno => hno _ h.mem h.prop

theorem Tags.eq (h : Tags d r branch tag) (h' : Tags d r branch tag') : tag = tag' := by
  cases h with
  | inline =>
    cases h'
    rfl
  | mapped hp hkey =>
    cases h' with
    | mapped hp' hkey' =>
      cases hp.symm.trans hp'
      rw [hkey.eq hkey']
    | named hp' hno _ =>
      cases hp.symm.trans hp'
      exact absurd hno hkey.not_noneNames
  | named hp hno hs =>
    cases h' with
    | mapped hp' hkey =>
      cases hp.symm.trans hp'
      exact absurd hno hkey.not_noneNames
    | named hp' _ hs' =>
      cases hp.symm.trans hp'
      rw [hs.eq hs']

/-! ### The tags that come from the texts -/

/-- A target gives the text of a reference, or the part of it that writes the name. -/
def Spells (p target : String) : Prop :=
  target = p ∨ target.startsWith "#" = false ∧ p = Schema.pointerPrefix ++ target

/-- The first entry of the mapping whose target spells a reference. -/
def FirstSpells (d : Discriminator) (p : String) (key : String) : Prop :=
  ∃ target, First (fun e => Spells p e.2) d.mapping (key, target)

/-- No target of the mapping spells a reference. -/
def NoneSpells (d : Discriminator) (p : String) : Prop :=
  ∀ e ∈ d.mapping, ¬ Spells p e.2

/-- The tag of a branch by its text. -/
inductive Spelled (d : Discriminator) (r : Resolver) : OrRef Schema → Option String → Prop
  /-- The mapping spells the reference. -/
  | mapped {p key : String} (hkey : d.FirstSpells p key) : Spelled d r (.ref p) (some key)
  /-- It does not, so the title counts, or else the rest of the text. -/
  | named {p token : String} {s : Schema} (hp : p = Schema.pointerPrefix ++ token)
    (hno : d.NoneSpells p) (hs : r.Denotes (.ref p) s) :
    Spelled d r (.ref p) (some (s.title.getD token))
  /-- A schema that stands there itself has no name but its title. -/
  | inline {s : Schema} : Spelled d r (.inline s) s.title

theorem schemaName?_eq_some_iff :
    (OrRef.ref p).schemaName? = some token ↔ p = Schema.pointerPrefix ++ token := by
  rw [OrRef.schemaName?, OrRef.pointer?, Option.bind_some, Option.ite_none_right_eq_some,
    String.startsWith_string_iff]
  constructor
  · rintro ⟨⟨rest, hrest⟩, h⟩
    rw [← hrest, ← String.length_toList, List.drop_left] at h
    rw [← String.toList_inj, ← hrest, String.toList_append, ← Option.some.inj h, String.toList_ofList]
  · rintro rfl
    rw [String.toList_append]
    refine ⟨⟨_, rfl⟩, ?_⟩
    rw [← String.length_toList, List.drop_left, String.ofList_toList]

theorem targets_iff : targets p (OrRef.ref p).schemaName? target = true ↔ Spells p target := by
  rw [targets, Bool.or_eq_true, beq_iff_eq, Bool.and_eq_true, Bool.not_eq_true', beq_iff_eq,
    eq_comm (a := some target), schemaName?_eq_some_iff, Spells]

theorem mappedTag?_eq_some_iff {key : String} :
    d.mappedTag? (.ref p) = some key ↔ d.FirstSpells p key := by
  have htargets : ∀ e : String × String,
      targets p (OrRef.ref p).schemaName? e.2 = true ↔ Spells p e.2 := fun e => targets_iff
  rw [mappedTag?, OrRef.pointer?, Option.bind_some, Option.map_eq_some_iff]
  simp only [find?_eq_some_iff_first htargets]
  constructor
  · rintro ⟨⟨_, target⟩, h, rfl⟩
    exact ⟨target, h⟩
  · rintro ⟨target, h⟩
    exact ⟨_, h, rfl⟩

theorem mappedTag?_eq_none_iff : d.mappedTag? (.ref p) = none ↔ d.NoneSpells p := by
  rw [mappedTag?, OrRef.pointer?, Option.bind_some, Option.map_eq_none_iff, List.find?_eq_none]
  exact forall₂_congr fun e _ => not_congr targets_iff

theorem exists_token_of_denotes (h : r.Denotes (.ref p) s) :
    ∃ name token, Pointer.target? p = some (.schemas, name) ∧ p = Schema.pointerPrefix ++ token := by
  obtain ⟨name, -, hp⟩ : ∃ name ∈ Entries.keys r.schemas,
      Pointer.target? p = some (.schemas, name) := by
    cases h with
    | ref h => exact h.exists_target?
  obtain ⟨rest, hrest, -⟩ := Pointer.exists_afterPrefix?_of_target? hp
  exact ⟨name, _, hp, Pointer.eq_reference_of_afterPrefix? hrest⟩

theorem orElse_some (title : Option String) (token : String) :
    (title <|> some token) = some (title.getD token) := by
  cases title <;> rfl

/-- **The computed tag** is the one by the text. -/
theorem tagOf_eq_ok_iff : d.tagOf r branch = .ok tag ↔ Spelled d r branch tag := by
  cases branch with
  | inline s =>
    have htag : d.tagOf r (.inline s) = .ok s.title := by
      simp [tagOf, mappedTag?, OrRef.pointer?, OrRef.schemaName?, Resolver.schema, OrRef.deref,
        Except.map]
    rw [htag]
    constructor
    · rintro ⟨⟩
      exact .inline
    · rintro ⟨⟩
      rfl
  | ref p =>
    rw [tagOf]
    rcases hm : d.mappedTag? (.ref p) with _ | key
    · -- no entry of the mapping spells it, so the title or the name decides
      have hno := mappedTag?_eq_none_iff.1 hm
      simp only [map_eq_ok_iff, Resolver.schema_eq_ok_iff]
      constructor
      · rintro ⟨s, hs, rfl⟩
        obtain ⟨-, token, -, hp⟩ := exists_token_of_denotes hs
        rw [schemaName?_eq_some_iff.2 hp, orElse_some]
        exact .named hp hno hs
      · rintro (⟨target, ht⟩ | ⟨hp, -, hs⟩)
        · exact absurd ht.prop (hno _ ht.mem)
        · exact ⟨_, hs, by rw [schemaName?_eq_some_iff.2 hp, orElse_some]⟩
    · constructor
      · rintro ⟨⟩
        exact .mapped (mappedTag?_eq_some_iff.1 hm)
      · rintro (hkey | ⟨-, hno, -⟩)
        · rw [mappedTag?_eq_some_iff.2 hkey] at hm
          rw [Option.some.inj hm]
        · rw [mappedTag?_eq_none_iff.2 hno] at hm
          cases hm

theorem Spelled.eq (h : Spelled d r branch tag) (h' : Spelled d r branch tag') : tag = tag' := by
  rw [← tagOf_eq_ok_iff] at h h'
  exact Except.ok.inj (h.symm.trans h')

theorem exists_spelled (h : r.Denotes branch s) : ∃ tag, Spelled d r branch tag := by
  cases branch with
  | inline s => exact ⟨_, .inline⟩
  | ref p =>
    rcases hm : d.mappedTag? (.ref p) with _ | key
    · obtain ⟨-, token, -, hp⟩ := exists_token_of_denotes h
      exact ⟨_, .named hp (mappedTag?_eq_none_iff.1 hm) h⟩
    · exact ⟨_, .mapped (mappedTag?_eq_some_iff.1 hm)⟩

/-! ### When the texts give the right tags -/

/-- The texts make no difference for a reference. -/
inductive Agrees (d : Discriminator) (r : Resolver) (p : String) : Prop
  /-- The first entry that spells it and the first that names its schema have the same key. -/
  | both {name key : String} (hp : Pointer.target? p = some (.schemas, name))
    (hspells : d.FirstSpells p key) (hnames : d.FirstNames name key)
  /-- There are no such entries, and the rest of its text is the name, unless there is a title. -/
  | neither {name token : String} {s : Schema} (hp : Pointer.target? p = some (.schemas, name))
    (htoken : p = Schema.pointerPrefix ++ token) (hspells : d.NoneSpells p)
    (hnames : d.NoneNames name) (hs : r.Denotes (.ref p) s) (htag : s.title = none → token = name)
  /-- It is spelled only, and by chance the key is the title or else the name. -/
  | spelled {name key : String} {s : Schema} (hp : Pointer.target? p = some (.schemas, name))
    (hspells : d.FirstSpells p key) (hnames : d.NoneNames name) (hs : r.Denotes (.ref p) s)
    (htag : key = s.title.getD name)
  /-- Its schema is named only, and by chance the key is the title or else the rest of the text. -/
  | named {name token key : String} {s : Schema} (hp : Pointer.target? p = some (.schemas, name))
    (htoken : p = Schema.pointerPrefix ++ token) (hspells : d.NoneSpells p)
    (hnames : d.FirstNames name key) (hs : r.Denotes (.ref p) s) (htag : key = s.title.getD token)

/-- **The computed tag is the right one exactly if the texts make no difference.** -/
theorem Spelled.tags_iff (h : Spelled d r (.ref p) tag) : Tags d r (.ref p) tag ↔ d.Agrees r p := by
  constructor
  · intro ht
    cases h with
    | mapped hspells =>
      -- the cases of the right tag need it as a variable
      generalize htag : some _ = tag at ht
      cases ht with
      | mapped hp hnames =>
        obtain rfl := Option.some.inj htag
        exact .both hp hspells hnames
      | named hp hnames hs => exact .spelled hp hspells hnames hs (Option.some.inj htag)
    | named htoken hspells hs =>
      generalize htag : some _ = tag at ht
      cases ht with
      | mapped hp hnames => exact .named hp htoken hspells hnames hs (Option.some.inj htag).symm
      | named hp hnames hs' =>
        obtain rfl := hs.eq hs'
        refine .neither hp htoken hspells hnames hs fun htitle => ?_
        simpa [htitle] using htag
  · intro ha
    cases ha with
    | both hp hspells hnames =>
      rw [h.eq (.mapped hspells)]
      exact .mapped hp hnames
    | @neither name token s hp htoken hspells hnames hs htag =>
      have hname : s.title.getD token = s.title.getD name := by
        rcases htitle : s.title with _ | title
        · simp [htag htitle]
        · rfl
      rw [h.eq (.named htoken hspells hs), hname]
      exact .named hp hnames hs
    | spelled hp hspells hnames hs htag =>
      rw [h.eq (.mapped hspells), htag]
      exact .named hp hnames hs
    | named hp htoken hspells hnames hs htag =>
      rw [h.eq (.named htoken hspells hs), ← htag]
      exact .mapped hp hnames

/-- A name that needs no escapes is spelled where it is named, and nowhere else. -/
theorem spells_iff_names (hp : Pointer.target? p = some (.schemas, name))
    (htilde : '~' ∉ name.toList) (hslash : '/' ∉ name.toList) :
    Spells p target ↔ Pointer.Names .mapping target name := by
  have hname := Pointer.eq_reference_of_target? hp htilde hslash
  constructor
  · rintro (rfl | ⟨hb, hp'⟩)
    · exact .inl hp
    · rw [hname, String.append_right_inj] at hp'
      exact .inr ⟨rfl, hb, hp'.symm⟩
  · rintro (ht | ⟨-, hb, rfl⟩)
    · exact .inl ((Pointer.eq_reference_of_target? ht htilde hslash).trans hname.symm)
    · exact .inr ⟨hb, hname⟩

/-- **For a name that needs no escapes the texts make no difference.** -/
theorem agrees_of_unescaped (hs : r.Denotes (.ref p) s)
    (hp : Pointer.target? p = some (.schemas, name)) (htilde : '~' ∉ name.toList)
    (hslash : '/' ∉ name.toList) : d.Agrees r p := by
  have hpred : (fun e : String × String => Spells p e.2) =
      fun e => Pointer.Names .mapping e.2 name :=
    funext fun e => propext (spells_iff_names hp htilde hslash)
  rcases hm : d.mappedTag? (.ref p) with _ | key
  · have hspells := mappedTag?_eq_none_iff.1 hm
    refine .neither hp (Pointer.eq_reference_of_target? hp htilde hslash) hspells ?_ hs fun _ => rfl
    exact fun e he hn => hspells e he ((spells_iff_names hp htilde hslash).2 hn)
  · have hspells := mappedTag?_eq_some_iff.1 hm
    refine .both hp hspells ?_
    rwa [FirstSpells, hpred] at hspells

end Discriminator

/-! ### The variants of a union -/

namespace VariantSet

variable {r : Resolver} {d : Discriminator} {disc : Option Discriminator} {s : Schema}
  {kind : UnionKind} {branches : List (OrRef Schema)} {vs : List Variant} {v : Variant}
  {branch : OrRef Schema}

theorem variantsOf_eq_mapM (r : Resolver) (disc : Option Discriminator)
    (branches : List (OrRef Schema)) :
    variantsOf r disc branches = branches.mapM (variantOf r disc) := by
  induction branches with
  | nil => rfl
  | cons b bs ih => rw [variantsOf, List.mapM_cons, ih]

theorem variantOf_eq_ok_iff :
    variantOf r (some d) branch = .ok v ↔ v.schema = branch ∧ d.Spelled r branch v.tag := by
  rw [variantOf, map_eq_ok_iff]
  simp only [Discriminator.tagOf_eq_ok_iff]
  constructor
  · rintro ⟨tag, ht, rfl⟩
    exact ⟨rfl, ht⟩
  · rintro ⟨rfl, ht⟩
    exact ⟨v.tag, ht, rfl⟩

/-- **The variants of a discriminated union**: one for each branch, with its computed tag. -/
theorem ofSchema_eq_ok_iff {u : VariantSet} (hk : Kind.ofSchema s = .union kind branches)
    (hd : s.discriminator = some d) :
    ofSchema r s = .ok (some u) ↔ u.kind = kind ∧ u.property = some d.propertyName ∧
      List.Forall₂ (fun b v => v.schema = b ∧ d.Spelled r b v.tag) branches u.variants := by
  simp only [ofSchema, hk, hd, ofBranches, variantsOf_eq_mapM, map_eq_ok_iff, mapM_eq_ok_iff,
    variantOf_eq_ok_iff, Option.map_some, Option.some.injEq]
  constructor
  · rintro ⟨_, ⟨vs, hvs, rfl⟩, rfl⟩
    exact ⟨rfl, rfl, hvs⟩
  · rintro ⟨rfl, hproperty, hvs⟩
    exact ⟨u, ⟨u.variants, hvs, by rw [← hproperty]⟩, rfl⟩

/-- **The tags of a discriminated union** whose branches resolve: there is a variant for each branch,
each reference has a tag, and the tags are the right ones exactly if the texts make no difference,
so always if no name needs an escape. -/
theorem ofSchema_tags (hk : Kind.ofSchema s = .union kind branches) (hd : s.discriminator = some d)
    (hr : ∀ b ∈ branches, ∃ t, r.Denotes b t) :
    ∃ u, ofSchema r s = .ok (some u) ∧ u.variants.map (·.schema) = branches ∧
      (∀ v ∈ u.variants, v.schema.pointer?.isSome = true → v.tag.isSome = true) ∧
      ((∀ v ∈ u.variants, d.Tags r v.schema v.tag) ↔ ∀ p, .ref p ∈ branches → d.Agrees r p) ∧
      ((∀ p name, .ref p ∈ branches → Pointer.target? p = some (.schemas, name) →
          '~' ∉ name.toList ∧ '/' ∉ name.toList) →
        ∀ v ∈ u.variants, d.Tags r v.schema v.tag) := by
  have hvariants : ∀ b ∈ branches, ∃ v : Variant, v.schema = b ∧ d.Spelled r b v.tag := by
    intro b hb
    obtain ⟨t, ht⟩ := hr b hb
    obtain ⟨tag, htag⟩ := Discriminator.exists_spelled ht
    exact ⟨⟨tag, b⟩, rfl, htag⟩
  obtain ⟨vs, hvs⟩ := exists_forall₂ hvariants
  have hspelled : ∀ v ∈ vs, v.schema ∈ branches ∧ d.Spelled r v.schema v.tag := by
    intro v hv
    obtain ⟨b, hb, rfl, h⟩ := exists_of_mem_right hvs hv
    exact ⟨hb, h⟩
  have hiff : (∀ v ∈ vs, d.Tags r v.schema v.tag) ↔ ∀ p, .ref p ∈ branches → d.Agrees r p := by
    constructor
    · intro htags p hp
      obtain ⟨v, hv, hschema, h⟩ := exists_of_mem_left hvs hp
      exact h.tags_iff.1 (hschema ▸ htags v hv)
    · intro hagrees v hv
      obtain ⟨hb, h⟩ := hspelled v hv
      generalize v.schema = b at hb h
      cases b with
      | ref p => exact h.tags_iff.2 (hagrees p hb)
      | inline t =>
        rw [h.eq .inline]
        exact .inline
  refine ⟨⟨kind, some d.propertyName, vs⟩, (ofSchema_eq_ok_iff hk hd).2 ⟨rfl, rfl, hvs⟩, ?_, ?_,
    hiff, fun hplain => hiff.2 fun p hp => ?_⟩
  · have hsame : List.Forall₂ Eq branches (vs.map (·.schema)) :=
      List.forall₂_map_right_iff.2 (hvs.imp fun _ _ h => h.1.symm)
    rw [List.forall₂_eq_eq_eq] at hsame
    exact hsame.symm
  · rintro ⟨tag, b⟩ hv href
    obtain ⟨-, h⟩ := hspelled _ hv
    cases h with
    | mapped _ => rfl
    | named _ _ _ => rfl
    | inline => cases href
  · obtain ⟨t, ht⟩ := hr _ hp
    obtain ⟨name, -, htarget, -⟩ := Discriminator.exists_token_of_denotes ht
    obtain ⟨htilde, hslash⟩ := hplain p name hp htarget
    exact Discriminator.agrees_of_unescaped ht htarget htilde hslash

/-- Two kinds of animals, of which one is in the mapping by its bare name. -/
def animal : Schema where
  oneOf := [.ref "#/components/schemas/Cat", .ref "#/components/schemas/Dog"]
  discriminator := some { propertyName := "kind", mapping := [("meow", "Cat")] }

/-- A document that declares them. -/
def animals : Resolver where
  schemas := [("Cat", .inline {}), ("Dog", .inline {})]

theorem ofSchema_tags_animal :
    Kind.ofSchema animal = .union .oneOf animal.oneOf ∧
      (∀ b ∈ animal.oneOf, ∃ t, animals.Denotes b t) ∧
      ∃ u, ofSchema animals animal = .ok (some u) ∧ u.variants.map (·.schema) = animal.oneOf ∧
        ∀ v ∈ u.variants, v.schema.pointer?.isSome = true → v.tag.isSome = true := by
  have hr : ∀ b ∈ animal.oneOf, ∃ t, animals.Denotes b t := by
    simp only [← Resolver.schema_eq_ok_iff]
    exact List.forall_mem_cons.2 ⟨⟨{}, rfl⟩, List.forall_mem_singleton.2 ⟨{}, rfl⟩⟩
  obtain ⟨u, hu, hschemas, htags, -⟩ := ofSchema_tags (r := animals) (s := animal) rfl rfl hr
  exact ⟨rfl, hr, u, hu, hschemas, htags⟩

/-- A mapping with the bare name of a schema that references can only name by an escape. -/
def filing : Discriminator where
  propertyName := "kind"
  mapping := [("x", "a/b")]

/-- A union of that schema alone. -/
def filed : Schema where
  oneOf := [.ref "#/components/schemas/a~1b"]
  discriminator := some filing

/-- A document that declares the schema. -/
def cabinet : Resolver where
  schemas := [("a/b", .inline {})]

/-- **The mapping does not decide the tag**: the branch resolves to the schema that it names, but its
tag is the text of the reference. -/
theorem not_tags_filed :
    (∀ b ∈ filed.oneOf, ∃ t, cabinet.Denotes b t) ∧
      ofSchema cabinet filed =
        .ok (some ⟨.oneOf, some "kind", [⟨some "a~1b", .ref "#/components/schemas/a~1b"⟩]⟩) ∧
      filing.Tags cabinet (.ref "#/components/schemas/a~1b") (some "x") ∧
      ¬ filing.Tags cabinet (.ref "#/components/schemas/a~1b") (some "a~1b") := by
  have hp : Pointer.target? "#/components/schemas/a~1b" = some (.schemas, "a/b") := by decide +kernel
  have htags : filing.Tags cabinet (.ref "#/components/schemas/a~1b") (some "x") :=
    .mapped hp ⟨"a/b", [], [], rfl, .inr ⟨rfl, by decide +kernel, rfl⟩, by simp⟩
  refine ⟨?_, toOption_eq_some_iff.1 (by decide +kernel), htags,
    fun h => absurd (htags.eq h) (by decide)⟩
  simp only [← Resolver.schema_eq_ok_iff]
  exact List.forall_mem_singleton.2 ⟨{}, rfl⟩

end VariantSet

end ApiModel
