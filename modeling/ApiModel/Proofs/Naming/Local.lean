import ApiModel.Naming.Name
import ApiModel.Proofs.Text.Pieces

/-!
# Local names of operations

The name of an operation is made from the local part of its id, the last part between delimiters
from which a name can be made.  So a namespace in front of the id does not count, nor do delimiters
and blanks behind it; an id without delimiters is all local; and there is a name exactly when the id
has a letter or a number (`OperationId.namedLocally`).

The argument reads the name off as the first hit in the row of parts from the back
(`OperationId.lastName?`).  A delimiter cuts this row in two (`OperationId.lastName?_append`), and
any other character that is neither letter nor number only gets into a part without changing its
runs, so that the ends of an id, and trimming, do not count (`OperationId.ignoresEnds_lastName?`).
-/

namespace ApiModel

namespace OperationId

open Text

variable {c : Char} {s : List Char} {name : String}

/-! ### Parts -/

theorem mem_delimiters_iff : c ∈ ['.', ':', '/'] ↔ isDelimiter c = true := by
  simp [isDelimiter, or_assoc]

theorem isAlphanumeric_of_isDelimiter (hc : isDelimiter c = true) : isAlphanumeric c = false := by
  simp only [isDelimiter, Bool.or_eq_true, decide_eq_true_eq] at hc
  rcases hc with (rfl | rfl) | rfl <;> decide +kernel

/-- A part has a name exactly when it has a letter or a number. -/
theorem camel?_eq_none_iff : camel? s = none ↔ ∀ c ∈ s, isAlphanumeric c = false := by
  rw [← camel_eq_nil_iff, camel?]
  split
  · rename_i hs
    exact iff_of_true rfl hs
  · rename_i hs
    exact iff_of_false nofun hs

theorem camel?_eq_some_iff :
    camel? s = some name ↔ camel s ≠ [] ∧ name = String.ofList (camel s) := by
  rw [camel?]
  split
  · rename_i hs
    simp [hs]
  · rename_i hs
    rw [Option.some.injEq]
    exact ⟨fun h => ⟨hs, h.symm⟩, fun h => h.2.symm⟩

theorem camel?_congr {t : List Char} (h : camel s = camel t) : camel? s = camel? t := by
  rw [camel?, camel?, h]

theorem ignoresEnds_camel? : IgnoresEnds camel? where
  cons hc s := camel?_congr (ignoresEnds_camel.cons hc s)
  concat hc s := camel?_congr (ignoresEnds_camel.concat hc s)

/-! ### The row of parts -/

/-- The name of the last part that has one. -/
def lastName? (s : List Char) : Option String :=
  (split isDelimiter s).reverse.findSome? camel?

/-- The local part is the last one that has a name, for it is the last one with a letter or a
number. -/
theorem localName?_eq_lastName?_trim (id : String) :
    localName? id = lastName? (trim id.toList) := by
  rw [localName?, localPart?, lastName?]
  generalize (split isDelimiter (trim id.toList)).reverse = parts
  induction parts with
  | nil => rfl
  | cons part parts ih =>
    rw [List.find?_cons, List.findSome?_cons]
    cases hp : part.any isAlphanumeric with
    | true =>
      rcases hn : camel? part with _ | name
      · obtain ⟨c, hc, ha⟩ := List.any_eq_true.1 hp
        rw [camel?_eq_none_iff.1 hn c hc] at ha
        cases ha
      · exact hn
    | false =>
      have hn : camel? part = none := camel?_eq_none_iff.2 (by simpa using hp)
      rw [hn]
      exact ih

/-- **A delimiter cuts the row of parts in two**, and those behind it come first. -/
theorem lastName?_append (hc : isDelimiter c = true) (s t : List Char) :
    lastName? (s ++ c :: t) = (lastName? t).or (lastName? s) := by
  rw [lastName?, split_append_of_cut hc, List.reverse_append, List.findSome?_append]
  rfl

theorem ignoresEnds_lastName? : IgnoresEnds lastName? where
  cons {c} hc s := by
    cases hd : isDelimiter c with
    | true => exact (lastName?_append hd [] s).trans Option.or_none
    | false =>
      -- the character gets into the first part
      obtain ⟨first, others, hs⟩ := List.exists_cons_of_ne_nil (split_ne_nil isDelimiter s)
      rw [lastName?, lastName?, split_cons_of_not_cut hd hs, hs, List.reverse_cons,
        List.reverse_cons, List.findSome?_append, List.findSome?_append, List.findSome?_singleton,
        List.findSome?_singleton, ignoresEnds_camel?.cons hc]
  concat {c} hc s := by
    cases hd : isDelimiter c with
    | true => exact (lastName?_append hd s []).trans Option.none_or
    | false =>
      -- the character gets into the last part
      obtain ⟨parts, last, hs, hsc⟩ := exists_split_concat hd s
      rw [lastName?, lastName?, hs, hsc, List.reverse_append, List.reverse_append,
        List.reverse_singleton, List.reverse_singleton, List.singleton_append,
        List.singleton_append, List.findSome?_cons, List.findSome?_cons,
        ignoresEnds_camel?.concat hc]

theorem lastName?_eq_none_iff : lastName? s = none ↔ ∀ c ∈ s, isAlphanumeric c = false := by
  simp only [lastName?, List.findSome?_eq_none_iff, List.mem_reverse, camel?_eq_none_iff]
  constructor
  · intro h c hc
    cases hd : isDelimiter c with
    | true => exact isAlphanumeric_of_isDelimiter hd
    | false =>
      obtain ⟨part, hpart, hc⟩ := exists_mem_split_iff.2 ⟨hc, hd⟩
      exact h part hpart c hc
  · intro h part hpart c hc
    exact h c (mem_of_mem_split hpart hc).1

/-- Without a delimiter there is a single part. -/
theorem lastName?_of_no_delimiter (hs : ∀ c ∈ s, isDelimiter c = false) :
    lastName? s = camel? s := by
  rw [lastName?, split_of_not_cut hs, List.reverse_singleton, List.findSome?_singleton]

/-! ### Names of ids -/

variable {id : String}

theorem localName?_eq_lastName? (id : String) : localName? id = lastName? id.toList :=
  (localName?_eq_lastName?_trim id).trans (ignoresEnds_lastName?.trim _)

theorem exists_part_of_localName? (h : localName? id = some name) :
    ∃ part ∈ split isDelimiter id.toList, camel? part = some name := by
  rw [localName?_eq_lastName?, lastName?] at h
  obtain ⟨part, hpart, h⟩ := List.exists_of_findSome?_eq_some h
  exact ⟨part, List.mem_reverse.1 hpart, h⟩

theorem fullName?_eq_camel? (id : String) : fullName? id = camel? id.toList :=
  ignoresEnds_camel?.trim _

/-- An id with a letter or a number. -/
def Nameable (id : String) : Prop :=
  ∃ c ∈ id.toList, isAlphanumeric c = true

theorem not_nameable_iff : ¬ Nameable id ↔ ∀ c ∈ id.toList, isAlphanumeric c = false := by
  simp only [Nameable, not_exists, not_and, Bool.not_eq_true]

/-- What of an id counts for the name of an operation. -/
structure NamedLocally (id : String) : Prop where
  /-- An id with a letter or a number has a name, and it is not empty. -/
  named : Nameable id → ∃ name, localName? id = some name ∧ name ≠ ""
  /-- The same name comes from the id behind any namespace. -/
  namespaced : Nameable id → ∀ ns : String, ∀ d ∈ ['.', ':', '/'],
    localName? (ns ++ String.singleton d ++ id) = localName? id
  /-- And it comes from the id before any row of delimiters and blanks. -/
  followed : ∀ rest : String, (∀ c ∈ rest.toList, c ∈ ['.', ':', '/'] ∨ isBlank c = true) →
    localName? (id ++ rest) = localName? id
  /-- An id without a delimiter is its own local part. -/
  whole : (∀ c ∈ id.toList, c ∉ ['.', ':', '/']) → localName? id = fullName? id
  /-- There is no name exactly when the id has neither letter nor number. -/
  none_iff : localName? id = none ↔ ¬ Nameable id
  /-- The whole id has no name either exactly then. -/
  full_none_iff : fullName? id = none ↔ ¬ Nameable id

/-- **The name of an operation depends on the local part of its id alone.** -/
theorem namedLocally (id : String) : NamedLocally id := by
  have hnone : localName? id = none ↔ ¬ Nameable id := by
    rw [localName?_eq_lastName?, lastName?_eq_none_iff, not_nameable_iff]
  have hsome : Nameable id → ∃ name, localName? id = some name := fun hid =>
    Option.ne_none_iff_exists'.1 fun hn => hnone.1 hn hid
  constructor
  case named =>
    intro hid
    obtain ⟨name, hname⟩ := hsome hid
    obtain ⟨part, -, hpart⟩ := exists_part_of_localName? hname
    obtain ⟨hne, rfl⟩ := camel?_eq_some_iff.1 hpart
    exact ⟨_, hname, by rwa [ne_eq, String.ofList_eq_empty_iff]⟩
  case namespaced =>
    intro hid ns d hd
    obtain ⟨name, hname⟩ := hsome hid
    have htext : (ns ++ String.singleton d ++ id).toList = ns.toList ++ d :: id.toList := by
      simp
    -- the part behind the delimiter has a name, so those before it do not count
    rw [localName?_eq_lastName?, htext, lastName?_append (mem_delimiters_iff.1 hd),
      ← localName?_eq_lastName? id, hname, Option.some_or]
  case followed =>
    intro rest hrest
    have hcut : ∀ c ∈ rest.toList, isAlphanumeric c = false := by
      intro c hc
      rcases hrest c hc with hd | hb
      · exact isAlphanumeric_of_isDelimiter (mem_delimiters_iff.1 hd)
      · exact isAlphanumeric_of_isBlank hb
    -- what is appended only adds parts without a name, or an end that the last one ignores
    rw [localName?_eq_lastName?, localName?_eq_lastName?, String.toList_append,
      ignoresEnds_lastName?.append_right hcut]
  case whole =>
    intro hid
    have hcut : ∀ c ∈ id.toList, isDelimiter c = false := fun c hc =>
      Bool.eq_false_iff.2 fun hd => hid c hc (mem_delimiters_iff.2 hd)
    rw [localName?_eq_lastName?, lastName?_of_no_delimiter hcut, fullName?_eq_camel?]
  case none_iff => exact hnone
  case full_none_iff => rw [fullName?_eq_camel?, camel?_eq_none_iff, not_nameable_iff]

example : localName? " admin/users. list:/ . " = some "list" := by decide +kernel

end OperationId

end ApiModel
