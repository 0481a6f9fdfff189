import ApiModel.Json.Basic
import ApiModel.Yaml.Tag

/-!
# Parsed texts

A `Tree` is what a JSON or YAML text says before it is read as a type.  Two things are left open in
it.  A `bare` scalar, which is written without quotes, is a text or a number or a truth value
depending on what the reader wants.  An `unreadable` part is well formed, so that a reader may skip
it, but has no value: it is nested too deeply, its number is too large, or its text holds half a
surrogate pair.  A list or map is `settled` when nothing inside it is left open; only then may a list
also give the fields of a record in their order, and a map of one entry a choice among names.
-/

namespace ApiModel

/-- A parsed text. -/
inductive Tree where
  /-- The missing value. -/
  | null
  /-- A truth value. -/
  | bool (b : Bool)
  /-- A number. -/
  | number (n : Json.Number)
  /-- A text. -/
  | text (s : String)
  /-- A list. -/
  | list (settled : Bool) (items : List Tree)
  /-- Keys and values in the order in which they are written, repeated keys included. -/
  | map (settled : Bool) (entries : List (Tree × Tree))
  /-- A scalar without quotes, of a type that is still open. -/
  | bare (s : String)
  /-- A value with an explicit tag. -/
  | tagged (tag : Yaml.Tag) (value : Tree)
  /-- A well-formed part without a value. -/
  | unreadable
  deriving Inhabited

end ApiModel
