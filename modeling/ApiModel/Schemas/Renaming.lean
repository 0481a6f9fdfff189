import ApiModel.Document.Walk
import ApiModel.Pointer
import ApiModel.Schemas.Allocation

/-!
# Renaming of reserved schemas

A component schema whose own name is reserved gets a free one before anything else is done, and
every pointer to it is replaced, as is every discriminator mapping that gives its bare name.
-/

namespace ApiModel

namespace Renaming

/-- The new names of the reserved names among `names`, while the names in `taken` are avoided. -/
def newNames (reserved : Reserved) :
    List String → List String → Except BuildError (List (String × String))
  | _, [] => .ok []
  | taken, name :: rest =>
    if reserved.contains name then do
      let new ← Allocation.allocateWith taken.contains reserved [name]
      let others ← newNames reserved (new :: taken) rest
      return (name, new) :: others
    else newNames reserved taken rest

/-- A pointer after a renaming. -/
def pointer (renames : List (String × String)) (kind : PointerKind) (p : String) : String :=
  match Pointer.afterPrefix? Schema.pointerPrefix.toList p.toList with
  | some name =>
    match Entries.find? (String.ofList name) renames with
    | some new => Schema.pointerPrefix ++ new
    | none => p
  | none =>
    if kind = .mapping then (Entries.find? p renames).getD p else p

/-- Schemas under their new names. -/
def schemas (renames : List (String × String)) (entries : List (String × OrRef Schema)) :
    List (String × OrRef Schema) :=
  Entries.ofPairs (entries.map fun (name, s) => ((Entries.find? name renames).getD name, s))

end Renaming

/-- The new names of the component schemas whose names are reserved. -/
def Components.newNames (reserved : Reserved) (c : Components) :
    Except BuildError (List (String × String)) :=
  let names := Entries.keys c.schemas
  Renaming.newNames reserved (names.filter (!reserved.contains ·)) names

/-- A document and its components, given apart, after a renaming. -/
def Document.rename (renames : List (String × String)) (d : Document) (c : Components) :
    Document × Components :=
  if renames.isEmpty then (d, c)
  else
    let replace (_ : Nat) := Renaming.pointer renames
    (d.mapPointers replace,
      { c with schemas := Renaming.schemas renames c.schemas }.mapPointers replace)

end ApiModel
