import ApiModel.Cli.Run

/-!
# Directories in memory

The files of a directory as a program sees them that runs in it.  A path is looked up part by part
from the left, and the first part that leads nowhere says why.  Of what lies around the directory
only the way up is known.
-/

namespace ApiModel.Cli

/-- The files of a directory by path, the parts of a path being apart. -/
abbrev Directory := List (List String × String)

/-- Where a path leads. -/
inductive Place where
  /-- To a directory inside, by the parts of its path. -/
  | inside (parts : List String)
  /-- To a directory around. -/
  | around
  /-- To a file with a text. -/
  | file (text : String)
  deriving DecidableEq, Repr

namespace Directory

/-- The longest part of a path, in bytes. -/
def maxPart : Nat := 255

/-- The longest path, in bytes. -/
def maxPath : Nat := 4095

/-- The parts of a path that stays in the directory. -/
def partsOf (path : String) : List String :=
  (path.splitOn "/").filter fun part => part ≠ "" ∧ part ≠ "."

/-- The directory with a file in place of any other under its path. -/
def insert (d : Directory) (path text : String) : Directory :=
  d.filter (·.1 ≠ partsOf path) ++ [(partsOf path, text)]

/-- The directory of files that are written in turn. -/
def ofFiles (files : List (String × String)) : Directory :=
  files.foldl (fun d (path, text) => d.insert path text) []

/-- The text of a file. -/
def text? (d : Directory) (path : String) : Option String :=
  d.lookup (partsOf path)

/-- Where a name leads inside. -/
def enter (d : Directory) (parts : List String) (name : String) : Except ReadError Place :=
  let parts := parts ++ [name]
  if maxPart < name.utf8ByteSize then .error .nameTooLong
  else
    match d.lookup parts with
    | some text => .ok (.file text)
    | none => if d.any (parts.isPrefixOf ·.1) then .ok (.inside parts) else .error .missing

/-- Where a part of a path leads from a place. -/
def step (d : Directory) (place : Place) (part : String) : Except ReadError Place :=
  match place with
  | .file _ => .error .notDirectory
  | .around =>
    if part ∈ ["", ".", ".."] then .ok .around
    else if maxPart < part.utf8ByteSize then .error .nameTooLong
    else .error .missing
  | .inside parts =>
    if part ∈ ["", "."] then .ok place
    else if part = ".." then .ok (if parts = [] then .around else .inside parts.dropLast)
    else d.enter parts part

/-- Where a path leads. -/
def find (d : Directory) (path : String) : Except ReadError Place :=
  if path.contains '\x00' then .error .nullInName
  else if path = "" then .error .missing
  else if maxPath < path.utf8ByteSize then .error .nameTooLong
  else
    let start : Place := if path.startsWith "/" then .around else .inside []
    (path.splitOn "/").foldlM d.step start

/-- Reads a file. -/
def read (d : Directory) (path : String) : Except ReadError String := do
  match ← d.find path with
  | .file text => .ok text
  | _ => .error .directory

/-- The directory after a file is written, or why it is not. -/
def write (d : Directory) (path text : String) : Except ReadError Directory :=
  match d.read path with
  | .ok _ => .ok (d.insert path text)
  | .error .missing => .ok (d.insert path text)
  | .error e => .error e

/-- How a command reaches the files of a directory. -/
def files : Files (StateM Directory) where
  read path := do return (← get).read path
  write path text := do
    match (← get).write path text with
    | .ok d =>
      set d
      return none
    | .error e => return some e.message

end Directory

end ApiModel.Cli
