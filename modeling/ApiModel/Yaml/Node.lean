import ApiModel.Tree.Entries
import ApiModel.Yaml.Token

/-!
# Nodes of a YAML text

`Document.ofTokens?` builds the nodes of the one document that a text may hold.  An alias is kept as
the number of the anchor that it refers to, and the nodes that the numbers stand for are listed
beside the root, so that a node may refer to one around it.  The number of an anchor is how many
names there are before it.  So an anchor with a known name may share its number with a later one,
and the number then stands for the node that begins last.
-/

namespace ApiModel.Yaml

/-- A node. -/
inductive Node where
  /-- A scalar. -/
  | scalar (tag : Option Tag) (style : Style) (text : String)
  /-- A list. -/
  | list (tag : Option Tag) (items : List Node)
  /-- A mapping. -/
  | map (tag : Option Tag) (entries : List (Node × Node))
  /-- A reference to the node of an anchor. -/
  | alias (anchor : Nat)
  deriving Inhabited

/-- A document. -/
structure Document where
  /-- Its root, if it is not empty. -/
  root : Option Node
  /-- The nodes that the numbers of anchors stand for; the first one counts. -/
  anchored : List (Nat × Node)
  /-- How many scalars, aliases and ends of lists and mappings it has. -/
  events : Nat

namespace Document

/-- What is left to read, and what is known from before. -/
structure State where
  /-- The tokens that are left. -/
  tokens : List Token
  /-- The prefixes of tag handles. -/
  prefixes : List (String × TagText) :=
    [("!", .ofString "!"), ("!!", .ofString Tag.coreStart)]
  /-- The names of anchors so far with the number that each has now. -/
  anchors : List (String × Nat) := []
  /-- The numbers of the anchored nodes that have begun, last one first. -/
  begun : List Nat := []
  /-- The anchored nodes that have ended, by the count of those that began before. -/
  ended : List (Nat × Node) := []
  /-- How many events there were. -/
  events : Nat := 0

/-- A step that reads tokens and may fail. -/
abbrev Read := StateT State Option

/-- The next token. -/
def peek : Read (Option Token) := do
  return (← get).tokens.head?

/-- Passes the next token. -/
def pass : Read Unit :=
  modify fun s => { s with tokens := s.tokens.drop 1 }

/-- Passes the next token if it is the given one, and says whether it was. -/
def passIf (t : Token) : Read Bool := do
  if (← peek) = some t then
    pass
    return true
  else return false

/-- Counts events. -/
def count (n : Nat) : Read Unit :=
  modify fun s => { s with events := s.events + n }

/-- The scalar that stands where nothing is written. -/
def empty : Read Node := do
  count 1
  return .scalar none .plain ""

/-- Begins a node with an anchor, and says how many began before it. -/
def beginAnchored (name : String) : Read Nat := do
  let s ← get
  let n := s.anchors.length
  set { s with anchors := Entries.insert name n s.anchors, begun := n :: s.begun }
  return s.begun.length

/-- Ends a node that has an anchor if `place` is there. -/
def endNode (place : Option Nat) (node : Node) : Read Node := do
  match place with
  | some place => modify fun s => { s with ended := (place, node) :: s.ended }
  | none => pure ()
  return node

/-- The nodes that the numbers of anchors stand for, the one that began last first. -/
def State.anchored (s : State) : List (Nat × Node) :=
  let places := (List.range s.begun.length).reverse
  (s.begun.zip places).filterMap fun (n, place) => (s.ended.lookup place).map (n, ·)

/-- The tag that a handle and a suffix stand for. -/
def tagOf (handle : String) (suffix : TagText) : Read Tag := do
  if handle = "" then return .ofText suffix
  match Entries.find? handle (← get).prefixes with
  | some uri => return .ofText (uri ++ suffix)
  | none => failure

/-- Reads the anchor and the tag of a node, in either order. -/
def properties : Read (Option String × Option Tag) := do
  match ← peek with
  | some (.anchor name) =>
    pass
    match ← peek with
    | some (.tag handle suffix) =>
      pass
      return (some name, some (← tagOf handle suffix))
    | _ => return (some name, none)
  | some (.tag handle suffix) =>
    pass
    let tag ← tagOf handle suffix
    match ← peek with
    | some (.anchor name) =>
      pass
      return (some name, some tag)
    | _ => return (none, some tag)
  | _ => return (none, none)

/-- Whether a token cannot begin a node inside a block, so that an empty node stands before it. -/
def closesBlockNode (alsoItem : Bool) : Option Token → Bool
  | some .key => true
  | some .value => true
  | some .blockEnd => true
  | some .item => alsoItem
  | _ => false

/-- An empty scalar that has at least an anchor or a tag. -/
def emptyWith (place : Option Nat) (tag : Option Tag) : Read Node := do
  if place.isNone ∧ tag.isNone then failure
  count 1
  endNode place (.scalar tag .plain "")

mutual

/-- Reads a node.  Blocks are allowed if `block`, and a list without indentation if `flat`. -/
def node (block flat : Bool) : Nat → Read Node
  | 0 => failure
  | fuel + 1 => do
    match ← peek with
    | some (.alias name) =>
      pass
      count 1
      match Entries.find? name (← get).anchors with
      | some n => return .alias n
      | none => failure
    | _ =>
      let (anchor, tag) ← properties
      let place ← anchor.mapM beginAnchored
      let next ← peek
      match next with
      | some .item =>
        if flat then
          count 2
          endNode place (.list tag (← flatItems fuel))
        else emptyWith place tag
      | some (.scalar style text) =>
        pass
        count 1
        endNode place (.scalar tag style text)
      | some .listStart =>
        pass
        count 2
        endNode place (.list tag (← bracketItems true fuel))
      | some .mapStart =>
        pass
        count 2
        endNode place (.map tag (← braceEntries true fuel))
      | some .blockList =>
        if block then
          pass
          count 2
          endNode place (.list tag (← blockItems fuel))
        else emptyWith place tag
      | some .blockMap =>
        if block then
          pass
          count 2
          endNode place (.map tag (← blockEntries fuel))
        else emptyWith place tag
      | _ => emptyWith place tag

/-- Reads the items of a block list up to its end. -/
def blockItems : Nat → Read (List Node)
  | 0 => failure
  | fuel + 1 => do
    if ← passIf .item then
      let next ← peek
      let v ← if next = some .item ∨ next = some .blockEnd then empty else node true false fuel
      return v :: (← blockItems fuel)
    else if ← passIf .blockEnd then return []
    else failure

/-- Reads the items of a list that is not indented. -/
def flatItems : Nat → Read (List Node)
  | 0 => failure
  | fuel + 1 => do
    if ← passIf .item then
      let v ← if closesBlockNode true (← peek) then empty else node true false fuel
      return v :: (← flatItems fuel)
    else return []

/-- Reads the entries of a block mapping up to its end. -/
def blockEntries : Nat → Read (List (Node × Node))
  | 0 => failure
  | fuel + 1 => do
    if ← passIf .key then
      let k ← if closesBlockNode false (← peek) then empty else node true true fuel
      let v ← if ← passIf .value then
          if closesBlockNode false (← peek) then empty else node true true fuel
        else empty
      return (k, v) :: (← blockEntries fuel)
    else if ← passIf .blockEnd then return []
    else failure

/-- Reads the items of a list in brackets up to the closing one. -/
def bracketItems (first : Bool) : Nat → Read (List Node)
  | 0 => failure
  | fuel + 1 => do
    if ← passIf .listEnd then return []
    if !first then
      if !(← passIf .comma) then failure
    if ← passIf .listEnd then return []
    if ← passIf .key then
      count 2
      let next ← peek
      let k ← if next = some .value ∨ next = some .comma ∨ next = some .listEnd then do
          pass
          empty
        else node false false fuel
      let v ← if ← passIf .value then do
          let next ← peek
          if next = some .comma ∨ next = some .listEnd then empty else node false false fuel
        else empty
      return .map none [(k, v)] :: (← bracketItems false fuel)
    else
      let v ← node false false fuel
      return v :: (← bracketItems false fuel)

/-- Reads the entries of a mapping in braces up to the closing one. -/
def braceEntries (first : Bool) : Nat → Read (List (Node × Node))
  | 0 => failure
  | fuel + 1 => do
    if ← passIf .mapEnd then return []
    if !first then
      if !(← passIf .comma) then failure
    if ← passIf .mapEnd then return []
    let entry ← if ← passIf .key then do
        let next ← peek
        let k ← if next = some .value ∨ next = some .comma ∨ next = some .mapEnd then empty
          else node false false fuel
        let v ← if ← passIf .value then do
            let next ← peek
            if next = some .comma ∨ next = some .mapEnd then empty else node false false fuel
          else empty
        pure (k, v)
      else do
        let k ← node false false fuel
        pure (k, ← empty)
    return entry :: (← braceEntries false fuel)

end

/-- Reads the directives before a document. -/
def directives (versioned : Bool) (handles : List String) : List Token → Read Unit
  | .version major minor :: rest => do
    if versioned ∨ major ≠ 1 ∨ !(minor = 1 ∨ minor = 2) then failure
    pass
    directives true handles rest
  | .tagPrefix handle uri :: rest => do
    if handle ∈ handles then failure
    pass
    modify fun s => { s with prefixes := (handle, uri) :: s.prefixes }
    directives versioned (handle :: handles) rest
  | _ => pure ()

/-- Whether a token cannot begin the content of a document. -/
def endsDocument : Option Token → Bool
  | none => true
  | some .documentStart => true
  | some .documentEnd => true
  | some (.version ..) => true
  | some (.tagPrefix ..) => true
  | _ => false

/-- Reads the root of the document. -/
def readRoot (fuel : Nat) : Read (Option Node) := do
  match ← peek with
  | none => return none
  | some t =>
    if t = .documentStart ∨ (endsDocument (some t) ∧ t ≠ .documentEnd) then
      directives false [] (← get).tokens
      if !(← passIf .documentStart) then failure
      if endsDocument (← peek) then return some (← empty) else return some (← node true false fuel)
    else return some (← node true false fuel)

/-- The document of tokens; nothing but marks of its end may follow it. -/
def ofTokens? (tokens : List Token) : Option Document := do
  let (root, s) ← (readRoot (2 * tokens.length + 2)).run { tokens }
  if s.tokens.all (· == .documentEnd) then some ⟨root, s.anchored, s.events⟩ else none

end Document

end ApiModel.Yaml
