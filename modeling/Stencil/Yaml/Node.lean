import Stencil.Yaml.Token

/-! The nodes of a YAML text.

An alias keeps the number of the anchor that its name meant where it stands; the anchored nodes are
kept in a table beside the root. -/

namespace Stencil.Yaml

/-- A node. -/
inductive Node where
  | scalar (plain : Bool) (text : String)
  | sequence (items : List Node)
  | mapping (entries : List (Node × Node))
  | alias (anchor : Nat)
deriving Inhabited

/-- The empty scalar that stands where a node is left out. -/
def Node.empty : Node := .scalar true ""

mutual

/-- The number of scalars, aliases and ends of collections. -/
def Node.weight : Node → Nat
  | .scalar _ _ | .alias _ => 1
  | .sequence items => 2 + weightOf items
  | .mapping entries => 2 + pairWeight entries

/-- The weight of a list of nodes. -/
def weightOf : List Node → Nat
  | [] => 0
  | n :: rest => n.weight + weightOf rest

/-- The weight of a list of pairs of nodes. -/
def pairWeight : List (Node × Node) → Nat
  | [] => 0
  | (k, v) :: rest => k.weight + v.weight + pairWeight rest

end

/-- The nodes of a text: the root, if there is one, and the anchored nodes by number. -/
structure Nodes where
  root : Option Node
  anchors : List (Nat × Node)

/-- Tokens that are being read, the numbers of the anchors seen, and the finished anchored nodes. -/
structure Reader where
  tokens : List Token
  names : List (String × Nat) := []
  anchors : List (Nat × Node) := []

/-- Reading that may fail. -/
abbrev Read := StateT Reader Option

namespace Reader

/-- The next token. -/
def peek : Read Token := do
  match (← get).tokens with
  | t :: _ => return t
  | [] => failure

/-- Passes over a token. -/
def skip : Read Unit := modify fun r => { r with tokens := r.tokens.tail }

/-- Passes over a token that must come next. -/
def expect (t : Token) : Read Unit := do
  if (← peek) = t then skip else failure

/-- Gives an anchor its number: how many names of anchors there were before it. -/
def numberAnchor (name : String) : Read Nat := do
  let names := (← get).names
  let number := names.length
  modify fun r => { r with names := (name, number) :: names.filter (·.1 != name) }
  return number

/-- The number that the name of an anchor means here. -/
def anchorNumber (name : String) : Read Nat := do
  match (← get).names.lookup name with
  | some number => return number
  | none => failure

/-- Keeps an anchored node, before which `count` others had been kept. An anchor inside the node
started later and counts more if it has the same number. -/
def keepAnchor (anchor : Option Nat) (count : Nat) (n : Node) : Read Unit :=
  match anchor with
  | some number => modify fun r =>
    if (r.anchors.take (r.anchors.length - count)).any (·.1 == number) then r
    else { r with anchors := (number, n) :: r.anchors }
  | none => return ()

/-- Reads the anchor in front of a node. -/
def anchor? : Read (Option Nat) := do
  match ← peek with
  | .anchor name =>
    skip
    return some (← numberAnchor name)
  | _ => return none

mutual

/-- Reads a node. Block collections are allowed only if `block` is set; a sequence whose entries
are not indented only if `indentless` is set. -/
def node (block indentless : Bool) : Nat → Read Node
  | 0 => failure
  | fuel + 1 => do
    match ← peek with
    | .alias name =>
      skip
      return .alias (← anchorNumber name)
    | _ =>
      let anchor ← anchor?
      let count := (← get).anchors.length
      let n ← content block indentless anchor.isSome fuel
      keepAnchor anchor count n
      return n

/-- Reads the content of a node; behind an anchor it may be left out. -/
def content (block indentless anchored : Bool) : Nat → Read Node
  | 0 => failure
  | fuel + 1 => do
    match ← peek with
    | .blockEntry =>
      if indentless then return .sequence (← indentlessItems fuel)
      else if anchored then return .empty
      else failure
    | .scalar plain text =>
      skip
      return .scalar plain text
    | .flowSequenceStart =>
      skip
      return .sequence (← flowItems true fuel)
    | .flowMappingStart =>
      skip
      return .mapping (← flowEntries true fuel)
    | .blockSequenceStart =>
      if block then
        skip
        return .sequence (← blockItems fuel)
      else if anchored then return .empty
      else failure
    | .blockMappingStart =>
      if block then
        skip
        return .mapping (← blockEntries fuel)
      else if anchored then return .empty
      else failure
    | _ => if anchored then return .empty else failure

/-- Reads a node of a block collection unless one of the tokens `stops` comes next. -/
def blockNode (indentless : Bool) (stops : List Token) : Nat → Read Node
  | 0 => failure
  | fuel + 1 => do
    if stops.contains (← peek) then return .empty else node true indentless fuel

/-- Reads the entries of a block sequence. -/
def blockItems : Nat → Read (List Node)
  | 0 => failure
  | fuel + 1 => do
    match ← peek with
    | .blockEntry =>
      skip
      let item ← blockNode false [.blockEntry, .blockEnd] fuel
      return item :: (← blockItems fuel)
    | .blockEnd =>
      skip
      return []
    | _ => failure

/-- Reads the entries of a sequence that is not indented. -/
def indentlessItems : Nat → Read (List Node)
  | 0 => failure
  | fuel + 1 => do
    match ← peek with
    | .blockEntry =>
      skip
      let item ← blockNode false [.blockEntry, .key, .value, .blockEnd] fuel
      return item :: (← indentlessItems fuel)
    | _ => return []

/-- Reads the entries of a block mapping. -/
def blockEntries : Nat → Read (List (Node × Node))
  | 0 => failure
  | fuel + 1 => do
    match ← peek with
    | .key =>
      skip
      let k ← blockNode true [.key, .value, .blockEnd] fuel
      let v ←
        if (← peek) = .value then
          skip
          blockNode true [.key, .value, .blockEnd] fuel
        else pure .empty
      return (k, v) :: (← blockEntries fuel)
    | .blockEnd =>
      skip
      return []
    | _ => failure

/-- Reads the value of an entry of a flow collection that ends with `close`. -/
def flowValue (close : Token) : Nat → Read Node
  | 0 => failure
  | fuel + 1 => do
    if (← peek) = .value then
      skip
      if [.flowEntry, close].contains (← peek) then return .empty else node false false fuel
    else return .empty

/-- Reads the entries of a flow sequence; a lone pair counts as a mapping. -/
def flowItems (first : Bool) : Nat → Read (List Node)
  | 0 => failure
  | fuel + 1 => do
    if !first && (← peek) != .flowSequenceEnd then expect .flowEntry
    match ← peek with
    | .flowSequenceEnd =>
      skip
      return []
    | .key =>
      skip
      let k ←
        if [.value, .flowEntry, .flowSequenceEnd].contains (← peek) then
          skip
          pure .empty
        else node false false fuel
      let v ← flowValue .flowSequenceEnd fuel
      return .mapping [(k, v)] :: (← flowItems false fuel)
    | _ =>
      let item ← node false false fuel
      return item :: (← flowItems false fuel)

/-- Reads the entries of a flow mapping. -/
def flowEntries (first : Bool) : Nat → Read (List (Node × Node))
  | 0 => failure
  | fuel + 1 => do
    if !first && (← peek) != .flowMappingEnd then expect .flowEntry
    match ← peek with
    | .flowMappingEnd =>
      skip
      return []
    | .key =>
      skip
      let k ←
        if [.value, .flowEntry, .flowMappingEnd].contains (← peek) then pure .empty
        else node false false fuel
      let v ← flowValue .flowMappingEnd fuel
      return (k, v) :: (← flowEntries false fuel)
    | _ =>
      let k ← node false false fuel
      return (k, .empty) :: (← flowEntries false fuel)

end

/-- Passes over markers of the end of a document. -/
def skipDocumentEnds : List Token → List Token
  | .documentEnd :: rest => skipDocumentEnds rest
  | ts => ts

/-- Reads the one document of a text. -/
def document (fuel : Nat) : Read (Option Node) := do
  let root ←
    match ← peek with
    | .streamEnd => pure none
    | .documentStart =>
      skip
      if [.documentStart, .documentEnd, .streamEnd].contains (← peek) then pure (some .empty)
      else some <$> node true false fuel
    | _ => some <$> node true false fuel
  modify fun r => { r with tokens := skipDocumentEnds r.tokens }
  expect .streamEnd
  return root

end Reader

/-- The nodes of a text that holds at most one document. -/
def nodes? (text : String) : Option Nodes := do
  let tokens ← tokens? text
  let (root, r) ← (Reader.document (4 * tokens.length + 4)).run { tokens }
  return { root, anchors := r.anchors }

end Stencil.Yaml
