import Stencil.Source
import Stencil.Yaml.Node
import Stencil.Yaml.Scalar

/-! Reading documents from YAML.

What is read decides how a scalar counts: as a text it is taken as written, and only where any value
may stand does a plain scalar become a number, a truth value or null. Collections nest at most 128
deep, which also ends an alias that refers to itself, and a text that is short may not become long
by following aliases again and again. -/

namespace Stencil.Yaml

/-- A node that is read, with the anchored nodes and the depth that is left. -/
structure Tree where
  node : Node
  anchors : List (Nat × Node)
  depth : Nat

/-- The node that an alias refers to, if a reference may still be followed; other nodes refer to
themselves. -/
def follow (anchors : List (Nat × Node)) : Node → Reading Node
  | .alias number => do
    match ← get with
    | 0 => failure
    | left + 1 =>
      set left
      .of (anchors.lookup number)
  | n => return n

/-- The text of a key. -/
def keyText (anchors : List (Nat × Node)) (n : Node) : Reading String := do
  match ← follow anchors n with
  | .scalar _ text => return text
  | _ => failure

/-- The value that a node stands for. -/
def value (anchors : List (Nat × Node)) (depth : Nat) (n : Node) : Reading Value := do
  match ← follow anchors n with
  | .scalar plain text => if plain then .of (Scalar.value? text) else return .str text
  | .sequence items =>
    match depth with
    | 0 => failure
    | d + 1 => return .list (← items.mapM (value anchors d))
  | .mapping entries =>
    match depth with
    | 0 => failure
    | d + 1 =>
      let pairs ← entries.mapM fun e => do
        let key ← keyText anchors e.1
        return (key, ← value anchors d e.2)
      return .object (Fields.ofList pairs)
  | .alias _ => failure

namespace Tree

/-- The node itself, behind an alias. -/
def target (t : Tree) : Reading Node := follow t.anchors t.node

/-- A node below the tree. -/
def child (t : Tree) (n : Node) : Tree := { t with node := n, depth := t.depth - 1 }

/-- The entries of a mapping; an empty plain scalar has none. -/
def pairs (t : Tree) : Reading (List (String × Tree)) := do
  match ← t.target with
  | .mapping entries =>
    if t.depth = 0 then failure
    else entries.mapM fun e => do return (← keyText t.anchors e.1, t.child e.2)
  | .scalar true "" => return []
  | _ => failure

/-- The entries of a record: a declared name may stand only once. -/
def entries (names : List String) (t : Tree) : Reading (List (String × Tree)) := do
  let pairs ← t.pairs
  if names.all fun name => pairs.countP (·.1 == name) ≤ 1 then return pairs else failure

/-- The items of a sequence; an empty plain scalar has none. -/
def items (t : Tree) : Reading (List Tree) := do
  match ← t.target with
  | .sequence items => if t.depth = 0 then failure else return items.map t.child
  | .scalar true "" => return []
  | _ => failure

/-- The text of a scalar. -/
def text (t : Tree) : Reading String := do
  match ← t.target with
  | .scalar _ text => return text
  | _ => failure

/-- The text of a scalar; a plain null is none. -/
def optionalText (t : Tree) : Reading (Option String) := do
  match ← t.target with
  | .scalar plain text => return if plain && Scalar.isNull text then none else some text
  | _ => failure

/-- The truth value of a plain scalar. -/
def flag (t : Tree) : Reading Bool := do
  match ← t.target with
  | .scalar true text => .of (Scalar.bool? text)
  | _ => failure

/-- The count of a plain scalar. -/
def count (t : Tree) : Reading Nat := do
  match ← t.target with
  | .scalar true text =>
    let n ← Reading.of (Scalar.int? text.toList)
    if 0 ≤ n ∧ n < 0x10000000000000000 then return n.toNat else failure
  | _ => failure

/-- The free-form fields of a mapping; of two equal keys the later counts. -/
def fields (t : Tree) : Reading Fields := do
  let pairs ← (← t.pairs).mapM fun p => do
    return (p.1, ← value p.2.anchors p.2.depth p.2.node)
  return Fields.ofList pairs

/-- One text or a list of texts. A number that is not finite is no text and no null either. -/
def patterns (t : Tree) : Reading (List String) := do
  match ← t.target with
  | .scalar true text =>
    if Scalar.isNonFinite text then failure
    else .of ((Scalar.value? text).bind Value.patterns?)
  | n => .of (← value t.anchors t.depth n).patterns?

instance : Source Tree where
  text? := text
  optionalText? := optionalText
  flag? := flag
  count? := count
  items? := items
  entries? := entries
  fields? := fields
  patterns? := patterns

end Tree

/-- How many references may be followed for each node. -/
def referencesPerNode : Nat := 100

/-- Reads a text as a whole; a text without a document counts as an empty one. -/
def parse? {α : Type} (read : Tree → Reading α) (text : String) : Option α := do
  let nodes ← nodes? text
  let root := nodes.root.getD .empty
  (read ⟨root, nodes.anchors, 128⟩).run' (referencesPerNode * root.weight)

end Stencil.Yaml
