/-! Paths as they are written.

A path keeps its text; joining appends to it and nothing is normalised. Comparison, parents and
names look at its components, which pass over empty segments and over dots that are not in front. -/

namespace Stencil

/-- A path. -/
structure Path where
  text : String
deriving DecidableEq, Repr, Inhabited

namespace Path

/-- A component of a path. -/
inductive Component where
  | root
  | here
  | up
  | name (text : String)
deriving DecidableEq, Repr

/-- Whether a path starts at the root. -/
def isAbsolute (p : Path) : Bool := p.text.toList.head? == some '/'

/-- The pieces of a path between slashes, empty ones included. -/
def pieces (p : Path) : List String := (p.text.toList.splitOn '/').map String.ofList

/-- The pieces of a path between slashes that are not empty. -/
def segments (p : Path) : List String := p.pieces.filter (· ≠ "")

/-- A path below another; an absolute path replaces it. -/
def join (p q : Path) : Path :=
  if q.isAbsolute || p.text.isEmpty then q
  else if p.text.toList.getLast? == some '/' then ⟨p.text ++ q.text⟩
  else ⟨p.text ++ "/" ++ q.text⟩

/-- The component that a segment names, if it counts as one. -/
def component? : String → Option Component
  | "." => none
  | ".." => some .up
  | s => some (.name s)

/-- The components of a path. A dot counts only at the start of a relative path. -/
def components (p : Path) : List Component :=
  if p.isAbsolute then .root :: p.segments.filterMap component?
  else
    match p.pieces with
    | "." :: rest => .here :: (rest.filter (· ≠ "")).filterMap component?
    | _ => p.segments.filterMap component?

/-- The last component, if it is a name. -/
def fileName? (p : Path) : Option String :=
  match p.components.getLast? with
  | some (.name s) => some s
  | _ => none

/-- A file name without its last extension. A dot in front starts no extension. -/
def stemOf (name : String) : String :=
  let tail := name.toList.reverse.dropWhile (· ≠ '.')
  match tail with
  | [] => name
  | _ :: stem => if stem.isEmpty then name else .ofList stem.reverse

/-- The file name without its last extension; empty if there is no file name. -/
def stem (p : Path) : String := (p.fileName?.map stemOf).getD ""

/-- Drops the pieces at the end that are no components, where `pieces` is backwards: empty ones, and
dots that are not the first piece of a relative path. -/
def dropSilent (absolute : Bool) : List String → List String
  | [] => []
  | [first] => if first = "" || (absolute && first = ".") then [] else [first]
  | last :: rest => if last = "" || last = "." then dropSilent absolute rest else last :: rest

/-- Drops the last component from pieces. -/
def dropLastComponent (absolute : Bool) (pieces : List String) : List String :=
  (dropSilent absolute (dropSilent absolute pieces.reverse).tail).reverse

/-- The path without its last component; none for the root and for the empty path. -/
def parent? (p : Path) : Option Path :=
  match p.components.getLast? with
  | none | some .root => none
  | some _ =>
    if p.isAbsolute then some ⟨"/" ++ "/".intercalate (dropLastComponent true p.pieces.tail)⟩
    else some ⟨"/".intercalate (dropLastComponent false p.pieces)⟩

/-- Rank of a component among components of other kinds. -/
def Component.rank : Component → Nat
  | .root => 0
  | .here => 1
  | .up => 2
  | .name _ => 3

/-- Order of components: by kind, then by name. -/
def Component.le (a b : Component) : Bool :=
  match a, b with
  | .name s, .name t => s ≤ t
  | _, _ => a.rank ≤ b.rank

/-- Order of lists of components: the first difference decides, and a prefix comes first. -/
def leComponents : List Component → List Component → Bool
  | [], _ => true
  | _ :: _, [] => false
  | a :: as, b :: bs => if a = b then leComponents as bs else a.le b

/-- Order of paths. -/
def le (p q : Path) : Bool := leComponents p.components q.components

/-- The components of a path behind those of another one; all of them if it does not start with
those. -/
def componentsBehind (p root : Path) : List Component :=
  if root.components.isPrefixOf p.components then p.components.drop root.components.length
  else p.components

/-- Puts a path at its place in a list that is in order, unless one with the same components is
there. -/
def insertDistinct (p : Path) : List Path → List Path
  | [] => [p]
  | q :: rest =>
    if p.components = q.components then q :: rest
    else if p.le q then p :: q :: rest
    else q :: insertDistinct p rest

/-- Paths in order. Of several with the same components the last one stays. -/
def sortDistinct (paths : List Path) : List Path := paths.foldr insertDistinct []

end Path

end Stencil
