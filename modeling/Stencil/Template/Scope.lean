import Stencil.Template.Library

/-! What a template can see while it is rendered.

Variables are looked up from the innermost frame outwards and then in the context. Macros do not see
the frames around them. -/

namespace Stencil.Template

/-- The index that a key names: digits without needless zeros. -/
def indexOf? (key : String) : Option Nat :=
  let cs := key.toList
  if cs.isEmpty || !cs.all Char.isDigit || (cs.head? == some '0' && cs.length > 1) then none
  else some (Decimal.natOfDigits cs)

/-- The part of a value below one key or index. -/
def child? (v : Value) (key : String) : Option Value :=
  match v with
  | .object fields => Fields.get? fields key
  | .list items => (indexOf? key).bind (items[·]?)
  | _ => none

/-- The part of a value below keys and indices. -/
def descend? (v : Value) (path : List String) : Option Value := path.foldlM child? v

/-- One round of a loop. -/
structure Round where
  item : String
  value : Option Value
  key : Option (String × String)
  index : Nat
  count : Nat

/-- What a loop counts in a round. -/
def Round.counter? (r : Round) (path : List String) : Option Value :=
  match path with
  | ["index"] => some (.int (r.index + 1))
  | ["index0"] => some (.int r.index)
  | ["first"] => some (.bool (r.index == 0))
  | ["last"] => some (.bool (r.index + 1 == r.count))
  | _ => none

/-- What a loop offers under a path: its key, then the counters of the round, then its item. An item
that is called like the counters is out of sight. -/
def Round.find? (r : Round) (path : List String) : Option Value :=
  let isKey := r.key.any fun k => path == [k.1]
  match path with
  | [] => none
  | head :: rest =>
    if isKey then r.key.map fun k => .str k.2
    else if head = "loop" then r.counter? rest
    else if head = r.item then r.value.bind (descend? · rest)
    else none

/-- Variables that come and go together. -/
structure Frame where
  /-- The template that is being rendered. -/
  template : String
  assigned : Fields := []
  round : Option Round := none
  /-- Whether the frames around this one are out of sight. -/
  closed : Bool := false

/-- What a frame offers under a path. -/
def Frame.find? (f : Frame) (path : List String) : Option Value :=
  let own := match path with
    | head :: rest => (f.assigned.get? head).bind (descend? · rest)
    | [] => none
  own.or (f.round.bind (·.find? path))

/-- A block that has been entered: its name, the template that it comes from, and how many steps
that template is above the one that was asked for. -/
structure OpenBlock where
  name : String
  template : String
  level : Nat

/-- What can be seen. -/
structure Scope where
  library : Library
  context : Fields
  /-- The template that was asked for and its ancestors, nearest first. -/
  chain : List Source
  /-- The frames, innermost first. -/
  frames : List Frame
  /-- The blocks that have been entered, the last first. A block stays here when its end has been
  reached. -/
  blocks : List OpenBlock := []

namespace Scope

/-- What frames offer under a path, up to the first that hides those around it. -/
def findIn : List Frame → List String → Option Value
  | [], _ => none
  | f :: rest, path =>
    match f.find? path with
    | some v => some v
    | none => if f.closed then none else findIn rest path

/-- The value of a variable, or of what lies below it. -/
def find? (s : Scope) (path : List String) : Option Value :=
  (findIn s.frames path).or
    (match path with
      | head :: rest => (s.context.get? head).bind (descend? · rest)
      | [] => none)

/-- Gives a variable of the innermost frame a value. -/
def assign (s : Scope) (name : String) (v : Value) : Scope :=
  match s.frames with
  | f :: rest => { s with frames := { f with assigned := f.assigned.insert name v } :: rest }
  | [] => s

/-- Adds a frame. -/
def push (s : Scope) (f : Frame) : Scope := { s with frames := f :: s.frames }

/-- Drops the innermost frame. -/
def pop (s : Scope) : Scope := { s with frames := s.frames.drop 1 }

/-- Enters a block. -/
def enter (s : Scope) (b : OpenBlock) : Scope := { s with blocks := b :: s.blocks }

/-- Forgets the block that was entered last. -/
def leave (s : Scope) : Scope := { s with blocks := s.blocks.drop 1 }

/-- The template of the innermost frame. -/
def current (s : Scope) : String :=
  match s.frames with
  | f :: _ => f.template
  | [] => ""

/-- The template whose groups of macros can be called: that of the block entered last, else the root
of the chain if there are ancestors, else the current one. -/
def macroTemplate (s : Scope) : String :=
  match s.blocks with
  | b :: _ => b.template
  | [] =>
    if s.chain.length > 1 then (s.chain.getLast?.map (·.name)).getD s.current else s.current

/-- The block of a name in the first of some templates that has it, with how far up that is. -/
def blockIn? (templates : List Source) (name : String) (level : Nat) :
    Option (OpenBlock × List Node) :=
  match templates with
  | [] => none
  | t :: rest =>
    match t.blocks.lookup name with
    | some body => some (⟨name, t.name, level⟩, body)
    | none => blockIn? rest name (level + 1)

/-- The block that replaces a block of the current template. -/
def replacement? (s : Scope) (name : String) : Option (OpenBlock × List Node) := do
  let t ← s.library.get? s.current
  blockIn? (s.library.chain t) name 0

/-- The block that the block entered last replaces. -/
def replaced? (s : Scope) : Option (OpenBlock × List Node) := do
  let b ← s.blocks.head?
  blockIn? (s.chain.drop (b.level + 1)) b.name (b.level + 1)

end Scope

end Stencil.Template
