import Stencil.Error
import Stencil.Template.NodeReader
import Stencil.Template.Trimming

/-! Collections of templates that refer to each other by name.

A template may extend a parent, whose blocks it replaces, and import the macros of other templates.
Both must be in the collection when the template is added; what a template inserts is looked up only
when it is rendered. The language is a part of Tera's: `ExprReader`, `NodeReader` and `Filter` say
what is left out. -/

namespace Stencil.Template

/-- A macro: its parameters with the constants for absent ones, and its body. -/
structure Macro where
  params : List (String × Option Value)
  body : List Node

/-- A template that has been read. -/
structure Source where
  name : String
  nodes : List Node
  parent : Option String
  /-- Templates whose macros are imported, with the names of the groups. -/
  imports : List (String × String)
  macros : List (String × Macro)
  blocks : List (String × List Node)

mutual

/-- The blocks in a node, outer ones first. -/
def Node.blocks : Node → List (String × List Node)
  | .block _ name body _ => (name, body) :: blocksOf body
  | _ => []

/-- The blocks in a list of nodes, not those inside branches and loops. -/
def blocksOf : List Node → List (String × List Node)
  | [] => []
  | n :: rest => n.blocks ++ blocksOf rest

end

/-- The last parent that a list of nodes names. -/
def parentOf (nodes : List Node) : Option String :=
  nodes.foldl (fun found n => match n with
    | .extend _ template => some template
    | _ => found) none

/-- The groups of macros that a list of nodes imports. -/
def importsOf (nodes : List Node) : List (String × String) :=
  nodes.filterMap fun n => match n with
    | .importMacros _ template group => some (template, group)
    | _ => none

/-- The macros that a list of nodes defines. -/
def macrosOf (nodes : List Node) : List (String × Macro) :=
  nodes.filterMap fun n => match n with
    | .defineMacro _ name params body _ => some (name, Macro.mk params body)
    | _ => none

/-- Reads a template. No two of its blocks may have one name, nor two of its macros. -/
def Source.parse? (name text : String) : Option Source := do
  let cs := text.toList
  let (nodes, _) ← (Parser.template (2 * cs.length + 16)).run cs
  let nodes := trimBody false false nodes
  let blocks := blocksOf nodes
  let macros := macrosOf nodes
  if (blocks.map (·.1)).Nodup ∧ (macros.map (·.1)).Nodup then
    some { name, nodes, parent := parentOf nodes, imports := importsOf nodes, macros, blocks }
  else none

/-- A collection of templates, in ascending order of their names. -/
abbrev Library := List (String × Source)

namespace Library

/-- The template of a name. -/
def get? (l : Library) (name : String) : Option Source := l.lookup name

/-- Puts a template under its name, in place of the one that is there. -/
def insert (l : Library) (t : Source) : Library :=
  match l with
  | [] => [(t.name, t)]
  | (n, old) :: rest =>
    if t.name = n then (n, t) :: rest
    else if t.name < n then (t.name, t) :: (n, old) :: rest
    else (n, old) :: insert rest t

/-- The ancestors of a template from one of them on, nearest first; `passed` names those before it
and it. A chain of parents that comes back to the template has no end. -/
def ancestorsFrom (l : Library) (template : String) :
    Nat → List String → Source → Except LibraryFault (List Source)
  | fuel, passed, t =>
    match t.parent with
    | none => .ok []
    | some parent =>
      match fuel, l.get? parent with
      | _, none => .error (.missingParent t.name parent)
      | 0, some _ => .error (.endlessParents template passed)
      | fuel + 1, some p => do
        let passed := passed ++ [p.name]
        if p.name = template then throw (.endlessParents template passed)
        return p :: (← ancestorsFrom l template fuel passed p)

/-- The ancestors of a template, nearest first. -/
def ancestors (l : Library) (t : Source) : Except LibraryFault (List Source) :=
  l.ancestorsFrom t.name l.length [] t

/-- A template and its ancestors, nearest first. -/
def chain (l : Library) (t : Source) : List Source :=
  match l.ancestors t with
  | .ok ts => t :: ts
  | .error _ => [t]

/-- Whether every parent of a template and every template that it imports from is in the
collection. -/
def fit (l : Library) (t : Source) : Except LibraryFault Unit := do
  let _ ← l.ancestors t
  t.imports.forM fun i =>
    if (l.get? i.1).isSome then .ok () else .error (.missingImport t.name i.1)

/-- Adds templates, given by names and texts, all at once. -/
def add (l : Library) (sources : List (String × String)) : Except LibraryFault Library := do
  let read ← sources.mapM fun (name, text) =>
    match Source.parse? name text with
    | some t => .ok t
    | none => .error .unreadable
  let l := read.foldl insert l
  l.forM fun (_, t) => l.fit t
  return l

/-- A group of macros: its name, the template that defines it, and the macros. -/
abbrev Group := String × String × List (String × Macro)

/-- Adds groups whose names are not taken. -/
def addGroups (groups more : List Group) : List Group :=
  more.foldl (fun gs g => if gs.any (·.1 == g.1) then gs else gs ++ [g]) groups

/-- The groups of macros that a template may call: its own, those that it imports, those that its
imports import, and those of its ancestors. -/
def groups (l : Library) : Nat → Source → List Group
  | 0, _ => []
  | fuel + 1, t =>
    let own : List Group := if t.macros.isEmpty then [] else [("self", t.name, t.macros)]
    let imported := t.imports.foldl
      (fun (gs : List Group) i =>
        match l.get? i.1 with
        | some source =>
          let gs := (i.2, source.name, source.macros) :: gs.filter (·.1 != i.2)
          addGroups gs (groups l fuel source)
        | none => gs)
      own
    (l.chain t).tail.foldl (fun gs p => addGroups gs (groups l fuel p)) imported

/-- The macro that a template calls by the name of its group and its own name, and the template
that defines it. -/
def macro? (l : Library) (template group name : String) : Option (String × Macro) := do
  let t ← l.get? template
  let (source, macros) ← (l.groups (l.length + 1) t).lookup group
  return (source, ← macros.lookup name)

end Library

end Stencil.Template
