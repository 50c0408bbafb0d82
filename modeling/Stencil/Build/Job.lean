import Stencil.Build.Prepare
import Stencil.Build.Selection
import Stencil.Definition.Context

/-! The files of a build: every output of every target is rendered for every definition, once for
each element of the part of the definition that the output is for. -/

namespace Stencil

/-- An output of a target that is rendered for a definition. -/
structure Job where
  target : Target
  /-- The place of the output among those of the target. -/
  index : Nat
  output : Output
  definitionName : String
  definition : Value

namespace Job

/-- The elements that the output is rendered for. -/
def elements (j : Job) : Except Error (List Value) := do
  if !j.target.hasTemplate j.output.templateName then
    throw (.templateNotDefined j.output.templateName j.target.name)
  return (← Value.resolve j.definitionName j.definition j.output.context).elements

/-- Drops slashes, of either kind, from the start of a path. -/
def trimSlashes (relative : String) : Path :=
  ⟨.ofList (relative.toList.dropWhile fun c => c == '/' || c == '\\')⟩

/-- The path below `root` and the text of the file for an element. -/
def file (j : Job) (root : Path) (element : Value) : Except Error (Path × String) := do
  let context := j.target.context element j.definition
  let relative ← j.target.renderPath j.index j.output context
  let contents ← j.target.renderContents j.output context
  return (root.join (trimSlashes relative), contents)

/-- Writes the file for an element. -/
def writeElement (j : Job) (root : Path) (element : Value) : Run Path := do
  let (path, contents) ← Run.ofExcept (j.file root element)
  Run.report [.info ("Generating output for " ++ path.text ++ "...")]
  if let some parent := path.parent? then
    Run.change (·.makeDirs parent)
  Run.change (·.writeText path contents)
  return path

/-- Writes the files for all elements. -/
def run (j : Job) (root : Path) : Run (List Path) := do
  (← Run.ofExcept j.elements).mapM (j.writeElement root)

end Job

namespace Prepared

/-- The jobs of a build for definitions given as values: by target, by output, by definition. -/
def jobs (p : Prepared) (definitions : List (String × Value)) : List Job :=
  p.targets.flatMap fun target =>
    target.outputs.flatMap fun (index, output) =>
      definitions.map fun (name, definition) => ⟨target, index, output, name, definition⟩

/-- The definitions as values that templates are rendered with. -/
def contexts (p : Prepared) : Except Error (List (String × Value)) :=
  p.definitions.mapM fun d => do return (d.name, ← d.contextValue)

/-- Writes all files of a build. Returns their paths. -/
def render (p : Prepared) : Run (List Path) := do
  let definitions ← Run.ofExcept p.contexts
  return (← (p.jobs definitions).mapM (·.run p.output)).flatten

end Prepared

end Stencil
