import Stencil.Error
import Stencil.Target.Params
import Stencil.Template.Render
import Stencil.Text.Letter

/-! Targets: templates that are ready to be rendered, and the outputs that they are rendered to.

A target has templates for outputs and partial templates that those insert and import. The path of
every output is a template too, kept beside the others under a name of its own. -/

namespace Stencil

/-- A target. -/
structure Target where
  name : String
  params : TargetParams
  library : Template.Library
  /-- The names of the templates for outputs. -/
  templates : List String

namespace Target

/-- What the names of the templates of paths start with. -/
def pathMark : String := "@path/"

/-- The name of the template of the path of an output. -/
def pathName (index : Nat) : String := pathMark ++ toString index

/-- The least name that stands in both lists. -/
def sharedName? (names others : List String) : Option String :=
  ((names.filter (· ∈ others)).mergeSort (· ≤ ·)).head?

/-- Adds the templates of the paths of outputs, which are counted from `index`. -/
def addPaths (target : String) (l : Template.Library) (index : Nat) :
    List Output → Except Error Template.Library
  | [] => .ok l
  | o :: rest =>
    match l.add [(pathName index, o.path)] with
    | .ok l => addPaths target l (index + 1) rest
    | .error cause => .error (.template (.invalidPath o.path o.templateName target cause))

/-- Puts a target together from the sources of its partial templates and of its templates for
outputs. The partial templates must fit together without the others. -/
def compile (name : String) (params : TargetParams) (partials templates : List (String × String)) :
    Except Error Target := do
  let names := templates.map (·.1)
  if let some shared := sharedName? (partials.map (·.1)) names then
    throw (.template (.sharedName name shared))
  let .ok l := Template.Library.add [] partials | throw .engine
  let .ok l := l.add templates | throw .engine
  return { name, params, library := ← addPaths name l 0 params.outputs, templates := names }

/-- Whether a target has a template for outputs of this name. -/
def hasTemplate (t : Target) (name : String) : Bool := t.templates.contains name

/-- The names of all templates of a target, those of paths apart. -/
def templateNames (t : Target) : List String :=
  (t.library.map (·.1)).filter fun n => !(pathMark.toList).isPrefixOf n.toList

/-- A target as a value. -/
def toValue (t : Target) : Value :=
  .record [("name", .str t.name), ("extension", .str t.params.extension),
    ("templates", .strings t.templateNames),
    ("outputs", .list (t.params.outputs.map Output.toValue))]

/-- The outputs of a target with their places. -/
def outputs (t : Target) : List (Nat × Output) :=
  t.params.outputs.mapIdx fun i o => (i, o)

/-- The fields that an element of a definition is rendered with: its own fields, or the element
itself as `value`, and the whole definition and the target. -/
def context (t : Target) (element definition : Value) : Fields :=
  let own : Fields := match element with
    | .object fields => fields
    | v => [("value", v)]
  (own.insert "definition" definition).insert "target"
    (.record [("name", .str t.name), ("extension", .str t.params.extension)])

/-- The text of an output in a context. -/
def renderContents (t : Target) (o : Output) (context : Fields) : Except Error String :=
  if t.hasTemplate o.templateName then
    match t.library.render? o.templateName context with
    | some text => .ok text
    | none => .error (.template (.renderFailed o.templateName t.name))
  else .error (.templateNotDefined o.templateName t.name)

/-- The path of an output in a context, without blanks around it. -/
def renderPath (t : Target) (index : Nat) (o : Output) (context : Fields) : Except Error String :=
  match t.library.render? (pathName index) context with
  | none => .error (.template (.pathFailed o.path o.templateName))
  | some text =>
    let path := Text.trim text
    if path.isEmpty then .error (.template (.emptyPath o.path o.templateName)) else .ok path

end Target

end Stencil
