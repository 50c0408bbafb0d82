import Stencil.Files.Listing
import Stencil.Target.Basic
import Stencil.Toml.Source
import Stencil.Yaml.Source

/-! Targets from their directories.

The directory of a target holds a file of parameters, the templates for outputs below `outputs` and
the partial templates directly in `partials`. -/

namespace Stencil

/-- Whether something stands at a path; it is an error if that cannot be told. -/
def Disk.present (d : Disk) (p : Path) : Except Error Bool := (d.tryExists p).mapError .io

/-- The text of a file. -/
def Disk.textOf (d : Disk) (p : Path) : Except Error String := (d.readText p).mapError .io

namespace TargetParams

/-- The parameters of a YAML text. -/
def ofYaml (text : String) : Except Error TargetParams :=
  match Yaml.parse? read? text with
  | some p => .ok p
  | none => .error .yaml

/-- The parameters of a TOML text. -/
def ofToml (text : String) : Except Error TargetParams :=
  match Toml.read? read? text with
  | some p => .ok p
  | none => .error .toml

/-- The files of parameters, in the order in which they are looked for, and how each is read. -/
def fileNames : List (String × (String → Except Error TargetParams)) :=
  [("params.yml", ofYaml), ("params.yaml", ofYaml), ("params.toml", ofToml)]

/-- The parameters in the first of some files that is in a directory. -/
def loadFirst (d : Disk) (dir : Path) :
    List (String × (String → Except Error TargetParams)) → Except Error TargetParams
  | [] => .error (.config (.noParams dir.text))
  | (name, read) :: rest => do
    if ← d.present (dir.join ⟨name⟩) then read (← d.textOf (dir.join ⟨name⟩))
    else loadFirst d dir rest

/-- The parameters in the directory of a target. -/
def load (d : Disk) (dir : Path) : Except Error TargetParams := loadFirst d dir fileNames

end TargetParams

namespace Target

/-- The name of a component, if it has one. -/
def nameOf? : Path.Component → Option String
  | .name s => some s
  | _ => none

/-- Drops the extension of the last component, if that is a name. -/
def dropExtension (cs : List Path.Component) : List Path.Component :=
  match cs.getLast? with
  | some (.name s) => cs.dropLast ++ [.name (Path.stemOf s)]
  | _ => cs

/-- The name of the template for outputs in a file below `root`: the directories on the way and the
file name without its extension. -/
def outputName (root path : Path) : String :=
  "/".intercalate ((dropExtension (path.componentsBehind root)).filterMap nameOf?)

/-- The names and sources of the templates in some files. -/
def readSources (d : Disk) (name : Path → String) (paths : List Path) :
    Except Error (List (String × String)) :=
  paths.mapM fun p =>
    match d.readText p with
    | .ok text => .ok (name p, text)
    | .error cause => .error (.template (.unreadable p.text cause))

/-- The target of a name below the directory for targets. -/
def load (d : Disk) (root : Path) (name : String) : Except Error Target := do
  let dir := root.join ⟨name⟩
  if !d.isDir dir then throw (.targetNotDefined name)
  let params ← TargetParams.load d dir
  let partials := dir.join ⟨"partials"⟩
  let partialSources ← readSources d Path.stem (listFiles d partials false)
  let outputs := dir.join ⟨"outputs"⟩
  let outputSources ← readSources d (outputName outputs) (listFiles d outputs true)
  compile name params partialSources outputSources

end Target

end Stencil
