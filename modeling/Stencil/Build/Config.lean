import Stencil.Files.Disk
import Stencil.Yaml.Source
import Stencil.Yaml.Write

/-! Settings of a run: where targets are, where patterns and outputs start, and the options and
extensions that every build starts from. -/

namespace Stencil

/-- The settings of a run. -/
structure Config where
  targetsDir : Option String := none
  workingDir : Option String := none
  /-- How many reads and jobs may be under way at once. Here they are done one after another, as
  they are with 0 or 1; with more, it is left open which of several failures comes first and what
  has been written by then. -/
  concurrency : Nat := 16
  options : Fields := []
  extensions : Fields := []

namespace Config

open Source

/-- Reads settings. -/
def read? {σ : Type} [Source σ] (s : σ) : Reading Config := do
  let es ← entries? ["targets_dir", "working_dir", "concurrency", "options", "extensions"] s
  return { targetsDir := ← field es "targets_dir" optionalText? none
           workingDir := ← field es "working_dir" optionalText? none
           concurrency := ← field es "concurrency" count? 16
           options := ← field es "options" fields? []
           extensions := ← field es "extensions" fields? [] }

/-- Settings as a value. -/
def toValue (c : Config) : Value :=
  .record [("targets_dir", .optional c.targetsDir), ("working_dir", .optional c.workingDir),
    ("concurrency", .int c.concurrency), ("options", .object c.options),
    ("extensions", .object c.extensions)]

/-- The settings of a file. -/
def load (d : Disk) (path : Path) : Except Error Config := do
  match d.readText path with
  | .error cause => throw (.io cause)
  | .ok text =>
    match Yaml.parse? read? text with
    | some c => return c
    | none => throw .yaml

/-- Settings as the text of a file. -/
def save (c : Config) : String := Yaml.write c.toValue ++ "\n"

/-- Where patterns and outputs start. -/
def workingDirOr (c : Config) (default : Path) : Path := (c.workingDir.map Path.mk).getD default

end Config

/-- What a run takes from its surroundings. -/
structure Environment where
  /-- The directory for targets that is set for all runs. -/
  targetsDir : Option String := none
  /-- The home directory. -/
  home : Option String := none

/-- The directory for targets: the one in the settings, which must exist, or the first that exists
of the one set for all runs, the local one and the one in the home directory. -/
def Config.targetsRoot (c : Config) (env : Environment) (d : Disk) : Except Error Path :=
  match c.targetsDir with
  | some dir =>
    if d.hasEntry ⟨dir⟩ then .ok ⟨dir⟩ else .error (.io (.targetsDirMissing dir))
  | none =>
    let places := env.targetsDir.toList.map Path.mk ++ [⟨"targets"⟩] ++
      env.home.toList.map fun home => ((Path.mk home).join ⟨".symvasi"⟩).join ⟨"targets"⟩
    match places.find? d.hasEntry with
    | some dir => .ok dir
    | none => .error (.io .noTargetsDir)

end Stencil
