import Stencil.Augmentation.Index
import Stencil.Augmentation.Parse
import Stencil.Build.Config
import Stencil.Build.Manifest
import Stencil.Build.Run
import Stencil.Definition.Build
import Stencil.Document.Parse
import Stencil.Glob.Expand
import Stencil.Target.Load

/-! Loading what a build needs: its targets, its augmentations and then its definitions. -/

namespace Stencil

/-- Where builds are done, and with which settings. -/
structure Site where
  config : Config
  targetsRoot : Path
  /-- Where patterns and outputs start. -/
  workingDir : Path

/-- A build whose targets and definitions have been loaded. -/
structure Prepared where
  targets : List Target
  definitions : List Definition
  /-- The number of augmentations. -/
  augmentations : Nat
  /-- The directory that files are written to. -/
  output : Path

namespace Site

/-- The directory of a manifest. -/
def manifestDir (manifest : Path) : Path :=
  match manifest.parent? with
  | some dir => if dir.text.isEmpty then ⟨"."⟩ else dir
  | none => ⟨"."⟩

/-- The site of the builds of a manifest. -/
def locate (config : Config) (env : Environment) (manifest : Path) (d : Disk) :
    Except Error Site := do
  let workingDir := config.workingDirOr (manifestDir manifest)
  return { config, targetsRoot := ← config.targetsRoot env d, workingDir }

/-- The targets of the given names, each once. -/
def loadTargets (s : Site) (names : List String) (d : Disk) : Except Error (List Target) :=
  names.eraseDups.mapM (Target.load d s.targetsRoot)

/-- The augmentations that patterns stand for. -/
def loadAugmentations (s : Site) (patterns : List String) (d : Disk) :
    Except Error Augmentation.Index := do
  let paths ← Glob.files d s.workingDir patterns
  return .ofList (← paths.mapM fun p => do return (p, ← Augmentation.load d p))

/-- The options of a build, over those of the settings. -/
def options (s : Site) (b : BuildSpec) : Fields := s.config.options.override b.options

/-- The extensions of a build, over those of the settings. -/
def extensions (s : Site) (b : BuildSpec) : Fields := s.config.extensions.override b.extensions

/-- The definition of a document: it is augmented, and then the extensions and options of the build
are put over its own. -/
def loadDefinition (s : Site) (b : BuildSpec) (index : Augmentation.Index) (path : Path) :
    Run Definition := do
  let document ← Run.look (Document.load · path)
  let (document, _, records) := index.augment path.stem document
  Run.report records
  let document := { document with extensions := document.extensions.override (s.extensions b) }
  Run.ofExcept (Definition.build path.stem document (s.options b))

/-- The definitions of a build. -/
def loadDefinitions (s : Site) (b : BuildSpec) (index : Augmentation.Index) :
    Run (List Definition) := do
  let paths ← Run.look (Glob.files · s.workingDir b.templates)
  paths.mapM (s.loadDefinition b index)

/-- Loads what a build needs. -/
def prepare (s : Site) (b : BuildSpec) : Run Prepared := do
  let targets ← Run.look (s.loadTargets b.targets)
  let index ← Run.look (s.loadAugmentations b.augmentations)
  let definitions ← s.loadDefinitions b index
  return { targets, definitions, augmentations := index.size
           output := s.workingDir.join ⟨b.output⟩ }

end Site

end Stencil
