import Stencil.Files.Disk
import Stencil.Yaml.Source

/-! Manifests: lists of builds, each with its targets, documents, settings and output directory. -/

namespace Stencil

/-- One build. -/
structure BuildSpec where
  targets : List String
  /-- Patterns of the documents. -/
  templates : List String
  /-- Patterns of the augmentations. -/
  augmentations : List String := []
  options : Fields := []
  extensions : Fields := []
  output : String

/-- A list of builds. -/
structure Manifest where
  builds : List BuildSpec := []

open Source

variable {σ : Type} [Source σ]

/-- Reads a build. Targets, documents and output must be there. -/
def BuildSpec.read? (s : σ) : Reading BuildSpec := do
  let es ← entries? ["targets", "templates", "augmentations", "options", "extensions", "output"] s
  return { targets := ← required es "targets" patterns?
           templates := ← required es "templates" patterns?
           augmentations := ← field es "augmentations" patterns? []
           options := ← field es "options" fields? []
           extensions := ← field es "extensions" fields? []
           output := ← required es "output" text? }

namespace Manifest

/-- Reads a manifest. -/
def read? (s : σ) : Reading Manifest := do
  let es ← entries? ["builds"] s
  return { builds := ← field es "builds" (list? BuildSpec.read?) [] }

/-- The manifest of a text. -/
def parse (text : String) : Except Error Manifest :=
  match Yaml.parse? read? text with
  | some m => .ok m
  | none => .error .yaml

/-- The manifest of a file. -/
def load (d : Disk) (path : Path) : Except Error Manifest :=
  match d.readText path with
  | .ok text => parse text
  | .error cause => .error (.config (.unreadableManifest path.text cause))

end Manifest

end Stencil
