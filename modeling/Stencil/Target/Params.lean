import Stencil.Source

/-! The parameters of a target: the extension of its files and the outputs that it has. -/

namespace Stencil

/-- An output of a target: a template that is rendered to files. -/
structure Output where
  templateName : String
  /-- The template of the path that a file is written to. -/
  path : String
  /-- The part of a definition that the output is rendered for. -/
  context : Option String := none
deriving DecidableEq, Repr

/-- The parameters of a target. -/
structure TargetParams where
  extension : String := ""
  outputs : List Output := []
deriving DecidableEq, Repr

open Source

variable {σ : Type} [Source σ]

/-- Reads an output. The template's name and the path must be there. -/
def Output.read? (s : σ) : Reading Output := do
  let es ← entries? ["templateName", "path", "context"] s
  return { templateName := ← required es "templateName" text?
           path := ← required es "path" text?
           context := ← field es "context" optionalText? none }

/-- An output as a value. -/
def Output.toValue (o : Output) : Value :=
  .record [("templateName", .str o.templateName), ("path", .str o.path),
    ("context", .optional o.context)]

namespace TargetParams

/-- Reads the parameters of a target. -/
def read? (s : σ) : Reading TargetParams := do
  let es ← entries? ["extension", "outputs"] s
  return { extension := ← field es "extension" text? ""
           outputs := ← field es "outputs" (list? Output.read?) [] }

/-- The parameters of a target as a value. -/
def toValue (p : TargetParams) : Value :=
  .record [("extension", .str p.extension), ("outputs", .list (p.outputs.map Output.toValue))]

end TargetParams

end Stencil
