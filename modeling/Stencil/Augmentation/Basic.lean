import Stencil.Document.Read
import Stencil.Log

/-! Augmentations: documents that add extensions to another document, and extensions and methods to
its models, without touching it. -/

namespace Stencil

namespace Augmentation

/-- What is added to one model. -/
structure Patch where
  name : String := ""
  extensions : Fields := []
  methods : List Document.Method := []

end Augmentation

/-- An augmentation. Its full name says which document it is for. -/
structure Augmentation where
  fqn : Option String := none
  extensions : Fields := []
  models : List Augmentation.Patch := []

namespace Augmentation

open Source

variable {σ : Type} [Source σ]

/-- Reads what is added to one model. -/
def Patch.read? (s : σ) : Reading Patch := do
  let es ← entries? ["name", "extensions", "methods"] s
  return { name := ← field es "name" text? ""
           extensions := ← field es "extensions" fields? []
           methods := ← field es "methods" (list? Document.Method.read?) [] }

/-- Reads an augmentation. -/
def read? (s : σ) : Reading Augmentation := do
  let es ← entries? ["fqn", "extensions", "models"] s
  return { fqn := ← field es "fqn" optionalText? none
           extensions := ← field es "extensions" fields? []
           models := ← field es "models" (list? Patch.read?) [] }

/-- A model with what a patch adds to it. -/
def Patch.applyToModel (p : Patch) (m : Document.Model) : Document.Model :=
  { m with extensions := m.extensions.override p.extensions, methods := m.methods ++ p.methods }

/-- The models with the first one of the name changed, or none if there is no such model. -/
def changeFirst (name : String) (change : Document.Model → Document.Model) :
    List Document.Model → Option (List Document.Model)
  | [] => none
  | m :: rest =>
    if m.name = name then some (change m :: rest)
    else (changeFirst name change rest).map (m :: ·)

/-- The report about a patch for a model that is not there. -/
def unknownModel (a : Augmentation) (p : Patch) : Record :=
  .warn ("Augmentation " ++ a.fqn.getD "<unnamed>" ++ " patches unknown model " ++ p.name ++
    ", skipping")

/-- Applies one patch. -/
def applyPatch (a : Augmentation) (s : Document × List Record) (p : Patch) :
    Document × List Record :=
  match changeFirst p.name p.applyToModel s.1.models with
  | some models => ({ s.1 with models }, s.2)
  | none => (s.1, s.2 ++ [a.unknownModel p])

/-- Applies an augmentation to a document; patches for models that are not there are reported. -/
def applyTo (a : Augmentation) (d : Document) : Document × List Record :=
  a.models.foldl a.applyPatch ({ d with extensions := d.extensions.override a.extensions }, [])

end Augmentation

end Stencil
