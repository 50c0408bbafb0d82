import Stencil.Augmentation.Basic
import Stencil.Document.Write

/-! Augmentations as values: every field is written. -/

namespace Stencil.Augmentation

/-- A patch as a value. -/
def Patch.toValue (p : Patch) : Value :=
  .record [("name", .str p.name), ("extensions", .object p.extensions),
    ("methods", .list (p.methods.map Document.Method.toValue))]

/-- An augmentation as a value. -/
def toValue (a : Augmentation) : Value :=
  .record [("fqn", .optional a.fqn), ("extensions", .object a.extensions),
    ("models", .list (a.models.map Patch.toValue))]

end Stencil.Augmentation
