import Stencil.Augmentation.Basic
import Stencil.Files.Disk
import Stencil.Text.Letter
import Stencil.Yaml.Source

/-! Augmentations as YAML text. A text of blanks only is an empty augmentation. -/

namespace Stencil.Augmentation

/-- The augmentation of a text. -/
def parse (text : String) : Except Error Augmentation :=
  if (Text.trim text).isEmpty then .ok {}
  else
    match Yaml.parse? read? text with
    | some a => .ok a
    | none => .error .yaml

/-- The augmentation of a file. -/
def load (d : Disk) (path : Path) : Except Error Augmentation :=
  match d.readText path with
  | .ok text => parse text
  | .error cause => .error (.io cause)

end Stencil.Augmentation
