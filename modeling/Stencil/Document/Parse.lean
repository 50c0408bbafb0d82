import Stencil.Document.Read
import Stencil.Files.Disk
import Stencil.Text.Letter
import Stencil.Yaml.Source

/-! Documents as YAML text. A text of blanks only is an empty document. -/

namespace Stencil.Document

/-- The document of a text. -/
def parse (text : String) : Except Error Document :=
  if (Text.trim text).isEmpty then .ok {}
  else
    match Yaml.parse? read? text with
    | some d => .ok d
    | none => .error .yaml

/-- The document of a file. -/
def load (d : Disk) (path : Path) : Except Error Document :=
  match d.readText path with
  | .ok text => parse text
  | .error cause => .error (.io cause)

end Stencil.Document
