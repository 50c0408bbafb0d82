import Stencil.Source
import Stencil.Toml.Parse

/-! Reading records from TOML.

A record may be written as a list of its fields, in which further items do not count. -/

namespace Stencil.Toml

/-- A value that comes from a TOML text. -/
structure Datum where
  value : Value

namespace Datum

/-- The fields of a record: those of a table by name, or the items of a list by position. -/
def entries? (names : List String) (d : Datum) : Option (List (String × Datum)) :=
  match d.value with
  | .object fields => some (fields.map fun f => (f.1, ⟨f.2⟩))
  | .list items => some (names.zip (items.map mk))
  | _ => none

instance : Source Datum where
  text? d := Source.text? d.value
  optionalText? d := Source.optionalText? d.value
  flag? d := Source.flag? d.value
  count? d := Source.count? d.value
  items? d := do return (← Source.items? d.value).map mk
  entries? names d := .of (d.entries? names)
  fields? d := Source.fields? d.value
  patterns? d := Source.patterns? d.value

end Datum

/-- Reads a text as a whole. -/
def read? {α : Type} (read : Datum → Reading α) (text : String) : Option α := do
  (read ⟨← parse? text⟩).run' 0

end Stencil.Toml
