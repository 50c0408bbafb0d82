import Stencil.Decimal.Layout
import Stencil.Text.Hex
import Stencil.Value.Basic

/-! Values as text: as data, in the compact notation with braces and quoted keys, and as rendered
into a template's output. -/

namespace Stencil.Value

/-- A character inside quotes. -/
def quoteChar (c : Char) : List Char :=
  match c with
  | '"' => ['\\', '"']
  | '\\' => ['\\', '\\']
  | '\n' => ['\\', 'n']
  | '\r' => ['\\', 'r']
  | '\t' => ['\\', 't']
  | '\x08' => ['\\', 'b']
  | '\x0c' => ['\\', 'f']
  | _ =>
    if c.toNat < 0x20 then '\\' :: 'u' :: Text.hexDigits 4 c.toNat else [c]

/-- A text in quotes. -/
def quote (s : String) : String := .ofList ('"' :: s.toList.flatMap quoteChar ++ ['"'])

/-- A floating-point number as data; one that is not finite has no notation. -/
def floatText (x : Float) : String := if x.isFinite then Decimal.data.format x else "null"

mutual

/-- A value as data. -/
def compact : Value → String
  | .null => "null"
  | .bool b => if b then "true" else "false"
  | .int n => toString n
  | .float x => floatText x
  | .str s => quote s
  | .list items => "[" ++ ",".intercalate (compactItems items) ++ "]"
  | .object fields => "\x7b" ++ ",".intercalate (compactFields fields) ++ "\x7d"

/-- The items of a list as data. -/
def compactItems : List Value → List String
  | [] => []
  | v :: rest => compact v :: compactItems rest

/-- The fields of an object as data. -/
def compactFields : List (String × Value) → List String
  | [] => []
  | (key, v) :: rest => (quote key ++ ":" ++ compact v) :: compactFields rest

end

mutual

/-- A value as rendered: null as nothing, a list in brackets, an object by a placeholder. -/
def rendered : Value → String
  | .null => ""
  | .bool b => if b then "true" else "false"
  | .int n => toString n
  | .float x => Decimal.rendered.format x
  | .str s => s
  | .list items => "[" ++ ", ".intercalate (renderedItems items) ++ "]"
  | .object _ => "[object]"

/-- The items of a list as rendered. -/
def renderedItems : List Value → List String
  | [] => []
  | v :: rest => rendered v :: renderedItems rest

end

end Stencil.Value
