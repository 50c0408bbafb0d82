import Stencil.Value.Text
import Stencil.Yaml.Cursor

/-! Values as YAML text, in flow collections whose keys are all marked and whose texts are all
quoted. -/

namespace Stencil.Yaml

/-- A character inside double quotes: printable ASCII as it is, all else by its code. -/
def quoteChar (c : Char) : List Char :=
  let n := c.toNat
  if c == '"' || c == '\\' then ['\\', c]
  else if 0x20 ≤ n && n ≤ 0x7e then [c]
  else '\\' :: 'U' :: Text.hexDigits 8 n

/-- A text in double quotes. -/
def quote (s : String) : String := .ofList ('"' :: s.toList.flatMap quoteChar ++ ['"'])

mutual

/-- A value as YAML. -/
def write : Value → String
  | .null => "null"
  | .bool b => if b then "true" else "false"
  | .int n => toString n
  | .float x => Value.floatText x
  | .str s => quote s
  | .list items => "[" ++ ", ".intercalate (writeItems items) ++ "]"
  | .object fields => "\x7b" ++ ", ".intercalate (writeFields fields) ++ "\x7d"

/-- The items of a list as YAML. -/
def writeItems : List Value → List String
  | [] => []
  | v :: rest => write v :: writeItems rest

/-- The fields of an object as YAML. -/
def writeFields : List (String × Value) → List String
  | [] => []
  | (key, v) :: rest => ("? " ++ quote key ++ " : " ++ write v) :: writeFields rest

end

end Stencil.Yaml
