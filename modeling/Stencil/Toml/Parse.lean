import Stencil.Toml.Grammar

/-! TOML texts as values. -/

namespace Stencil.Toml

open Stencil.Parser

/-- A line that is not empty. -/
inductive Line where
  | assign (path : List String) (key : String) (v : Value)
  | header (path : List String) (key : String)
  | listHeader (path : List String) (key : String)

/-- Reads a key between brackets. -/
def bracketed (opening closing : String) : Parser (List String × String) := do
  exactly opening
  spaces
  let k ← key
  spaces
  exactly closing
  return k

/-- Reads what stands on a line. -/
def lineContent : Parser Line :=
  (do let (path, k) ← bracketed "[[" "]]"; return .listHeader path k)
    <|> (do let (path, k) ← bracketed "[" "]"; return .header path k)
    <|> (do let ((path, k), v) ← pair (value (limit - 1)); return .assign path k v)

/-- Reads a line up to its end, or up to the end of the text. -/
def line : Parser (Option Line) := do
  spaces
  let content ← maybe lineContent
  spaces
  let _ ← maybe comment
  newline <|> atEnd
  return content

/-- Reads all lines. -/
def lines : Parser (List Line) := do
  let _ ← maybe (exactly "\ufeff")
  let all ← many line
  atEnd
  return all.filterMap id

/-- What has been read: all tables, and the path of the one that was named last. -/
structure State where
  root : Table := .mk .declared []
  current : List String := []

/-- Takes in a line. -/
def State.step (s : State) : Line → Option State
  | .assign path k v => do
    return { s with root := ← s.root.change .implied (·.assign path k v) s.current }
  | .header path k => do return ⟨← s.root.declare path k, path ++ [k]⟩
  | .listHeader path k => do return ⟨← s.root.append path k, path ++ [k]⟩

/-- The table that a text holds, as a value. -/
def parse? (text : String) : Option Value := do
  let (all, _) ← lines.run text.toList
  let s ← all.foldlM State.step {}
  return s.root.toValue

end Stencil.Toml
