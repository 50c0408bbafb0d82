import Stencil.Text.Parser

/-! Blanks, names and texts in the tags of templates. -/

namespace Stencil.Template.Parser

open Stencil.Parser

variable {α : Type}

/-- Blanks between the parts of a tag. -/
def isSpace (c : Char) : Bool := c == ' ' || c == '\t' || c == '\r' || c == '\n'

/-- Passes over blanks. -/
def spaces : Parser Unit := fun cs => some ((), cs.dropWhile isSpace)

/-- Passes over blanks, of which there must be at least one. -/
def someSpaces : Parser Unit := fun cs =>
  match cs with
  | c :: rest => if isSpace c then some ((), rest.dropWhile isSpace) else none
  | [] => none

/-- Passes over blanks and reads the given characters. -/
def symbol (s : String) : Parser Unit := do
  spaces
  exactly s

/-- Reads items divided by commas. -/
def separated (item : Parser α) : Parser (List α) := do
  match ← maybe item with
  | none => return []
  | some first =>
    let rest ← many do
      symbol ","
      spaces
      item
    return first :: rest

/-- Reads items divided by commas; a comma may follow the last one. -/
def commaSeparated (item : Parser α) : Parser (List α) := do
  let items ← separated item
  if items.isEmpty then return []
  let _ ← maybe (symbol ",")
  return items

/-- Characters that may start a name. -/
def isNameStart (c : Char) : Bool := c.isAlpha || c == '_'

/-- Characters of a name. -/
def isNameChar (c : Char) : Bool := c.isAlphanum || c == '_'

/-- Reads a name. -/
def name : Parser String := fun cs =>
  match cs with
  | c :: _ => if isNameStart c then takeWhile isNameChar cs else none
  | [] => none

/-- Reads a name and the keys and indices behind it, divided by dots. -/
def dottedName : Parser (List String) := do
  let first ← name
  let rest ← many do
    exactly "."
    let key ← takeWhile isNameChar
    if key.isEmpty then failure else return key
  return first :: rest

/-- Reads a text in the given quotes; nothing in it is escaped. -/
def quotedBy (quote : Char) : Parser String := do
  exactly (String.singleton quote)
  let s ← takeWhile (· != quote)
  exactly (String.singleton quote)
  return s

/-- Reads a text in double quotes, single quotes or backquotes. -/
def quoted : Parser String := quotedBy '"' <|> quotedBy '\'' <|> quotedBy '\x60'

end Stencil.Template.Parser
