import Stencil.Template.ExprReader

/-! Reading templates.

Parents and macro groups are named before anything else; the blanks around these tags do not
count.

Some tags of Tera are left out, and a template with one of them cannot be read: `set_global`,
`filter`, `break` and `continue`, and `include` with several names or with `ignore missing`. -/

namespace Stencil.Template.Parser

open Stencil.Parser

/-- Reads the start of a tag and tells whether the blanks before it are dropped. -/
def tagStart : Parser Bool :=
  (do exactly "\x7b%-"; return true) <|> (do exactly "\x7b%"; return false)

/-- Reads the end of a tag and tells whether the blanks behind it are dropped. -/
def tagEnd : Parser Bool := do
  spaces
  (do exactly "-%\x7d"; return true) <|> (do exactly "%\x7d"; return false)

/-- Reads a tag that holds only a keyword. -/
def bareTag (keyword : String) : Parser Trim := do
  let left ← tagStart
  symbol keyword
  return ⟨left, ← tagEnd⟩

/-- Reads a closing tag, in which a name may be repeated. -/
def closingTag (keyword : String) : Parser Trim := do
  let left ← tagStart
  symbol keyword
  spaces
  let _ ← maybe name
  return ⟨left, ← tagEnd⟩

/-- Reads the start of a tag up to its keyword and the blanks behind it. -/
def openTag (keyword : String) : Parser Bool := do
  let left ← tagStart
  symbol keyword
  someSpaces
  return left

/-- Splits characters where `p` first reads; returns what stands before and what was read. -/
def splitAt {α : Type} (p : Parser α) : List Char → Option (List Char × α × List Char)
  | [] => (p []).map fun r => ([], r.1, r.2)
  | c :: cs =>
    match p (c :: cs) with
    | some (a, rest) => some ([], a, rest)
    | none => (splitAt p cs).map fun r => (c :: r.1, r.2)

/-- Reads up to where `p` reads, and that. -/
def upTo {α : Type} (p : Parser α) : Parser (String × α) := fun cs =>
  (splitAt p cs).map fun r => ((.ofList r.1, r.2.1), r.2.2)

/-- The start of any tag. -/
def anyStart : Parser Unit := exactly "\x7b\x7b" <|> exactly "\x7b%" <|> exactly "\x7b#"

/-- Text up to the start of a tag or to the end. -/
def plainText : List Char → List Char × List Char
  | [] => ([], [])
  | c :: cs =>
    if (anyStart (c :: cs)).isSome then ([], c :: cs)
    else
      let (text, rest) := plainText cs
      (c :: text, rest)

/-- Reads text, of which there must be some. -/
def text : Parser Node := fun cs =>
  let (text, rest) := plainText cs
  if text.isEmpty then none else some (.text (.ofList text), rest)

/-- Reads a comment, which holds at least one character. -/
def comment : Parser Node := do
  let left ← (do exactly "\x7b#-"; return true) <|> (do exactly "\x7b#"; return false)
  let (text, right) ←
    upTo ((do exactly "-#\x7d"; return true) <|> (do exactly "#\x7d"; return false))
  if text.isEmpty then failure else return .comment ⟨left, right⟩

/-- Reads text in which tags do not count, of which there must be some. -/
def raw : Parser Node := do
  let opening ← bareTag "raw"
  let (text, closing) ← upTo (bareTag "endraw")
  if text.isEmpty then failure else return .raw opening text closing

/-- Reads the start of a printed part and tells whether the blanks before it are dropped. -/
def printStart : Parser Bool :=
  (do exactly "\x7b\x7b-"; return true) <|> (do exactly "\x7b\x7b"; return false)

/-- Reads the end of a printed part and tells whether the blanks behind it are dropped. -/
def printEnd : Parser Bool := do
  spaces
  (do exactly "-\x7d\x7d"; return true) <|> (do exactly "\x7d\x7d"; return false)

/-- Reads a printed expression. -/
def print (fuel : Nat) : Parser Node := do
  let left ← printStart
  let e ← anyExpr fuel
  return .print ⟨left, ← printEnd⟩ e

/-- Reads the place where the replaced block is printed. -/
def parentBlock : Parser Node := do
  let _ ← printStart
  symbol "super()"
  let _ ← printEnd
  return .parentBlock

/-- Reads an assignment. -/
def assign (fuel : Nat) : Parser Node := do
  let left ← openTag "set"
  let target ← name
  symbol "="
  let e ← anyExpr fuel
  return .assign ⟨left, ← tagEnd⟩ target e

/-- Reads the insertion of another template. -/
def insert : Parser Node := do
  let left ← openTag "include"
  let template ← quoted
  return .insert ⟨left, ← tagEnd⟩ template

/-- Reads the naming of a group of macros, with the blanks around it. -/
def importMacros : Parser Node := do
  spaces
  let left ← openTag "import"
  let template ← quoted
  someSpaces
  exactly "as"
  someSpaces
  let group ← name
  let right ← tagEnd
  spaces
  return .importMacros ⟨left, right⟩ template group

/-- Reads the naming of a parent, with the blanks around it. -/
def extend : Parser Node := do
  spaces
  let left ← openTag "extends"
  let template ← quoted
  let right ← tagEnd
  spaces
  return .extend ⟨left, right⟩ template

/-- Reads the tags that stand before everything else: a parent and then groups of macros, or groups
of macros and then perhaps a parent. -/
def references : Parser (List Node) :=
  (do
    let parent ← extend
    return parent :: (← many importMacros)) <|>
  (do
    let imports ← many importMacros
    let parent ← maybe extend
    return imports ++ parent.toList)

/-- Reads the parameters of a macro, with the constants that stand in for absent ones; no blank may
stand around the sign between the two. -/
def params : Parser (List (String × Option Value)) := do
  symbol "("
  spaces
  let params ← separated do
    let param ← name
    let default ← maybe do
      exactly "="
      literal
    return (param, default)
  symbol ")"
  return lastByName params

/-- Where a piece of a template stands, which decides what it may be. -/
inductive Place where
  /-- Outside of blocks, loops and macros. -/
  | outside
  | inBlock
  /-- In a loop or a macro, where no block may stand. -/
  | inside
deriving DecidableEq, Repr

mutual

/-- Reads one piece of a template. -/
def node (place : Place) : Nat → Parser Node
  | 0 => failure
  | fuel + 1 =>
    text <|> (if place = .inBlock then parentBlock else failure) <|> print fuel <|> comment <|> raw <|>
      insert <|> assign fuel <|> branch place fuel <|> loop fuel <|>
      (if place = .inside then failure else block fuel)

/-- Reads the cases of a branch. -/
def branch (place : Place) : Nat → Parser Node
  | 0 => failure
  | fuel + 1 => do
    let first ← oneCase place "if" fuel
    let rest ← many (oneCase place "elif" fuel)
    let otherwise ← maybe do
      let trim ← bareTag "else"
      return (trim, ← many (node place fuel))
    return .branch (first :: rest) otherwise (← bareTag "endif")

/-- Reads one case of a branch. -/
def oneCase (place : Place) (keyword : String) : Nat → Parser (Trim × Expr × List Node)
  | 0 => failure
  | fuel + 1 => do
    let left ← openTag keyword
    let condition ← expr fuel
    let right ← tagEnd
    return (⟨left, right⟩, condition, ← many (node place fuel))

/-- Reads a loop. Of several bodies for no items the last one counts. -/
def loop : Nat → Parser Node
  | 0 => failure
  | fuel + 1 => do
    let left ← openTag "for"
    let first ← name
    let second ← maybe do
      exactly ","
      spaces
      name
    someSpaces
    exactly "in"
    someSpaces
    let values ← container fuel
    let right ← tagEnd
    let body ← many (node .inside fuel)
    let others ← many do
      let _ ← bareTag "else"
      many (node .inside fuel)
    let (key, item) := match second with
      | some item => (some first, item)
      | none => (none, first)
    return .loop ⟨left, right⟩ key item values body others.getLast? (← bareTag "endfor")

/-- Reads a block that a child may replace. -/
def block : Nat → Parser Node
  | 0 => failure
  | fuel + 1 => do
    let left ← openTag "block"
    let blockName ← name
    let right ← tagEnd
    let body ← many (node .inBlock fuel)
    return .block ⟨left, right⟩ blockName body (← closingTag "endblock")

end

/-- Reads a macro. -/
def defineMacro (fuel : Nat) : Parser Node := do
  let left ← openTag "macro"
  let macroName ← name
  let params ← params
  let right ← tagEnd
  let body ← many (node .inside fuel)
  return .defineMacro ⟨left, right⟩ macroName params body (← closingTag "endmacro")

/-- Reads a whole template. Comments at its very start leave no trace, not even in the blanks around
them. -/
def template (fuel : Nat) : Parser (List Node) := do
  let _ ← many comment
  let head ← references
  let body ← many (node .outside fuel <|> defineMacro fuel)
  if (← get).isEmpty then return head ++ body else failure

end Stencil.Template.Parser
