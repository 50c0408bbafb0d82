import Stencil.Decimal.Reading
import Stencil.Template.Basic
import Stencil.Template.Grammar

/-! Reading expressions.

Keys and indices stand behind dots. Those in brackets, as in `a["b"]`, are left out: an expression
with one of them cannot be read. -/

namespace Stencil.Template.Parser

open Stencil.Parser

/-- Reads a truth value. -/
def boolean : Parser Bool :=
  (do exactly "true"; return true) <|> (do exactly "false"; return false) <|>
    (do exactly "True"; return true) <|> (do exactly "False"; return false)

/-- Reads digits without needless zeros in front. -/
def wholeDigits : Parser (List Char) := fun cs =>
  match cs with
  | '0' :: rest => some (['0'], rest)
  | c :: _ =>
    if c.isDigit then some (cs.takeWhile Char.isDigit, cs.dropWhile Char.isDigit) else none
  | [] => none

/-- Reads a number: a whole one of 64 bits, or one with a fraction. -/
def number : Parser Value := do
  let sign ← maybe (exactly "-")
  let whole ← wholeDigits
  let fraction ← maybe do
    exactly "."
    let digits ← takeWhile Char.isDigit
    if digits.isEmpty then failure else return digits
  let signed (digits : List Char) : List Char := if sign.isSome then '-' :: digits else digits
  match fraction with
  | some digits =>
    match Decimal.float? (signed (whole ++ '.' :: digits.toList)) with
    | some x => return .float x
    | none => failure
  | none =>
    let n : Int := Decimal.natOfDigits whole
    let n := if sign.isSome then -n else n
    if -0x8000000000000000 ≤ n ∧ n < 0x8000000000000000 then return .int n else failure

/-- Reads a constant. -/
def literal : Parser Value :=
  (do return .bool (← boolean)) <|> (do return .str (← quoted)) <|> number

/-- Keeps of entries with one name the last. -/
def lastByName {α : Type} (entries : List (String × α)) : List (String × α) :=
  entries.foldr (fun a rest => if rest.any (·.1 == a.1) then rest else a :: rest) []

/-- Reads a comparison. -/
def comparison : Parser Operator :=
  (do exactly "<="; return .le) <|> (do exactly ">="; return .ge) <|>
    (do exactly ">"; return .gt) <|> (do exactly "<"; return .lt) <|>
    (do exactly "=="; return .eq) <|> (do exactly "!="; return .ne)

/-- Reads a connective, which a blank must follow. -/
def connective : Parser Operator :=
  (do exactly "or"; someSpaces; return .or) <|> (do exactly "and"; someSpaces; return .and)

/-- Reads an operation on numbers. -/
def arithmetic : Parser Arithmetic :=
  (do exactly "+"; return .add) <|> (do exactly "-"; return .sub) <|>
    (do exactly "*"; return .mul) <|> (do exactly "/"; return .div) <|>
    (do exactly "%"; return .rem)

/-- Whether an operation binds more tightly than a sum. -/
def isTight : Arithmetic → Bool
  | .add | .sub => false
  | .mul | .div | .rem => true

/-- Joins values by the operations between them, from the left, the tight ones first. `done` is what
stands before the last loose operation, `group` what stands behind it. -/
def joinFrom {ω α : Type} (tight : ω → Bool) (join : ω → α → α → α) (done : Option (α × ω))
    (group : α) : List (ω × α) → α
  | [] =>
    match done with
    | none => group
    | some (l, op) => join op l group
  | (op, a) :: rest =>
    if tight op then joinFrom tight join done (join op group a) rest
    else
      let l := match done with
        | none => group
        | some (l, o) => join o l group
      joinFrom tight join (some (l, op)) a rest

/-- An expression taken for negated or not, whatever it was before. -/
def Expr.asNegated (negated : Bool) : Expr → Expr
  | .mk operand _ filters => .mk operand negated filters

mutual

/-- Reads an expression: values joined by connectives, where `and` binds more tightly. -/
def expr : Nat → Parser Expr
  | 0 => failure
  | fuel + 1 => do
    let first ← logicValue fuel
    let rest ← many do
      spaces
      let op ← connective
      return (op, ← logicValue fuel)
    return joinFrom (· == .and) (fun op l r => .of (.binary op l r)) none first rest

/-- Reads a condition, perhaps negated, or an expression in brackets. Brackets drop the negation of
the whole expression inside them. -/
def logicValue : Nat → Parser Expr
  | 0 => failure
  | fuel + 1 => do
    spaces
    (do
      let negated ← maybe do
        exactly "not"
        someSpaces
      return Expr.asNegated negated.isSome (← condition fuel)) <|>
    (do
      exactly "("
      let e ← expr fuel
      symbol ")"
      return Expr.asNegated false e)

/-- Reads a question of membership, a comparison, or one value. -/
def condition : Nat → Parser Expr
  | 0 => failure
  | fuel + 1 => do
    let (l, isText) ← (do return (← textValue fuel, true)) <|> (do return (← plainValue fuel, false))
    (do
      let negated ← maybe do
        spaces
        exactly "not"
        someSpaces
      symbol "in"
      return .of (.member negated.isSome l (← memberContainer fuel))) <|>
    (do
      let l ← if isText then pure l else sumFrom fuel l
      let right ← maybe do
        spaces
        let op ← comparison
        return (op, ← textValue fuel <|> (do sumFrom fuel (← plainValue fuel)))
      match right with
      | none => return l
      | some (op, r) => return .of (.binary op l r))

/-- Reads what membership is asked of. -/
def memberContainer : Nat → Parser Expr
  | 0 => failure
  | fuel + 1 =>
    textValue fuel <|> filteredList fuel <|> (do spaces; return .of (.name (← dottedName)))

/-- Goes on from a value with the operations on numbers that follow it. -/
def sumFrom : Nat → Expr → Parser Expr
  | 0, _ => failure
  | fuel + 1, first => do
    let rest ← many do
      spaces
      let op ← arithmetic
      return (op, ← plainValue fuel)
    return joinFrom isTight (fun op l r => .of (.arithmetic op l r)) none first rest

/-- Reads a text, or several parts joined to one, and the filters applied to it. -/
def textValue : Nat → Parser Expr
  | 0 => failure
  | fuel + 1 => do
    spaces
    let operand ← joined fuel <|> (do return .literal (.str (← quoted)))
    return .mk operand false (← filters fuel)

/-- Reads texts and numbers joined to one text. -/
def joined : Nat → Parser Operand
  | 0 => failure
  | fuel + 1 => do
    let first ← part fuel
    let rest ← many do
      symbol "~"
      spaces
      part fuel
    if rest.isEmpty then failure else return .joined (first :: rest)

/-- Reads one part of a joined text. -/
def part : Nat → Parser Operand
  | 0 => failure
  | fuel + 1 =>
    call fuel <|> (do return .literal (← number)) <|> (do return .literal (.str (← quoted))) <|>
      (do return .name (← dottedName))

/-- Reads a value that is no text, and the filters applied to it. -/
def plainValue : Nat → Parser Expr
  | 0 => failure
  | fuel + 1 => do
    spaces
    let operand ← sum fuel
    return .mk operand false (← filters fuel)

/-- Reads terms joined by operations on numbers. -/
def sum : Nat → Parser Operand
  | 0 => failure
  | fuel + 1 => do
    let first ← term fuel
    let rest ← many do
      spaces
      let op ← arithmetic
      spaces
      return (op, ← term fuel)
    return joinFrom isTight (fun op l r => .arithmetic op (.of l) (.of r)) none first rest

/-- Reads a sum in brackets or an atom. -/
def term : Nat → Parser Operand
  | 0 => failure
  | fuel + 1 =>
    (do
      exactly "("
      spaces
      let operand ← sum fuel
      symbol ")"
      return operand) <|>
    atom fuel

/-- Reads a list and the filters applied to it. -/
def filteredList : Nat → Parser Expr
  | 0 => failure
  | fuel + 1 => do
    symbol "["
    spaces
    let items ← commaSeparated (logicValue fuel)
    symbol "]"
    return .mk (.list items) false (← filters fuel)

/-- Reads filters. -/
def filters : Nat → Parser (List (String × List (String × Expr)))
  | 0 => failure
  | fuel + 1 => many do
    symbol "|"
    spaces
    let filter ← name
    let args ← maybe (arguments fuel)
    return (filter, args.getD [])

/-- Reads named arguments in brackets. -/
def arguments : Nat → Parser (List (String × Expr))
  | 0 => failure
  | fuel + 1 => do
    symbol "("
    spaces
    let args ← commaSeparated do
      let argument ← name
      symbol "="
      return (argument, ← expr fuel <|> filteredList fuel)
    symbol ")"
    return lastByName args

/-- Reads the call of a function. -/
def call : Nat → Parser Operand
  | 0 => failure
  | fuel + 1 => do
    let function ← name
    return .callFunction function (← arguments fuel)

/-- Reads a truth value, test, call, variable or number. -/
def atom : Nat → Parser Operand
  | 0 => failure
  | fuel + 1 =>
    (do return .literal (.bool (← boolean))) <|>
    test fuel <|>
    (do
      let group ← name
      symbol "::"
      spaces
      let macroName ← name
      return .callMacro group macroName (← arguments fuel)) <|>
    call fuel <|>
    (do return .name (← dottedName)) <|>
    (do return .literal (← number))

/-- Reads a test of a variable. -/
def test : Nat → Parser Operand
  | 0 => failure
  | fuel + 1 => do
    let path ← dottedName
    symbol "is"
    let rest (negated : Bool) : Parser Operand := do
      spaces
      let tester ← name
      let args ← maybe do
        symbol "("
        spaces
        let args ← separated (expr fuel <|> filteredList fuel)
        symbol ")"
        if args.isEmpty then failure else return args
      return .test path negated tester (args.getD [])
    (do symbol "not"; rest true) <|> rest false

end

/-- Reads an expression or a list. -/
def anyExpr (fuel : Nat) : Parser Expr := expr fuel <|> filteredList fuel

/-- Reads what a loop runs over. -/
def container (fuel : Nat) : Parser Expr := plainValue fuel <|> filteredList fuel

end Stencil.Template.Parser
