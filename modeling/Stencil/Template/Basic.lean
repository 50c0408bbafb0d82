import Stencil.Value.Basic

/-! Templates: text with printed expressions, branches, loops and pieces of other templates.

A tag may ask for the blanks of the text before or behind it to be dropped. -/

namespace Stencil.Template

/-- Comparisons and connectives. -/
inductive Operator where
  | or
  | and
  | eq
  | ne
  | lt
  | le
  | gt
  | ge
deriving DecidableEq, Repr

/-- Operations on numbers. -/
inductive Arithmetic where
  | add
  | sub
  | mul
  | div
  | rem
deriving DecidableEq, Repr

mutual

/-- An operand with the filters applied to it, perhaps negated. -/
inductive Expr where
  | mk (operand : Operand) (negated : Bool) (filters : List (String × List (String × Expr)))

/-- What an expression starts from. -/
inductive Operand where
  | literal (v : Value)
  /-- A variable, and the keys and indices below it. -/
  | name (path : List String)
  | list (items : List Expr)
  | test (path : List String) (negated : Bool) (tester : String) (args : List Expr)
  | callMacro (group name : String) (args : List (String × Expr))
  | callFunction (name : String) (args : List (String × Expr))
  | binary (op : Operator) (lhs rhs : Expr)
  | arithmetic (op : Arithmetic) (lhs rhs : Expr)
  /-- Whether the left side is in the list, text or object on the right. -/
  | member (negated : Bool) (lhs rhs : Expr)
  /-- Texts and numbers, written one after another. -/
  | joined (parts : List Operand)

end

instance : Inhabited Expr := ⟨.mk (.literal .null) false []⟩

/-- An operand alone. -/
def Expr.of (operand : Operand) : Expr := .mk operand false []

/-- On which sides of a tag the blanks of the text are dropped. -/
structure Trim where
  left : Bool := false
  right : Bool := false
deriving DecidableEq, Repr

/-- A piece of a template. -/
inductive Node where
  | text (s : String)
  | print (trim : Trim) (e : Expr)
  | assign (trim : Trim) (target : String) (e : Expr)
  | insert (trim : Trim) (template : String)
  | comment (trim : Trim)
  | raw (opening : Trim) (text : String) (closing : Trim)
  | branch (cases : List (Trim × Expr × List Node)) (otherwise : Option (Trim × List Node))
      (closing : Trim)
  | loop (opening : Trim) (key : Option String) (item : String) (container : Expr)
      (body : List Node) (empty : Option (List Node)) (closing : Trim)
  | block (opening : Trim) (name : String) (body : List Node) (closing : Trim)
  | defineMacro (opening : Trim) (name : String) (params : List (String × Option Value))
      (body : List Node) (closing : Trim)
  | importMacros (trim : Trim) (template group : String)
  | extend (trim : Trim) (template : String)
  /-- The block that the current one replaces. -/
  | parentBlock
deriving Inhabited

end Stencil.Template
