import Stencil.Text.Letter
import Stencil.Text.LowerMap
import Stencil.Text.UpperMap

/-! Upper and lower case of characters and texts.

A character may have a case form of several characters. In lower case a capital sigma that ends a
word becomes a final sigma. -/

namespace Stencil.Text

/-- The lower-case form of one character. -/
def lowerChar (c : Char) : List Char :=
  if isAscii c then [c.toLower]
  else (lowerExpansions.lookup c).getD [(shift? lowerShifts c).getD c]

/-- The upper-case form of one character. -/
def upperChar (c : Char) : List Char :=
  if isAscii c then [c.toUpper]
  else (upperExpansions.lookup c).getD [(shift? upperShifts c).getD c]

/-- Whether the first character that casing does not look through has a case. -/
def startsCased (cs : List Char) : Bool :=
  match cs.dropWhile isCaseIgnorable with
  | [] => false
  | c :: _ => isCased c

/-- Lower case, where `before` holds the characters already passed, nearest first. -/
def lowerAfter (before : List Char) : List Char → List Char
  | [] => []
  | c :: rest =>
    let form :=
      if c == 'Σ' then [if startsCased before && !startsCased rest then 'ς' else 'σ']
      else lowerChar c
    form ++ lowerAfter (c :: before) rest

/-- A text in lower case. -/
def lower (s : String) : String := .ofList (lowerAfter [] s.toList)

/-- A text in upper case. -/
def upper (s : String) : String := .ofList (s.toList.flatMap upperChar)

/-- A text whose first character is in upper case and whose rest is left alone. -/
def upperFirst (s : String) : String :=
  match s.toList with
  | [] => s
  | c :: rest => .ofList (upperChar c ++ rest)

/-- A text whose first character is in lower case and whose rest is left alone. -/
def lowerFirst (s : String) : String :=
  match s.toList with
  | [] => s
  | c :: rest => .ofList (lowerChar c ++ rest)

end Stencil.Text
