import Stencil.Text.Alphabetic
import Stencil.Text.CaseIgnorable
import Stencil.Text.Cased
import Stencil.Text.Lowercase
import Stencil.Text.Numeric
import Stencil.Text.Uppercase

/-! Character classes over all of Unicode.

Each class decides an ASCII character by its range and any other character by its table, so that
on ASCII text the classes are plain comparisons. -/

namespace Stencil.Text

/-- Whether a character is one of the first 128 code points. -/
def isAscii (c : Char) : Bool := c.toNat < 128

/-- Letters and letter-like marks. -/
def isAlphabetic (c : Char) : Bool :=
  if isAscii c then c.isAlpha else onStride alphabeticStrides c

/-- Digits, letter numbers and other numbers. -/
def isNumeric (c : Char) : Bool :=
  if isAscii c then c.isDigit else onStride numericStrides c

/-- Characters that may stand in a word. -/
def isAlphanumeric (c : Char) : Bool := isAlphabetic c || isNumeric c

/-- Lower-case characters. -/
def isLowercase (c : Char) : Bool :=
  if isAscii c then c.isLower else onStride lowercaseStrides c

/-- Upper-case characters. -/
def isUppercase (c : Char) : Bool :=
  if isAscii c then c.isUpper else onStride uppercaseStrides c

/-- Characters that have a case: upper, lower or title. -/
def isCased (c : Char) : Bool :=
  if isAscii c then c.isAlpha else onStride casedStrides c

/-- Characters that the rule for a final sigma looks through. -/
def isCaseIgnorable (c : Char) : Bool :=
  if isAscii c then ['\'', '.', ':', '^', '\x60'].contains c else onStride caseIgnorableStrides c

/-- White space: the ASCII controls from tab to carriage return, the blank, and the spaces and
separators of the other scripts. -/
def isBlank (c : Char) : Bool :=
  let n := c.toNat
  (9 ≤ n && n ≤ 13) || n == 0x20 || n == 0x85 || n == 0xa0 || n == 0x1680 ||
    (0x2000 ≤ n && n ≤ 0x200a) || n == 0x2028 || n == 0x2029 || n == 0x202f || n == 0x205f ||
    n == 0x3000

/-- Text without the blanks at its start. -/
def trimStart (s : String) : String := .ofList (s.toList.dropWhile isBlank)

/-- Text without the blanks at its end. -/
def trimEnd (s : String) : String := .ofList (s.toList.reverse.dropWhile isBlank).reverse

/-- Text without the blanks at either end. -/
def trim (s : String) : String := trimEnd (trimStart s)

end Stencil.Text
