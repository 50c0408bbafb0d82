import Stencil.Text.Casing

/-! Words of an identifier and the ways of joining them again.

A text is cut at every character that is neither letter nor number, and inside a run of letters and
numbers before an upper-case character that follows a lower-case character or a number, or that
ends a run of capitals (`HTMLParser` is `HTML` and `Parser`). -/

namespace Stencil.Words

open Text

/-- Whether a word ends between `previous` and `current`, where `next` follows. -/
def isBoundary (previous current : Char) (next : Option Char) : Bool :=
  isUppercase current &&
    (isLowercase previous || isNumeric previous ||
      (isUppercase previous && next.any isLowercase))

/-- Closes the word that is being read; an empty one is dropped. The word is kept backwards. -/
def close (word : List Char) : List (List Char) :=
  if word.isEmpty then [] else [word.reverse]

/-- Words of the remaining characters, where `word` is the open word, read backwards. -/
def splitChars (word : List Char) : List Char → List (List Char)
  | [] => close word
  | c :: rest =>
    if isAlphanumeric c then
      match word with
      | [] => splitChars [c] rest
      | previous :: _ =>
        if isBoundary previous c rest.head? then close word ++ splitChars [c] rest
        else splitChars (c :: word) rest
    else close word ++ splitChars [] rest

/-- The words of a text, in order. -/
def split (s : String) : List String := (splitChars [] s.toList).map String.ofList

/-- Words in lower case, joined by underscores. -/
def snakeCase (s : String) : String := "_".intercalate ((split s).map lower)

/-- Words in lower case, joined by hyphens. -/
def kebabCase (s : String) : String := "-".intercalate ((split s).map lower)

/-- Words in lower case with a capital first letter, joined without separator. -/
def pascalCase (s : String) : String := String.join ((split s).map fun w => upperFirst (lower w))

/-- Like `pascalCase`, with a small first letter. -/
def camelCase (s : String) : String := lowerFirst (pascalCase s)

end Stencil.Words
