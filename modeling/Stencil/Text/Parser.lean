/-! Readers of characters.

A reader returns what it has read and the characters that are left; an alternative starts again
where the first one started. -/

namespace Stencil

/-- A reader. -/
abbrev Parser := StateT (List Char) Option

namespace Parser

variable {α : Type}

/-- Reads the given characters. -/
def exactly (s : String) : Parser Unit := fun cs =>
  if s.toList.isPrefixOf cs then some ((), cs.drop s.length) else none

/-- Reads one character that satisfies `p`. -/
def one (p : Char → Bool) : Parser Char := fun cs =>
  match cs with
  | c :: rest => if p c then some (c, rest) else none
  | [] => none

/-- Reads the characters that satisfy `p`. -/
def takeWhile (p : Char → Bool) : Parser String := fun cs =>
  some (.ofList (cs.takeWhile p), cs.dropWhile p)

/-- Reads with `p`, or nothing if that fails. -/
def maybe (p : Parser α) : Parser (Option α) := fun cs =>
  match p cs with
  | some (a, rest) => some (some a, rest)
  | none => some (none, cs)

/-- Whether `p` reads what comes next; nothing is read. -/
def sees (p : Parser α) : Parser Bool := fun cs => some ((p cs).isSome, cs)

/-- Reads with `p` as often as it can, as long as it makes progress. -/
def manyFrom (p : Parser α) (cs : List Char) : List α × List Char :=
  match p cs with
  | some (a, rest) =>
    if rest.length < cs.length then
      let (as, last) := manyFrom p rest
      (a :: as, last)
    else ([], cs)
  | none => ([], cs)
termination_by cs.length

/-- Reads with `p` as often as it can. -/
def many (p : Parser α) : Parser (List α) := fun cs => some (manyFrom p cs)

/-- Succeeds at the end of the characters. -/
def atEnd : Parser Unit := fun cs => if cs.isEmpty then some ((), []) else none

end Parser

end Stencil
