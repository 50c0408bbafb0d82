import Stencil.Text.Hex
import Stencil.Yaml.Cursor

/-! The text of scalars: plain, quoted and block.

Inside a plain or quoted scalar a single line break counts as a blank and each further break as
itself. In a literal block every break counts; in a folded block a break between two lines that
start without a blank counts as a blank. -/

namespace Stencil.Yaml

/-- Blanks and line breaks between two pieces of a scalar. -/
structure Gap where
  /-- The blanks before any break. -/
  blanks : List Char := []
  /-- Whether a line has ended, be it by an escaped break. -/
  ended : Bool := false
  /-- The first break that is not escaped. -/
  first : Option Char := none
  /-- The breaks after the first. -/
  further : List Char := []

/-- What a gap counts as. -/
def Gap.fold (g : Gap) : List Char :=
  if g.ended then
    match g.first with
    | some '\n' => if g.further.isEmpty then [' '] else g.further
    | some ch => ch :: g.further
    | none => g.further
  else g.blanks

/-- Reads a gap. After a line end a tab left of column `margin` is refused. -/
def readGap (margin : Nat) : Nat → Gap → Cursor → Option (Gap × Cursor)
  | 0, _, _ => none
  | fuel + 1, g, c =>
    match c.peek with
    | none => some (g, c)
    | some ch =>
      if isBlank ch then
        if g.ended && c.column < margin && ch == '\t' then none
        else readGap margin fuel (if g.ended then g else { g with blanks := g.blanks ++ [ch] })
          c.advance
      else
        match c.breakChar? with
        | none => some (g, c)
        | some b =>
          let g := if g.ended then { g with further := g.further ++ [b] }
            else { blanks := [], ended := true, first := some b }
          readGap margin fuel g c.skipBreak

/-- The character that an escape in a double-quoted scalar stands for, and its length without the
backslash. -/
def escape? : List Char → Option (Char × Nat)
  | [] => none
  | ch :: rest =>
    match ch with
    | '0' => some ('\x00', 1)
    | 'a' => some ('\x07', 1)
    | 'b' => some ('\x08', 1)
    | 't' | '\t' => some ('\t', 1)
    | 'n' => some ('\n', 1)
    | 'v' => some ('\x0b', 1)
    | 'f' => some ('\x0c', 1)
    | 'r' => some ('\r', 1)
    | 'e' => some ('\x1b', 1)
    | ' ' | '"' | '/' | '\\' => some (ch, 1)
    | 'N' => some ('\u0085', 1)
    | '_' => some ('\u00a0', 1)
    | 'L' => some ('\u2028', 1)
    | 'P' => some ('\u2029', 1)
    | 'x' => (Text.hexChar? 2 rest).map (·, 3)
    | 'u' => (Text.hexChar? 4 rest).map (·, 5)
    | 'U' => (Text.hexChar? 8 rest).map (·, 9)
    | _ => none

/-- Reads the rest of a quoted scalar; `text` is what has been read of it, backwards. -/
def readQuoted (quote : Char) : Nat → List Char → Cursor → Option (List Char × Cursor)
  | 0, _, _ => none
  | fuel + 1, text, c =>
    if c.atMarker '-' || c.atMarker '.' then none
    else
      match c.rest with
      | [] => none
      | ch :: rest =>
        if quote == '\'' && ch == '\'' && rest.head? == some '\'' then
          readQuoted quote fuel ('\'' :: text) (c.advance 2)
        else if ch == quote then some (text.reverse, c.advance)
        else if quote == '"' && ch == '\\' then
          if rest.head?.any isBreak then do
            let (g, c) ← readGap 0 (c.rest.length + 1) { ended := true } c.advance.skipBreak
            readQuoted quote fuel (g.fold.reverse ++ text) c
          else do
            let (value, length) ← escape? rest
            readQuoted quote fuel (value :: text) (c.advance (length + 1))
        else if isBlank ch || isBreak ch then do
          let (g, c) ← readGap 0 (c.rest.length + 1) {} c
          readQuoted quote fuel (g.fold.reverse ++ text) c
        else readQuoted quote fuel (ch :: text) c.advance

/-- Characters that structure a flow collection. -/
def isFlowIndicator (c : Char) : Bool := c == ',' || c == '[' || c == ']' || c == '\x7b' || c == '\x7d'

/-- Whether a plain scalar ends before the next character. -/
def endsPlain (inFlow : Bool) (c : Cursor) : Bool :=
  (c.sees ':' && c.isGapAt 1) || (inFlow && c.peek.any isFlowIndicator)

/-- Whether a colon stands where a plain scalar in a flow collection may not have one. -/
def strayColon (inFlow : Bool) (c : Cursor) : Bool :=
  inFlow && c.sees ':' && (c.peek 1).any fun ch => isFlowIndicator ch || ch == '?'

/-- Reads the next piece of a plain scalar: the characters up to a gap or an indicator. -/
def readPiece (inFlow : Bool) : Nat → List Char → Cursor → Option (List Char × Cursor)
  | 0, _, _ => none
  | fuel + 1, text, c =>
    if c.isGapAt 0 then some (text, c)
    else if strayColon inFlow c then none
    else if endsPlain inFlow c then some (text, c)
    else readPiece inFlow fuel (c.rest.head?.toList ++ text) c.advance

/-- Reads a plain scalar whose further lines are indented to column `margin` at least. Returns its
text backwards and whether a line ended after it. -/
def readPlain (inFlow : Bool) (margin : Nat) :
    Nat → Gap → List Char → Cursor → Option (List Char × Bool × Cursor)
  | 0, _, _, _ => none
  | fuel + 1, g, text, c =>
    if c.atMarker '-' || c.atMarker '.' || c.sees '#' then some (text, g.ended, c)
    else do
      let (piece, c') ← readPiece inFlow (c.rest.length + 1) [] c
      let (text, g) :=
        if piece.isEmpty then (text, g) else (piece ++ (g.fold.reverse ++ text), ({} : Gap))
      if c'.peek.all fun ch => !(isBlank ch || isBreak ch) then some (text, g.ended, c')
      else
        let (g, c') ← readGap margin (c'.rest.length + 1) g c'
        if !inFlow && c'.column < margin then some (text, g.ended, c')
        else readPlain inFlow margin fuel g text c'

/-- How a block scalar treats the breaks at its end. -/
inductive Chomping where
  | strip
  | clip
  | keep
deriving DecidableEq

/-- Reads the chomping mark and the indentation of a block scalar, in either order. -/
def readBlockHeader (c : Cursor) : Option (Chomping × Nat × Cursor) :=
  let chomping? (c : Cursor) : Option (Chomping × Cursor) :=
    if c.sees '+' then some (.keep, c.advance)
    else if c.sees '-' then some (.strip, c.advance)
    else none
  let digit? (c : Cursor) : Option (Nat × Cursor) :=
    match c.peek with
    | some ch => if ch.isDigit then some (ch.toNat - '0'.toNat, c.advance) else none
    | none => none
  match chomping? c with
  | some (chomping, c) =>
    match digit? c with
    | some (0, _) => none
    | some (n, c) => some (chomping, n, c)
    | none => some (chomping, 0, c)
  | none =>
    match digit? c with
    | some (0, _) => none
    | some (n, c) =>
      match chomping? c with
      | some (chomping, c) => some (chomping, n, c)
      | none => some (.clip, n, c)
    | none => some (.clip, 0, c)

/-- Reads the empty lines before the next line of a block scalar and the indentation of that line.
With `indent` zero the indentation is still open. Returns the breaks, the widest indentation that
was passed and the place reached. -/
def readBlockBreaks (indent : Nat) :
    Nat → List Char → Nat → Cursor → Option (List Char × Nat × Cursor)
  | 0, _, _, _ => none
  | fuel + 1, breaks, widest, c =>
    let spaces := (c.rest.takeWhile (· == ' ')).length
    let c := c.advance (if indent = 0 then spaces else min spaces (indent - c.column))
    let widest := max widest c.column
    if (indent = 0 || c.column < indent) && c.sees '\t' then none
    else
      match c.breakChar? with
      | some b => readBlockBreaks indent fuel (breaks ++ [b]) widest c.skipBreak
      | none => some (breaks, widest, c)

/-- A block scalar under way: its text backwards, the break after its last line, the breaks after
that, and whether its last line started with a blank. -/
structure BlockText where
  text : List Char := []
  lineBreak : List Char := []
  breaks : List Char := []
  afterBlank : Bool := false

/-- Reads the lines of a block scalar that is indented to column `indent`. -/
def readBlockLines (literal : Bool) (indent : Nat) :
    Nat → BlockText → Cursor → Option (BlockText × Cursor)
  | 0, _, _ => none
  | fuel + 1, b, c =>
    if c.column = indent ∧ ¬ c.rest.isEmpty then do
      let blank := c.peek.any isBlank
      let joint :=
        if !literal && b.lineBreak == ['\n'] && !b.afterBlank && !blank then
          if b.breaks.isEmpty then [' '] else b.breaks
        else b.lineBreak ++ b.breaks
      let line := c.rest.takeWhile (!isBreak ·)
      let ending := c.advance line.length
      let (breaks, _, next) ←
        readBlockBreaks indent (c.rest.length + 1) [] 0 ending.skipBreak
      let text := line.reverse ++ (joint.reverse ++ b.text)
      readBlockLines literal indent fuel
        { text, lineBreak := ending.breakChar?.toList, breaks, afterBlank := blank } next
    else some (b, c)

/-- Reads a block scalar after its indicator, inside a collection indented to column `parent`. -/
def readBlock (literal : Bool) (parent : Int) (c : Cursor) : Option (List Char × Cursor) := do
  let (chomping, increment, c) ← readBlockHeader c
  let c := c.skipWhile isBlank
  let c := if c.sees '#' then c.skipWhile (!isBreak ·) else c
  if !c.atLineEnd then none
  else
    let c := c.skipBreak
    let fuel := c.rest.length + 1
    let given := if increment = 0 then 0 else (max parent 0).toNat + increment
    let (breaks, widest, c) ← readBlockBreaks given fuel [] 0 c
    let indent := if given = 0 then max widest (max (parent + 1) 1).toNat else given
    let (b, c) ← readBlockLines literal indent fuel { breaks } c
    let tail :=
      match chomping with
      | .strip => []
      | .clip => b.lineBreak
      | .keep => b.lineBreak ++ b.breaks
    return (b.text.reverse ++ tail, c)

end Stencil.Yaml
