import Stencil.Yaml.ScalarText

/-! Tokens of a YAML text.

The indentation of block collections becomes start and end tokens. A key that is not announced by a
question mark is recognised only at the colon behind it; its tokens are then put in front of what
has been read since. Such a key ends on its own line and within 1024 characters.

Tags (`!name`) and directives (lines that start with a percent sign) are left out: a text with one
of them cannot be read. -/

namespace Stencil.Yaml

/-- A token. -/
inductive Token where
  | streamEnd
  | documentStart
  | documentEnd
  | blockSequenceStart
  | blockMappingStart
  | blockEnd
  | flowSequenceStart
  | flowSequenceEnd
  | flowMappingStart
  | flowMappingEnd
  | blockEntry
  | flowEntry
  | key
  | value
  | alias (name : String)
  | anchor (name : String)
  | scalar (plain : Bool) (text : String)
deriving DecidableEq, Repr

/-- A place where a key may have started. -/
structure KeyStart where
  /-- The number of tokens before it. -/
  position : Nat
  index : Nat
  line : Nat
  column : Nat
  /-- Whether nothing but a key may stand there. -/
  required : Bool

/-- A text that is being cut into tokens. -/
structure Scanner where
  cursor : Cursor
  tokens : Array Token := #[]
  /-- The column of the innermost block collection; -1 outside of all. -/
  indent : Int := -1
  /-- The columns of the collections around it. -/
  outer : List Int := []
  /-- The possible key of each open flow collection, innermost first; the last is for the block
  context. -/
  keys : List (Option KeyStart) := [none]
  /-- Whether a key may start here. -/
  keyAllowed : Bool := true

namespace Scanner

/-- Whether the scanner is inside a flow collection. -/
def inFlow (s : Scanner) : Bool := s.keys.length > 1

/-- Adds a token. -/
def emit (s : Scanner) (t : Token) : Scanner := { s with tokens := s.tokens.push t }

/-- Passes over `n` characters and adds a token. -/
def take (s : Scanner) (n : Nat) (t : Token) : Scanner :=
  { s.emit t with cursor := s.cursor.advance n }

/-- Opens a block collection at a column, unless one is open there. -/
def roll (s : Scanner) (column : Nat) (position : Nat) (t : Token) : Scanner :=
  if !s.inFlow && s.indent < column then
    { s with
      outer := s.indent :: s.outer, indent := column
      tokens := s.tokens.insertIdxIfInBounds position t }
  else s

/-- Closes the block collections that are indented further than a column, given those around. -/
def unrollTo (column : Int) : List Int → Scanner → Scanner
  | [], s => s
  | next :: outer, s =>
    if s.indent > column then unrollTo column outer { s.emit .blockEnd with indent := next, outer }
    else s

/-- Closes the block collections that are indented further than a column. -/
def unroll (s : Scanner) (column : Int) : Scanner :=
  if s.inFlow then s else unrollTo column s.outer s

/-- Gives up the possible key of the innermost flow collection. -/
def dropKey (s : Scanner) : Option Scanner :=
  match s.keys with
  | some k :: rest => if k.required then none else some { s with keys := none :: rest }
  | _ => some s

/-- Notes that a key may start here. -/
def noteKey (s : Scanner) : Option Scanner :=
  if s.keyAllowed then do
    let c := s.cursor
    let start : KeyStart :=
      { position := s.tokens.size, index := c.index, line := c.line, column := c.column
        required := !s.inFlow && s.indent == c.column }
    let s ← s.dropKey
    return { s with keys := some start :: s.keys.tail }
  else some s

/-- Gives up the possible keys that have become too long. -/
def dropStaleKeys (s : Scanner) : Option Scanner := do
  let keys ← s.keys.mapM fun k =>
    match k with
    | some start =>
      if start.line < s.cursor.line || start.index + 1024 < s.cursor.index then
        if start.required then none else some none
      else some k
    | none => some none
  return { s with keys }

/-- Passes over blanks, comments, line breaks, and a byte order mark at the start of a line. -/
def skipGap : Nat → Scanner → Scanner
  | 0, s => s
  | fuel + 1, s =>
    let c := if s.cursor.column == 0 && s.cursor.sees '\ufeff' then s.cursor.advance else s.cursor
    let c := c.skipWhile fun ch =>
      ch == ' ' || ((s.inFlow || !s.keyAllowed) && ch == '\t')
    let c := if c.sees '#' then c.skipWhile (!isBreak ·) else c
    if c.peek.any isBreak then
      skipGap fuel { s with cursor := c.skipBreak, keyAllowed := !s.inFlow || s.keyAllowed }
    else { s with cursor := c }

/-- Reads an entry mark `-`. -/
def blockEntry (s : Scanner) : Option Scanner :=
  if s.inFlow || s.keyAllowed then do
    let s := s.roll s.cursor.column s.tokens.size .blockSequenceStart
    let s ← s.dropKey
    return { s with keyAllowed := true }.take 1 .blockEntry
  else none

/-- Reads a key mark `?`. -/
def keyMark (s : Scanner) : Option Scanner :=
  if s.inFlow || s.keyAllowed then do
    let s := s.roll s.cursor.column s.tokens.size .blockMappingStart
    let s ← s.dropKey
    return { s with keyAllowed := !s.inFlow }.take 1 .key
  else none

/-- Reads a value mark `:`. -/
def valueMark (s : Scanner) : Option Scanner :=
  match s.keys with
  | some start :: rest =>
    let s := { s with tokens := s.tokens.insertIdxIfInBounds start.position .key, keys := none :: rest }
    let s := s.roll start.column start.position .blockMappingStart
    some ({ s with keyAllowed := false }.take 1 .value)
  | _ =>
    if s.inFlow || s.keyAllowed then
      let s := s.roll s.cursor.column s.tokens.size .blockMappingStart
      some ({ s with keyAllowed := !s.inFlow }.take 1 .value)
    else none

/-- Reads a document marker. -/
def documentMark (s : Scanner) (t : Token) : Option Scanner := do
  let s ← (s.unroll (-1)).dropKey
  return { s with keyAllowed := false }.take 3 t

/-- Opens a flow collection. -/
def openFlow (s : Scanner) (t : Token) : Option Scanner := do
  let s ← s.noteKey
  return { s with keys := none :: s.keys, keyAllowed := true }.take 1 t

/-- Closes a flow collection. -/
def closeFlow (s : Scanner) (t : Token) : Option Scanner := do
  let s ← s.dropKey
  let keys := if s.inFlow then s.keys.tail else s.keys
  return { s with keys, keyAllowed := false }.take 1 t

/-- Separates entries of a flow collection. -/
def flowEntry (s : Scanner) : Option Scanner := do
  let s ← s.dropKey
  return { s with keyAllowed := true }.take 1 .flowEntry

/-- Reads the name of an anchor or alias after its mark. -/
def name (s : Scanner) (t : String → Token) : Option Scanner := do
  let s ← s.noteKey
  let c := s.cursor.advance
  let text := c.rest.takeWhile fun ch => ch.isAlphanum || ch == '_' || ch == '-'
  let ending := c.advance text.length
  if text.isEmpty ||
      !(ending.isGapAt 0 || ending.peek.any fun ch => "?:,]\x7d%@`".toList.contains ch) then none
  else return { s.emit (t (.ofList text)) with cursor := ending, keyAllowed := false }

/-- Reads a quoted scalar. -/
def quotedScalar (s : Scanner) (quote : Char) : Option Scanner := do
  let s ← s.noteKey
  let c := s.cursor.advance
  let (text, ending) ← readQuoted quote (c.rest.length + 1) [] c
  return { s.emit (.scalar false (.ofList text)) with cursor := ending, keyAllowed := false }

/-- Reads a plain scalar. -/
def plainScalar (s : Scanner) : Option Scanner := do
  let s ← s.noteKey
  let margin := (s.indent + 1).toNat
  let (text, lineEnded, ending) ←
    readPlain s.inFlow margin (s.cursor.rest.length + 1) {} [] s.cursor
  return { s.emit (.scalar true (.ofList text.reverse)) with cursor := ending, keyAllowed := lineEnded }

/-- Reads a block scalar. -/
def blockScalar (s : Scanner) (literal : Bool) : Option Scanner := do
  let s ← s.dropKey
  let (text, ending) ← readBlock literal s.indent s.cursor.advance
  return { s.emit (.scalar false (.ofList text)) with cursor := ending, keyAllowed := true }

/-- Whether a plain scalar may start with the next character. -/
def startsPlain (s : Scanner) (ch : Char) : Bool :=
  !(isBlank ch || "-?:,[]\x7b\x7d#&*!|>'\"%@`".toList.contains ch) ||
    (ch == '-' && !(s.cursor.peek 1).any isBlank) ||
    (!s.inFlow && (ch == '?' || ch == ':') && !s.cursor.isGapAt 1)

/-- Reads the token that starts with `ch`. -/
def readToken (s : Scanner) (ch : Char) : Option Scanner :=
  let c := s.cursor
  if c.column == 0 && ch == '%' then none
  else if c.atMarker '-' then s.documentMark .documentStart
  else if c.atMarker '.' then s.documentMark .documentEnd
  else if ch == '[' then s.openFlow .flowSequenceStart
  else if ch == '\x7b' then s.openFlow .flowMappingStart
  else if ch == ']' then s.closeFlow .flowSequenceEnd
  else if ch == '\x7d' then s.closeFlow .flowMappingEnd
  else if ch == ',' then s.flowEntry
  else if ch == '-' && c.isGapAt 1 then s.blockEntry
  else if ch == '?' && (s.inFlow || c.isGapAt 1) then s.keyMark
  else if ch == ':' && (s.inFlow || c.isGapAt 1) then s.valueMark
  else if ch == '*' then s.name .alias
  else if ch == '&' then s.name .anchor
  else if ch == '|' && !s.inFlow then s.blockScalar true
  else if ch == '>' && !s.inFlow then s.blockScalar false
  else if ch == '\'' || ch == '"' then s.quotedScalar ch
  else if s.startsPlain ch then s.plainScalar
  else none

/-- Reads tokens up to the end of the text. -/
def run : Nat → Scanner → Option (Array Token)
  | 0, _ => none
  | fuel + 1, s => do
    let s ← (skipGap (s.cursor.rest.length + 1) s).dropStaleKeys
    let s := s.unroll s.cursor.column
    match s.cursor.peek with
    | none => return ((← (s.unroll (-1)).dropKey).emit .streamEnd).tokens
    | some ch => run fuel (← s.readToken ch)

end Scanner

/-- The tokens of a text; a byte order mark in front of it does not count. -/
def tokens? (text : String) : Option (List Token) :=
  let cs := text.toList
  if cs.all isAllowed then
    let rest := if cs.head? == some '\ufeff' then cs.tail else cs
    (Scanner.run (rest.length + 2) { cursor := { rest } }).map Array.toList
  else none

end Stencil.Yaml
