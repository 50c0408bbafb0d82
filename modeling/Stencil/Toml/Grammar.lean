import Stencil.Decimal.Reading
import Stencil.Text.Hex
import Stencil.Text.Parser
import Stencil.Toml.Table

/-! Keys and values of a TOML text. A key has less than 80 parts, and lists and inline tables nest
less than 80 deep. -/

namespace Stencil.Toml

open Stencil.Parser

/-- Whether a character is a blank within a line. -/
def isSpace (c : Char) : Bool := c == ' ' || c == '\t'

/-- Passes over blanks. -/
def spaces : Parser Unit := do let _ ← takeWhile isSpace

/-- Reads the end of a line. -/
def newline : Parser Unit := exactly "\n" <|> exactly "\r\n"

/-- Whether a character may stand in a comment, and in a text as it is if it is no quote of it. -/
def isPrintable (c : Char) : Bool := c == '\t' || (c ≥ ' ' && c != '\x7f')

/-- Reads a comment up to the end of its line. -/
def comment : Parser Unit := do
  exactly "#"
  let _ ← takeWhile isPrintable

/-- Passes over blanks, comments and ends of lines. -/
def gap : Parser Unit := do
  let _ ← many (newline <|> (do let _ ← one isSpace) <|> (do comment; newline))

/-! ### Texts -/

/-- Reads the character that `n` hexadecimal digits name. -/
def hexChar (n : Nat) : Parser Char := fun cs => do return (← Text.hexChar? n cs, cs.drop n)

/-- Reads an escaped character. -/
def escaped : Parser Char := do
  exactly "\\"
  match ← one fun _ => true with
  | 'b' => return '\x08'
  | 't' => return '\t'
  | 'n' => return '\n'
  | 'f' => return '\x0c'
  | 'r' => return '\r'
  | '"' => return '"'
  | '\\' => return '\\'
  | 'u' => hexChar 4
  | 'U' => hexChar 8
  | _ => failure

/-- Reads a text in double quotes. -/
def basicText : Parser String := do
  exactly "\""
  let cs ← many (one (fun c => isPrintable c && c != '"' && c != '\\') <|> escaped)
  exactly "\""
  return .ofList cs

/-- Reads a text in single quotes, where nothing is escaped. -/
def literalText : Parser String := do
  exactly "'"
  let s ← takeWhile fun c => isPrintable c && c != '\''
  exactly "'"
  return s

/-- Reads a quote that does not belong to the end of a text over several lines. -/
def innerQuote (quote : Char) : Parser (List Char) := fun cs =>
  match cs with
  | c :: rest =>
    if c = quote ∧ (cs.takeWhile (· == quote)).length < 3 then some ([c], rest) else none
  | [] => none

/-- Reads the end of a text over several lines: three quotes, and up to two more that belong to
the text. -/
def lastQuotes (quote : Char) : Parser (List Char) := fun cs =>
  let n := (cs.takeWhile (· == quote)).length
  if 3 ≤ n ∧ n ≤ 5 then some (List.replicate (n - 3) quote, cs.drop n) else none

/-- Reads a text over several lines, piece by piece. A line end right at its start is passed
over. -/
def longText (quote : Char) (piece : Parser (List Char)) : Parser String := do
  exactly (.ofList [quote, quote, quote])
  let _ ← maybe newline
  let pieces ← many ((do newline; return ['\n']) <|> innerQuote quote <|> piece)
  return .ofList (pieces.flatten ++ (← lastQuotes quote))

/-- Reads an escaped end of a line and the blanks behind it. -/
def continuation : Parser (List Char) := do
  exactly "\\"
  spaces
  newline
  let _ ← many (newline <|> (do let _ ← one isSpace))
  return []

/-- Reads a text in three double quotes. -/
def longBasicText : Parser String :=
  longText '"' (continuation
    <|> (do return [← one fun c => isPrintable c && c != '"' && c != '\\'])
    <|> (do return [← escaped]))

/-- Reads a text in three single quotes. -/
def longLiteralText : Parser String :=
  longText '\'' (do return [← one fun c => isPrintable c && c != '\''])

/-! ### Keys -/

/-- Reads one part of a key. -/
def simpleKey : Parser String :=
  basicText <|> literalText <|> (do
    let s ← takeWhile fun c => c.isAlphanum || c == '_' || c == '-'
    if s.isEmpty then failure else return s)

/-- The number of parts and of levels that is too large. -/
def limit : Nat := 80

/-- Reads a key: the parts in front of the last, and the last. -/
def key : Parser (List String × String) := do
  let first ← simpleKey
  let rest ← many do
    spaces
    exactly "."
    spaces
    simpleKey
  if rest.length + 1 < limit then return ((first :: rest).dropLast, rest.getLast?.getD first)
  else failure

/-! ### Numbers and times -/

/-- Reads digits, which single underscores may divide. -/
def digits (p : Char → Bool) : Parser (List Char) := do
  let first ← one p
  let rest ← many (one p <|> (do exactly "_"; one p))
  return first :: rest

/-- Reads a sign. -/
def sign : Parser (List Char) :=
  (do exactly "+"; return []) <|> (do exactly "-"; return ['-']) <|> pure []

/-- Reads the digits of a whole number, which start with zero only if that is all. -/
def wholeDigits : Parser (List Char) := do
  if ← sees (exactly "0") then
    exactly "0"
    return ['0']
  else digits Char.isDigit

/-- Reads an exponent. -/
def exponent : Parser (List Char) := do
  let _ ← one fun c => c == 'e' || c == 'E'
  return 'e' :: (← sign) ++ (← digits Char.isDigit)

/-- Reads a number with a fraction or an exponent. A number below all numbers counts as the negative
infinity; one above all numbers does not count. -/
def float : Parser Value := do
  let sign ← sign
  let whole ← wholeDigits
  let fraction ← maybe do
    exactly "."
    return '.' :: (← digits Char.isDigit)
  let power ← if fraction.isSome then exponent <|> pure [] else exponent
  match Decimal.float? (sign ++ whole ++ fraction.getD [] ++ power) with
  | some x => return .float x
  | none => if sign.isEmpty then failure else return .float (-1.0 / 0.0)

/-- Reads infinity and what is no number. -/
def specialFloat : Parser Value := do
  let negative := !(← sign).isEmpty
  let x : Float ← (do exactly "inf"; return 1.0 / 0.0) <|> (do exactly "nan"; return 0.0 / 0.0)
  return .float (if negative then -x else x)

/-- A whole number in digits of a base, if it is in range. -/
def ofDigits? (base : Nat) (negative : Bool) (cs : List Char) : Option Value := do
  let ds ← cs.mapM Text.hexValue?
  let n := ds.foldl (fun v d => base * v + d) 0
  let n : Int := if negative then -n else n
  if -0x8000000000000000 ≤ n ∧ n < 0x8000000000000000 then some (.int n) else none

/-- Reads a whole number in digits of a base behind a mark. -/
def marked (mark : String) (base : Nat) : Parser Value := do
  exactly mark
  let cs ← digits fun c => (Text.hexValue? c).any (· < base)
  match ofDigits? base false cs with
  | some v => return v
  | none => failure

/-- Reads a whole number. -/
def integer : Parser Value :=
  marked "0x" 16 <|> marked "0o" 8 <|> marked "0b" 2 <|> (do
    let negative := !(← sign).isEmpty
    match ofDigits? 10 negative (← wholeDigits) with
    | some v => return v
    | none => failure)

/-- Reads a number of exactly `n` digits between `low` and `high`. -/
def fixedNumber (n low high : Nat) : Parser Nat := fun cs =>
  let ds := cs.take n
  let v := Decimal.natOfDigits ds
  if ds.length = n ∧ ds.all Char.isDigit ∧ low ≤ v ∧ v ≤ high then some (v, cs.drop n) else none

/-- Number of days of a month. -/
def daysIn (year month : Nat) : Nat :=
  if month = 2 then
    if (year % 4 = 0 ∧ year % 100 ≠ 0) ∨ year % 400 = 0 then 29 else 28
  else if month = 4 ∨ month = 6 ∨ month = 9 ∨ month = 11 then 30
  else 31

/-- Reads a date. -/
def date : Parser Unit := do
  let year ← fixedNumber 4 0 9999
  exactly "-"
  let month ← fixedNumber 2 1 12
  exactly "-"
  let _ ← fixedNumber 2 1 (daysIn year month)

/-- Reads a time of a day. -/
def time : Parser Unit := do
  let _ ← fixedNumber 2 0 23
  exactly ":"
  let _ ← fixedNumber 2 0 59
  exactly ":"
  let _ ← fixedNumber 2 0 60
  let _ ← maybe do
    exactly "."
    let c ← one Char.isDigit
    return c :: (← takeWhile Char.isDigit).toList

/-- Reads the distance from universal time. -/
def offset : Parser Unit := do
  let c ← one fun c => c == 'Z' || c == 'z' || c == '+' || c == '-'
  if c == '+' || c == '-' then
    let _ ← fixedNumber 2 0 23
    exactly ":"
    let _ ← fixedNumber 2 0 59

/-- Reads a date, a time or both. They are kept apart from texts as records of their own. -/
def moment : Parser Value := fun cs => do
  let dated : Parser Unit := do
    date
    let _ ← maybe do
      let _ ← one fun c => c == 'T' || c == 't' || c == ' '
      time
      maybe offset
  let (_, rest) ← (dated <|> time) cs
  let text := String.ofList (cs.take (cs.length - rest.length))
  return (.record [("moment", .str text)], rest)

/-! ### Values -/

/-- Reads a truth value. -/
def boolean : Parser Value :=
  (do exactly "true"; return .bool true) <|> (do exactly "false"; return .bool false)

/-- Reads a text. -/
def text : Parser Value := do
  return .str (← longBasicText <|> longLiteralText <|> basicText <|> literalText)

/-- A table of keys and values that are written inline. -/
def inlineTable? (pairs : List ((List String × String) × Value)) : Option Value := do
  let t ← pairs.foldlM (fun (t : Table) p => t.assign p.1.1 p.1.2 p.2) (.mk .declared [])
  return t.toValue

/-- Reads a key and its value. -/
def pair (value : Parser Value) : Parser ((List String × String) × Value) := do
  let k ← key
  spaces
  exactly "="
  spaces
  return (k, ← value)

/-- Reads a list; items may stand on lines of their own, and a comma may follow the last one. -/
def list (value : Parser Value) : Parser Value := do
  exactly "["
  gap
  match ← maybe value with
  | none =>
    exactly "]"
    return .list []
  | some first =>
    let rest ← many do
      gap
      exactly ","
      gap
      value
    gap
    let _ ← maybe (exactly ",")
    gap
    exactly "]"
    return .list (first :: rest)

/-- Reads an inline table, which stands on one line. -/
def inlineTable (value : Parser Value) : Parser Value := do
  exactly "\x7b"
  spaces
  let first ← maybe (pair value)
  let rest ← match first with
    | none => pure []
    | some _ => many do
      spaces
      exactly ","
      spaces
      pair value
  spaces
  exactly "\x7d"
  match inlineTable? (first.toList ++ rest) with
  | some v => return v
  | none => failure

/-- Reads a value that is no collection. -/
def scalar : Parser Value :=
  text <|> boolean <|> moment <|> float <|> specialFloat <|> integer

/-- Reads a value in which collections nest at most `depth` deep. -/
def value : Nat → Parser Value
  | 0 => scalar
  | depth + 1 => scalar <|> list (value depth) <|> inlineTable (value depth)

end Stencil.Toml
