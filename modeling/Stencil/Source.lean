import Stencil.Value.Basic

/-! Trees of data that documents are read from.

A source answers, for each kind of datum that a document is made of, what it holds when it is read
as that kind, and reading fails when it is not of that kind. Free-form values are one source; parsed
YAML is another, with rules of its own for scalars. -/

namespace Stencil

/-- Reading that may fail. The state says how many references may still be followed. -/
abbrev Reading := StateT Nat Option

/-- Goes on with a result if there is one. -/
def Reading.of {α : Type} (result : Option α) : Reading α := StateT.lift result

/-- The ways of reading a tree of data. -/
class Source (σ : Type) where
  /-- Read as a text. -/
  text? : σ → Reading String
  /-- Read as a text that may be absent. -/
  optionalText? : σ → Reading (Option String)
  /-- Read as a truth value. -/
  flag? : σ → Reading Bool
  /-- Read as a count below `2 ^ 64`. -/
  count? : σ → Reading Nat
  /-- Read as a list. -/
  items? : σ → Reading (List σ)
  /-- Read as a record whose fields are declared under these names, in this order. -/
  entries? : List String → σ → Reading (List (String × σ))
  /-- Read as free-form fields. -/
  fields? : σ → Reading Fields
  /-- Read as one text or a list of texts; null is the empty list. -/
  patterns? : σ → Reading (List String)

namespace Source

variable {σ α : Type} [Source σ]

/-- Reads every item of a list. -/
def list? (read : σ → Reading α) (s : σ) : Reading (List α) := do (← items? s).mapM read

/-- Reads a field that may be left out. -/
def field (entries : List (String × σ)) (name : String) (read : σ → Reading α) (default : α) :
    Reading α :=
  match entries.lookup name with
  | some s => read s
  | none => return default

/-- Reads a field that must be there. -/
def required (entries : List (String × σ)) (name : String) (read : σ → Reading α) : Reading α :=
  match entries.lookup name with
  | some s => read s
  | none => failure

end Source

namespace Value

/-- The fields of a record given as a value: those of an object by name, or the items of a list
that is no longer than the names by position. -/
def recordEntries? (names : List String) : Value → Option (List (String × Value))
  | .object fields => some fields
  | .list items => if items.length ≤ names.length then some (names.zip items) else none
  | _ => none

/-- The texts of a value that is one text or a list of texts; null has none. -/
def patterns? : Value → Option (List String)
  | .str s => some [s]
  | .list items => items.mapM asText?
  | .null => some []
  | _ => none

instance : Source Value where
  text? v := .of v.asText?
  optionalText?
    | .str s => return some s
    | .null => return none
    | _ => failure
  flag?
    | .bool b => return b
    | _ => failure
  count?
    | .int n => if 0 ≤ n then return n.toNat else failure
    | _ => failure
  items?
    | .list items => return items
    | _ => failure
  entries? names v := .of (recordEntries? names v)
  fields?
    | .object fields => return fields
    | _ => failure
  patterns? v := .of v.patterns?

/-- Reads a value, in which there are no references. -/
def read? {α : Type} (read : Value → Reading α) (v : Value) : Option α := (read v).run' 0

end Value

end Stencil
