import Stencil.Value.Basic

/-! Tables of a TOML text while it is read.

A table is declared once by a header, or grows by dotted keys, but not both; what is written as a
value is closed. -/

namespace Stencil.Toml

/-- How a table has come into being. -/
inductive Origin where
  /-- On the way to a table that a header names. -/
  | implied
  /-- By a dotted key. -/
  | dotted
  /-- By a header, or as the whole. -/
  | declared
deriving DecidableEq, Repr

mutual

/-- What stands under a key. -/
inductive Item where
  | value (v : Value)
  | table (t : Table)
  | tables (ts : List Table)

/-- A table. -/
inductive Table where
  | mk (origin : Origin) (entries : List (String × Item))

end

mutual

/-- An item as a value. -/
def Item.toValue : Item → Value
  | .value v => v
  | .table t => t.toValue
  | .tables ts => .list (valuesOf ts)

/-- A table as a value. -/
def Table.toValue : Table → Value
  | .mk _ entries => .record (entryValues entries)

/-- Tables as values. -/
def valuesOf : List Table → List Value
  | [] => []
  | t :: rest => t.toValue :: valuesOf rest

/-- The entries of a table as values. -/
def entryValues : List (String × Item) → List (String × Value)
  | [] => []
  | (key, item) :: rest => (key, item.toValue) :: entryValues rest

end

namespace Table

/-- How a table has come into being. -/
def origin : Table → Origin
  | .mk o _ => o

/-- What stands under a key. -/
def get? : Table → String → Option Item
  | .mk _ entries, key => entries.lookup key

/-- Puts an item under a key, in place of what stands there. -/
def put : Table → String → Item → Table
  | .mk o entries, key, item =>
    if (entries.lookup key).isSome then
      .mk o (entries.map fun e => if e.1 = key then (key, item) else e)
    else .mk o (entries ++ [(key, item)])

/-- Changes the table below a path. Tables on the way are made with the given origin; in a list of
tables the way leads to the last one. Dotted keys do not lead through tables that were declared. -/
def change (way : Origin) (f : Table → Option Table) : List String → Table → Option Table
  | [], t => f t
  | key :: rest, t => do
    match t.get? key with
    | none => return t.put key (.table (← change way f rest (.mk way [])))
    | some (.value _) => none
    | some (.table below) =>
      if way = .dotted ∧ below.origin = .declared then none
      else return t.put key (.table (← change way f rest below))
    | some (.tables ts) =>
      let last ← ts.getLast?
      return t.put key (.tables (ts.dropLast ++ [← change way f rest last]))

/-- Declares a table by a header. -/
def declare (t : Table) (path : List String) (key : String) : Option Table :=
  t.change .implied (fun parent =>
    match parent.get? key with
    | none => some (parent.put key (.table (.mk .declared [])))
    | some (.table (.mk .implied entries)) => some (parent.put key (.table (.mk .declared entries)))
    | _ => none) path

/-- Adds an empty table to a list of tables by a header. -/
def append (t : Table) (path : List String) (key : String) : Option Table :=
  t.change .implied (fun parent =>
    match parent.get? key with
    | none => some (parent.put key (.tables [.mk .declared []]))
    | some (.tables ts) => some (parent.put key (.tables (ts ++ [.mk .declared []])))
    | _ => none) path

/-- Gives a key, which may have a dotted path in front, a value. No key has two values. -/
def assign (t : Table) (path : List String) (key : String) (v : Value) : Option Table :=
  t.change .dotted (fun below =>
    if decide (below.origin = .dotted) == path.isEmpty || (below.get? key).isSome then none
    else some (below.put key (.value v))) path

end Table

end Stencil.Toml
