import Stencil.Value.Text
import Stencil.Words

/-! Filters and tests that templates may use.

Case filters work on texts; null counts as the empty text and any other value as its data text. Some
filters and tests read the descriptors of types and the extensions of contexts.

Of the filters and tests that Tera itself brings along only a few are here: `length` and `join`,
`default` and `safe` (which are dealt with in rendering), `defined` and `undefined`. All others, as
`replace`, `slice`, `date`, `starting_with` or `divisibleby`, are left out and count as unknown, and
so do all functions, as `range` or `now`. -/

namespace Stencil.Template

/-- Why a filter or test fails. -/
inductive CallFault where
  | unknown
  | notApplicable
  | missingExtensionName
  | missingTypeName
deriving DecidableEq, Repr

/-- The wording of a failed filter or test. -/
def CallFault.message : CallFault → String
  | .unknown => "Unknown filter or tester"
  | .notApplicable => "Filter or tester is not applicable"
  | .missingExtensionName => "Filter `ext` expected an argument `name`"
  | .missingTypeName => "Tester `data_type` expected a type name"

/-- The filters that change the case of a text. -/
def caseFilters : List (String × (String → String)) :=
  [("lower_case", Text.lower), ("upper_case", Text.upper), ("lower_case_first", Text.lowerFirst),
   ("upper_case_first", Text.upperFirst), ("camel_case", Words.camelCase),
   ("pascal_case", Words.pascalCase), ("kebab_case", Words.kebabCase),
   ("snake_case", Words.snakeCase)]

/-- Applies a change of case to a value. -/
def applyCase (change : String → String) : Value → Value
  | .null => .str ""
  | .str s => .str (change s)
  | v => .str (change v.compact)

/-- The kind of the items of a list type; empty for other types. -/
def listItemType (v : Value) : Value :=
  if (v.field? "dataType").bind Value.asText? = some "list" then
    ((v.field? "itemType").bind (·.field? "dataType")).getD (.str "")
  else .str ""

/-- The extension of a context that is called like the argument `name`; empty if it is absent. -/
def extension (v : Value) (args : List (String × Value)) : Except CallFault Value :=
  match (args.lookup "name").bind Value.asText? with
  | none => .error .missingExtensionName
  | some name =>
    match (v.field? "extensions").bind (·.field? name) with
    | none | some .null => .ok (.str "")
    | some found => .ok found

/-- The number of items, fields or characters. -/
def length : Value → Except CallFault Value
  | .list items => .ok (.int items.length)
  | .object fields => .ok (.int fields.length)
  | .str s => .ok (.int s.length)
  | _ => .error .notApplicable

/-- Turns `\n` and `\t`, written with a backslash, into a line break and a tab. -/
def unescape (s : String) : String :=
  let rec go (mark : Char) (char : Char) : List Char → List Char
    | '\\' :: c :: rest =>
      if c = mark then char :: go mark char rest else '\\' :: go mark char (c :: rest)
    | c :: rest => c :: go mark char rest
    | [] => []
  .ofList (go 't' '\t' (go 'n' '\n' s.toList))

/-- The items of a list as rendered, with the argument `sep` between them. -/
def joinItems (v : Value) (args : List (String × Value)) : Except CallFault Value :=
  match v, args.lookup "sep" with
  | .list items, none => .ok (.str (String.join (Value.renderedItems items)))
  | .list items, some (.str sep) =>
    .ok (.str ((unescape sep).intercalate (Value.renderedItems items)))
  | _, _ => .error .notApplicable

/-- Applies a filter. -/
def applyFilter (name : String) (v : Value) (args : List (String × Value)) :
    Except CallFault Value :=
  match caseFilters.lookup name with
  | some change => .ok (applyCase change v)
  | none =>
    match name with
    | "list_item_type" => .ok (listItemType v)
    | "ext" => extension v args
    | "length" => length v
    | "join" => joinItems v args
    | _ => .error .unknown

/-- Whether a descriptor is that of a nullable type. -/
def isNullable (v : Option Value) : Bool :=
  match v.bind (·.field? "nullable") with
  | some (.bool b) => b
  | _ => false

/-- Whether a descriptor is that of a type of the named kind. -/
def isDataType (v : Option Value) (args : List Value) : Except CallFault Bool :=
  match args.head?.bind Value.asText? with
  | none => .error .missingTypeName
  | some expected => .ok ((v.bind (·.field? "dataType")).bind Value.asText? == some expected)

/-- Runs a test on a variable, which may be absent. -/
def runTest (name : String) (v : Option Value) (args : List Value) : Except CallFault Bool :=
  match name with
  | "nullable" => .ok (isNullable v)
  | "data_type" => isDataType v args
  | "defined" => if args.isEmpty then .ok v.isSome else .error .notApplicable
  | "undefined" => if args.isEmpty then .ok v.isNone else .error .notApplicable
  | _ => .error .unknown

end Stencil.Template
