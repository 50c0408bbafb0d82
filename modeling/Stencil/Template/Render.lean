import Stencil.Template.Arithmetic
import Stencil.Template.Filter
import Stencil.Template.Scope
import Stencil.Text.Cluster

/-! Rendering templates.

An absent variable is an error, except that a condition takes it for false and its negation for
true, and that `default` stands in for it. A template that extends another one cannot be inserted.
Insertions, macros and blocks nest at most 1000 deep. -/

namespace Stencil.Template

/-- Whether a value counts as true in a condition. -/
def isTruthy : Value → Bool
  | .null => false
  | .bool b => b
  | .int n => n != 0
  | .float x => x != 0
  | .str s => !s.isEmpty
  | .list items => !items.isEmpty
  | .object fields => !fields.isEmpty

/-- Whether two values are equal. Numbers are compared by size; whether a number equals another
value has no answer. -/
def areEqual? (a b : Value) : Option Bool :=
  match number? a, number? b with
  | some x, some y => some (x == y)
  | none, none => some (a == b)
  | _, _ => none

/-- Orders two numbers. -/
def areOrdered (op : Operator) (x y : Float) : Bool :=
  match op with
  | .lt => x < y
  | .le => x ≤ y
  | .gt => x > y
  | _ => x ≥ y

/-- Whether a value is in a list, a text or the keys of an object. -/
def isMember? (v container : Value) : Option Bool :=
  match container, v with
  | .list items, v => some (items.contains v)
  | .str s, .str part => some ((s.splitOn part).length > 1 || part.isEmpty)
  | .object fields, .str key => some (fields.any (·.1 == key))
  | _, _ => none

/-- The text of a text or number. -/
def joinable? : Value → Option String
  | .str s => some s
  | .int n => some (toString n)
  | .float x => some (Value.floatText x)
  | _ => none

/-- The rounds of a loop over a value. A list and a text have no keys, an object has. A loop over a
text has a round for each character, and the item of a round is the cluster of that number. -/
def rounds? (key : Option String) (item : String) (v : Value) : Option (List Round) :=
  match v, key with
  | .list items, none =>
    some (items.mapIdx fun i v => ⟨item, some v, none, i, items.length⟩)
  | .str s, none =>
    let items := Text.clusters s
    some ((List.range s.length).map fun i => ⟨item, items[i]?.map .str, none, i, s.length⟩)
  | .object fields, some k =>
    some (fields.mapIdx fun i f => ⟨item, some f.2, some (k, f.1), i, fields.length⟩)
  | _, _ => none

/-- Whether a loop may run over the value of an expression: that of a variable or a list. -/
def Expr.isContainer : Expr → Bool
  | .mk (.name _) _ _ | .mk (.list _) _ _ => true
  | _ => false

/-- Rendering reads and changes a scope. What a part has changed before it fails stays changed. -/
abbrev Rendering := OptionT (StateM Scope)

/-- Goes on with a result if there is one. -/
def found {α : Type} (result : Option α) : Rendering α := OptionT.mk (pure result)

/-! ### Arguments and filters -/

/-- The arguments of a call, by name. -/
abbrev Arguments := List (String × Rendering Value)

/-- The values of arguments. -/
def evaluateArgs (args : Arguments) : Rendering (List (String × Value)) :=
  args.mapM fun (name, v) => do return (name, ← v)

/-- The value of the argument of a name, if there is one; the other arguments are not looked at. -/
def evaluateArg (args : Arguments) (name : String) : Rendering (Option Value) :=
  match args.lookup name with
  | some v => some <$> v
  | none => return none

/-- The filters of an expression, by name, with their arguments. -/
abbrev Filters := List (String × Arguments)

/-- The value that the first filter of an expression puts in for an absent one. -/
def defaultValue : Filters → Rendering Value
  | [] => failure
  | (_, args) :: _ => do found (← evaluateArg args "value")

/-- Applies filters, from the left. Standing in for an absent value is not done here. -/
def applyFilters (v : Value) : Filters → Rendering Value
  | [] => return v
  | (name, args) :: rest => do
    if name = "default" || name = "safe" then applyFilters v rest
    else
      match applyFilter name v (← evaluateArgs args) with
      | .ok v => applyFilters v rest
      | .error _ => failure

/-! ### Expressions -/

/-- What an expression gives, by what it is asked for. -/
structure Meaning where
  value : Rendering Value
  /-- Whether it holds as a condition. -/
  holds : Rendering Bool
  /-- The number that it has for a value; none if a calculation has led to no number. -/
  number : Rendering (Option Value)

/-- The opposite of a value if it is negated. -/
def negateIf (negated : Bool) (v : Value) : Value := if negated then .bool (!isTruthy v) else v

/-- A value that must be a number. -/
def asNumber (v : Value) : Rendering (Option Value) :=
  if (number? v).isSome then return some v else failure

/-- An expression that starts from an operand. If filters are applied, its number is that of its
value. -/
def Meaning.of (negated : Bool) (filters : Filters) (operand : Rendering Value)
    (holds : Rendering Bool) (number : Rendering (Option Value) := failure) : Meaning :=
  let value := do return negateIf negated (← applyFilters (← operand) filters)
  { value, holds, number := if filters.isEmpty then number else do asNumber (← value) }

/-- A variable. An absent one is an error, unless it is negated or `default` stands in for it; as a
condition it does not hold. -/
def Meaning.ofName (negated : Bool) (filters : Filters) (path : List String) : Meaning :=
  let isDefaulted := (filters.head?.map (·.1)) == some "default"
  let value : Rendering Value := do
    match (← get).find? path with
    | none =>
      if isDefaulted then return negateIf negated (← applyFilters (← defaultValue filters) filters)
      else if negated then return .bool true
      else failure
    | some v =>
      let v ← if isDefaulted && v matches .null then defaultValue filters else pure v
      return negateIf negated (← applyFilters v filters)
  { value
    holds := (do return isTruthy (← value)) <|> pure false
    number := do
      if filters.isEmpty then asNumber (← found ((← get).find? path)) else asNumber (← value) }

/-- The result of a connective or comparison, or its opposite if it is negated. A question without
an answer is false either way. -/
def evaluateBinary (negated : Bool) (op : Operator) (l r : Meaning) : Rendering Bool := do
  match op with
  | .or =>
    let left ← l.holds
    let result ← if left then pure true else r.holds
    return result != negated
  | .and =>
    let left ← l.holds
    let result ← if left then r.holds else pure false
    return result != negated
  | .eq | .ne =>
    match areEqual? (← l.value) (← r.value) with
    | some equal => return (equal != (op == .ne)) != negated
    | none => return false
  | _ =>
    let x ← l.number
    let y ← r.number
    match x.bind number?, y.bind number? with
    | some x, some y => return areOrdered op x y != negated
    | _, _ => failure

/-- The result of an operation on numbers; none if it is no number. -/
def calculate (op : Arithmetic) (l r : Meaning) : Rendering (Option Value) := do
  match ← l.number, ← r.number with
  | some x, some y => found (op.apply x y)
  | _, _ => return none

/-- Whether the value of one expression is in that of another, or is not. -/
def member (opposite : Bool) (l r : Meaning) : Rendering Bool := do
  let v ← l.value
  let container ← r.value
  return (← found (isMember? v container)) != opposite

/-- The text of parts written one after another. -/
def joinParts : List Operand → Rendering String
  | [] => return ""
  | part :: rest => do
    let text ← match part with
      | .literal (.float x) => pure (Decimal.rendered.format x)
      | .literal v => found (joinable? v)
      | .name path => do found (joinable? (← found ((← get).find? path)))
      | _ => failure
    return text ++ (← joinParts rest)

/-- The result of a test of a variable. -/
def test (path : List String) (opposite : Bool) (tester : String)
    (args : List (Rendering Value)) : Rendering Bool := do
  let values ← args.mapM id
  match runTest tester ((← get).find? path) values with
  | .ok result => return result != opposite
  | .error _ => failure

/-- The values for the parameters of a macro: arguments first, then constants. An argument that is
no parameter is not looked at. -/
def bindParams (args : Arguments) : List (String × Option Value) → Rendering Fields
  | [] => return []
  | (name, constant) :: rest => do
    let v ← found ((← evaluateArg args name).or constant)
    return Fields.insert (← bindParams args rest) name v

/-- How the nodes of what is inserted or called are rendered; none if nothing may nest deeper. -/
abbrev Deeper := Option (List Node → Rendering String)

/-- The text that a macro renders. -/
def callMacro (deeper : Deeper) (group name : String) (args : Arguments) : Rendering String := do
  let s ← get
  let (template, m) ← found (s.library.macro? s.macroTemplate group name)
  let assigned ← bindParams args m.params
  match deeper with
  | none => failure
  | some render =>
    modify (·.push { template, assigned, closed := true })
    let text ← render m.body
    modify Scope.pop
    return text

mutual

/-- What an expression gives. -/
def Expr.meaning (deeper : Deeper) : Expr → Meaning
  | .mk operand negated filters =>
    operand.meaning deeper negated (filtersOf deeper filters)
termination_by structural e => e

/-- What an operand gives with the filters applied to it, perhaps negated. -/
def Operand.meaning (deeper : Deeper) (operand : Operand) (negated : Bool) (filters : Filters) :
    Meaning :=
  match operand with
  | .name path => .ofName negated filters path
  | .literal v => .of negated filters (pure v) (pure (isTruthy v != negated)) (asNumber v)
  | .list items =>
    let values := valuesOf deeper items
    .of negated filters (do return .list (← values.mapM id)) failure
  | .test path opposite tester args =>
    let result := Template.test path opposite tester (valuesOf deeper args)
    .of negated filters (do return .bool (← result)) (do return (← result) != negated)
  | .callMacro group name args =>
    let text := Template.callMacro deeper group name (argumentsOf deeper args)
    .of negated filters (do return .str (← text)) (do return !(← text).isEmpty != negated)
  | .callFunction _ _ => .of negated filters failure failure
  | .binary op l r =>
    let result := evaluateBinary negated op (l.meaning deeper) (r.meaning deeper)
    .of negated filters (do return .bool (← result)) result
  | .arithmetic op l r =>
    let result := calculate op (l.meaning deeper) (r.meaning deeper)
    .of negated filters (do return (← result).getD (.str "NaN"))
      (do return (← result).any isTruthy != negated) result
  | .member opposite l r =>
    let result := Template.member opposite (l.meaning deeper) (r.meaning deeper)
    .of negated filters (do return .bool (← result)) (do return (← result) != negated)
  | .joined parts =>
    let text := joinParts parts
    .of negated filters (do return .str (← text))
      (do return isTruthy (← applyFilters (.str (← text)) filters) != negated)
termination_by structural operand

/-- The values of expressions. -/
def valuesOf (deeper : Deeper) : List Expr → List (Rendering Value)
  | [] => []
  | e :: rest => (e.meaning deeper).value :: valuesOf deeper rest
termination_by structural es => es

/-- The arguments of a call. -/
def argumentsOf (deeper : Deeper) : List (String × Expr) → Arguments
  | [] => []
  | (name, e) :: rest => (name, (e.meaning deeper).value) :: argumentsOf deeper rest
termination_by structural args => args

/-- The filters of an expression. -/
def filtersOf (deeper : Deeper) : List (String × List (String × Expr)) → Filters
  | [] => []
  | (name, args) :: rest => (name, argumentsOf deeper args) :: filtersOf deeper rest
termination_by structural filters => filters

end

/-! ### Nodes -/

/-- Renders the body of a loop for every round; each round starts without variables. -/
def renderRounds (body : Rendering String) : List Round → Rendering String
  | [] => return ""
  | r :: rest => do
    modify fun s => s.push { template := s.current, round := some r }
    let text ← body
    modify Scope.pop
    return text ++ (← renderRounds body rest)

/-- Renders a loop. -/
def renderLoop (deeper : Deeper) (key : Option String) (item : String) (container : Expr)
    (body empty : Rendering String) : Rendering String := do
  if !container.isContainer then failure
  let rounds ← found (rounds? key item (← (container.meaning deeper).value))
  if rounds.isEmpty then empty else renderRounds body rounds

/-- Renders the template of a name in place of a node. -/
def renderInserted (deeper : Deeper) (name : String) : Rendering String := do
  let t ← found ((← get).library.get? name)
  match deeper with
  | none => failure
  | some render =>
    modify (·.push { template := name })
    let text ← render t.nodes
    modify Scope.pop
    return text

/-- Renders a block, or what replaces it. -/
def renderBlock (deeper : Deeper) (name : String) (body : Rendering String) : Rendering String := do
  match (← get).replacement? name with
  | none => body
  | some (b, replacement) =>
    match deeper with
    | none => failure
    | some render =>
      modify (·.enter b)
      render replacement

/-- Renders the block that the current one replaces. -/
def renderReplaced (deeper : Deeper) : Rendering String := do
  let s ← get
  let (b, body) ← found s.replaced?
  match deeper with
  | none => failure
  | some render =>
    modify (·.enter b)
    let text ← render body
    modify Scope.leave
    -- The last ancestor has been reached: the block that was replaced is forgotten too.
    if b.level + 1 ≥ s.chain.length then modify Scope.leave
    return text

mutual

/-- Renders a node. -/
def renderNode (deeper : Deeper) : Node → Rendering String
  | .text t => return t
  | .print _ e => do return (← (e.meaning deeper).value).rendered
  | .assign _ name e => do
    let v ← (e.meaning deeper).value
    modify (·.assign name v)
    return ""
  | .insert _ name => renderInserted deeper name
  | .comment _ => return ""
  | .raw _ t _ => return t
  | .branch cases none _ => renderCases deeper (return "") cases
  | .branch cases (some (_, nodes)) _ => renderCases deeper (renderNodes deeper nodes) cases
  | .loop _ key item container body none _ =>
    renderLoop deeper key item container (renderNodes deeper body) (return "")
  | .loop _ key item container body (some nodes) _ =>
    renderLoop deeper key item container (renderNodes deeper body) (renderNodes deeper nodes)
  | .block _ name body _ => renderBlock deeper name (renderNodes deeper body)
  | .parentBlock => renderReplaced deeper
  | .defineMacro .. => return ""
  | .importMacros .. => return ""
  | .extend .. => failure
termination_by structural n => n

/-- Renders nodes one after another. -/
def renderNodes (deeper : Deeper) : List Node → Rendering String
  | [] => return ""
  | n :: rest => do
    let text ← renderNode deeper n
    return text ++ (← renderNodes deeper rest)
termination_by structural nodes => nodes

/-- Renders the first case whose condition holds, or what stands for no case. -/
def renderCases (deeper : Deeper) (otherwise : Rendering String) :
    List (Trim × Expr × List Node) → Rendering String
  | [] => otherwise
  | (_, condition, body) :: rest => do
    if ← (condition.meaning deeper).holds then renderNodes deeper body
    else renderCases deeper otherwise rest
termination_by structural cases => cases

end

/-- Renders nodes in which insertions, macros and blocks may nest so deep. -/
def renderNested : Nat → List Node → Rendering String
  | 0 => renderNodes none
  | depth + 1 => renderNodes (some (renderNested depth))

/-- Renders the template of a name in a context. -/
def Library.render? (l : Library) (name : String) (context : Fields) : Option String := do
  let t ← l.get? name
  let chain := l.chain t
  let root ← chain.getLast?
  let s : Scope :=
    { library := l, context, chain, frames := [{ template := name, closed := true }] }
  ((renderNested 1000 root.nodes).run.run s).1

end Stencil.Template
