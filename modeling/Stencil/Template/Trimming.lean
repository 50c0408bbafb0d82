import Stencil.Template.Basic
import Stencil.Text.Letter

/-! Dropping the blanks that tags ask for.

A tag drops the blanks of the text directly before or behind it. The tag between the two bodies of a
loop does not, and what a loop runs for no items is left as it is. -/

namespace Stencil.Template

/-- Drops the blanks at the end of a text that comes last; `nodes` is backwards. -/
def trimLast : List Node → List Node
  | .text s :: rest =>
    let t := Text.trimEnd s
    if t.isEmpty then rest else .text t :: rest
  | nodes => nodes

/-- Whether a node drops the blanks before it. -/
def Node.trimsBefore : Node → Bool
  | .print trim _ | .assign trim _ _ | .insert trim _ | .comment trim | .importMacros trim _ _
  | .extend trim _ => trim.left
  | .raw opening _ _ | .loop opening .. | .block opening .. | .defineMacro opening .. =>
    opening.left
  | .branch ((trim, _, _) :: _) _ _ => trim.left
  | _ => false

/-- Whether a node drops the blanks behind it; `inherited` is what the node before asked for. -/
def Node.trimsBehind (inherited : Bool) : Node → Bool
  | .print trim _ | .assign trim _ _ | .insert trim _ | .comment trim | .importMacros trim _ _
  | .extend trim _ => trim.right
  | .raw _ _ closing | .loop _ _ _ _ _ _ closing | .block _ _ _ closing
  | .defineMacro _ _ _ _ closing | .branch _ _ closing => closing.right
  | .text _ | .parentBlock => inherited

/-- Drops blanks at either end of a text, as asked. -/
def trimText (left right : Bool) (s : String) : String :=
  let s := if left then Text.trimStart s else s
  if right then Text.trimEnd s else s

/-- The nodes of a body that has been gone through, which are backwards; `right` tells whether the
tag behind it drops the blanks before it. -/
def turnBack (right : Bool) (done : List Node) : List Node :=
  (if right then trimLast done else done).reverse

mutual

/-- Drops blanks inside a node. -/
def Node.trimInside : Node → Node
  | .raw opening s closing => .raw opening (trimText opening.right closing.left s) closing
  | .loop opening key item container body empty closing =>
    .loop opening key item container
      (turnBack closing.left (trimFrom [] false opening.right body)) empty closing
  | .block opening name body closing =>
    .block opening name (turnBack closing.left (trimFrom [] false opening.right body)) closing
  | .defineMacro opening name params body closing =>
    .defineMacro opening name params
      (turnBack closing.left (trimFrom [] false opening.right body)) closing
  | .branch cases none closing => .branch (trimCases closing.left cases) none closing
  | .branch cases (some (trim, body)) closing =>
    .branch (trimCases trim.left cases)
      (some (trim, turnBack closing.left (trimFrom [] false trim.right body))) closing
  | n => n
termination_by structural n => n

/-- Drops blanks in the cases of a branch; `last` tells whether the tag behind the last one drops
the blanks before it. -/
def trimCases (last : Bool) :
    List (Trim × Expr × List Node) → List (Trim × Expr × List Node)
  | [] => []
  | (trim, condition, body) :: rest =>
    let right := match rest with
      | (next, _, _) :: _ => next.left
      | [] => last
    (trim, condition, turnBack right (trimFrom [] false trim.right body)) :: trimCases last rest
termination_by structural cases => cases

/-- Drops blanks in a list of nodes, going on from the nodes in `done`, which are backwards. -/
def trimFrom (done : List Node) (wasText trimNext : Bool) : List Node → List Node
  | [] => done
  | .text s :: rest =>
    if trimNext then
      let t := Text.trimStart s
      trimFrom (if t.isEmpty then done else .text t :: done) true false rest
    else trimFrom (.text s :: done) true false rest
  | n :: rest =>
    let done := if wasText && n.trimsBefore then trimLast done else done
    trimFrom (n.trimInside :: done) false (n.trimsBehind trimNext) rest
termination_by structural nodes => nodes

end

/-- Drops blanks in the body between two tags. -/
def trimBody (left right : Bool) (nodes : List Node) : List Node :=
  turnBack right (trimFrom [] false left nodes)

end Stencil.Template
