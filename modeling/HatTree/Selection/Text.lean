import HatTree.Selection

/-!
# The text of a selection

Nodes are divided by a comma and a space; arguments stand in parentheses behind the name, the nodes
below a field in braces.

## Main definitions

* `Selection.spell`: a selection whose names are texts
* `Selection.render`: its text
-/

namespace HatTree.Selection

/-- Gives nodes their names, which have to be texts, over children that are spelt already. -/
def nameAll (position : Nat) :
    List (Node Value) → List (List (Node String)) → Except Fault (List (Node String))
  | node :: nodes, children :: rest => do
    match node.name with
    | .text name =>
      let named ← nameAll (position + 1) nodes rest
      pure (.mk name node.arguments children :: named)
    | v => .error (.nameType position v.typeName)
  | _, _ => .ok []

mutual

/-- The children of a node, spelt. -/
def spellBelow : Node Value → Except Fault (List (Node String))
  | .mk _ _ children => do
    let inner ← spellEach children
    nameAll 0 children inner

/-- The children of each node, spelt. -/
def spellEach : List (Node Value) → Except Fault (List (List (Node String)))
  | [] => .ok []
  | node :: nodes => do
    let children ← spellBelow node
    let others ← spellEach nodes
    pure (children :: others)

end

/-- **A selection whose names are texts**; the deeper names are looked at first. -/
def spell (nodes : List (Node Value)) : Except Fault (List (Node String)) := do
  let inner ← spellEach nodes
  nameAll 0 nodes inner

/-- The text of arguments, in parentheses; none for none. -/
def argumentText : List (String × String) → String
  | [] => ""
  | arguments => "(" ++ ", ".intercalate (arguments.map fun (k, v) => k ++ ": " ++ v) ++ ")"

mutual

/-- The text of a node. -/
def renderNode : Node String → String
  | .mk name arguments children =>
    name ++ argumentText arguments ++
      (if children.isEmpty then ""
        else " \x7b " ++ ", ".intercalate (renderAll children) ++ " \x7d")

/-- The texts of nodes. -/
def renderAll : List (Node String) → List String
  | [] => []
  | n :: ns => renderNode n :: renderAll ns

end

/-- **The text of a selection.** -/
def render (nodes : List (Node String)) : String := ", ".intercalate (renderAll nodes)

end HatTree.Selection
