import HatTree.Layout
import HatTree.PageBounds
import HatTree.Projection

/-!
# Selections

A projection is resolved along the schema into a selection: a tree of nodes, one for the id, then
one for each entry. Relations are limited to a page, and event lists are ordered the newest first.

## Main definitions

* `Node`: a selected field with arguments and the nodes below it
* `Paging`: the bounds under which relations are selected
* `Selection.build`: the selection of a list of entries
* `Selection.Fault`: why there is none
-/

namespace HatTree

/-- **A selected field** with its arguments and the nodes below it; `ν` is the type of names. -/
inductive Node (ν : Type) where
  /-- A field. -/
  | mk (name : ν) (arguments : List (String × String)) (children : List (Node ν))

namespace Node

variable {ν : Type}

/-- The name of the field. -/
def name : Node ν → ν
  | mk name _ _ => name

/-- The arguments of the field, in order. -/
def arguments : Node ν → List (String × String)
  | mk _ arguments _ => arguments

/-- The nodes below the field. -/
def children : Node ν → List (Node ν)
  | mk _ _ children => children

/-- A field without arguments that has nothing below it. -/
def leaf (name : ν) : Node ν := mk name [] []

end Node

/-- **The bounds under which relations are selected.** -/
structure Paging where
  /-- The bounds set per type and relation. -/
  bounds : Option PageBounds := none
  /-- The bound of every other relation. -/
  size : Int := Layout.defaultPageSize

/-- **The bound of a relation.** -/
def Paging.bound (p : Paging) (t : ObjectType) (relation : String) : Int :=
  (p.bounds.bind fun b => b.bound? t relation).getD p.size

/-- **The arguments of a relation**: the order of an event list, and the bound, if it can be
written. -/
def Paging.arguments (p : Paging) (t : ObjectType) (relation : String) :
    Except Numeral.Overlong (List (String × String)) := do
  let bound ← Numeral.write (p.bound t relation)
  pure ((if t.isEventList relation then [("orderBy", "timestamp"), ("orderDirection", "desc")]
    else []) ++ [("first", bound)])

namespace Selection

/-- Why a list of entries has no selection, or a selection no text. -/
inductive Fault where
  /-- A relation that the type does not have. -/
  | relation (fault : RelationFault)
  /-- A name that cannot be looked up. -/
  | unhashable (typeName : String)
  /-- A relation whose bound cannot be written. -/
  | bound (owner : ObjectType) (relation : String) (fault : Numeral.Overlong)
  /-- Something that is no entry. -/
  | stray (v : Value)
  /-- A name that is no text, at a place among its siblings. -/
  | nameType (position : Nat) (typeName : String)

instance : Reportable Fault where
  report
    | .relation fault => report fault
    | .unhashable typeName => .plain .wrongType ("unhashable type: '" ++ typeName ++ "'")
    | .bound _ _ fault => report fault
    | .stray v => .ofWriting do
        let shown ← v.toShown
        pure (.plain .wrongType ("Unexpected projection entry: " ++ shown))
    | .nameType position typeName => .plain .wrongType ("sequence item " ++ Nat.repr position ++
        ": expected str instance, " ++ typeName ++ " found")

/-- The relation of a type that a name stands for, with the type it points at. -/
def resolve (t : ObjectType) (name : Value) : Except Fault (String × ObjectType) :=
  match name with
  | .text relation =>
    match t.target? relation with
    | some next => .ok (relation, next)
    | none => .error (.relation ⟨t, name⟩)
  | _ =>
    match name.unhashable? with
    | some typeName => .error (.unhashable typeName)
    | none => .error (.relation ⟨t, name⟩)

/-- The node that every selection starts with. -/
def idNode : Node Value := .leaf (.text idField)

mutual

/-- The node of an entry of a type. -/
def nodeOf (p : Paging) (t : ObjectType) : Entry → Except Fault (Node Value)
  | .scalar name => .ok (.leaf name)
  | .relation name fields => do
    let (relation, next) ← resolve t name
    let arguments ← (p.arguments t relation).mapError (.bound t relation)
    let children ← nodesOf p next fields
    pure (.mk name arguments (idNode :: children))
  | .stray v => .error (.stray v)

/-- The nodes of the entries of a type, in order. -/
def nodesOf (p : Paging) (t : ObjectType) : List Entry → Except Fault (List (Node Value))
  | [] => .ok []
  | e :: es => do
    let node ← nodeOf p t e
    let nodes ← nodesOf p t es
    pure (node :: nodes)

end

/-- **The selection of entries from an object of a type**: the id, then one node per entry. -/
def build (p : Paging) (t : ObjectType) (entries : List Entry) :
    Except Fault (List (Node Value)) := do
  let nodes ← nodesOf p t entries
  pure (idNode :: nodes)

mutual

/-- A node as a value. -/
def nodeValue : Node Value → Value
  | .mk name arguments children =>
    .selectionNode name (arguments.map fun (k, v) => (.text k, .text v)) (nodeValues children)

/-- Nodes as values. -/
def nodeValues : List (Node Value) → List Value
  | [] => []
  | n :: ns => nodeValue n :: nodeValues ns

end

mutual

/-- A value as a node with the texts of its arguments; a value that is none selects a field of its
own name. -/
def ofValue : Value → Except Numeral.Overlong (Node Value)
  | .selectionNode name arguments children => do
    let arguments ← arguments.mapM fun (k, v) => do pure (← k.toPlain, ← v.toPlain)
    let children ← ofValues children
    pure (.mk name arguments children)
  | v => .ok (.leaf v)

/-- Values as nodes. -/
def ofValues : List Value → Except Numeral.Overlong (List (Node Value))
  | [] => .ok []
  | v :: vs => do
    let node ← ofValue v
    let nodes ← ofValues vs
    pure (node :: nodes)

end

end Selection

end HatTree
