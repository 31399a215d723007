import HatTree.Double

/-!
# Dynamic values

Projections, filters, settings, contract arguments, log fields and index responses arrive as values
whose shape is not known beforehand.

## Main definitions

* `Value`: such a value; dictionaries keep the order in which their entries were put
* `Value.typeName`: the name of its type, as error texts give it
* `Value.truth`: whether it counts as present
* `Value.items?`, `Value.size?`: the members of a collection, and their number
* `Value.get?`: the value under a text key of a dictionary
* `Value.unhashable?`: the type that keeps a value from being a key
-/

namespace HatTree

/-- **A dynamic value.** It stands for the built-in values that have their usual behaviour: every
mapping is a `dict` here, as the functions that read values treat all mappings alike, and instances
of the models of projections, which the checks would accept as they are, are no values. Selected
fields, selected relations and selection nodes may stand where a value is expected. -/
inductive Value where
  /-- No value. -/
  | null
  /-- A truth value. -/
  | bool (b : Bool)
  /-- An integer of any size. -/
  | int (n : Int)
  /-- A floating-point number. -/
  | float (x : Double)
  /-- A text. -/
  | text (s : String)
  /-- A byte string. -/
  | bytes (bs : List UInt8)
  /-- A list. -/
  | list (items : List Value)
  /-- A tuple. -/
  | tuple (items : List Value)
  /-- A dictionary, in the order of its entries. -/
  | dict (entries : List (Value × Value))
  /-- A selected scalar field. -/
  | scalarField (name : Value)
  /-- A selected relation with the entries of its own projection. -/
  | relationField (name : Value) (fields : List Value)
  /-- A node of a selection. -/
  | selectionNode (name : Value) (arguments : List (Value × Value)) (children : List Value)
  /-- A list whose only member is the list itself. -/
  | ring
  deriving Inhabited

namespace Value

/-- The name of the type of a value. -/
def typeName : Value → String
  | null => "NoneType"
  | bool _ => "bool"
  | int _ => "int"
  | float _ => "float"
  | text _ => "str"
  | bytes _ => "bytes"
  | list _ => "list"
  | tuple _ => "tuple"
  | dict _ => "dict"
  | scalarField _ => "ScalarField"
  | relationField .. => "RelationField"
  | selectionNode .. => "SelectionNode"
  | ring => "list"

/-- **Whether a value counts as present**: nothing, false, zero and empty collections do not. -/
def truth : Value → Bool
  | null => false
  | bool b => b
  | int n => n ≠ 0
  | float x => !x.isZero
  | text s => s ≠ ""
  | bytes bs => !bs.isEmpty
  | list items => !items.isEmpty
  | tuple items => !items.isEmpty
  | dict entries => !entries.isEmpty
  | _ => true

/-- The members of a collection, in order: the characters of a text, the bytes of a byte string, the
keys of a dictionary. -/
def items? : Value → Option (List Value)
  | text s => some (s.toList.map fun c => text (String.singleton c))
  | bytes bs => some (bs.map fun b => int b.toNat)
  | list items => some items
  | tuple items => some items
  | dict entries => some (entries.map (·.1))
  | ring => some [ring]
  | _ => none

/-- The number of members of a collection. -/
def size? (v : Value) : Option Nat := v.items?.map List.length

/-- The value under a text key in a list of entries. -/
def lookup (key : String) : List (Value × Value) → Option Value
  | [] => none
  | (text k, v) :: rest => if k = key then some v else lookup key rest
  | _ :: rest => lookup key rest

/-- The integer that a value equals when both are taken as keys. -/
def keyInteger? : Value → Option Int
  | bool b => some (if b then 1 else 0)
  | int n => some n
  | float x => x.integer?
  | _ => none

mutual

/-- **The type that keeps a value from being a key**: lists and dictionaries cannot be keys, nor can
what holds them. -/
def unhashable? : Value → Option String
  | list _ | ring => some "list"
  | dict _ => some "dict"
  | tuple items => unhashableItem? items
  | scalarField name => unhashable? name
  | relationField name fields => (unhashable? name).or (unhashableItem? fields)
  | selectionNode name arguments children =>
    (unhashable? name).or ((unhashablePair? arguments).or (unhashableItem? children))
  | _ => none

/-- The first such type among the members of a list. -/
def unhashableItem? : List Value → Option String
  | [] => none
  | v :: vs => (unhashable? v).or (unhashableItem? vs)

/-- The first such type among the members of a list of pairs. -/
def unhashablePair? : List (Value × Value) → Option String
  | [] => none
  | (k, v) :: rest => ((unhashable? k).or (unhashable? v)).or (unhashablePair? rest)

end

end Value

end HatTree
