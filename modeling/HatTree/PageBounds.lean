import HatTree.Reading
import HatTree.Schema

/-!
# Page bounds

How many objects of a relation are selected can be set per type and relation. A raw table is checked
first: known types, dictionaries under them, and positive integers as bounds.

## Main definitions

* `PageBounds`: the checked bounds of each type
* `PageBounds.bound?`: the bound of a relation
* `PageBounds.read`: a raw table, checked
* `Filters`: bounds as callers give them
* `Filters.bounds`: those bounds, checked
-/

namespace HatTree

/-- **The bounds of the relations of each type.** -/
structure PageBounds where
  /-- The bounds of the relations of hats. -/
  hat : List (String × Int) := []
  /-- The bounds of the relations of trees. -/
  tree : List (String × Int) := []
  /-- The bounds of the relations of wearers. -/
  wearer : List (String × Int) := []
  /-- The bounds of the relations of events. -/
  event : List (String × Int) := []
  /-- The bounds of the relations of claims hatters. -/
  claimsHatter : List (String × Int) := []
  deriving DecidableEq, Repr

namespace PageBounds

/-- The bounds of the relations of a type. -/
def table (b : PageBounds) : ObjectType → List (String × Int)
  | .hat => b.hat
  | .tree => b.tree
  | .wearer => b.wearer
  | .event => b.event
  | .claimsHatter => b.claimsHatter

/-- **The bound of a relation**, if one is set. -/
def bound? (b : PageBounds) (t : ObjectType) (relation : String) : Option Int :=
  (b.table t).lookup relation

/-- A table of bounds: texts to positive integers. -/
def readTable : Value → Checked (List (String × Int)) :=
  Reading.table Reading.text fun v => Reading.positive (Reading.strictInt v)

/-- The table under a key, empty if there is none. -/
def readField (entries : List (Value × Value)) (key : String) : Checked (List (String × Int)) :=
  Reading.field readTable [] entries key

/-- The key under which the bounds of claims hatters stand: the name of the type, or its other
spelling. -/
def claimsHatterKey (entries : List (Value × Value)) : String :=
  if (Value.lookup "claimsHatter" entries).isSome then "claimsHatter"
  else if (Value.lookup "claims_hatter" entries).isSome then "claims_hatter"
  else "claimsHatter"

/-- The keys of a raw table that are read. -/
def knownKeys (entries : List (Value × Value)) : List String :=
  ["hat", "tree", "wearer", "event", claimsHatterKey entries]

/-- The name of the model of page bounds. -/
def modelName : String := "PaginationFilters"

/-- **A raw table, checked.** -/
def read : Value → Checked PageBounds
  | .dict entries =>
    let hat := readField entries "hat"
    let tree := readField entries "tree"
    let wearer := readField entries "wearer"
    let event := readField entries "event"
    let claimsHatter := readField entries (claimsHatterKey entries)
    Checked.guarded
      (hat.issues ++ tree.issues ++ wearer.issues ++ event.issues ++ claimsHatter.issues ++
        Reading.unknownKeys (knownKeys entries) entries) do
      pure ⟨← hat, ← tree, ← wearer, ← event, ← claimsHatter⟩
  | _ => .error [.here (.modelType modelName)]

end PageBounds

/-- Bounds that do not pass the check. -/
structure BoundsFault where
  /-- What is wrong with them. -/
  issues : List Issue
  deriving DecidableEq, Repr

instance : Reportable BoundsFault where
  report f :=
    { Report.ofKind .inputValidation
        ("Invalid pagination filters: " ++ issueCount f.issues PageBounds.modelName) with
      issues := some f.issues }

/-- **Bounds as callers give them**: none, a raw table, or bounds that were checked before. -/
inductive Filters where
  /-- No bounds. -/
  | absent
  /-- A raw table. -/
  | raw (v : Value)
  /-- Checked bounds. -/
  | ready (bounds : PageBounds)

/-- Bounds given as a value; no value means no bounds. -/
def Filters.ofValue : Value → Filters
  | .null => .absent
  | v => .raw v

/-- Bounds that were checked before, if there are any. -/
def Filters.ofBounds : Option PageBounds → Filters
  | none => .absent
  | some bounds => .ready bounds

/-- **The bounds that a caller gives, checked.** -/
def Filters.bounds : Filters → Except BoundsFault (Option PageBounds)
  | .absent => .ok none
  | .raw v => ((PageBounds.read v).map some).mapError fun issues => ⟨issues⟩
  | .ready bounds => .ok (some bounds)

@[simp] theorem Filters.bounds_ofBounds (b : Option PageBounds) : (ofBounds b).bounds = .ok b := by
  cases b <;> rfl

end HatTree
