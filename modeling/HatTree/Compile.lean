import HatTree.Note
import HatTree.Selection.Text

/-!
# Compiling a projection

From the name of a type and a projection to the text of a selection. Faults are found in a fixed
order: the type, the page size, the projection, the bounds, the relations.

## Main definitions

* `Compile.selection`: the text of the selection of a projection
* `Compile.run`: the same for a type given by name and a page size given as a value
* `Compile.Fault`: why there is none
-/

namespace HatTree.Compile

/-- Why a projection has no selection. -/
inductive Fault where
  /-- The type is unknown. -/
  | type (name : Value)
  /-- The page size is not a positive integer. -/
  | pageSize (size : Value)
  /-- The projection is malformed. -/
  | projection (fault : ProjectionFault)
  /-- The bounds do not pass the check. -/
  | bounds (fault : BoundsFault)
  /-- The entries have no selection, or it has no text. -/
  | selection (fault : Selection.Fault)

instance : Reportable Fault where
  report
    | .type name => .ofWriting do
        let shown ← name.toShown
        pure (.ofKind .inputValidation
          ("Unknown object type " ++ shown ++ ". Available: " ++
            Value.shownTexts (ObjectType.all.map ObjectType.label))
          [("object_type", name)])
    | .pageSize size => .ofWriting do
        let shown ← size.toShown
        pure (.ofKind .inputValidation
          ("default_page_size must be a positive integer, got " ++ shown)
          [("default_page_size", size)])
    | .projection fault => report fault
    | .bounds fault => report fault
    | .selection fault => report fault

/-- **The selection of a projection from an object of a type**, as text. -/
def selection (t : ObjectType) (projection : Value) (filters : Filters) (size : Int) :
    Except Fault String := do
  let entries ← (Projection.entries projection).mapError .projection
  let bounds ← filters.bounds.mapError .bounds
  let nodes ← (Selection.build ⟨bounds, size⟩ t entries).mapError .selection
  let spelt ← (Selection.spell nodes).mapError .selection
  pure (Selection.render spelt)

/-- A type given by name. -/
def typeOf : Value → Except Fault ObjectType
  | .text name =>
    match ObjectType.ofLabel? name with
    | some t => .ok t
    | none => .error (.type (.text name))
  | v => .error (.type v)

/-- A page size given as a value. -/
def pageSizeOf : Value → Except Fault Int
  | .int n => if 1 ≤ n then .ok n else .error (.pageSize (.int n))
  | v => .error (.pageSize v)

/-- **The selection of a projection** from an object of a named type, with the note about it. -/
def run (type projection : Value) (filters : Filters) (size : Value) :
    Except Fault (String × Note) := do
  let t ← typeOf type
  let n ← pageSizeOf size
  let text ← selection t projection filters n
  pure (text, .compiled t.indexName text)

end HatTree.Compile
