import HatTree.Report

/-!
# Projections

A projection says which fields of an object are selected: a dictionary in which a scalar field maps
to true and a relation to the projection of what it points at. Fields that map to false are left
out.

## Main definitions

* `Entry`: a selected field
* `Projection.normalize`: the entries of a projection, in its order
* `Projection.entries`: the entries that a caller gives, as a projection or one by one
-/

namespace HatTree

/-- **A selected field**; the last form is something that is no field at all. -/
inductive Entry where
  /-- A scalar field. -/
  | scalar (name : Value)
  /-- A relation with the entries selected of what it points at. -/
  | relation (name : Value) (fields : List Entry)
  /-- A value that selects nothing. -/
  | stray (v : Value)

/-- What keeps a projection from being normalized. -/
inductive ProjectionFault where
  /-- A field maps to neither a truth value nor a projection. -/
  | value (field : Value) (typeName : String)
  /-- Something other than a collection of entries was given. -/
  | notIterable (typeName : String)

instance : Reportable ProjectionFault where
  report
    | .value field typeName => .ofWriting do
        let name ← field.toPlain
        pure (.ofKind .inputValidation
          ("Projection value for '" ++ name ++ "' must be a boolean or a nested config, got " ++
            typeName)
          [("field", field)])
    | .notIterable typeName => .plain .wrongType ("'" ++ typeName ++ "' object is not iterable")

namespace Projection

mutual

/-- The entry of a field, none if it maps to false. -/
def normalizeField (name : Value) : Value → Except ProjectionFault (Option Entry)
  | .bool true => .ok (some (.scalar name))
  | .bool false => .ok none
  | .dict inner => do
    let fields ← normalize inner
    pure (some (.relation name fields))
  | v => .error (.value name v.typeName)

/-- **The entries of a projection**, in its order and without the fields that map to false. -/
def normalize : List (Value × Value) → Except ProjectionFault (List Entry)
  | [] => .ok []
  | (name, v) :: rest => do
    let entry ← normalizeField name v
    let entries ← normalize rest
    pure (entry.toList ++ entries)

end

mutual

/-- A value as an entry. -/
def entryOf : Value → Entry
  | .scalarField name => .scalar name
  | .relationField name fields => .relation name (entriesOf fields)
  | v => .stray v

/-- Values as entries. -/
def entriesOf : List Value → List Entry
  | [] => []
  | v :: vs => entryOf v :: entriesOf vs

end

/-- **The entries that a caller gives**: those of a projection, or the members of a collection. -/
def entries : Value → Except ProjectionFault (List Entry)
  | .dict inner => normalize inner
  | v =>
    match v.items? with
    | some items => .ok (entriesOf items)
    | none => .error (.notIterable v.typeName)

mutual

/-- An entry as a value. -/
def entryValue : Entry → Value
  | .scalar name => .scalarField name
  | .relation name fields => .relationField name (entryValues fields)
  | .stray v => v

/-- Entries as values. -/
def entryValues : List Entry → List Value
  | [] => []
  | e :: es => entryValue e :: entryValues es

end

end Projection

end HatTree
