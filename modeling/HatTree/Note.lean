import HatTree.Value

/-!
# Notes

The parts of the library tell what they do in notes, which the log turns into entries.

## Main definitions

* `Note`: something that happened along the way
-/

namespace HatTree

/-- **Something that happened along the way.** -/
inductive Note where
  /-- A projection of an object was compiled to a selection. -/
  | compiled (object selection : String)
  /-- A query is about to be sent to an endpoint. -/
  | querying (endpoint query : String) (chain : Value)
  /-- The ids of children to come are about to be computed. -/
  | predicting (count existing : Int)

end HatTree
