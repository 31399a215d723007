import HatTree.HatId.Ancestry
import HatTree.HatId.Dotted

/-!
# Walks through trees

A walk goes from id to id: down to a child, up to an admin, to the top of the tree, or through a
written form and back. A move that fails leaves the walk where it is.

## Main definitions

* `HatId.Move`: a move
* `HatId.Move.apply`: where a move leads
* `HatId.walk`: the outcomes of moves, one after the other
-/

namespace HatTree.HatId

/-- **A move from one id to another.** -/
inductive Move where
  /-- Down to the `n`-th child. -/
  | child (n : Int)
  /-- Up to the admin at a level. -/
  | admin (level : Int)
  /-- Up to the direct admin. -/
  | parent
  /-- Up to the top hat. -/
  | top
  /-- Through the dotted path and back. -/
  | throughDotted
  /-- Through the hexadecimal form and back. -/
  | throughHex
  /-- To the id that a path names. -/
  | goto (path : String)
  deriving DecidableEq, Repr

/-- Why a move fails. -/
inductive MoveFault where
  /-- The level does not exist. -/
  | level (fault : LevelFault)
  /-- The child cannot be. -/
  | child (fault : ChildFault)
  /-- The hexadecimal form is no numeral. -/
  | hex (fault : HexFault)
  /-- The path has a fault. -/
  | path (fault : PathFault)
  deriving DecidableEq, Repr

instance : Reportable MoveFault where
  report
    | .level fault => report fault
    | .child fault => report fault
    | .hex fault => report fault
    | .path fault => report fault

/-- **Where a move leads.** -/
def Move.apply (h : Int) : Move → Except MoveFault Int
  | child n => (HatId.child h n).mapError .child
  | admin level => (adminAt h level).mapError .level
  | parent => (adminAt h (depth h - 1)).mapError .level
  | top => (topHat (treeOf h)).mapError .hex
  | throughDotted => (ofDotted (toDotted h)).mapError .path
  | throughHex => (ofHex (toHex h)).mapError .hex
  | goto path => (ofDotted path).mapError .path

/-- Where a walk stands after a move: a move that fails leads nowhere. -/
def Move.step (h : Int) (m : Move) : Int :=
  match m.apply h with
  | .ok next => next
  | .error _ => h

/-- **The outcomes of moves**, one after the other. -/
def walk (h : Int) : List Move → List (Except MoveFault Int)
  | [] => []
  | m :: ms => m.apply h :: walk (m.step h) ms

@[simp] theorem length_walk (h : Int) (ms : List Move) : (walk h ms).length = ms.length := by
  induction ms generalizing h with
  | nil => rfl
  | cons m ms ih => simp [walk, ih]

end HatTree.HatId
