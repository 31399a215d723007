import HatTree.HatId.Ancestry
import HatTree.Note

/-!
# The ledger

Levels across linked trees and numbers of children are only known to the ledger. A reader answers
for it; the arithmetic on ids is done here.

## Main definitions

* `Ledger.Reader`: the questions that the ledger answers
* `Ledger.Reply`: an outcome with the questions asked and the notes taken
* `Ledger.admin`: the direct admin of a hat
* `Ledger.children`: the children created under a hat
* `Ledger.predict`: the ids that the next children will get
-/

namespace HatTree.Ledger

/-- **A reader of the ledger.** -/
structure Reader where
  /-- The level of a hat across linked trees. -/
  level : Int → Int
  /-- The level of a hat in its own tree. -/
  localLevel : Int → Int
  /-- The admin of a hat at a level across linked trees. -/
  adminAt : Int → Int → Int
  /-- The number of children created under a hat. -/
  childCount : Int → Int

/-- A question asked of a reader. -/
inductive Question where
  /-- The level across linked trees. -/
  | level (hat : Int)
  /-- The level in its own tree. -/
  | localLevel (hat : Int)
  /-- The admin at a level. -/
  | adminAt (hat level : Int)
  /-- The number of children. -/
  | childCount (hat : Int)
  deriving DecidableEq, Repr

/-- What keeps the ledger's helpers from answering. -/
inductive Fault where
  /-- A level that no tree has. -/
  | level (fault : LevelFault)
  /-- A child that cannot be. -/
  | child (fault : ChildFault)
  /-- The children asked for would be too many. -/
  | full (admin existing requested : Int)
  deriving DecidableEq, Repr

instance : Reportable Fault where
  report
    | .level fault => report fault
    | .child fault => report fault
    | .full admin existing requested => .ofKind .maxHatsInLevelReached fullMessage
        [("admin", .text (HatId.toHex admin)), ("existing", .int existing),
          ("requested", .int requested)]

/-- **An outcome with the questions asked**, in order, and the notes taken. -/
structure Reply (α : Type) where
  /-- The questions asked of the reader. -/
  questions : List Question := []
  /-- The notes taken. -/
  notes : List Note := []
  /-- The outcome. -/
  outcome : Except Fault α

/-- **The direct admin of a hat.** A top hat that is linked nowhere is its own admin; inside a tree
the admin is found by truncation; the admin of a linked top hat is asked for. -/
def admin (reader : Reader) (hat : Int) : Reply Int :=
  let level := reader.level hat
  if level = 0 then { questions := [.level hat], outcome := .ok hat }
  else
    let ownLevel := reader.localLevel hat
    if 0 < ownLevel then
      { questions := [.level hat, .localLevel hat]
        outcome := (HatId.adminAt hat (ownLevel - 1)).mapError .level }
    else
      { questions := [.level hat, .localLevel hat, .adminAt hat (level - 1)]
        outcome := .ok (reader.adminAt hat (level - 1)) }

/-- The ids of `count` children of an admin, from the `n`-th on. -/
def childrenFrom (admin n : Int) : Nat → Except ChildFault (List Int)
  | 0 => .ok []
  | count + 1 => do
    let id ← HatId.child admin n
    let ids ← childrenFrom admin (n + 1) count
    pure (id :: ids)

/-- **The ids of the children created under a hat.** -/
def children (reader : Reader) (hat : Int) : Reply (List Int) :=
  { questions := [.childCount hat]
    outcome := (childrenFrom hat 1 (reader.childCount hat).toNat).mapError .child }

/-- **The ids that the next `count` children of an admin will get.** -/
def predict (reader : Reader) (admin count : Int) : Reply (List Int) :=
  if count < 1 then { outcome := .ok [] }
  else
    let existing := reader.childCount admin
    if Layout.maxLevelHats < existing + count then
      { questions := [.childCount admin], outcome := .error (.full admin existing count) }
    else
      let questions := [.childCount admin, .localLevel admin]
      if reader.localLevel admin = Layout.maxLevels then
        { questions, outcome := .error (.child (.deepest admin)) }
      else
        { questions
          notes := [.predicting count existing]
          outcome := (childrenFrom admin (existing + 1) count.toNat).mapError .child }

end HatTree.Ledger
