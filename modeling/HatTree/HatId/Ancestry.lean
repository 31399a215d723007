import HatTree.HatId.Hex
import HatTree.HatId.Segments

/-!
# Admins and children

An admin's id is a truncation of the ids below it; a child's id fills the first empty level of its
admin's.

## Main definitions

* `HatId.adminAt`: the ancestor of a hat at a level of its tree
* `HatId.child`: the id of the `n`-th child of an admin
-/

namespace HatTree

/-- A level that no tree has. -/
structure LevelFault where
  /-- The level asked for. -/
  level : Int
  deriving DecidableEq, Repr

instance : Reportable LevelFault where
  report f := .ofWriting do
    let level ← Numeral.write f.level
    pure (.plain .badValue
      ("Level must be between 0 and " ++ Nat.repr Layout.maxLevels ++ ", got " ++ level))

/-- Why a hat cannot have a child. -/
inductive ChildFault where
  /-- The admin sits on the deepest level. -/
  | deepest (admin : Int)
  /-- The number of the child is not between 1 and 65535. -/
  | noRoom (admin index : Int)
  deriving DecidableEq, Repr

/-- The message of an admin that sits on the deepest level. -/
def deepestMessage : String := "The provided admin's hat level is on the maximal level"

/-- The message of an admin without room for more children. -/
def fullMessage : String := "Maximum amount of hats per level is " ++ Nat.repr Layout.maxLevelHats

instance : Reportable ChildFault where
  report
    | .deepest admin => .ofKind .maxLevelReached deepestMessage
        [("admin", .text (HatId.toHex admin))]
    | .noRoom admin index => .ofKind .maxHatsInLevelReached fullMessage
        [("admin", .text (HatId.toHex admin)), ("index", .int index)]

namespace HatId

/-- The digits of an id cut behind its domain and a number of levels, zeros following. -/
def truncate (h : Int) (level : Nat) : Int :=
  let kept := (digits h).take (Layout.domainDigits + Layout.levelDigits * level)
  Numeral.signedValue 16 (kept.rightpad Layout.idDigits '0')

/-- **The ancestor of a hat at a level of its tree.** -/
def adminAt (h level : Int) : Except LevelFault Int :=
  if 0 ≤ level ∧ level ≤ Layout.maxLevels then .ok (truncate h level.toNat) else .error ⟨level⟩

/-- The bitwise or of two integers in two's complement. -/
def bitOr : Int → Int → Int
  | .ofNat m, .ofNat n => .ofNat (m ||| n)
  | .ofNat m, .negSucc n => .negSucc (Nat.bitwise (fun a b => a && !b) n m)
  | .negSucc m, .ofNat n => .negSucc (Nat.bitwise (fun a b => a && !b) m n)
  | .negSucc m, .negSucc n => .negSucc (m &&& n)

/-- **The id of the `n`-th child of an admin**: the bits of `n` are set in the level below the
admin's depth, which is empty. -/
def child (admin n : Int) : Except ChildFault Int :=
  let level := depth admin
  if level = Layout.maxLevels then .error (.deepest admin)
  else if 1 ≤ n ∧ n ≤ Layout.maxLevelHats then
    .ok (bitOr admin (n <<< (Layout.levelBits * (Layout.maxLevels - level - 1))))
  else .error (.noRoom admin n)

end HatId

end HatTree
