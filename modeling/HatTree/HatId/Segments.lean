import HatTree.Layout

/-!
# The segments of a hat id

An id splits into a tree domain and fourteen levels. A hat sits as deep as there are levels other
than zero from the top; an id is well formed when no such level follows a zero one.

## Main definitions

* `HatId.domain`, `HatId.levels`: the segments of an id
* `HatId.depth`: the number of leading levels other than zero
* `HatId.isTopHat`, `HatId.isWellFormed`
* `HatId.pack`: the id with given segments, the missing levels zero
-/

namespace HatTree.HatId

/-- The tree domain: what lies above the fourteen levels. -/
def domain (h : Int) : Int := h >>> (Layout.levelBits * Layout.maxLevels)

/-- The level at a place, counted from zero. -/
def levelAt (h : Int) (i : Nat) : Nat :=
  (h >>> (Layout.levelBits * (Layout.maxLevels - 1 - i)) % Layout.levelSpan).toNat

/-- **The levels of an id**, from the top. -/
def levels (h : Int) : List Nat := (List.range Layout.maxLevels).map (levelAt h)

@[simp] theorem length_levels (h : Int) : (levels h).length = Layout.maxLevels := by
  simp [levels]

/-- **The depth of a hat in its tree**: the number of leading levels other than zero. -/
def depth (h : Int) : Nat := ((levels h).takeWhile (· ≠ 0)).length

/-- Whether an id is that of a top hat: all levels are zero. -/
def isTopHat (h : Int) : Bool := (levels h).all (· == 0)

/-- **Whether an id is well formed**: all levels below its depth are zero. -/
def isWellFormed (h : Int) : Bool := ((levels h).drop (depth h)).all (· == 0)

/-- **The id with given segments**; levels that are not given are zero. -/
def pack (d : Nat) (ls : List Nat) : Nat :=
  ls.foldl (fun n l => n * Layout.levelSpan + l) d *
    Nat.pow Layout.levelSpan (Layout.maxLevels - ls.length)

end HatTree.HatId
