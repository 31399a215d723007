/-!
# Ascending ranges

A property of characters is given by the inclusive ranges of code points that have it, in ascending
order. Looking a code point up stops at the first range that starts beyond it.

## Main definitions

* `Ranges`: inclusive ranges of code points
* `Ranges.covers`: whether a code point lies in one of them
-/

namespace HatTree.Text

/-- Inclusive ranges of code points, ascending and disjoint. -/
abbrev Ranges := List (Nat × Nat)

namespace Ranges

/-- **Membership in ascending ranges**: the ranges that start beyond the code point are not read. -/
def covers : Ranges → Nat → Bool
  | [], _ => false
  | (first, last) :: rest, n => first ≤ n && (n ≤ last || covers rest n)

/-- The range that holds a code point. -/
def holding? : Ranges → Nat → Option (Nat × Nat)
  | [], _ => none
  | (first, last) :: rest, n =>
    if n < first then none else if n ≤ last then some (first, last) else holding? rest n

@[simp] theorem covers_nil (n : Nat) : covers [] n = false := rfl

theorem covers_cons (first last : Nat) (rest : Ranges) (n : Nat) :
    covers ((first, last) :: rest) n =
      (decide (first ≤ n) && (decide (n ≤ last) || covers rest n)) :=
  rfl

end Ranges

end HatTree.Text
