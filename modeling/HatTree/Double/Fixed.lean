import HatTree.Double.Shortest

/-!
# A fixed number of digits

A double is written with a fixed number of places, with a fixed number of digits and an exponent, or
in whichever of the two forms suits its size. The exact binary value is rounded, a tie to the even
digit.

## Main definitions

* `Double.Form`: the three forms
* `Double.rounded`: a given number of digits, and the exponent of the first
* `Double.writeAs`: the written form of a double, without its sign
-/

namespace HatTree.Double

/-- **The forms in which a fixed number of digits is written.** -/
inductive Form where
  /-- So many places behind the point. -/
  | places
  /-- So many places behind the first digit, and an exponent. -/
  | exponent
  /-- So many digits, with an exponent only for very large and very small numbers. -/
  | digits
  deriving DecidableEq, Repr

/-- The number `m · 2 ^ q` as a fraction. -/
def fraction (m : Nat) (q : Int) : Nat × Nat := (m * Nat.pow 2 q.toNat, Nat.pow 2 (-q).toNat)

/-- The multiple of `10 ^ (-places)` nearest to a fraction. -/
def nearestMultiple (num den : Nat) (places : Int) : Nat :=
  let (n, d) := scaled num den places
  roundDiv n d

/-- **So many places behind the first digit**, and the exponent of that digit. -/
def rounded (m : Nat) (q : Int) (places : Nat) : List Char × Int :=
  if m = 0 then (List.replicate (places + 1) '0', 0)
  else
    let (num, den) := fraction m q
    let e := decimalScale num den - 1
    let c := nearestMultiple num den (places - e)
    if c = Nat.pow 10 (places + 1) then ('1' :: List.replicate places '0', e + 1)
    else (Nat.toDigits 10 c, e)

/-- Digits behind a point; the point goes with the last digit unless it is to be kept. -/
def pointed (keepPoint : Bool) (ds : List Char) : List Char :=
  if ds.isEmpty && !keepPoint then [] else '.' :: ds

/-- A number with so many places behind the point. -/
def writePlaces (keepPoint : Bool) (m : Nat) (q : Int) (places : Nat) : List Char :=
  let (num, den) := fraction m q
  let ds := (Nat.toDigits 10 (nearestMultiple num den places)).leftpad (places + 1) '0'
  ds.take (ds.length - places) ++ pointed keepPoint (ds.drop (ds.length - places))

/-- Digits with an exponent. -/
def writeExponent (keepPoint : Bool) (ds : List Char) (e : Int) : List Char :=
  ds.take 1 ++ pointed keepPoint (ds.drop 1) ++ exponentText 'e' e

/-- So many digits; zeros at their end are dropped unless the point is to be kept. -/
def writeDigits (keepPoint : Bool) (m : Nat) (q : Int) (count : Nat) : List Char :=
  let (all, e) := rounded m q (count - 1)
  let ds := if keepPoint then all else significant all
  if e < -4 ∨ count ≤ e then writeExponent keepPoint ds e
  else if e < 0 then '0' :: '.' :: (List.replicate (e.natAbs - 1) '0' ++ ds)
  else
    let whole := e.toNat + 1
    (ds.take whole).rightpad whole '0' ++ pointed keepPoint (ds.drop whole)

/-- **The written form of a double** in a form, without its sign. -/
def writeAs (form : Form) (keepPoint : Bool) (precision : Nat) (x : Double) : List Char :=
  match x.shape with
  | .nan => ['n', 'a', 'n']
  | .infinite _ => ['i', 'n', 'f']
  | .finite _ m q =>
    match form with
    | .places => writePlaces keepPoint m q precision
    | .exponent =>
      let (ds, e) := rounded m q precision
      writeExponent keepPoint ds e
    | .digits => writeDigits keepPoint m q (max precision 1)

end HatTree.Double
