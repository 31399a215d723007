/-!
# Binary floating-point numbers

A number of 64 bits: a sign, an exponent of eleven bits and a fraction of 52 bits. All questions
about it are answered exactly, from its bits.

## Main definitions

* `Double`: the bit pattern
* `Double.shape`: not a number, infinite, or `± m · 2 ^ q`
* `Double.integer?`: the integer it equals
* `Double.truncated?`: its integral part
* `Double.nearest?`: the double nearest to an integer
-/

namespace HatTree

/-- A floating-point number, by its bit pattern. -/
structure Double where
  /-- Sign, exponent and fraction. -/
  bits : UInt64
  deriving DecidableEq, Repr

namespace Double

/-- What a bit pattern stands for. -/
inductive Shape where
  /-- Not a number. -/
  | nan
  /-- An infinity. -/
  | infinite (negative : Bool)
  /-- The number `± m · 2 ^ q`. -/
  | finite (negative : Bool) (m : Nat) (q : Int)
  deriving DecidableEq, Repr

/-- The value of the sign bit. -/
def signBit : Nat := 0x8000000000000000

/-- The value of the bit in front of the fraction, which is not stored. -/
def hiddenBit : Nat := 0x10000000000000

/-- The sign bit. -/
def negative (x : Double) : Bool := signBit ≤ x.bits.toNat

/-- The exponent field. -/
def exponentField (x : Double) : Nat := x.bits.toNat / hiddenBit % 2048

/-- The fraction field. -/
def fractionField (x : Double) : Nat := x.bits.toNat % hiddenBit

/-- **What the bits stand for.** -/
def shape (x : Double) : Shape :=
  if x.exponentField = 2047 then
    if x.fractionField = 0 then .infinite x.negative else .nan
  else if x.exponentField = 0 then .finite x.negative x.fractionField (-1074)
  else .finite x.negative (x.fractionField + hiddenBit) (x.exponentField - 1075)

/-- Whether the gap below the number is half the gap above it. -/
def narrowBelow (x : Double) : Bool := x.fractionField = 0 && 1 < x.exponentField

/-- Whether it is zero, of either sign. -/
def isZero (x : Double) : Bool := x.exponentField = 0 && x.fractionField = 0

/-- The integral part of `m · 2 ^ q`, and whether nothing is lost. -/
def wholePart (m : Nat) (q : Int) : Nat × Bool :=
  match q with
  | .ofNat k => (m * Nat.pow 2 k, true)
  | .negSucc k => (m / Nat.pow 2 (k + 1), m % Nat.pow 2 (k + 1) = 0)

/-- The integral part of a finite number, toward zero. -/
def truncated? (x : Double) : Option Int :=
  match x.shape with
  | .finite negative m q =>
    let n : Int := (wholePart m q).1
    some (if negative then -n else n)
  | _ => none

/-- The integer that the number equals. -/
def integer? (x : Double) : Option Int :=
  match x.shape with
  | .finite negative m q =>
    let (n, exact) := wholePart m q
    if exact then some (if negative then -(n : Int) else n) else none
  | _ => none

/-- The quotient rounded to the nearest integer, a half to the even one. -/
def roundDiv (num den : Nat) : Nat :=
  let q := num / den
  let r := num % den
  if 2 * r < den then q
  else if den < 2 * r then q + 1
  else if q % 2 = 0 then q else q + 1

/-- The double nearest to a natural number, a tie to the even one; none beyond the largest. -/
def nearestNat? (n : Nat) : Option Double :=
  if n = 0 then some ⟨0⟩
  else
    let m := if n.log2 ≤ 52 then n * Nat.pow 2 (52 - n.log2)
      else roundDiv n (Nat.pow 2 (n.log2 - 52))
    let exponent := n.log2 + 1023
    let bits := exponent * hiddenBit + (m - hiddenBit)
    if bits < 2047 * hiddenBit then some ⟨UInt64.ofNat bits⟩ else none

/-- The double nearest to an integer. -/
def nearest? (n : Int) : Option Double :=
  (nearestNat? n.natAbs).map fun x =>
    if n < 0 then ⟨UInt64.ofNat (x.bits.toNat + signBit)⟩ else x

end Double

end HatTree
