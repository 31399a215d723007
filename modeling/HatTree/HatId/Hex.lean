import HatTree.Layout
import HatTree.Report

/-!
# Hexadecimal forms of hat ids

The index names a hat by `0x` and 64 lower-case digits, a tree by `0x` and 8. Ids are plain integers
here: negative and over-wide ones are written with a sign or with more digits.

## Main definitions

* `HatId.digits`: the digits of an id
* `HatId.toHex`, `HatId.ofHex`: the hexadecimal form, and any hexadecimal numeral read as an id
* `HatId.treeToHex`: the hexadecimal form of a tree domain
* `HatId.treeOf`: the tree domain of an id
* `HatId.topHat`: the id of a tree's top hat
-/

namespace HatTree

/-- A text that is no hexadecimal numeral. -/
structure HexFault where
  /-- The text. -/
  text : String
  /-- What is wrong with it. -/
  flaw : Numeral.Flaw
  deriving DecidableEq, Repr

instance : Reportable HexFault where
  report f := numeralReport 16 f.text f.flaw

namespace HatId

open Numeral

/-- **The digits of an id**, at least 64 characters. -/
def digits (h : Int) : List Char := padded Layout.idDigits h

/-- Digits behind the mark of base sixteen. -/
def marked (ds : List Char) : String := String.ofList ('0' :: 'x' :: ds)

/-- **The hexadecimal form of an id.** -/
def toHex (h : Int) : String := marked (digits h)

/-- The id that a hexadecimal numeral denotes. -/
def ofHex (s : String) : Except HexFault Int :=
  match read 16 s with
  | .ok h => .ok h
  | .error flaw => .error ⟨s, flaw⟩

/-- The digits of a tree domain, at least eight characters. -/
def treeDigits (d : Int) : List Char := padded Layout.domainDigits d

/-- **The hexadecimal form of a tree domain.** -/
def treeToHex (d : Int) : String := marked (treeDigits d)

/-- **The tree domain of an id**: what its first eight digits denote. -/
def treeOf (h : Int) : Int := signedValue 16 ((digits h).take Layout.domainDigits)

/-- **The id of a tree's top hat**: the domain followed by zeros. A sign behind the mark makes the
text of a negative domain no numeral. -/
def topHat (d : Int) : Except HexFault Int :=
  ofHex (marked ((treeDigits d).rightpad Layout.idDigits '0'))

end HatId

end HatTree
