/-!
# The layout of hat ids

A hat id has 256 bits: a tree domain of 32 bits and fourteen levels of 16 bits each. Widths in
hexadecimal digits follow from that.
-/

namespace HatTree.Layout

/-- The bits of a hat id. -/
def idBits : Nat := 256

/-- The bits of a tree domain. -/
def domainBits : Nat := 32

/-- The bits of a level. -/
def levelBits : Nat := 16

/-- The number of values of a level. -/
def levelSpan : Nat := Nat.pow 2 levelBits

/-- The hexadecimal digits of a hat id. -/
def idDigits : Nat := idBits / 4

/-- The hexadecimal digits of a tree domain. -/
def domainDigits : Nat := domainBits / 4

/-- The hexadecimal digits of a level. -/
def levelDigits : Nat := levelBits / 4

/-- The levels below a top hat. -/
def maxLevels : Nat := 14

/-- The most hats that one admin can have below it. -/
def maxLevelHats : Nat := 65535

/-- The largest tree domain. -/
def maxDomain : Nat := Nat.pow 2 domainBits - 1

/-- The largest hat id. -/
def maxHatId : Nat := Nat.pow 2 idBits - 1

/-- The page size of a relation for which no other is given. -/
def defaultPageSize : Nat := 1000

/-- The address of the protocol's contract. -/
def protocolAddress : String := "0x3bc1A0Ad72417f2d411118085256fC53CBdDd137"

/-- The zero address. -/
def zeroAddress : String := "0x0000000000000000000000000000000000000000"

/-- The address that stands for no module. -/
def fallbackAddress : String := "0x0000000000000000000000000000000000004a75"

/-- The id zero in hexadecimal digits. -/
def zeroId : String := String.ofList ('0' :: 'x' :: List.replicate idDigits '0')

end HatTree.Layout
