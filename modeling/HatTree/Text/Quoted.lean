import HatTree.Numeral
import HatTree.Text.Printable

/-!
# Quoted text

A text is shown between quotation marks, with escapes for the mark itself, for the backslash and for
what does not print. Single marks are preferred; double marks are taken for a text that holds single
marks and no double ones.

## Main definitions

* `quoteMark`: the mark around a text
* `escape`: how a character is written between such marks
* `quote`: the shown form of a text
* `quoteBytes`: the shown form of a byte string
-/

namespace HatTree.Text

open HatTree.Numeral

/-- The mark around a text: a single one, unless the text holds single marks only. -/
def quoteMark (cs : List Char) : Char :=
  if cs.contains '\'' && !cs.contains '"' then '"' else '\''

/-- A code point in hexadecimal digits of at least the width. -/
def escapeDigits (width n : Nat) : List Char := (hexDigits n).leftpad width '0'

/-- The escape of a code point: two, four or eight hexadecimal digits, the fewest that do. -/
def escapeCode (n : Nat) : List Char :=
  if n < 0x100 then '\\' :: 'x' :: escapeDigits 2 n
  else if n < 0x10000 then '\\' :: 'u' :: escapeDigits 4 n
  else '\\' :: 'U' :: escapeDigits 8 n

/-- **How a character is written between marks.** -/
def escape (mark c : Char) : List Char :=
  if c = mark ∨ c = '\\' then ['\\', c]
  else if c = '\n' then ['\\', 'n']
  else if c = '\r' then ['\\', 'r']
  else if c = '\t' then ['\\', 't']
  else if isPrintable c then [c]
  else escapeCode c.toNat

/-- The shown form of a list of characters. -/
def quoteChars (cs : List Char) : List Char :=
  let mark := quoteMark cs
  mark :: (cs.flatMap (escape mark) ++ [mark])

/-- **The shown form of a text.** -/
def quote (s : String) : String := String.ofList (quoteChars s.toList)

/-- How a byte is written between marks: printable ASCII as it is. -/
def escapeByte (mark : Char) (b : UInt8) : List Char :=
  let c := Char.ofNat b.toNat
  if b < 0x80 then escape mark c else escapeCode b.toNat

/-- The shown form of a byte string, marked by a leading b. -/
def quoteBytes (bs : List UInt8) : String :=
  let mark := quoteMark (bs.map fun b => Char.ofNat b.toNat)
  String.ofList ('b' :: mark :: (bs.flatMap (escapeByte mark) ++ [mark]))

end HatTree.Text
