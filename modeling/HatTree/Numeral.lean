import HatTree.Text.Digit
import HatTree.Text.Blank

/-!
# Numerals

Writing integers in a base and reading them back. A numeral may be surrounded by blanks, may carry
one sign, may have single low lines between its digits, and may use the decimal digits of any
script; in base sixteen `0x` may stand before the digits. Decimal numerals of more than 4300 digits
are neither read nor written.

## Main definitions

* `value`: what a run of digits denotes
* `hexDigits`, `decimal`: all digits of an integer in base sixteen and ten
* `isWritable`, `write`: an integer in base ten, unless it has too many digits
* `padded`: hexadecimal digits filled up with zeros behind the sign
* `read`: the integer a text denotes, or what is wrong with it
-/

namespace HatTree.Numeral

open HatTree.Text

/-- The value of a digit in a base of at most sixteen, letters of both cases included. -/
def digit? (c : Char) : Option Nat :=
  if '0' ≤ c ∧ c ≤ '9' then some (c.toNat - '0'.toNat)
  else if 'a' ≤ c ∧ c ≤ 'f' then some (c.toNat - 'a'.toNat + 10)
  else if 'A' ≤ c ∧ c ≤ 'F' then some (c.toNat - 'A'.toNat + 10)
  else none

/-- Whether a character is a digit of the base. -/
def isDigit (base : Nat) (c : Char) : Bool := (digit? c).any (· < base)

/-- **The value of a run of digits**, the most significant first. -/
def value (base : Nat) (cs : List Char) : Nat :=
  cs.foldl (fun n c => base * n + (digit? c).getD 0) 0

@[simp] theorem value_nil (base : Nat) : value base [] = 0 := rfl

theorem value_append_singleton (base : Nat) (cs : List Char) (c : Char) :
    value base (cs ++ [c]) = base * value base cs + (digit? c).getD 0 := by
  simp [value]

/-- The value of digits that may follow a minus sign. -/
def signedValue (base : Nat) : List Char → Int
  | '-' :: cs => -(value base cs : Int)
  | cs => value base cs

/-- The lower-case hexadecimal digits of a natural number, without leading zeros. -/
def hexDigits (n : Nat) : List Char := Nat.toDigits 16 n

/-- An integer in base ten, with all its digits. -/
def decimal : Int → String
  | .ofNat n => Nat.repr n
  | .negSucc n => "-" ++ Nat.repr (n + 1)

/-- The most decimal digits that are read or written. -/
def maxDigits : Nat := 4300

/-- **Whether an integer can be written in base ten**: it does not have too many digits. A sign does
not count as a digit. -/
def isWritable (n : Int) : Bool := (Nat.toDigits 10 n.natAbs).length ≤ maxDigits

/-- An integer that has more decimal digits than are written. -/
structure Overlong where
  deriving DecidableEq, Repr

/-- **An integer in base ten**, unless it has too many digits. -/
def write (n : Int) : Except Overlong String := if isWritable n then .ok (decimal n) else .error {}

/-- **Padded hexadecimal digits**: zeros fill up to the width behind the sign, and the sign counts
towards the width. -/
def padded (width : Nat) : Int → List Char
  | .ofNat n => (hexDigits n).leftpad width '0'
  | .negSucc n => '-' :: (hexDigits (n + 1)).leftpad (width - 1) '0'

/-- What keeps a text from being a numeral. -/
inductive Flaw where
  /-- The text is no numeral of the base. -/
  | malformed
  /-- The numeral has more digits than are read. -/
  | tooLong (digits : Nat)
  deriving DecidableEq, Repr

/-- The most digits that are read in a base; base sixteen has no limit. -/
def digitLimit? (base : Nat) : Option Nat := if base = 10 then some maxDigits else none

/-- The blanks that may surround a numeral. -/
def isMargin (c : Char) : Bool := c == ' ' || (9 ≤ c.toNat && c.toNat ≤ 13)

/-- Digits and blanks beyond ASCII as their ASCII counterparts; any other such character ends the
text in a sign that no numeral holds. -/
def standardizeFrom : List Char → List Char
  | [] => []
  | c :: cs =>
    if c.toNat < 127 then c :: standardizeFrom cs
    else if isBlank c then ' ' :: standardizeFrom cs
    else match digitValue? c with
      | some d => d.digitChar :: standardizeFrom cs
      | none => ['?']

/-- A text in ASCII characters; an ASCII text stays as it is. -/
def standardize (cs : List Char) : List Char :=
  if cs.all (·.toNat < 128) then cs else standardizeFrom cs

/-- Splits a sign off: whether it is a minus, and what follows. -/
def splitSign : List Char → Bool × List Char
  | '+' :: cs => (false, cs)
  | '-' :: cs => (true, cs)
  | cs => (false, cs)

/-- What follows the mark of base sixteen, which a low line may set off from the digits. -/
def dropMark (base : Nat) : List Char → List Char
  | '0' :: x :: cs =>
    if base = 16 ∧ (x = 'x' ∨ x = 'X') then
      match cs with
      | '_' :: ds => ds
      | ds => ds
    else '0' :: x :: cs
  | cs => cs

/-- Reads the digits after sign and mark; single low lines may stand between digits, and margins
after them. -/
def readDigits (base : Nat) (cs : List Char) : Except Flaw Nat :=
  let inRun := fun c : Char => isDigit base c || c == '_'
  let groups := (cs.takeWhile inRun).splitOn '_'
  let digits := groups.flatten
  if groups.any List.isEmpty then .error .malformed
  else if (digitLimit? base).any (· < digits.length) then .error (.tooLong digits.length)
  else if (cs.dropWhile inRun).all isMargin then .ok (value base digits)
  else .error .malformed

/-- **The integer that a text denotes in base ten or sixteen.** -/
def read (base : Nat) (s : String) : Except Flaw Int :=
  let (negative, cs) := splitSign ((standardize s.toList).dropWhile isMargin)
  (readDigits base (dropMark base cs)).map fun n => if negative then -(n : Int) else n

end HatTree.Numeral
