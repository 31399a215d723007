import HatTree.Double
import HatTree.Numeral

/-!
# The fewest digits that read back

A double is written with the fewest decimal digits that read back to it, the nearest such number if
there are several. Numbers from `0.0001` up to `10 ^ 16` are written positionally and keep one digit
behind the point; others with a signed exponent of at least two digits.

## Main definitions

* `shortestDigits`: the digits of `m · 2 ^ q` and the place of the point
* `Notation`: how non-numbers are spelt
* `write`: the written form of a double
-/

namespace HatTree.Double

open HatTree.Numeral

/-- A fraction `num / den` scaled by a power of ten. -/
def scaled (num den : Nat) : Int → Nat × Nat
  | .ofNat k => (num * Nat.pow 10 k, den)
  | .negSucc k => (num, den * Nat.pow 10 (k + 1))

/-- The least `k ≥ start` with `num / den < 10 ^ k`, looked for in `fuel` steps. -/
def scaleFrom (num den : Nat) (start : Int) : Nat → Int
  | 0 => start
  | fuel + 1 =>
    let (n, d) := scaled num den (-start)
    if n < d then start else scaleFrom num den (start + 1) fuel

/-- The least `k` with `num / den < 10 ^ k`. -/
def decimalScale (num den : Nat) : Int :=
  let estimate : Int := ((num.log2 : Int) - (den.log2 : Int) - 1) * 30103 / 100000 - 1
  scaleFrom num den estimate 6

/-- The rounding interval of `m · 2 ^ q` with its centre, as numerators over one denominator: four
times the significand, half a gap to either side. -/
structure Interval where
  /-- The lower end. -/
  low : Nat
  /-- The number itself. -/
  centre : Nat
  /-- The upper end. -/
  high : Nat
  /-- The common denominator. -/
  den : Nat
  /-- Whether the ends round to the number. -/
  closed : Bool

/-- The interval of the reals that round to `m · 2 ^ q`. -/
def interval (m : Nat) (q : Int) (narrow : Bool) : Interval :=
  let up := Nat.pow 2 q.toNat
  { low := (4 * m - if narrow then 1 else 2) * up
    centre := 4 * m * up
    high := (4 * m + 2) * up
    den := 4 * Nat.pow 2 (-q).toNat
    closed := m % 2 = 0 }

/-- Whether `c · 10 ^ e` rounds to the number. -/
def Interval.holds (i : Interval) (e : Int) (c : Nat) : Bool :=
  let (low, d) := scaled i.low i.den (-e)
  let (high, _) := scaled i.high i.den (-e)
  if i.closed then low ≤ c * d && c * d ≤ high else low < c * d && c * d < high

/-- The multiple of `10 ^ e` that rounds to the number and is nearest to it, if one does: one of the
two neighbours of the number on that grid. A tie goes to the even one. -/
def Interval.nearestOn? (i : Interval) (e : Int) : Option Nat :=
  let (n, d) := scaled i.centre i.den (-e)
  let c := n / d
  match i.holds e c, i.holds e (c + 1) with
  | true, false => some c
  | false, true => some (c + 1)
  | false, false => none
  | true, true =>
    let r := n % d
    some (if 2 * r < d then c else if d < 2 * r then c + 1 else if c % 2 = 0 then c else c + 1)

/-- The first grid with a hit, from coarse to fine. -/
def Interval.search (i : Interval) (scale : Int) : List Nat → Option (Nat × Int)
  | [] => none
  | places :: finer =>
    match i.nearestOn? (scale - places) with
    | some c => some (c, scale - places)
    | none => i.search scale finer

/-- Digits without the zeros at their end, one digit at least. -/
def significant (ds : List Char) : List Char :=
  match (ds.reverse.dropWhile (· == '0')).reverse with
  | [] => ['0']
  | kept => kept

/-- **The fewest digits that read back** to `m · 2 ^ q` (with `m` positive), and the place of the
point before the first of them. -/
def shortestDigits (m : Nat) (q : Int) (narrow : Bool) : List Char × Int :=
  let i := interval m q narrow
  let scale := decimalScale i.centre i.den
  match i.search scale ((List.range 17).map (· + 1)) with
  | some (c, e) =>
    let digits := Nat.toDigits 10 c
    (significant digits, e + digits.length)
  | none =>
    let (n, d) := scaled i.centre i.den 1074
    let digits := Nat.toDigits 10 (n / d)
    (significant digits, (digits.length : Int) - 1074)

/-- An exponent mark, a sign and at least two digits. -/
def exponentText (mark : Char) (e : Int) : List Char :=
  mark :: (if e < 0 then '-' else '+') :: (Nat.toDigits 10 e.natAbs).leftpad 2 '0'

/-- Digits with the point at its place: positional for places `-3` to `16`, otherwise with an
exponent. -/
def layout (digits : List Char) (point : Int) : List Char :=
  if point ≤ -4 ∨ 16 < point then
    let fraction := digits.drop 1
    digits.take 1 ++ (if fraction.isEmpty then [] else '.' :: fraction) ++
      exponentText 'e' (point - 1)
  else if point ≤ 0 then
    '0' :: '.' :: (List.replicate point.natAbs '0' ++ digits)
  else if digits.length ≤ point.toNat then
    digits ++ List.replicate (point.toNat - digits.length) '0' ++ ['.', '0']
  else digits.take point.toNat ++ '.' :: digits.drop point.toNat

/-- How numbers that have no digits are spelt. -/
structure Spelling where
  /-- Not a number. -/
  nan : String
  /-- The positive infinity. -/
  infinity : String

/-- The short spelling of non-numbers. -/
def Spelling.short : Spelling := ⟨"nan", "inf"⟩

/-- The long spelling of non-numbers. -/
def Spelling.long : Spelling := ⟨"NaN", "Infinity"⟩

/-- **The written form of a double.** -/
def write (spelling : Spelling) (x : Double) : String :=
  match x.shape with
  | .nan => spelling.nan
  | .infinite negative => (if negative then "-" else "") ++ spelling.infinity
  | .finite negative m q =>
    let digits := if m = 0 then ['0', '.', '0'] else
      let (ds, point) := shortestDigits m q x.narrowBelow
      layout ds point
    String.ofList (if negative then '-' :: digits else digits)

end HatTree.Double
