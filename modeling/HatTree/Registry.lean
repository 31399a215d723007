import HatTree.Ordered
import HatTree.Raised

/-!
# Registries of kinds

A registry maps codes to kinds. The standard one holds the kinds of the library under their own
codes; users may add theirs.

## Main definitions

* `Registry`: codes with their kinds
* `Registry.standard`: the kinds of the library
* `Registry.register`, `Registry.get?`, `Registry.sorted`
* `Registry.raise`: an error of the kind under a code

## Main results

* `get?_register`: the kind under a code after it was registered
-/

namespace HatTree

/-- **Codes with their kinds.** -/
structure Registry where
  /-- The entries, in the order in which the codes were first registered. -/
  entries : List (String × Kind) := []
  deriving DecidableEq, Repr

/-- Why no error can be raised by its code. -/
inductive RegistryFault where
  /-- No kind is registered under the code. -/
  | unknownCode
  /-- The error cannot be raised with the given arguments. -/
  | raise (fault : RaiseFault)
  deriving DecidableEq, Repr

instance : Reportable RegistryFault where
  report
    | .unknownCode => .plain .wrongType ("'" ++ Value.null.typeName ++ "' object is not callable")
    | .raise fault => report fault

namespace Registry

/-- The kinds of the library under their own codes. -/
def standard : Registry := ⟨Kind.catalogue.map fun kind => (kind.code, kind)⟩

/-- A registry with a kind under a code. -/
def register (r : Registry) (code : String) (kind : Kind) : Registry :=
  ⟨Ordered.put code kind r.entries⟩

/-- **The kind under a code.** -/
def get? (r : Registry) (code : String) : Option Kind := r.entries.lookup code

/-- The kind under a code after it was registered. -/
theorem get?_register (r : Registry) (code other : String) (kind : Kind) :
    (r.register code kind).get? other = if other == code then some kind else r.get? other :=
  Ordered.lookup_put code other kind r.entries

/-- **An error of the kind under a code**, from arguments by place. -/
def raise (r : Registry) (code : String) (places : List Value) : Except RegistryFault Raised :=
  match r.get? code with
  | none => .error .unknownCode
  | some kind => (Raised.make kind places []).mapError .raise

/-- The entries in the order of their codes. -/
def sorted (r : Registry) : List (String × Kind) := r.entries.mergeSort fun a b => a.1 ≤ b.1

end Registry

end HatTree
