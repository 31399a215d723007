import HatTree.HatId.Hex
import HatTree.Log.Record

/-!
# The context of log entries

A logger may carry the chain and the hat that its entries are about; each call may name others. They
go into the extra fields of the entry, a hat by the hexadecimal form of its id.

## Main definitions

* `Log.Context`: the chain and the hat that entries are about
* `Log.pairs`: the entries that a value gives for a dictionary
* `Log.Context.process`: the named arguments of a call with the context among the extra fields
-/

namespace HatTree.Log

/-- Why a value gives no entries for a dictionary. -/
inductive PairsFault where
  /-- The value is no collection. -/
  | notIterable (typeName : String)
  /-- A member is no collection. -/
  | notPair (position : Nat)
  /-- A member does not have two members. -/
  | pairSize (position size : Nat)
  /-- The first member of a pair cannot be a key. -/
  | unhashable (typeName : String)
  deriving DecidableEq, Repr

instance : Reportable PairsFault where
  report
    | .notIterable typeName => .plain .wrongType ("'" ++ typeName ++ "' object is not iterable")
    | .notPair position => .plain .wrongType
        ("cannot convert dictionary update sequence element #" ++ Nat.repr position ++
          " to a sequence")
    | .pairSize position size => .plain .badValue ("dictionary update sequence element #" ++
        Nat.repr position ++ " has length " ++ Nat.repr size ++ "; 2 is required")
    | .unhashable typeName => .plain .wrongType ("unhashable type: '" ++ typeName ++ "'")

/-- The entries that pairs give, counted from a position. -/
def pairsFrom (position : Nat) : List Value → Except PairsFault (List (Value × Value))
  | [] => .ok []
  | v :: vs =>
    match v.items? with
    | none => .error (.notPair position)
    | some [k, x] =>
      match k.unhashable? with
      | some typeName => .error (.unhashable typeName)
      | none => (pairsFrom (position + 1) vs).map ((k, x) :: ·)
    | some items => .error (.pairSize position items.length)

/-- **The entries that a value gives for a dictionary**; what does not count as present gives
none. -/
def pairs (v : Value) : Except PairsFault (List (Value × Value)) :=
  if v.truth then
    match v with
    | .dict entries => .ok entries
    | _ =>
      match v.items? with
      | none => .error (.notIterable v.typeName)
      | some items => (pairsFrom 0 items).map (putEntries [])
  else .ok []

/-- **The chain and the hat that entries are about.** -/
structure Context where
  /-- The chain. -/
  chain : Value := .null
  /-- The hat. -/
  hat : Value := .null

/-- A hat as a field shows it: an id by its hexadecimal form. -/
def hatField : Value → Value
  | .int n => .text (HatId.toHex n)
  | .bool b => .text (HatId.toHex (if b then 1 else 0))
  | v => v

/-- Entries with a value under a name, unless there is none. -/
def putPresent (name : String) (v : Value) (entries : List (Value × Value)) :
    List (Value × Value) :=
  match v with
  | .null => entries
  | v => putEntry (.text name) v entries

/-- The name of the argument for extra fields. -/
def extraName : String := "extra"

/-- **The named arguments of a call with the context among the extra fields.** Chain and hat of the
call go before those of the logger. -/
def Context.process (c : Context) (names : List (Value × Value)) :
    Except PairsFault (List (Value × Value)) := do
  let chain := (Value.lookup chainName names).getD c.chain
  let hat := hatField ((Value.lookup hatName names).getD c.hat)
  let others := names.filter fun (k, _) => !isOneOf [chainName, hatName] k
  let extra ← pairs ((Value.lookup extraName others).getD .null)
  pure (putEntry (.text extraName)
    (.dict (putPresent hatName hat (putPresent chainName chain extra))) others)

end HatTree.Log
