import HatTree.Value
import HatTree.Double.Shortest
import HatTree.Text.Quoted

/-!
# The text of a value

Two forms: the shown form tells a text from a number by its marks, the plain form of a text is the
text itself. Members of collections are always shown. A value in which an integer has too many
digits has neither form.

## Main definitions

* `Value.shown`, `Value.plain`: the two forms, with all digits of every integer
* `Value.isWritable`: whether no integer has too many digits
* `Value.toShown`, `Value.toPlain`: the two forms of such a value
-/

namespace HatTree.Value

open HatTree.Text HatTree.Numeral

/-- Members between brackets; a single member of a tuple is followed by a comma. -/
def tupleText : List String → String
  | [s] => "(" ++ s ++ ",)"
  | ss => "(" ++ ", ".intercalate ss ++ ")"

mutual

/-- **The shown form of a value**, with all digits of its integers. -/
def shown : Value → String
  | null => "None"
  | bool b => if b then "True" else "False"
  | int n => decimal n
  | float x => x.write .short
  | text s => quote s
  | bytes bs => quoteBytes bs
  | list items => "[" ++ ", ".intercalate (shownItems items) ++ "]"
  | tuple items => tupleText (shownItems items)
  | dict entries => "\x7b" ++ ", ".intercalate (shownEntries entries) ++ "\x7d"
  | scalarField name => "ScalarField(name=" ++ shown name ++ ")"
  | relationField name fields =>
    "RelationField(name=" ++ shown name ++ ", fields=" ++ tupleText (shownItems fields) ++ ")"
  | selectionNode name arguments children =>
    "SelectionNode(name=" ++ shown name ++ ", arguments=" ++ tupleText (shownPairs arguments) ++
      ", children=" ++ tupleText (shownItems children) ++ ")"
  | ring => "[[...]]"

/-- The members of a list, shown. -/
def shownItems : List Value → List String
  | [] => []
  | v :: vs => shown v :: shownItems vs

/-- The entries of a dictionary, shown. -/
def shownEntries : List (Value × Value) → List String
  | [] => []
  | (k, v) :: rest => (shown k ++ ": " ++ shown v) :: shownEntries rest

/-- Pairs, shown as tuples. -/
def shownPairs : List (Value × Value) → List String
  | [] => []
  | (k, v) :: rest => tupleText [shown k, shown v] :: shownPairs rest

end

/-- **The plain form of a value**, with all digits of its integers: a text is itself. -/
def plain : Value → String
  | text s => s
  | v => shown v

@[simp] theorem plain_text (s : String) : plain (text s) = s := rfl

mutual

/-- **Whether a value can be written**: no integer in it has too many digits. -/
def isWritable : Value → Bool
  | int n => Numeral.isWritable n
  | list items | tuple items => areWritable items
  | dict entries => pairsWritable entries
  | scalarField name => isWritable name
  | relationField name fields => isWritable name && areWritable fields
  | selectionNode name arguments children =>
    isWritable name && pairsWritable arguments && areWritable children
  | _ => true

/-- Whether each member of a list can be written. -/
def areWritable : List Value → Bool
  | [] => true
  | v :: vs => isWritable v && areWritable vs

/-- Whether both parts of each pair can be written. -/
def pairsWritable : List (Value × Value) → Bool
  | [] => true
  | (k, v) :: rest => isWritable k && isWritable v && pairsWritable rest

end

/-- **The shown form of a value that can be written.** -/
def toShown (v : Value) : Except Overlong String := if v.isWritable then .ok v.shown else .error {}

/-- **The plain form of a value that can be written.** -/
def toPlain (v : Value) : Except Overlong String := if v.isWritable then .ok v.plain else .error {}

@[simp] theorem toPlain_text (s : String) : toPlain (text s) = .ok s := rfl

/-- A list of texts, shown. -/
def shownTexts (ss : List String) : String := shown (list (ss.map text))

end HatTree.Value
