import HatTree.Issue
import HatTree.Kind

/-!
# Reports of failures

Each part of the library has its own type of failures. A report is how a failure is presented: its
family, its message and, for the errors of the library, code and details.

## Main definitions

* `Family`: the families of failures
* `Report`: a failure as it is presented
* `Reportable`: types of failures that have reports
* `Report.ofWriting`: a report whose message holds texts of values
-/

namespace HatTree

/-- **The families of failures**: the library's own kinds, and those that any program knows. -/
inductive Family where
  /-- An error of the library. -/
  | library (kind : Kind)
  /-- A value is of the right type and cannot be used. -/
  | badValue
  /-- A value is of the wrong type. -/
  | wrongType
  /-- A value lacks a member. -/
  | missingMember
  /-- A key is missing or not allowed. -/
  | badKey
  /-- A collaborator failed. -/
  | failedRun
  /-- A number is too large. -/
  | overflow
  /-- A value does not have the expected shape. -/
  | misshapen
  deriving DecidableEq, Repr

/-- **A failure as it is presented.** -/
structure Report where
  /-- The family of the failure. -/
  family : Family
  /-- The text of the failure. -/
  message : String
  /-- The code of an error of the library. -/
  code : Value := .null
  /-- The details of an error of the library, in order. -/
  details : List (String × Value) := []
  /-- The issues behind the failure. -/
  issues : Option (List Issue) := none

/-- Failures that have reports. -/
class Reportable (α : Type) where
  /-- The report of a failure. -/
  report : α → Report

export Reportable (report)

namespace Report

/-- An error of the library with its own code. -/
def ofKind (kind : Kind) (message : String) (details : List (String × Value) := []) : Report :=
  { family := .library kind, message, code := .text kind.code, details }

/-- A failure outside the library's own kinds. -/
def plain (family : Family) (message : String) : Report := { family, message }

end Report

/-- The message about a numeral with too many digits; what is known of the numeral stands in it. -/
def limitMessage (known : String) : String :=
  "Exceeds the limit (" ++ Nat.repr Numeral.maxDigits ++ " digits) for integer string conversion" ++
    known ++ "; use sys.set_int_max_str_digits() to increase the limit"

instance : Reportable Numeral.Overlong where
  report _ := .plain .badValue (limitMessage "")

/-- **A report whose message holds texts of values**; where one of them cannot be written, that is
what is reported. -/
def Report.ofWriting : Except Numeral.Overlong Report → Report
  | .ok r => r
  | .error fault => report fault

section Writing

variable {writable : Bool} {shown : String} {present : String → Report}

/-- A report that shows a text is of its own family, if the text can be written. -/
theorem Report.family_ofWriting :
    (Report.ofWriting ((if writable then .ok shown else .error {}) >>= fun s =>
      pure (present s))).family = if writable then (present shown).family else .badValue := by
  cases writable <;> rfl

theorem Report.family_ofWriting_ne {family : Family} (hbad : .badValue ≠ family)
    (h : (present shown).family ≠ family) :
    (Report.ofWriting ((if writable then .ok shown else .error {}) >>= fun s =>
      pure (present s))).family ≠ family := by
  rw [family_ofWriting]
  split
  · exact h
  · exact hbad

end Writing

/-- The report of a text that is no numeral of the base; at most 200 characters of it are shown. -/
def numeralReport (base : Nat) (s : String) : Numeral.Flaw → Report
  | .malformed => .plain .badValue ("invalid literal for int() with base " ++ Nat.repr base ++
      ": " ++ String.ofList ((Text.quoteChars s.toList).take 200))
  | .tooLong digits => .plain .badValue (limitMessage (": value has " ++ Nat.repr digits ++
      " digits"))

end HatTree
