import HatTree.Value.Show

/-!
# Issues

Checking a value against an expected shape gives a list of issues: each says what is wrong and
where, as the steps from the root of the value.

## Main definitions

* `Step`: one step into a value
* `Complaint`: what is wrong, with its tag and its message
* `Issue`: a complaint at a place
-/

namespace HatTree

/-- One step into a value: a key or a number. -/
inductive Step where
  /-- A key. -/
  | key (name : String)
  /-- A number. -/
  | index (n : Int)
  deriving DecidableEq, Repr

/-- Whether an integer fits a signed word of 64 bits. -/
def fitsWord (n : Int) : Bool := -0x8000000000000000 ≤ n && n < 0x8000000000000000

/-- The step by the shown form of a key; a key that cannot be written is given by its type. -/
def Step.ofShown (k : Value) : Step :=
  match k.toShown with
  | .ok s => .key s
  | .error _ => .key ("<unprintable " ++ k.typeName ++ " object>")

/-- The step to the entry under a key; numbers beyond 64 bits are given by their text. -/
def Step.ofKey : Value → Step
  | .text s => .key s
  | .bool b => .index (if b then 1 else 0)
  | .int n => if fitsWord n then .index n else .ofShown (.int n)
  | k => .ofShown k

/-- **What is wrong with a value.** -/
inductive Complaint where
  /-- A text is no integer. -/
  | intParsing
  /-- A text or a float is too long for an integer. -/
  | intParsingSize
  /-- A float has a fractional part. -/
  | intFromFloat
  /-- A float is not finite. -/
  | finiteNumber
  /-- A value is no integer. -/
  | intType
  /-- An integer is not positive. -/
  | greaterThanZero
  /-- A value spells no truth value. -/
  | boolParsing
  /-- A value is no truth value. -/
  | boolType
  /-- Bytes are no text. -/
  | textUnicode
  /-- A value is no text. -/
  | textType
  /-- A value is no dictionary. -/
  | dictType
  /-- A value is no dictionary that describes the named model. -/
  | modelType (name : String)
  /-- A key is unknown. -/
  | extraForbidden
  /-- A key is no text. -/
  | invalidKey
  /-- A value is of the right shape and was refused. -/
  | refused (reason : String)
  deriving DecidableEq, Repr

namespace Complaint

/-- The stable tag of a complaint. -/
def tag : Complaint → String
  | intParsing => "int_parsing"
  | intParsingSize => "int_parsing_size"
  | intFromFloat => "int_from_float"
  | finiteNumber => "finite_number"
  | intType => "int_type"
  | greaterThanZero => "greater_than"
  | boolParsing => "bool_parsing"
  | boolType => "bool_type"
  | textUnicode => "string_unicode"
  | textType => "string_type"
  | dictType => "dict_type"
  | modelType _ => "model_type"
  | extraForbidden => "extra_forbidden"
  | invalidKey => "invalid_key"
  | refused _ => "value_error"

/-- The text of a complaint. -/
def message : Complaint → String
  | intParsing => "Input should be a valid integer, unable to parse string as an integer"
  | intParsingSize => "Unable to parse input string as an integer, exceeded maximum size"
  | intFromFloat => "Input should be a valid integer, got a number with a fractional part"
  | finiteNumber => "Input should be a finite number"
  | intType => "Input should be a valid integer"
  | greaterThanZero => "Input should be greater than 0"
  | boolParsing => "Input should be a valid boolean, unable to interpret input"
  | boolType => "Input should be a valid boolean"
  | textUnicode => "Input should be a valid string, unable to parse raw data as a unicode string"
  | textType => "Input should be a valid string"
  | dictType => "Input should be a valid dictionary"
  | modelType name => "Input should be a valid dictionary or instance of " ++ name
  | extraForbidden => "Extra inputs are not permitted"
  | invalidKey => "Keys should be strings"
  | refused reason => "Value error, " ++ reason

end Complaint

/-- **A complaint at a place.** -/
structure Issue where
  /-- What is wrong. -/
  complaint : Complaint
  /-- The steps from the root. -/
  place : List Step
  deriving DecidableEq, Repr

namespace Issue

/-- The issue seen from one step further up. -/
def under (step : Step) (issue : Issue) : Issue := { issue with place := step :: issue.place }

@[simp] theorem under_place (step : Step) (issue : Issue) :
    (issue.under step).place = step :: issue.place := rfl

@[simp] theorem under_complaint (step : Step) (issue : Issue) :
    (issue.under step).complaint = issue.complaint := rfl

/-- A complaint about the value itself. -/
def here (complaint : Complaint) : Issue := ⟨complaint, []⟩

end Issue

/-- How many issues there are with what. -/
def issueCount (issues : List Issue) (subject : String) : String :=
  Nat.repr issues.length ++
    (if issues.length = 1 then " validation error" else " validation errors") ++ " for " ++ subject

end HatTree
