import HatTree.Issue
import HatTree.Ordered

/-!
# Reading values

How a value is read as a text, an integer or a truth value. Strict reading takes values of the type
only; loose reading also takes other values that spell one.

## Main definitions

* `Reading.text`, `Reading.strictInt`, `Reading.looseInt`, `Reading.looseBool`
* `Reading.positive`: an integer above zero
* `Reading.table`: a dictionary with keys and values of given kinds
* `Reading.field`: the value under a key of a model
* `Reading.unknownKeys`: the issues about keys that are not expected
* `Checked`: a result, or all issues found on the way to it
-/

namespace HatTree

/-- A result, or all issues found on the way to it. -/
abbrev Checked (α : Type) := Except (List Issue) α

namespace Checked

/-- Issues seen from one step further up. -/
def under {α : Type} (step : Step) (r : Checked α) : Checked α :=
  r.mapError (·.map (Issue.under step))

/-- The issues of a check, none if it succeeds. -/
def issues {α : Type} : Checked α → List Issue
  | .ok _ => []
  | .error issues => issues

/-- A result that stands only when no issues were found. -/
def guarded {α : Type} (found : List Issue) (r : Checked α) : Checked α :=
  match found with
  | [] => r
  | _ :: _ => .error found

end Checked

namespace Reading

open Numeral

/-- A check of one value as a check with issues about that value. -/
def checked {α : Type} (r : Except Complaint α) : Checked α := r.mapError fun c => [Issue.here c]

/-- A value read as a text: a text, or bytes that encode one. -/
def text : Value → Except Complaint String
  | .text s => .ok s
  | .bytes bs =>
    match String.fromUTF8? (ByteArray.mk bs.toArray) with
    | some s => .ok s
    | none => .error .textUnicode
  | _ => .error .textType

/-- A value read strictly as an integer. -/
def strictInt : Value → Except Complaint Int
  | .int n => .ok n
  | _ => .error .intType

/-- The digits of a run in which single low lines stand between digits. -/
def digitRun? (cs : List Char) : Option (List Char) :=
  let groups := cs.splitOn '_'
  if groups.all (fun g => !g.isEmpty && g.all Char.isDigit) then some groups.flatten else none

/-- An integer with an optional sign and an optional tail of a point and zeros. -/
def spelledInt? (cs : List Char) : Option Int :=
  let (negative, body) := splitSign cs
  let whole := body.takeWhile (· ≠ '.')
  let tailFits := match body.dropWhile (· ≠ '.') with
    | [] => true
    | _ :: zeros => !zeros.isEmpty && zeros.all (· == '0')
  if tailFits then
    (digitRun? whole).map fun ds => if negative then -(value 10 ds : Int) else value 10 ds
  else none

/-- A text read as an integer; texts of more than `maxDigits` bytes are not looked at. -/
def intOfText (s : String) : Except Complaint Int :=
  if maxDigits < s.utf8ByteSize then .error .intParsingSize
  else match spelledInt? (Text.trimBy Text.isSpace s.toList) with
    | some n => .ok n
    | none => .error .intParsing

/-- A float read as an integer. -/
def intOfFloat (x : Double) : Except Complaint Int :=
  match x.truncated?, x.integer? with
  | none, _ => .error .finiteNumber
  | some _, none => .error .intFromFloat
  | some _, some n => if n.natAbs < 0x8000000000000000 then .ok n else .error .intParsingSize

/-- **A value read loosely as an integer.** -/
def looseInt : Value → Except Complaint Int
  | .int n => .ok n
  | .bool b => .ok (if b then 1 else 0)
  | .float x => intOfFloat x
  | .text s => intOfText s
  | .bytes bs =>
    match String.fromUTF8? (ByteArray.mk bs.toArray) with
    | some s => intOfText s
    | none => .error .intParsing
  | _ => .error .intType

/-- An integer that has to be above zero. -/
def positive (r : Except Complaint Int) : Except Complaint Int :=
  r.bind fun n => if 0 < n then .ok n else .error .greaterThanZero

/-- The spellings of true, in lower case. -/
def trueWords : List String := ["t", "true", "y", "yes", "on", "1"]

/-- The spellings of false, in lower case. -/
def falseWords : List String := ["f", "false", "n", "no", "off", "0"]

/-- A text read as a truth value, in any case. -/
def boolOfText (s : String) : Except Complaint Bool :=
  let word := s.toLower
  if trueWords.contains word then .ok true
  else if falseWords.contains word then .ok false
  else .error .boolParsing

/-- An integer read as a truth value. -/
def boolOfInt (n : Int) : Except Complaint Bool :=
  if n = 1 then .ok true
  else if n = 0 then .ok false
  else if fitsWord n then .error .boolParsing
  else .error .boolType

/-- **A value read loosely as a truth value.** -/
def looseBool : Value → Except Complaint Bool
  | .bool b => .ok b
  | .int n => boolOfInt n
  | .float x =>
    match x.integer? with
    | some n => boolOfInt n
    | none => .error .boolType
  | .text s => boolOfText s
  | .bytes bs =>
    match String.fromUTF8? (ByteArray.mk bs.toArray) with
    | some s => boolOfText s
    | none => .error .boolParsing
  | _ => .error .boolType

section Table

variable {κ ν : Type} (key : Value → Except Complaint κ) (val : Value → Except Complaint ν)

/-- One entry of a table: first the key, then the value. -/
def entry (k v : Value) : Checked (κ × ν) :=
  let readKey := (checked (key k)).under (.key "[key]")
  let readValue := checked (val v)
  Checked.under (.ofKey k)
    (Checked.guarded (readKey.issues ++ readValue.issues) do pure (← readKey, ← readValue))

/-- The entries of a table, in order. -/
def entries : List (Value × Value) → Checked (List (κ × ν))
  | [] => .ok []
  | (k, v) :: rest =>
    match entry key val k v, entries rest with
    | .ok e, .ok es => .ok (e :: es)
    | e, es => .error (e.issues ++ es.issues)

/-- **A dictionary as a table**; a key that is read again keeps its place. -/
def table [BEq κ] : Value → Checked (List (κ × ν))
  | .dict given => (entries key val given).map (Ordered.putAll [])
  | _ => .error [.here .dictType]

end Table

/-- The value under a key of a model, or what stands in for it. -/
def field {α : Type} (read : Value → Checked α) (fallback : α) (given : List (Value × Value))
    (name : String) : Checked α :=
  match Value.lookup name given with
  | none => .ok fallback
  | some v => (read v).under (.key name)

/-- **The issues about unexpected keys**, in the order of the entries: texts that are not known, and
keys that are no texts. -/
def unknownKeys (known : List String) (entries : List (Value × Value)) : List Issue :=
  entries.filterMap fun (k, _) =>
    match k with
    | .text name => if known.contains name then none else some ⟨.extraForbidden, [.ofKey k]⟩
    | _ => some ⟨.invalidKey, [.ofKey k]⟩

end Reading

end HatTree
