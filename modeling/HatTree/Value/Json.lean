import HatTree.Value.Show

/-!
# Values as JSON text

Numbers, truth values and nothing have their JSON forms, tuples are arrays, and what JSON does not
know is written as its plain text. Keys become texts where JSON has a form for them; other keys, a
list that holds itself, and integers with too many digits cannot be written.

## Main definitions

* `JsonFlaw`: why a value has no JSON text
* `Value.json`: the JSON text of a value
-/

namespace HatTree

open HatTree.Text HatTree.Numeral

/-- Why a value has no JSON text. -/
inductive JsonFlaw where
  /-- A key of a type that has no JSON form. -/
  | key (typeName : String)
  /-- A list that holds itself. -/
  | circular
  /-- An integer with too many digits. -/
  | overlong (fault : Overlong)
  deriving DecidableEq, Repr

/-- How a character is written in a JSON string; only the mark, the backslash and controls are
escaped. -/
def jsonEscape (c : Char) : List Char :=
  if c = '"' ∨ c = '\\' then ['\\', c]
  else if c = '\n' then ['\\', 'n']
  else if c = '\r' then ['\\', 'r']
  else if c = '\t' then ['\\', 't']
  else if c.toNat = 8 then ['\\', 'b']
  else if c.toNat = 12 then ['\\', 'f']
  else if c.toNat < 32 then '\\' :: 'u' :: escapeDigits 4 c.toNat
  else [c]

/-- A JSON string. -/
def jsonString (s : String) : String :=
  String.ofList ('"' :: (s.toList.flatMap jsonEscape ++ ['"']))

namespace Value

/-- The text of a key. -/
def jsonKey : Value → Except JsonFlaw String
  | text s => .ok s
  | null => .ok "null"
  | bool b => .ok (if b then "true" else "false")
  | int n => (write n).mapError .overlong
  | float x => .ok (x.write .long)
  | v => .error (.key v.typeName)

mutual

/-- **The JSON text of a value.** -/
def json : Value → Except JsonFlaw String
  | null => .ok "null"
  | bool b => .ok (if b then "true" else "false")
  | int n => (write n).mapError .overlong
  | float x => .ok (x.write .long)
  | text s => .ok (jsonString s)
  | list items => (jsonItems items).map fun ss => "[" ++ ", ".intercalate ss ++ "]"
  | tuple items => (jsonItems items).map fun ss => "[" ++ ", ".intercalate ss ++ "]"
  | dict entries =>
    (jsonEntries entries).map fun ss => "\x7b" ++ ", ".intercalate ss ++ "\x7d"
  | ring => .error .circular
  | v => (v.toPlain.mapError .overlong).map jsonString

/-- The members of a list as JSON texts. -/
def jsonItems : List Value → Except JsonFlaw (List String)
  | [] => .ok []
  | v :: vs => do
    let s ← json v
    let ss ← jsonItems vs
    pure (s :: ss)

/-- The entries of a dictionary as JSON members. -/
def jsonEntries : List (Value × Value) → Except JsonFlaw (List String)
  | [] => .ok []
  | (k, v) :: rest => do
    let key ← jsonKey k
    let s ← json v
    let ss ← jsonEntries rest
    pure ((jsonString key ++ ": " ++ s) :: ss)

end

end Value

end HatTree
