import HatTree.Log.Clock
import HatTree.Log.Secret
import HatTree.Raised
import HatTree.Settings

/-!
# Log records

A record is what is known of one log entry: who wrote it, how severe it is, a message with
arguments, when it was written, what was thrown, and extra fields. It is written as one JSON object
or as one plain line.

## Main definitions

* `Log.Thrown`: an error that an entry reports
* `Log.Record`: what is known of one entry
* `Log.Record.set`: a record with one of its attributes set
* `Log.Style`: how records are written
* `Log.Record.fields`: the fields of an entry, in order
* `Log.Record.write`: the text of an entry
-/

namespace HatTree

/-- The name of a level by its number. -/
def Severity.name (number : Int) : Except Numeral.Overlong String :=
  match all.find? fun s => s.number == number with
  | some s => .ok s.label
  | none => if number = 0 then .ok "NOTSET" else (Numeral.write number).map ("Level " ++ ·)

namespace Log

/-- **An error that an entry reports.** -/
structure Thrown where
  /-- The full name of its kind. -/
  name : String
  /-- Its message. -/
  message : String
  deriving DecidableEq, Repr

namespace Thrown

/-- The text of an error: its name alone if there is no message. -/
def text (t : Thrown) : String := if t.message = "" then t.name else t.name ++ ": " ++ t.message

/-- An error of the library. -/
def ofKind (kind : Kind) (message : String) : Thrown :=
  let raised := Raised.ofParts kind (.text message) .null []
  ⟨"hatscore.exceptions." ++ kind.label, raised.message.plain⟩

/-- An error by the name of its kind. A key that was missing is shown in its message. -/
def ofName (name message : String) : Thrown :=
  match Kind.ofLabel? name with
  | some kind => ofKind kind message
  | none => ⟨name, if name = "KeyError" then Text.quote message else message⟩

/-- What is reported when nothing was thrown. -/
def nothing : Thrown := ⟨Value.null.typeName, Value.null.shown⟩

end Thrown

/-- **What is known of one log entry.** -/
structure Record where
  /-- The name of the logger. -/
  logger : Value
  /-- The name of the level. -/
  level : Value
  /-- The message. -/
  message : Value
  /-- The arguments of the message. -/
  arguments : Value
  /-- When the entry was written, in seconds since the start of 1970. -/
  created : Value := .int 0
  /-- The milliseconds of that time. -/
  milliseconds : Value := .int 0
  /-- The error that the entry reports. -/
  thrown : Option Thrown := none
  /-- The extra fields, in the order in which they were first set. -/
  extras : List (Value × Value) := []

/-- Why a record cannot be written. -/
inductive Fault where
  /-- The time is no number. -/
  | timeType (typeName : String)
  /-- The time is not a number. -/
  | timeNan
  /-- The time is out of range. -/
  | timeRange
  /-- The message or the time cannot be filled in. -/
  | template (fault : Template.Fault)
  /-- A field has no JSON text. -/
  | json (flaw : JsonFlaw)
  /-- A field cannot be written. -/
  | overlong (fault : Numeral.Overlong)

instance : Reportable JsonFlaw where
  report
    | .key typeName => .plain .wrongType
        ("keys must be str, int, float, bool or None, not " ++ typeName)
    | .circular => .plain .badValue "Circular reference detected"
    | .overlong fault => report fault

instance : Reportable Fault where
  report
    | .timeType typeName => .plain .wrongType
        ("'" ++ typeName ++ "' object cannot be interpreted as an integer")
    | .timeNan => .plain .badValue "Invalid value NaN (not a number)"
    | .timeRange => .plain .overflow "timestamp out of range for platform time_t"
    | .template fault => report fault
    | .json flaw => report flaw
    | .overlong fault => report fault

/-- Whether two values are the same key. -/
def sameKey : Value → Value → Bool
  | .text a, .text b => a == b
  | a, b =>
    match a.keyInteger?, b.keyInteger? with
    | some m, some n => m == n
    | _, _ => false

/-- Entries with a value put under a key; a key that is present keeps its place. -/
def putEntry (k v : Value) : List (Value × Value) → List (Value × Value)
  | [] => [(k, v)]
  | (k', v') :: rest => if sameKey k k' then (k', v) :: rest else (k', v') :: putEntry k v rest

/-- Entries with several values put one after the other. -/
def putEntries (entries added : List (Value × Value)) : List (Value × Value) :=
  added.foldl (fun es (k, v) => putEntry k v es) entries

/-- The names of the attributes that every record has of its own. -/
def ownNames : List String :=
  ["name", "msg", "args", "levelname", "levelno", "pathname", "filename", "module", "exc_info",
    "exc_text", "stack_info", "lineno", "funcName", "created", "msecs", "relativeCreated", "thread",
    "threadName", "processName", "process"]

/-- The names that extra fields of an entry may not have. -/
def refusedNames : List String := ownNames ++ ["message", "asctime"]

/-- The name of the field for the chain that an entry is about. -/
def chainName : String := "chain_id"

/-- The name of the field for the hat that an entry is about. -/
def hatName : String := "hat_id"

/-- The names that are not written among the extra fields. -/
def hiddenNames : List String := ownNames ++ ["message", "taskName", chainName, hatName]

/-- Whether a key is one of some names. -/
def isOneOf (names : List String) : Value → Bool
  | .text name => names.contains name
  | _ => false

namespace Record

/-- The arguments of a message: a single dictionary that is not empty stands for its entries. -/
def argumentsOf : List Value → Value
  | [.dict (entry :: entries)] => .dict (entry :: entries)
  | args => .tuple args

/-- **A record with an attribute set.** Attributes that are not written have no effect. -/
def set (r : Record) (name : String) (v : Value) : Record :=
  match name with
  | "name" => { r with logger := v }
  | "levelname" => { r with level := v }
  | "msg" => { r with message := v }
  | "args" => { r with arguments := v }
  | "created" => { r with created := v }
  | "msecs" => { r with milliseconds := v }
  | "exc_info" => { r with thrown := if v.truth then some .nothing else none }
  | _ => if ownNames.contains name then r else { r with extras := putEntry (.text name) v r.extras }

/-- **The message with its arguments filled in**; without arguments it stays as it is. -/
def text (r : Record) : Except Template.Fault String := do
  let message ← r.message.toPlain.mapError .overlong
  if r.arguments.truth then Template.fill message r.arguments else pure message

/-- The whole seconds of a time, of any size. -/
def wholeSeconds : Value → Except Fault Int
  | .int n => .ok n
  | .bool b => .ok (if b then 1 else 0)
  | .float x =>
    match x.shape with
    | .nan => .error .timeNan
    | .infinite _ => .error .timeRange
    | .finite negative _ _ =>
      let n := x.truncated?.getD 0
      .ok (if negative && x.integer?.isNone then n - 1 else n)
  | v => .error (.timeType v.typeName)

/-- The whole seconds of a time, which have to fit a signed word of 64 bits. -/
def secondsOf (v : Value) : Except Fault Int := do
  let n ← wholeSeconds v
  if fitsWord n then pure n else .error .timeRange

/-- **When the entry was written**, as text; an empty pattern is no pattern. -/
def time (r : Record) (pattern : Option String) : Except Fault String := do
  let moment := Moment.ofSeconds (← secondsOf r.created)
  match pattern.filter (· ≠ "") with
  | some p => pure (moment.stamp p)
  | none => (moment.timestamp r.milliseconds).mapError .template

/-- What stands under a name among the extra fields, if it is a value. -/
def context? (r : Record) (name : String) : Option Value :=
  match Value.lookup name r.extras with
  | none | some .null => none
  | some v => some v

/-- The extra fields that are written. -/
def written (r : Record) : List (Value × Value) :=
  r.extras.filter fun (k, _) => !isOneOf hiddenNames k

/-- Fields with the previews of their values, if all of them can be written. -/
def previewsOf (redacted : Bool) :
    List (Value × Value) → Except Numeral.Overlong (List (Value × Value))
  | [] => .ok []
  | (k, v) :: rest => do
    let s ← safeText v usualLimit redacted
    let others ← previewsOf redacted rest
    pure ((k, .text s) :: others)

/-- The extra fields that are written, each as a preview. -/
def previews (r : Record) (redacted : Bool) : Except Numeral.Overlong (List (Value × Value)) :=
  previewsOf redacted r.written

end Record

/-- **How records are written.** -/
structure Style where
  /-- Whether an entry is a JSON object. -/
  json : Bool := true
  /-- Whether secrets are replaced. -/
  redacted : Bool := true
  /-- The pattern of the time. -/
  pattern : Option String := none
  deriving DecidableEq, Repr

namespace Record

/-- **The fields of an entry**, in order: its own, the context, what was thrown, and the previews of
the extra fields, which are put over them. -/
def fields (r : Record) (style : Style) : Except Fault (List (Value × Value)) := do
  let time ← r.time style.pattern
  let message ← r.text.mapError .template
  let previews ← (r.previews style.redacted).mapError .overlong
  let optional (name : String) (v : Option Value) : List (Value × Value) :=
    (v.map fun v => (.text name, v)).toList
  let own : List (Value × Value) :=
    [(.text "timestamp", .text time), (.text "level", r.level), (.text "logger", r.logger),
      (.text "message", .text (if style.redacted then redact message else message))]
  pure (putEntries
    (own ++ optional chainName (r.context? chainName) ++ optional hatName (r.context? hatName) ++
      optional "exception" (r.thrown.map fun t => .text t.text))
    previews)

/-- The text of the field under a name. -/
def shownField (fields : List (Value × Value)) (name : String) : Except Numeral.Overlong String :=
  match Value.lookup name fields with
  | some v => v.toPlain
  | none => .ok ""

/-- The text of what stands under a name among the extra fields, with the name. -/
def shownContext (r : Record) (name : String) : Except Numeral.Overlong (List String) :=
  match r.context? name with
  | some v => v.toPlain.map fun s => [name ++ "=" ++ s]
  | none => .ok []

/-- An entry as one plain line: time, level, logger, context and message. -/
def plainLine (r : Record) (fields : List (Value × Value)) : Except Numeral.Overlong String := do
  let timestamp ← shownField fields "timestamp"
  let level ← shownField fields "level"
  let logger ← shownField fields "logger"
  let chain ← r.shownContext chainName
  let hat ← r.shownContext hatName
  let message ← shownField fields "message"
  pure (" ".intercalate
    (["[" ++ timestamp ++ "]", level, logger] ++ chain ++ hat ++ [": " ++ message]))

/-- **The text of an entry.** -/
def write (r : Record) (style : Style) : Except Fault String := do
  let fields ← r.fields style
  if style.json then (Value.dict fields).json.mapError .json
  else (r.plainLine fields).mapError .overlong

/-- The text of an entry where no style is set: the message, and what was thrown on a line of its
own. -/
def bareText (r : Record) : Except Template.Fault String :=
  r.text.map fun s =>
    match r.thrown with
    | none => s
    | some t => (if s.endsWith "\n" then s else s ++ "\n") ++ t.text

end Record

end Log

end HatTree
