import HatTree.Log.Context
import HatTree.Note

/-!
# Log sessions

Loggers have dotted names and may have levels of their own; a logger without one takes the level of
the nearest logger above it, and the root has a level always. Entries go to the sink that was set
up, which has a level too. Before one is set up, warnings and worse are written bare.

## Main definitions

* `Log.Session`: the levels of the loggers, and the sink
* `Log.Session.setUp`: a session set up by settings
* `Log.Session.effective`: the level that applies to a logger
* `Log.Call`: a call to a logger
* `Log.Session.log`: what a call writes
* `Log.Session.tell`: what notes write

## Main results

* `Session.own_setLevel`: the level of a logger after it was set
-/

namespace HatTree.Log

/-- Where entries are written to. -/
structure Sink where
  /-- The level from which on entries are written. -/
  level : Int
  /-- How entries are written. -/
  style : Style
  deriving DecidableEq, Repr

/-- **The levels of the loggers, and the sink.** -/
structure Session where
  /-- The level of the root. -/
  level : Int := Severity.warning.number
  /-- The sink, once one is set up. -/
  sink : Option Sink := none
  /-- The loggers with levels of their own. -/
  loggers : List (String × Int) := []
  deriving DecidableEq, Repr

/-- Whether a name is that of the root. -/
def isRoot (name : String) : Bool := name = "" || name = "root"

/-- The names above a dotted name, the nearest first. -/
def namesAbove (name : String) : List String :=
  let cs := name.toList
  let ends := (List.range cs.length).filter fun i => 0 < i && cs[i]? == some '.'
  ends.reverse.map fun i => String.ofList (cs.take i)

namespace Session

/-- The level of a logger's own, zero if it has none. -/
def own (s : Session) (name : String) : Int :=
  if isRoot name then s.level else (s.loggers.lookup name).getD 0

/-- **The level that applies to a logger**: its own, the nearest above it, or that of the root. -/
def effective (s : Session) (name : String) : Int :=
  (((name :: namesAbove name).map s.own).find? (· ≠ 0)).getD s.level

/-- A session with the level of a logger set. -/
def setLevel (s : Session) (name : String) (level : Int) : Session :=
  if isRoot name then { s with level } else { s with loggers := Ordered.put name level s.loggers }

/-- The level of a logger after it was set. -/
theorem own_setLevel (s : Session) (name : String) (level : Int) :
    (s.setLevel name level).own name = level := by
  by_cases h : isRoot name = true
  · simp [setLevel, own, h]
  · simp [setLevel, own, h, Ordered.lookup_put]

/-- The time as a sink shows it. -/
def timePattern : String := "T"

/-- **A session set up by settings**: the level goes to the root, to the one sink and to the logger
of the service. -/
def setUp (s : Session) (settings : Settings) (json : Option Bool) (redacted : Bool) : Session :=
  let level := settings.severity.number
  let style : Style :=
    { json := json.getD settings.json, redacted, pattern := some timePattern }
  let s := { s with level, sink := some ⟨level, style⟩ }
  match settings.service with
  | none | some "" => s
  | some name => s.setLevel name level

end Session

/-- **A call to a logger.** -/
structure Call where
  /-- The name of the logger. -/
  logger : String
  /-- The context of the logger. -/
  context : Context := {}
  /-- The level of the entry. -/
  severity : Severity
  /-- The message. -/
  message : Value
  /-- The arguments of the message. -/
  arguments : List Value := []
  /-- The named arguments. -/
  names : List (Value × Value) := []
  /-- Whether an error is reported unless the named arguments say otherwise. -/
  reporting : Bool := false

/-- A method that loggers do not have. -/
structure MethodFault where
  /-- The name of the method. -/
  name : String
  deriving DecidableEq, Repr

instance : Reportable MethodFault where
  report f := .plain .missingMember
    ("'HatsLoggerAdapter' object has no attribute '" ++ f.name ++ "'")

/-- The level at which a method of loggers writes, and whether it reports an error. -/
def method : String → Except MethodFault (Severity × Bool)
  | "debug" => .ok (.debug, false)
  | "info" => .ok (.info, false)
  | "warning" | "warn" => .ok (.warning, false)
  | "error" => .ok (.error, false)
  | "exception" => .ok (.error, true)
  | "critical" => .ok (.critical, false)
  | name => .error ⟨name⟩

/-- Why a call fails. -/
inductive CallFault where
  /-- The extra fields are no dictionary. -/
  | pairs (fault : PairsFault)
  /-- A named argument that is not known. -/
  | unknownName (name : String)
  /-- An extra field with a name that a record has of its own. -/
  | refusedName (name : String)
  deriving DecidableEq, Repr

instance : Reportable CallFault where
  report
    | .pairs fault => report fault
    | .unknownName name => .plain .wrongType
        ("Logger._log() got an unexpected keyword argument '" ++ name ++ "'")
    | .refusedName name => .plain .badKey
        (Text.quote ("Attempt to overwrite " ++ Text.quote name ++ " in LogRecord"))

/-- The name of the argument for an error. -/
def thrownName : String := "exc_info"

/-- The named arguments that a call takes. -/
def callNames : List String := [thrownName, extraName, "stack_info", "stacklevel"]

/-- The record of a call whose named arguments hold the context already. -/
def Call.record (c : Call) (names : List (Value × Value)) : Except CallFault Record :=
  match names.find? fun (k, _) => !isOneOf callNames k with
  | some (k, _) => .error (.unknownName k.plain)
  | none =>
    let extras := match Value.lookup extraName names with
      | some (.dict entries) => entries
      | _ => []
    match extras.find? fun (k, _) => isOneOf refusedNames k with
    | some (k, _) => .error (.refusedName k.plain)
    | none =>
      let reports := (Value.lookup thrownName names).getD (.bool c.reporting)
      .ok
        { logger := .text c.logger
          level := .text c.severity.label
          message := c.message
          arguments := Record.argumentsOf c.arguments
          thrown := if reports.truth then some .nothing else none
          extras }

namespace Session

/-- The level from which on entries are written without a sink. -/
def bareLevel : Int := Severity.warning.number

/-- What a record of a severity writes; a record that cannot be written writes nothing. -/
def output (s : Session) (severity : Severity) (r : Record) : String :=
  let line : Option String := match s.sink with
    | some sink => if sink.level ≤ severity.number then (r.write sink.style).toOption else none
    | none => if bareLevel ≤ severity.number then r.bareText.toOption else none
  (line.map (· ++ "\n")).getD ""

/-- **What a call writes.** A call below the level of its logger is not looked at. -/
def log (s : Session) (c : Call) : Except CallFault String :=
  if s.effective c.logger ≤ c.severity.number then do
    let names ← (c.context.process c.names).mapError .pairs
    let record ← c.record names
    pure (s.output c.severity record)
  else .ok ""

/-- The call that a note makes. -/
def callOf : Note → Call
  | .compiled object selection =>
    { logger := "hatscore.subgraph.compiler", severity := .debug
      message := .text "Compiled %s selection: %s", arguments := [.text object, .text selection] }
  | .querying endpoint query chain =>
    { logger := "hatscore.subgraph.client", context := { chain }, severity := .debug
      message := .text "Querying %s: %s"
      arguments := [endpoint, query].map fun s => .text (redact (shorten usualLimit s)) }
  | .predicting count existing =>
    { logger := "hatscore.ledger", severity := .debug
      message := .text "Predicting %d child ids after %d existing children"
      arguments := [.int count, .int existing] }

/-- **What notes write**, one after the other. -/
def tell (s : Session) (notes : List Note) : String :=
  String.join (notes.map fun note => ((s.log (callOf note)).toOption).getD "")

end Session

end HatTree.Log
