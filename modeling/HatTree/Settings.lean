import HatTree.Layout
import HatTree.Reading
import HatTree.Report

/-!
# Settings

What a client needs to know: the endpoint of the index on each chain, the page size of relations,
and how to log.

## Main definitions

* `Severity`: the five levels of the log
* `Endpoints`: where to query the index, and the page size
* `Settings`: endpoints and logging
* `Endpoints.read`, `Settings.read`: settings given by name, checked
* `Endpoints.find?`: the endpoint of a chain
-/

namespace HatTree

/-- **The levels of the log.** -/
inductive Severity where
  /-- Details for developers. -/
  | debug
  /-- The course of events. -/
  | info
  /-- Something unexpected. -/
  | warning
  /-- A failure. -/
  | error
  /-- A failure that stops the program. -/
  | critical
  deriving DecidableEq, Repr

namespace Severity

/-- All levels, ascending. -/
def all : List Severity := [debug, info, warning, error, critical]

/-- The name of a level. -/
def label : Severity → String
  | debug => "DEBUG"
  | info => "INFO"
  | warning => "WARNING"
  | error => "ERROR"
  | critical => "CRITICAL"

/-- The number of a level. -/
def number : Severity → Int
  | debug => 10
  | info => 20
  | warning => 30
  | error => 40
  | critical => 50

/-- A letter in upper case, as far as it matters for the names of levels: the dotless i has the
capital I, and no other letter beyond ASCII has a capital that occurs in a name. -/
def upperChar (c : Char) : Char := if c.toNat = 0x131 then 'I' else c.toUpper

/-- The level with a given name, in any case. -/
def ofLabel? (name : String) : Option Severity :=
  all.find? fun s => s.label == String.ofList (name.toList.map upperChar)

/-- A name that no level has. -/
structure NameFault where
  /-- The name. -/
  name : String
  deriving DecidableEq, Repr

instance : Reportable NameFault where
  report f := .plain .badValue (Text.quote f.name ++ " is not a valid LogLevel")

/-- The level with exactly a given name. -/
def ofName (name : String) : Except NameFault Severity :=
  match all.find? fun s => s.label == name with
  | some s => .ok s
  | none => .error ⟨name⟩

/-- A level given as a value. -/
def read : Value → Except Complaint Severity
  | .text name =>
    match ofLabel? name with
    | some s => .ok s
    | none => .error (.refused ("Invalid log level: " ++ name ++ ". Must be one of " ++
        Value.shownTexts (all.map label)))
  | v => .error (.refused ("Log level must be string or LogLevel enum, got <class '" ++
      v.typeName ++ "'>"))

end Severity

/-- **Where to query the index**, and the page size of relations. -/
structure Endpoints where
  /-- The endpoint of each chain. -/
  urls : List (Int × String)
  /-- The page size of relations for which no other is set. -/
  pageSize : Int
  deriving DecidableEq, Repr

namespace Endpoints

/-- The public endpoint of a network. -/
def publicUrl (network : String) : String :=
  "https://api.studio.thegraph.com/query/55784/hats-v1-" ++ network ++ "/version/latest"

/-- The public endpoints. -/
def publicUrls : List (Int × String) :=
  [(1, publicUrl "ethereum"), (10, publicUrl "optimism"), (100, publicUrl "gnosis-chain"),
    (137, publicUrl "polygon"), (8453, publicUrl "base"), (42161, publicUrl "arbitrum"),
    (42220, publicUrl "celo"), (84532, publicUrl "base-sepolia"), (11155111, publicUrl "sepolia")]

/-- The public endpoints with the usual page size. -/
def standard : Endpoints := ⟨publicUrls, Layout.defaultPageSize⟩

/-- Whether an endpoint can be reached over the web. -/
def isWebUrl (url : String) : Bool := url.startsWith "http://" || url.startsWith "https://"

/-- Endpoints of which each can be reached over the web. -/
def reachable (urls : List (Int × String)) : Except Complaint (List (Int × String)) :=
  match urls.find? fun (_, url) => !isWebUrl url with
  | none => .ok urls
  | some (chain, _) =>
    match Numeral.write chain with
    | .ok s => .error (.refused ("Endpoint for chain " ++ s ++
        " must start with http:// or https://"))
    | .error fault => .error (.refused (report fault).message)

/-- A table of endpoints given as a value. -/
def readUrls (v : Value) : Checked (List (Int × String)) := do
  let urls ← Reading.table Reading.looseInt Reading.text v
  Reading.checked (reachable urls)

/-- A page size given as a value. -/
def readPageSize (v : Value) : Checked Int :=
  Reading.checked (Reading.positive (Reading.looseInt v))

/-- **Endpoints given by name.** -/
def read (given : List (Value × Value)) : Checked Endpoints :=
  let urls := Reading.field readUrls publicUrls given "endpoints"
  let pageSize := Reading.field readPageSize Layout.defaultPageSize given "default_page_size"
  Checked.guarded
    (urls.issues ++ pageSize.issues ++
      Reading.unknownKeys ["endpoints", "default_page_size"] given) do
    pure ⟨← urls, ← pageSize⟩

/-- The name of the model of endpoints. -/
def modelName : String := "SubgraphConfig"

/-- Endpoints given as a value. -/
def readValue : Value → Checked Endpoints
  | .dict given => read given
  | _ => .error [.here (.modelType modelName)]

/-- **The endpoint of a chain**; the type of a value that is no key is given instead. -/
def find? (e : Endpoints) (chain : Value) : Except String (Option String) :=
  match chain.unhashable? with
  | some typeName => .error typeName
  | none => .ok (chain.keyInteger?.bind fun n => e.urls.lookup n)

end Endpoints

/-- **Settings**: endpoints and logging. -/
structure Settings where
  /-- The level from which on entries are logged. -/
  severity : Severity := .info
  /-- Whether entries are written as JSON. -/
  json : Bool := false
  /-- The name of the logger of the service. -/
  service : Option String := none
  /-- Where to query the index. -/
  endpoints : Endpoints := .standard
  deriving DecidableEq, Repr

namespace Settings

/-- The name of a service given as a value. -/
def readService : Value → Checked (Option String)
  | .null => .ok none
  | v => (Reading.checked (Reading.text v)).map some

/-- **Settings given by name.** -/
def read (given : List (Value × Value)) : Checked Settings :=
  let severity := Reading.field (fun v => Reading.checked (Severity.read v)) .info given "log_level"
  let json := Reading.field (fun v => Reading.checked (Reading.looseBool v)) false given "log_json"
  let service := Reading.field readService none given "service_name"
  let endpoints := Reading.field Endpoints.readValue .standard given "subgraph"
  Checked.guarded
    (severity.issues ++ json.issues ++ service.issues ++ endpoints.issues ++
      Reading.unknownKeys ["log_level", "log_json", "service_name", "subgraph"] given) do
    pure ⟨← severity, ← json, ← service, ← endpoints⟩

/-- The name of the model of settings. -/
def modelName : String := "HatsConfig"

end Settings

/-- Something given by name that does not have the expected shape. -/
structure ShapeFault where
  /-- The name of the model. -/
  model : String
  /-- What is wrong. -/
  issues : List Issue
  deriving DecidableEq, Repr

instance : Reportable ShapeFault where
  report f :=
    { Report.plain .misshapen (issueCount f.issues f.model) with issues := some f.issues }

end HatTree
