import HatTree.Settings

/-!
# Settings from the environment

The variables of the environment may set the level and the form of the log, the name of the service,
the page size, and endpoints as items `chain=url` divided by commas, which are put over the public
ones.

## Main definitions

* `Environment.overrides`: the endpoints that a text gives
* `Environment.settings`: the settings that an environment gives
-/

namespace HatTree.Environment

open HatTree.Text

/-- What keeps an environment from giving settings. -/
inductive Fault where
  /-- An item is not of the form `chain=url`. -/
  | entry (item : String)
  /-- The page size is no run of digits. -/
  | pageSize (raw : String)
  /-- Digits that are no numeral. -/
  | numeral (raw : String) (flaw : Numeral.Flaw)
  /-- Endpoints or page size do not pass the check. -/
  | endpoints (issues : List Issue)
  /-- The settings do not pass the check. -/
  | settings (issues : List Issue)
  deriving DecidableEq, Repr

instance : Reportable Fault where
  report
    | .entry item => .ofKind .configuration
        ("Invalid HATS_SUBGRAPH_ENDPOINTS entry " ++ quote item ++ "; expected chainId=url")
        [("entry", .text item)]
    | .pageSize raw => .ofKind .configuration
        ("HATS_SUBGRAPH_PAGE_SIZE must be a positive integer, got " ++ quote raw)
    | .numeral raw flaw => numeralReport 10 raw flaw
    | .endpoints issues =>
      { Report.ofKind .configuration
          ("Invalid subgraph configuration: " ++ issueCount issues Endpoints.modelName) with
        issues := some issues }
    | .settings issues => report (ShapeFault.mk Settings.modelName issues)

/-- The number that a run of digits denotes. -/
def number (raw : List Char) : Except Fault Int :=
  (Numeral.read 10 (String.ofList raw)).mapError (.numeral (String.ofList raw))

/-- The chain and the endpoint that an item gives. -/
def override (item : List Char) : Except Fault (Int × String) :=
  let chain := item.takeWhile (· ≠ '=')
  let url := trimBy isBlank ((item.dropWhile (· ≠ '=')).drop 1)
  if !item.contains '=' || !isNumeric (trimBy isBlank chain) || url.isEmpty then
    .error (.entry (String.ofList item))
  else do
    let n ← number chain
    pure (n, String.ofList url)

/-- **The endpoints that a text gives**, in the order of their chains' first items; blank items are
passed over. -/
def overrides (raw : String) : Except Fault (List (Int × String)) := do
  let items := (raw.toList.splitOn ',').map (trimBy isBlank)
  let given ← (items.filter fun item => !item.isEmpty).mapM override
  pure (Ordered.putAll [] given)

/-- The page size that a text gives. -/
def pageSize (raw : String) : Except Fault Int :=
  if isNumeric (trimBy isBlank raw.toList) then number raw.toList else .error (.pageSize raw)

/-- The spellings of true in the environment, in any case. -/
def isTrue (raw : String) : Bool := ["true", "1", "yes"].contains raw.toLower

/-- **The settings that an environment gives.** -/
def settings (environment : List (String × String)) : Except Fault Settings := do
  let given ← overrides ((environment.lookup "HATS_SUBGRAPH_ENDPOINTS").getD "")
  let urls := Ordered.putAll Endpoints.publicUrls given
  let size ← pageSize
    ((environment.lookup "HATS_SUBGRAPH_PAGE_SIZE").getD (Nat.repr Layout.defaultPageSize))
  let reachable := (Reading.checked (Endpoints.reachable urls)).under (.key "endpoints")
  let positive := (Reading.checked (Reading.positive (.ok size))).under (.key "default_page_size")
  let endpoints ← (Checked.guarded (reachable.issues ++ positive.issues) do
    pure (Endpoints.mk (← reachable) (← positive))).mapError .endpoints
  let severity ← ((Reading.checked
    (Severity.read (.text ((environment.lookup "LOG_LEVEL").getD "INFO")))).under
      (.key "log_level")).mapError .settings
  pure
    { severity
      json := isTrue ((environment.lookup "LOG_JSON").getD "false")
      service := environment.lookup "SERVICE_NAME"
      endpoints }

end HatTree.Environment
