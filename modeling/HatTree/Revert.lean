import HatTree.Raised

/-!
# Reverts of contract calls

A contract that refuses a call reverts with a name and arguments. Known names give an error of a
kind of their own, with a message in which the arguments take their places.

The message comes from a template, in which the number of an argument stands between braces. Before
a template is filled, empty texts are put behind the arguments until there are as many as the
template has opening braces; a template that asks for more cannot be filled.

## Main definitions

* `Revert.place`: the place of an argument in a template
* `Revert.table`: the known names, each with its kind and its template
* `Revert.fill`: a template with arguments in their places
* `Revert.error?`: the error that a revert stands for
-/

namespace HatTree.Revert

/-- The place of an argument: its number between braces. -/
def place (i : Nat) : String := "\x7b" ++ Nat.repr i ++ "\x7d"

/-- **The known names**, each with its kind and its template. -/
def table : List (String × Kind × String) :=
  [
    ("NotAdmin", .notAdmin,
      "address " ++ place 0 ++ " is attempting to perform an action on " ++ place 1 ++
        " but is not wearing one of its admin hats"),
    ("NotHatWearer", .notWearer,
      "attempting to perform an action as or for an account that is not a wearer of a given hat"),
    ("NotAdminOrWearer", .notAdminOrWearer,
      "attempting to perform an action that requires being either an admin or wearer of a " ++
        "given hat"),
    ("AllHatsWorn", .allHatsWorn,
      "attempting to mint " ++ place 0 ++ " but its maxSupply has been reached"),
    ("MaxLevelsReached", .maxLevelReached,
      "attempting to create a hat with a level 14 hat as its admin"),
    ("InvalidHatId", .invalidAdmin,
      "provided hat id has empty intermediate level(s)"),
    ("AlreadyWearingHat", .alreadyWearing,
      "attempting to mint hat with ID " ++ place 1 ++ " to address " ++ place 0 ++
        " who is already wearing the hat"),
    ("HatDoesNotExist", .hatNotExist,
      "attempting to mint a non-existant hat with ID " ++ place 0),
    ("HatNotActive", .notActive,
      "attempting to mint or transfer a hat that is not active"),
    ("NotEligible", .notEligible,
      "attempting to mint or transfer a hat to an ineligible wearer"),
    ("NotHatsToggle", .notToggle,
      "attempting to set a hat's status from an account that is not that hat's toggle module"),
    ("NotHatsEligibility", .notEligibility,
      "attempting to check or set a hat wearer's status from an account that is not that " ++
        "hat's eligibility module"),
    ("BatchArrayLengthMismatch", .batchParams,
      "array arguments to a batch function have mismatching lengths"),
    ("Immutable", .immutableHat,
      "attempting to mutate or transfer an immutable hat"),
    ("NewMaxSupplyTooLow", .invalidMaxSupply,
      "attempting to set a hat's max supply below its current supply"),
    ("CircularLinkage", .circularLinkage,
      "attempting to link a tophat to a new admin for which the tophat serves as an admin"),
    ("CrossTreeLinkage", .crossLinkage,
      "attempting to link or relink a tophat to a separate tree"),
    ("LinkageNotRequested", .noLinkageRequest,
      "attempting to link a tophat without a request"),
    ("InvalidUnlink", .invalidUnlink,
      "attempting to unlink a tophat that does not have a wearer"),
    ("ZeroAddress", .zeroAddress,
      "attempting to change a hat's eligibility or toggle module to the zero address"),
    ("StringTooLong", .stringTooLong,
      "attempting to change a hat's details or imageURI to a string with over 7000 bytes " ++
        "(~characters)"),
    ("MultiClaimsHatter_ArrayLengthMismatch", .batchParams,
      "array arguments to a batch function have mismatching lengths"),
    ("MultiClaimsHatter_NotAdminOfHat", .notAdmin,
      "address " ++ place 0 ++ " is attempting to set the claimability of hat " ++ place 1 ++
        " but is not wearing one of its admin hats"),
    ("MultiClaimsHatter_NotExplicitlyEligible", .notExplicitlyEligible,
      "address " ++ place 0 ++ " is not explicitly eligible for hat " ++ place 1),
    ("MultiClaimsHatter_HatNotClaimable", .hatNotClaimable,
      "attempting to claim hat " ++ place 0 ++ ", which is not claimable"),
    ("MultiClaimsHatter_HatNotClaimableFor", .hatNotClaimableFor,
      "attempting to claim hat " ++ place 0 ++ " on behalf of an account, but the hat is not " ++
        "claimable-for")]

/-- Why a template cannot be filled. -/
inductive Flaw where
  /-- A brace closes and none was opened. -/
  | unopened
  /-- The template ends inside braces. -/
  | unclosed (inside : String)
  /-- What stands between braces is no number. -/
  | noNumber (inside : String)
  /-- There is no argument of that number. -/
  | noArgument (i : Nat)
  /-- The argument cannot be written. -/
  | overlong (fault : Numeral.Overlong)
  deriving DecidableEq, Repr

instance : Reportable Flaw where
  report
    | .unopened => .plain .badValue "Single '\x7d' encountered in format string"
    | .unclosed inside => .plain .badValue
        (if inside = "" then "Single '\x7b' encountered in format string"
        else "expected '\x7d' before end of string")
    | .noNumber inside => .plain .badKey (Text.quote inside)
    | .noArgument i => .plain .badKey ("Replacement index " ++ Nat.repr i ++
        " out of range for positional args tuple")
    | .overlong fault => report fault

/-- The text of the argument whose number stands between braces. -/
def argument (args : List Value) (inside : List Char) : Except Flaw (List Char) :=
  if inside.isEmpty || !inside.all Char.isDigit then .error (.noNumber (String.ofList inside))
  else
    match args[Numeral.value 10 inside]? with
    | some v => (v.toPlain.mapError .overlong).map String.toList
    | none => .error (.noArgument (Numeral.value 10 inside))

/-- Fills a template from left to right; behind an opening brace, what stands between the braces is
gathered until they close. The texts of arguments are not looked into. -/
def fillFrom (args : List Value) : Option (List Char) → List Char → Except Flaw (List Char)
  | none, [] => .ok []
  | none, c :: cs =>
    if c = '\x7b' then fillFrom args (some []) cs
    else if c = '\x7d' then .error .unopened
    else (fillFrom args none cs).map (c :: ·)
  | some inside, [] => .error (.unclosed (String.ofList inside))
  | some inside, c :: cs =>
    if c = '\x7d' then do
      let text ← argument args inside
      let rest ← fillFrom args none cs
      pure (text ++ rest)
    else fillFrom args (some (inside ++ [c])) cs

/-- **A template with arguments in their places.** -/
def fill (args : List Value) (template : String) : Except Flaw String :=
  (fillFrom args none template.toList).map String.ofList

/-- The number of opening braces of a template. -/
def braceCount (template : String) : Nat := template.toList.count '\x7b'

/-- Arguments with empty texts behind them, as many as the template has opening braces. -/
def padded (template : String) (args : List Value) : List Value :=
  args ++ List.replicate (braceCount template - args.length) (.text "")

/-- Why a revert cannot be translated. -/
inductive Fault where
  /-- The arguments are no collection. -/
  | notCollection (typeName : String)
  /-- The template of the name cannot be filled. -/
  | template (flaw : Flaw)
  deriving DecidableEq, Repr

instance : Reportable Fault where
  report
    | .notCollection typeName => .plain .wrongType ("'" ++ typeName ++ "' object is not iterable")
    | .template flaw => report flaw

/-- **The error that a revert stands for**, none for an unknown name. The arguments of an unknown
name are not looked at. -/
def error? (name : String) (args : Value) : Except Fault (Option Raised) :=
  match table.lookup name with
  | none => .ok none
  | some (kind, template) =>
    match args.items? with
    | none => .error (.notCollection args.typeName)
    | some items => do
      let text ← (fill (padded template items) template).mapError .template
      pure (some (.ofParts kind (.text ("Error: " ++ text)) .null
        [("revert", .text name), ("args", .tuple items)]))

end HatTree.Revert
