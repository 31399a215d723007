/-!
# Kinds of errors

Every error of the library has a kind, with a label and a stable code. The kinds form a tree: each
but the root specializes another.

## Main definitions

* `Kind`: the kinds, those of the library and those that users add
* `Kind.label`, `Kind.code`: the name and the stable code of a kind
* `Kind.parent?`: the kind that a kind specializes
* `Kind.standing`: the message of an error that is raised without one
* `Kind.catalogue`: the kinds of the library
-/

namespace HatTree

/-- **The kinds of errors.** -/
inductive Kind where
  /-- Any failure of the library. -/
  | hats
  /-- Invalid or missing configuration. -/
  | configuration
  /-- A dotted path has a bad token or too many segments. -/
  | malformedPath
  /-- A projection names a relation its object type does not have. -/
  | unknownRelation
  /-- A projection or its page bounds are malformed. -/
  | inputValidation
  /-- The admin sits on the deepest level. -/
  | maxLevelReached
  /-- There is no room for more children. -/
  | maxHatsInLevelReached
  /-- Any failure around the index. -/
  | subgraph
  /-- A chain has no endpoint. -/
  | subgraphNotSupported
  /-- The index has no such hat. -/
  | subgraphHatNotExist
  /-- The index has no such tree. -/
  | subgraphTreeNotExist
  /-- The index has no such wearer. -/
  | subgraphWearerNotExist
  /-- Any known revert of a contract call. -/
  | contractRevert
  /-- The sender wears no admin hat. -/
  | notAdmin
  /-- The account does not wear the hat. -/
  | notWearer
  /-- The account is neither admin nor wearer. -/
  | notAdminOrWearer
  /-- The supply of a hat is used up. -/
  | allHatsWorn
  /-- An id has an empty level in between. -/
  | invalidAdmin
  /-- The account wears the hat already. -/
  | alreadyWearing
  /-- There is no such hat. -/
  | hatNotExist
  /-- The hat is not active. -/
  | notActive
  /-- The wearer is not eligible. -/
  | notEligible
  /-- The account is not the toggle module. -/
  | notToggle
  /-- The account is not the eligibility module. -/
  | notEligibility
  /-- Batch arguments differ in length. -/
  | batchParams
  /-- The hat cannot be changed. -/
  | immutableHat
  /-- The new supply is below the current one. -/
  | invalidMaxSupply
  /-- A link would close a circle. -/
  | circularLinkage
  /-- A link would cross trees. -/
  | crossLinkage
  /-- A link was not requested. -/
  | noLinkageRequest
  /-- The top hat has no wearer. -/
  | invalidUnlink
  /-- A module would be the zero address. -/
  | zeroAddress
  /-- A text is too long. -/
  | stringTooLong
  /-- Eligibility is not explicit. -/
  | notExplicitlyEligible
  /-- The hat cannot be claimed. -/
  | hatNotClaimable
  /-- The hat cannot be claimed for others. -/
  | hatNotClaimableFor
  /-- A kind that a user adds under the root. -/
  | custom (label code : String)
  deriving DecidableEq, Repr

namespace Kind

/-- The name of a kind. -/
def label : Kind → String
  | hats => "HatsError"
  | configuration => "ConfigurationError"
  | malformedPath => "MalformedPathError"
  | unknownRelation => "UnknownRelationError"
  | inputValidation => "InputValidationError"
  | maxLevelReached => "MaxLevelReachedError"
  | maxHatsInLevelReached => "MaxHatsInLevelReachedError"
  | subgraph => "SubgraphError"
  | subgraphNotSupported => "SubgraphNotSupportedError"
  | subgraphHatNotExist => "SubgraphHatNotExistError"
  | subgraphTreeNotExist => "SubgraphTreeNotExistError"
  | subgraphWearerNotExist => "SubgraphWearerNotExistError"
  | contractRevert => "ContractRevertError"
  | notAdmin => "NotAdminError"
  | notWearer => "NotWearerError"
  | notAdminOrWearer => "NotAdminOrWearerError"
  | allHatsWorn => "AllHatsWornError"
  | invalidAdmin => "InvalidAdminError"
  | alreadyWearing => "AlreadyWearingError"
  | hatNotExist => "HatNotExistError"
  | notActive => "NotActiveError"
  | notEligible => "NotEligibleError"
  | notToggle => "NotToggleError"
  | notEligibility => "NotEligibilityError"
  | batchParams => "BatchParamsError"
  | immutableHat => "ImmutableHatError"
  | invalidMaxSupply => "InvalidMaxSupplyError"
  | circularLinkage => "CircularLinkageError"
  | crossLinkage => "CrossLinkageError"
  | noLinkageRequest => "NoLinkageRequestError"
  | invalidUnlink => "InvalidUnlinkError"
  | zeroAddress => "ZeroAddressError"
  | stringTooLong => "StringTooLongError"
  | notExplicitlyEligible => "NotExplicitlyEligibleError"
  | hatNotClaimable => "HatNotClaimableError"
  | hatNotClaimableFor => "HatNotClaimableForError"
  | custom label _ => label

/-- The stable code of a kind. -/
def code : Kind → String
  | hats => "INTERNAL_ERROR"
  | configuration => "CONFIGURATION_ERROR"
  | malformedPath => "MALFORMED_PATH"
  | unknownRelation => "UNKNOWN_RELATION"
  | inputValidation => "INPUT_VALIDATION_ERROR"
  | maxLevelReached => "MAX_LEVEL_REACHED"
  | maxHatsInLevelReached => "MAX_HATS_IN_LEVEL_REACHED"
  | subgraph => "SUBGRAPH_ERROR"
  | subgraphNotSupported => "SUBGRAPH_NOT_SUPPORTED"
  | subgraphHatNotExist => "SUBGRAPH_HAT_NOT_EXIST"
  | subgraphTreeNotExist => "SUBGRAPH_TREE_NOT_EXIST"
  | subgraphWearerNotExist => "SUBGRAPH_WEARER_NOT_EXIST"
  | contractRevert => "CONTRACT_REVERT"
  | notAdmin => "NOT_ADMIN"
  | notWearer => "NOT_WEARER"
  | notAdminOrWearer => "NOT_ADMIN_OR_WEARER"
  | allHatsWorn => "ALL_HATS_WORN"
  | invalidAdmin => "INVALID_ADMIN"
  | alreadyWearing => "ALREADY_WEARING"
  | hatNotExist => "HAT_NOT_EXIST"
  | notActive => "NOT_ACTIVE"
  | notEligible => "NOT_ELIGIBLE"
  | notToggle => "NOT_TOGGLE"
  | notEligibility => "NOT_ELIGIBILITY"
  | batchParams => "BATCH_PARAMS"
  | immutableHat => "IMMUTABLE_HAT"
  | invalidMaxSupply => "INVALID_MAX_SUPPLY"
  | circularLinkage => "CIRCULAR_LINKAGE"
  | crossLinkage => "CROSS_LINKAGE"
  | noLinkageRequest => "NO_LINKAGE_REQUEST"
  | invalidUnlink => "INVALID_UNLINK"
  | zeroAddress => "ZERO_ADDRESS"
  | stringTooLong => "STRING_TOO_LONG"
  | notExplicitlyEligible => "NOT_EXPLICITLY_ELIGIBLE"
  | hatNotClaimable => "HAT_NOT_CLAIMABLE"
  | hatNotClaimableFor => "HAT_NOT_CLAIMABLE_FOR"
  | custom _ code => code

/-- Whether a kind stands for a revert of a contract call. -/
def isRevert : Kind → Bool
  | notAdmin | notWearer | notAdminOrWearer | allHatsWorn | invalidAdmin | alreadyWearing
  | hatNotExist | notActive | notEligible | notToggle | notEligibility | batchParams
  | immutableHat | invalidMaxSupply | circularLinkage | crossLinkage | noLinkageRequest
  | invalidUnlink | zeroAddress | stringTooLong | notExplicitlyEligible | hatNotClaimable
  | hatNotClaimableFor => true
  | _ => false

/-- **The kind that a kind specializes**; the root specializes none. -/
def parent? : Kind → Option Kind
  | hats => none
  | subgraphNotSupported | subgraphHatNotExist | subgraphTreeNotExist | subgraphWearerNotExist =>
    some subgraph
  | kind => some (if kind.isRevert then contractRevert else hats)

/-- A kind and the kinds above it, up to the root. -/
def lineage (kind : Kind) : List Kind :=
  match kind.parent? with
  | none => [kind]
  | some .hats => [kind, hats]
  | some parent => [kind, parent, hats]

/-- The message of an error that is raised without one. -/
def standing : Kind → String
  | malformedPath => "Malformed hat path"
  | unknownRelation => "Unknown relation"
  | _ => "An internal error occurred"

/-- The kinds of the library. -/
def catalogue : List Kind :=
  [hats, configuration, malformedPath, unknownRelation, inputValidation, maxLevelReached,
    maxHatsInLevelReached, subgraph, subgraphNotSupported, subgraphHatNotExist,
    subgraphTreeNotExist, subgraphWearerNotExist, contractRevert, notAdmin, notWearer,
    notAdminOrWearer, allHatsWorn, invalidAdmin, alreadyWearing, hatNotExist, notActive,
    notEligible, notToggle, notEligibility, batchParams, immutableHat, invalidMaxSupply,
    circularLinkage, crossLinkage, noLinkageRequest, invalidUnlink, zeroAddress, stringTooLong,
    notExplicitlyEligible, hatNotClaimable, hatNotClaimableFor]

/-- The kind of the library with a given label. -/
def ofLabel? (name : String) : Option Kind := catalogue.find? fun kind => kind.label == name

end Kind

end HatTree
