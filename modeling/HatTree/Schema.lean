import HatTree.Report

/-!
# The schema of the index

The index exposes five types of objects. Each has scalar fields and relations to other objects; two
relations list events, the newest first.

## Main definitions

* `ObjectType`: the types of objects, with their names
* `ObjectType.relations`, `ObjectType.scalars`: their fields, in the order of the schema
* `ObjectType.target?`: the type that a relation points at
* `ObjectType.isEventList`: whether a relation lists events
-/

namespace HatTree

/-- **The types of objects.** -/
inductive ObjectType where
  /-- A hat. -/
  | hat
  /-- A tree of hats. -/
  | tree
  /-- An account that wears hats. -/
  | wearer
  /-- An event of the ledger. -/
  | event
  /-- A module through which hats can be claimed. -/
  | claimsHatter
  deriving DecidableEq, Repr

namespace ObjectType

/-- All types, in the order of the schema. -/
def all : List ObjectType := [hat, tree, wearer, event, claimsHatter]

/-- The name by which callers give a type. -/
def label : ObjectType → String
  | hat => "hat"
  | tree => "tree"
  | wearer => "wearer"
  | event => "event"
  | claimsHatter => "claimsHatter"

/-- The type with a given name. -/
def ofLabel? (name : String) : Option ObjectType := all.find? fun t => t.label == name

/-- The name of a type in the index. -/
def indexName : ObjectType → String
  | hat => "Hat"
  | tree => "Tree"
  | wearer => "Wearer"
  | event => "HatsEvent"
  | claimsHatter => "ClaimsHatter"

/-- **The relations of a type**, each with the type it points at. -/
def relations : ObjectType → List (String × ObjectType)
  | hat =>
    [("tree", tree), ("wearers", wearer), ("badStandings", wearer), ("admin", hat),
      ("subHats", hat), ("linkRequestFromTree", tree), ("linkedTrees", tree),
      ("claimableBy", claimsHatter), ("claimableForBy", claimsHatter), ("events", event)]
  | tree =>
    [("hats", hat), ("childOfTree", tree), ("parentOfTrees", tree), ("linkedToHat", hat),
      ("linkRequestFromTree", tree), ("requestedLinkToTree", tree), ("requestedLinkToHat", hat),
      ("events", event)]
  | wearer => [("currentHats", hat), ("mintEvent", event), ("burnEvent", event)]
  | event => [("hat", hat), ("tree", tree)]
  | claimsHatter => [("claimableHats", hat), ("claimableForHats", hat)]

/-- **The scalar fields of a type.** -/
def scalars : ObjectType → List String
  | hat =>
    ["prettyId", "status", "createdAt", "details", "maxSupply", "eligibility", "toggle", "mutable",
      "imageUri", "levelAtLocalTree", "currentSupply"]
  | event => ["timestamp", "blockNumber", "transactionID"]
  | _ => []

/-- The fields of a type: its scalars, then its relations. -/
def fields (t : ObjectType) : List String := t.scalars ++ t.relations.map (·.1)

/-- **The type that a relation points at.** -/
def target? (t : ObjectType) (relation : String) : Option ObjectType := t.relations.lookup relation

/-- **Whether a relation lists events**, which are selected the newest first. -/
def isEventList (t : ObjectType) (relation : String) : Bool :=
  (t == hat || t == tree) && relation == "events"

/-- The names of the relations of a type in ascending order. -/
def sortedRelations (t : ObjectType) : List String :=
  (t.relations.map (·.1)).mergeSort fun a b => a ≤ b

end ObjectType

/-- The field that every object is selected with. -/
def idField : String := "id"

/-- A name that no type has. -/
structure TypeFault where
  /-- The name. -/
  name : String
  deriving DecidableEq, Repr

instance : Reportable TypeFault where
  report f := .plain .badValue (Text.quote f.name ++ " is not a valid ObjectType")

/-- The type with a given name. -/
def ObjectType.ofLabel (name : String) : Except TypeFault ObjectType :=
  match ofLabel? name with
  | some t => .ok t
  | none => .error ⟨name⟩

/-- A relation that a type does not have. -/
structure RelationFault where
  /-- The type. -/
  owner : ObjectType
  /-- The name of the relation. -/
  relation : Value

instance : Reportable RelationFault where
  report f := .ofWriting do
    let name ← f.relation.toPlain
    pure (.ofKind .unknownRelation
      (f.owner.indexName ++ " has no relation '" ++ name ++ "'. Available: " ++
        Value.shownTexts f.owner.sortedRelations)
      [("object_type", .text f.owner.label), ("relation", f.relation)])

/-- The type that a relation points at, or a fault. -/
def ObjectType.target (t : ObjectType) (relation : String) : Except RelationFault ObjectType :=
  match t.target? relation with
  | some next => .ok next
  | none => .error ⟨t, .text relation⟩

end HatTree
