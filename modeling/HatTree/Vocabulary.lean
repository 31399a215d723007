import HatTree.Reading
import HatTree.Schema

/-!
# The vocabulary of projections

Projections from users are checked before they are compiled. Each type has a model, which lists the
fields that a projection from the type may have: under a scalar stands a truth value, under a
relation a projection that fits another model. Every key has to be a field, and nothing stands for a
field that is not selected.

## Main definitions

* `Vocabulary.Model`: the models of projections, with their fields
* `Vocabulary.issues`: what is wrong with a projection for a model
* `Vocabulary.check`: the check of a projection from a type
-/

namespace HatTree

namespace Vocabulary

/-- **The models of projections.** -/
inductive Model where
  /-- Projections from hats. -/
  | hat
  /-- Projections from trees. -/
  | tree
  /-- Projections from wearers. -/
  | wearer
  /-- Projections from events. -/
  | event
  /-- Projections from claims hatters. -/
  | claimsHatter
  deriving DecidableEq, Repr

/-- **What a field takes** if it is selected. -/
inductive Expected where
  /-- A truth value. -/
  | truth
  /-- A projection that fits a model. -/
  | nested (m : Model)
  deriving DecidableEq, Repr

namespace Model

/-- The name of a model. -/
def name : Model → String
  | hat => "HatProps"
  | tree => "TreeProps"
  | wearer => "WearerProps"
  | event => "EventProps"
  | claimsHatter => "ClaimsHatterProps"

/-- **The fields of a model**, in order, each with what it takes. -/
def fields : Model → List (String × Expected)
  | hat =>
    [("prettyId", .truth), ("status", .truth), ("createdAt", .truth), ("details", .truth),
      ("maxSupply", .truth), ("eligibility", .truth), ("toggle", .truth), ("mutable", .truth),
      ("imageUri", .truth), ("levelAtLocalTree", .truth), ("currentSupply", .truth),
      ("tree", .nested tree), ("wearers", .nested wearer), ("badStandings", .nested wearer),
      ("admin", .nested hat), ("subHats", .nested hat), ("linkRequestFromTree", .nested tree),
      ("linkedTrees", .nested tree), ("claimableBy", .nested claimsHatter),
      ("claimableForBy", .nested claimsHatter), ("events", .nested event)]
  | tree =>
    [("hats", .nested hat), ("childOfTree", .nested tree), ("parentOfTrees", .nested tree),
      ("linkedToHat", .nested hat), ("linkRequestFromTree", .nested tree),
      ("requestedLinkToTree", .nested tree), ("requestedLinkToHat", .nested hat),
      ("events", .nested event)]
  | wearer =>
    [("currentHats", .nested hat), ("mintEvent", .nested event), ("burnEvent", .nested event)]
  | event =>
    [("timestamp", .truth), ("blockNumber", .truth), ("transactionID", .truth),
      ("hat", .nested hat), ("tree", .nested tree)]
  | claimsHatter => [("claimableHats", .nested hat), ("claimableForHats", .nested hat)]

/-- The names of the fields of a model, in order. -/
def fieldNames (m : Model) : List String := m.fields.map (·.1)

/-- What a model takes under a name, if that is a field. -/
def expected? (m : Model) (name : String) : Option Expected := m.fields.lookup name

/-- **The model of the projections from a type.** -/
def of : ObjectType → Model
  | .hat => hat
  | .tree => tree
  | .wearer => wearer
  | .event => event
  | .claimsHatter => claimsHatter

end Model

/-- The issue about a value that is not what a field takes. -/
def Expected.mismatch : Expected → Issue
  | truth => .here .boolType
  | nested m => .here (.modelType m.name)

/-- Brings the issues found under the fields of a projection into the order of the model, and adds
those about unexpected keys. -/
def arrange (m : Model) (found : List (String × List Issue)) (given : List (Value × Value)) :
    List Issue :=
  (m.fieldNames.flatMap fun name =>
    (found.filter fun (key, _) => key == name).flatMap fun (_, issues) =>
      issues.map (Issue.under (.key name))) ++
    Reading.unknownKeys m.fieldNames given

mutual

/-- The issues about the value of a field. -/
def valueIssues (e : Expected) : Value → List Issue
  | .null => []
  | .bool _ =>
    match e with
    | .truth => []
    | .nested _ => [e.mismatch]
  | .dict given =>
    match e with
    | .truth => [e.mismatch]
    | .nested m => arrange m (keyIssues m given) given
  | _ => [e.mismatch]

/-- The issues under each field of a projection. -/
def keyIssues (m : Model) : List (Value × Value) → List (String × List Issue)
  | [] => []
  | (.text name, v) :: rest =>
    match m.expected? name with
    | some e => (name, valueIssues e v) :: keyIssues m rest
    | none => keyIssues m rest
  | (_, _) :: rest => keyIssues m rest

end

/-- **What is wrong with a projection** for a model. -/
def issues (m : Model) : Value → List Issue
  | .dict given => arrange m (keyIssues m given) given
  | _ => [(Expected.nested m).mismatch]

/-- A projection that does not fit the vocabulary of a type. -/
structure Fault where
  /-- The type. -/
  type : ObjectType
  /-- What is wrong. -/
  issues : List Issue
  deriving DecidableEq, Repr

instance : Reportable Fault where
  report f :=
    { Report.ofKind .inputValidation
        ("Invalid " ++ f.type.indexName ++ " props: " ++
          issueCount f.issues (Model.of f.type).name)
        [("object_type", .text f.type.label)] with
      issues := some f.issues }

/-- **The check of a projection** from a type. -/
def check (t : ObjectType) (projection : Value) : Except Fault Unit :=
  match issues (.of t) projection with
  | [] => .ok ()
  | found => .error ⟨t, found⟩

end Vocabulary

end HatTree
