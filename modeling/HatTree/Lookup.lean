import HatTree.Compile
import HatTree.Document
import HatTree.HatId.Hex
import HatTree.Settings
import HatTree.Text.Lowercase
import HatTree.Vocabulary

/-!
# Looking objects up in the index

A client checks and compiles the projections of a request, finds the endpoint of the chain, sends
one document and reads the answer off the response. Nothing is sent unless every step before
succeeds.

## Main definitions

* `Lookup.Request`: what can be asked for
* `Lookup.Request.projections`, `document`, `bindings`: what is compiled and sent for it
* `Lookup.Request.answer`: the answer in a response
* `Lookup.Act`: what a client does, with a trace of the documents sent and the notes taken
* `Lookup.run`: a request from start to end, as an `Exchange`
-/

namespace HatTree.Lookup

/-- **What can be asked for.** -/
inductive Request where
  /-- One hat. -/
  | hat (id : Int) (projection : Value)
  /-- Several hats, each of which has to exist. -/
  | hats (ids : List Int) (projection : Value)
  /-- One tree. -/
  | tree (id : Int) (projection : Value)
  /-- Several trees, each of which has to exist. -/
  | trees (ids : List Int) (projection : Value)
  /-- One page of trees, counted from zero. -/
  | treePage (page perPage : Int) (projection : Value)
  /-- One wearer. -/
  | wearer (address : String) (projection : Value)
  /-- One page of the wearers of a hat, counted from zero. -/
  | wearerPage (hat page perPage : Int) (projection : Value)
  /-- Trees, hats and wearers that a text names. -/
  | search (text : String) (trees hats wearers : Value)

/-- Why a request has no answer. -/
inductive Fault where
  /-- A projection does not fit the vocabulary. -/
  | vocabulary (fault : Vocabulary.Fault)
  /-- The bounds do not pass the check. -/
  | bounds (fault : BoundsFault)
  /-- A projection has no selection. -/
  | compile (fault : Compile.Fault)
  /-- The chain cannot be a key. -/
  | chainKey (typeName : String)
  /-- The chain has no endpoint. -/
  | unsupported (chain : Value)
  /-- The executor failed, with a failure of its own. -/
  | transport (failure : Report)
  /-- The response is no dictionary. -/
  | notDict (typeName : String)
  /-- The response holds no collection. -/
  | notSized (typeName : String)
  /-- A hat is missing. -/
  | noHat (chain : Value) (id : Int)
  /-- One of several hats is missing. -/
  | fewerHats (chain : Value)
  /-- A tree is missing. -/
  | noTree (chain : Value) (id : Int)
  /-- One of several trees is missing. -/
  | fewerTrees (chain : Value)
  /-- A wearer is missing. -/
  | noWearer (chain : Value) (address : String)

/-- The report of something missing on a chain: what is missing, with the verb, and the details
behind the chain. -/
def missingOn (chain : Value) (kind : Kind) (what : String)
    (details : List (String × Value) := []) : Report :=
  .ofWriting do
    let id ← chain.toPlain
    pure (.ofKind kind (what ++ " not exist in the subgraph for chain ID " ++ id)
      (("chain_id", chain) :: details))

instance : Reportable Fault where
  report
    | .vocabulary fault => report fault
    | .bounds fault => report fault
    | .compile fault => report fault
    | .chainKey typeName => .plain .wrongType ("unhashable type: '" ++ typeName ++ "'")
    | .unsupported chain => .ofWriting do
        let id ← chain.toPlain
        pure (.ofKind .subgraphNotSupported ("No subgraph support for network id " ++ id)
          [("chain_id", chain)])
    | .transport failure => failure
    | .notDict typeName => .plain .missingMember
        ("'" ++ typeName ++ "' object has no attribute 'get'")
    | .notSized typeName => .plain .wrongType ("object of type '" ++ typeName ++ "' has no len()")
    | .noHat chain id => missingOn chain .subgraphHatNotExist
        ("Hat with an ID of " ++ HatId.toHex id ++ " does") [("hat_id", .text (HatId.toHex id))]
    | .fewerHats chain => missingOn chain .subgraphHatNotExist
        "One or more of the provided hats do"
    | .noTree chain id => .ofWriting do
        let tree ← Numeral.write id
        pure (missingOn chain .subgraphTreeNotExist ("Tree with an ID of " ++ tree ++ " does")
          [("tree_id", .int id)])
    | .fewerTrees chain => missingOn chain .subgraphTreeNotExist
        "One or more of the provided trees do"
    | .noWearer chain address => missingOn chain .subgraphWearerNotExist
        ("Wearer with an address of " ++ address ++ " does") [("wearer", .text address)]

namespace Request

/-- **The projections of a request**, each with the type it selects from, in the order in which they
are compiled. -/
def projections : Request → List (ObjectType × Value)
  | hat _ p | hats _ p => [(.hat, p)]
  | tree _ p | trees _ p | treePage _ _ p => [(.tree, p)]
  | wearer _ p | wearerPage _ _ _ p => [(.wearer, p)]
  | search _ ofTrees ofHats ofWearers => [(.tree, ofTrees), (.hat, ofHats), (.wearer, ofWearers)]

/-- **The document of a request** around the texts of its selections. -/
def document (r : Request) (selections : List String) : Document :=
  let fields := selections.headD ""
  match r with
  | hat .. => .hat fields
  | hats .. => .hatsByIds fields
  | tree .. => .tree fields
  | trees .. => .treesByIds fields
  | treePage .. => .treePage fields
  | wearer .. => .wearer fields
  | wearerPage .. => .wearerPage fields
  | search .. => .search fields (selections.getD 1 "") (selections.getD 2 "")

/-- **The variables of a request**, with their values. -/
def bindings : Request → List (String × Value)
  | hat id _ => [("id", .text (HatId.toHex id))]
  | hats ids _ => [("ids", .list (ids.map fun id => .text (HatId.toHex id)))]
  | tree id _ => [("id", .text (HatId.treeToHex id))]
  | trees ids _ => [("ids", .list (ids.map fun id => .text (HatId.treeToHex id)))]
  | treePage page perPage _ => [("skip", .int (page * perPage)), ("first", .int perPage)]
  | wearer address _ => [("id", .text (Text.lowercase address))]
  | wearerPage id page perPage _ =>
    [("hatId", .text (HatId.toHex id)), ("first", .int perPage), ("skip", .int (page * perPage))]
  | search text .. => [("search", .text text)]

end Request

/-- What stands under a key of a response; nothing if the key is missing. -/
def member (key : String) : Value → Except Fault Value
  | .dict entries => .ok ((Value.lookup key entries).getD .null)
  | v => .error (.notDict v.typeName)

/-- What stands under a key of a response, an empty list in place of what does not count as
present. -/
def memberOrEmpty (key : String) (response : Value) : Except Fault Value := do
  let v ← member key response
  pure (if v.truth then v else .list [])

/-- What stands under a key of a response and has to be present. -/
def present (key : String) (missing : Fault) (response : Value) : Except Fault Value := do
  let v ← member key response
  if v.truth then pure v else .error missing

/-- What stands under a key of a response and has to have at least as many members as were asked
for. -/
def atLeast (key : String) (count : Nat) (missing : Fault) (response : Value) :
    Except Fault Value := do
  match ← member key response with
  | .null => .error missing
  | v =>
    match v.size? with
    | none => .error (.notSized v.typeName)
    | some size => if size < count then .error missing else pure v

/-- **The answer to a request in a response.** -/
def Request.answer (chain response : Value) : Request → Except Fault Value
  | hat id _ => present "hat" (.noHat chain id) response
  | hats ids _ => atLeast "hats" ids.length (.fewerHats chain) response
  | tree id _ => present "tree" (.noTree chain id) response
  | trees ids _ => atLeast "trees" ids.length (.fewerTrees chain) response
  | treePage .. => memberOrEmpty "trees" response
  | wearer address _ => present "wearer" (.noWearer chain address) response
  | wearerPage id _ _ _ => do
    let hat ← present "hat" (.noHat chain id) response
    memberOrEmpty "wearers" hat
  | search .. => do
    let trees ← memberOrEmpty "trees" response
    let hats ← memberOrEmpty "hats" response
    let wearers ← memberOrEmpty "wearers" response
    pure (.dict [(.text "trees", trees), (.text "hats", hats), (.text "wearers", wearers)])

/-- What is handed to the executor of queries. -/
structure Sent where
  /-- The endpoint. -/
  endpoint : String
  /-- The text of the document. -/
  query : String
  /-- The variables, with their values. -/
  bindings : List (String × Value)

/-- **What is done for a request**: the documents handed to the executor, and the notes taken. -/
structure Trace where
  /-- The documents handed to the executor, in order. -/
  calls : List Sent := []
  /-- The notes taken, in order. -/
  notes : List Note := []

/-- **What comes of a request**: what was done for it, and the outcome. -/
structure Exchange extends Trace where
  /-- The outcome. -/
  outcome : Except Fault Value

/-- What was handed to the executor last, if anything. -/
def Exchange.sent (x : Exchange) : Option Sent := x.calls.getLast?

/-- An act of a client: it may add to the trace, and it may fail. -/
abbrev Act := EStateM Fault Trace

/-- A result as an act that leaves the trace alone. -/
def settle {α : Type} : Except Fault α → Act α
  | .ok x => pure x
  | .error fault => throw fault

/-- Takes a note. -/
def takeNote (note : Note) : Act Unit :=
  modify fun trace => { trace with notes := trace.notes ++ [note] }

/-- Hands a document to an executor, which answers or fails in any way. -/
def call (executor : Sent → Except Report Value) (sent : Sent) : Act Value := do
  modify fun trace => { trace with calls := trace.calls ++ [sent] }
  settle ((executor sent).mapError .transport)

/-- **The selection of a projection** that fits the vocabulary of its type. -/
def select (endpoints : Endpoints) (filters : Filters) (t : ObjectType) (projection : Value) :
    Act String := do
  settle ((Vocabulary.check t projection).mapError .vocabulary)
  let bounds ← settle (filters.bounds.mapError .bounds)
  let (text, note) ← settle ((Compile.run (.text t.label) projection (.ofBounds bounds)
    (.int endpoints.pageSize)).mapError .compile)
  takeNote note
  pure text

/-- The selections of several projections, up to the first fault. -/
def selectAll (endpoints : Endpoints) (filters : Filters) :
    List (ObjectType × Value) → Act (List String)
  | [] => pure []
  | (t, projection) :: rest => do
    let text ← select endpoints filters t projection
    let texts ← selectAll endpoints filters rest
    pure (text :: texts)

/-- The endpoint of a chain, or a fault. -/
def endpointOf (endpoints : Endpoints) (chain : Value) : Except Fault String :=
  match endpoints.find? chain with
  | .error typeName => .error (.chainKey typeName)
  | .ok none => .error (.unsupported chain)
  | .ok (some url) => .ok url

/-- The response to a query from the endpoint of a chain. -/
def query (endpoints : Endpoints) (executor : Sent → Except Report Value) (chain : Value)
    (text : String) (bindings : List (String × Value)) : Act Value := do
  let endpoint ← settle (endpointOf endpoints chain)
  takeNote (.querying endpoint text chain)
  call executor { endpoint, query := text, bindings }

/-- **The acts of a request**: its selections, one query, and the answer in the response. -/
def conduct (endpoints : Endpoints) (executor : Sent → Except Report Value) (chain : Value)
    (filters : Filters) (request : Request) : Act Value := do
  let selections ← selectAll endpoints filters request.projections
  let response ←
    query endpoints executor chain (request.document selections).text request.bindings
  settle (request.answer chain response)

/-- **A request from start to end**, with an executor that answers or fails. -/
def run (endpoints : Endpoints) (executor : Sent → Except Report Value) (chain : Value)
    (filters : Filters) (request : Request) : Exchange :=
  match (conduct endpoints executor chain filters request).run {} with
  | .ok answer trace => { toTrace := trace, outcome := .ok answer }
  | .error fault trace => { toTrace := trace, outcome := .error fault }

end HatTree.Lookup
