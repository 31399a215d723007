/-!
# Query documents

Each operation of a client sends one document: it declares variables, and asks for objects by them
with the text of a selection for each.

## Main definitions

* `Document`: an operation, its variables and its body
* `Document.text`: the document as it is sent
* `Document.hat` and its siblings: the document of each operation
-/

namespace HatTree

/-- A query document. -/
structure Document where
  /-- The name of the operation. -/
  operation : String
  /-- The variables, each with its type. -/
  parameters : List (String × String)
  /-- What is asked for. -/
  body : String

namespace Document

/-- A text in braces. -/
def braced (s : String) : String := "\x7b " ++ s ++ " \x7d"

/-- The declaration of a variable. -/
def declared (v : String × String) : String := "$" ++ v.1 ++ ": " ++ v.2

/-- **The document as it is sent.** -/
def text (d : Document) : String :=
  "query " ++ d.operation ++ "(" ++ ", ".intercalate (d.parameters.map declared) ++ ") " ++
    braced d.body

/-- One hat by its id. -/
def hat (fields : String) : Document :=
  ⟨"getHat", [("id", "ID!")], "hat(id: $id) " ++ braced fields⟩

/-- Several hats by their ids. -/
def hatsByIds (fields : String) : Document :=
  ⟨"getHatsByIds", [("ids", "[ID!]!")],
    "hats(where: " ++ braced "id_in: $ids" ++ ") " ++ braced fields⟩

/-- One tree by its id. -/
def tree (fields : String) : Document :=
  ⟨"getTree", [("id", "ID!")], "tree(id: $id) " ++ braced fields⟩

/-- Several trees by their ids. -/
def treesByIds (fields : String) : Document :=
  ⟨"getTreesById", [("ids", "[ID!]!")],
    "trees(where: " ++ braced "id_in: $ids" ++ ") " ++ braced fields⟩

/-- One page of trees. -/
def treePage (fields : String) : Document :=
  ⟨"getPaginatedTrees", [("skip", "Int!"), ("first", "Int!")],
    "trees(skip: $skip, first: $first) " ++ braced fields⟩

/-- One wearer by its address. -/
def wearer (fields : String) : Document :=
  ⟨"getCurrentHatsForWearer", [("id", "ID!")], "wearer(id: $id) " ++ braced fields⟩

/-- One page of the wearers of a hat. -/
def wearerPage (fields : String) : Document :=
  ⟨"getPaginatedWearersForHat", [("hatId", "ID!"), ("first", "Int!"), ("skip", "Int!")],
    "hat(id: $hatId) " ++ braced ("wearers(skip: $skip, first: $first) " ++ braced fields)⟩

/-- Trees, hats and wearers that a text names; hats also by the readable form of their id. -/
def search (treeFields hatFields wearerFields : String) : Document :=
  ⟨"search", [("search", "String!")],
    "trees(where: " ++ braced "id: $search" ++ ") " ++ braced treeFields ++
      " hats(where: " ++
      braced ("or: [" ++ braced "id: $search" ++ ", " ++ braced "prettyId: $search" ++ "]") ++
      ") " ++ braced hatFields ++ " wearers(where: " ++ braced "id: $search" ++ ") " ++
      braced wearerFields⟩

end Document

end HatTree
