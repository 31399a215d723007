import HatTree.Report

/-!
# Raising errors

An error of the library is raised with a kind and, if wanted, a message, a code and details. A
message or a code that does not count as present is replaced by that of the kind.

## Main definitions

* `Raised`: an error as it was raised
* `Raised.make`: an error from arguments by place and by name
-/

namespace HatTree

/-- **An error as it was raised.** -/
structure Raised where
  /-- The kind. -/
  kind : Kind
  /-- The message. -/
  message : Value
  /-- The code. -/
  code : Value
  /-- The details, in the order in which they were given. -/
  details : List (String × Value)

/-- Why an error cannot be raised with given arguments. -/
inductive RaiseFault where
  /-- There are more arguments by place than are taken. -/
  | tooMany (count : Nat)
  /-- An argument is given by place and by name. -/
  | twice (name : String)
  deriving DecidableEq, Repr

/-- The name of what raises errors. -/
def RaiseFault.subject : String := "HatsError.__init__()"

instance : Reportable RaiseFault where
  report
    | .tooMany count => .plain .wrongType (RaiseFault.subject ++
        " takes from 1 to 3 positional arguments but " ++ Nat.repr (count + 1) ++ " were given")
    | .twice name => .plain .wrongType (RaiseFault.subject ++
        " got multiple values for argument '" ++ name ++ "'")

instance : Reportable Raised where
  report e := .ofWriting do
    let message ← e.message.toPlain
    pure { family := .library e.kind, message, code := e.code, details := e.details }

namespace Raised

/-- A value, or what stands in for it if it does not count as present. -/
def orElse (v : Value) (fallback : String) : Value := if v.truth then v else .text fallback

/-- The names of the arguments that are taken by place; the first is the error itself. -/
def parameters : List String := ["self", "message", "code"]

/-- An error of a kind with a message and a code that may be missing. -/
def ofParts (kind : Kind) (message code : Value) (details : List (String × Value)) : Raised :=
  ⟨kind, orElse message kind.standing, orElse code kind.code, details⟩

/-- **An error from arguments by place and by name**; other names give details. -/
def make (kind : Kind) (places : List Value) (names : List (String × Value)) :
    Except RaiseFault Raised :=
  let taken := parameters.take (places.length + 1)
  match names.find? fun (name, _) => taken.contains name with
  | some (name, _) => .error (.twice name)
  | none =>
    if 2 < places.length then .error (.tooMany places.length)
    else
      let argument (i : Nat) (name : String) : Value :=
        (places[i]?.or (names.lookup name)).getD .null
      .ok (ofParts kind (argument 0 "message") (argument 1 "code")
        (names.filter fun (name, _) => !parameters.contains name))

end Raised

end HatTree
