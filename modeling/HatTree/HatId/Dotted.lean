import HatTree.HatId.Hex
import HatTree.HatId.Segments

/-!
# Dotted paths

People write an id as its domain and its levels in base ten, divided by points: `68.1.2`.

## Main definitions

* `HatId.tokens`, `HatId.toDotted`: the path of an id, up to its first empty level
* `PathFault`: what is wrong with a path
* `HatId.ofDotted`: the id that a path names
* `HatId.treeOfDotted`: the tree domain that a path names
-/

namespace HatTree

/-- What is wrong with a path. -/
inductive PathCause where
  /-- There are more tokens than segments. -/
  | tooManyTokens (count : Nat)
  /-- A token is no run of decimal digits. -/
  | notNumber (position : Nat) (token : String)
  /-- A token does not fit its segment. -/
  | tooLarge (position limit value : Nat)
  /-- A token has more digits than are read. -/
  | tooLong (digits : Nat)
  deriving DecidableEq, Repr

/-- A path with a fault. -/
structure PathFault where
  /-- The path. -/
  path : String
  /-- What is wrong with it. -/
  cause : PathCause
  deriving DecidableEq, Repr

instance : Reportable PathFault where
  report f :=
    let shownPath := Text.quote f.path
    match f.cause with
    | .tooManyTokens count => .ofKind .malformedPath
        ("Hat path " ++ shownPath ++ " has " ++ Nat.repr count ++ " segments; at most " ++
          Nat.repr (Layout.maxLevels + 1) ++ " are allowed")
        [("path", .text f.path)]
    | .notNumber position token => .ofKind .malformedPath
        ("Segment " ++ Nat.repr position ++ " of hat path " ++ shownPath ++
          " is not a non-negative integer: " ++ Text.quote token)
        [("path", .text f.path), ("position", .int position)]
    | .tooLarge position limit value => .ofKind .malformedPath
        ("Segment " ++ Nat.repr position ++ " of hat path " ++ shownPath ++ " exceeds " ++
          Nat.repr limit ++ ": " ++ Nat.repr value)
        [("path", .text f.path), ("position", .int position)]
    | .tooLong digits => numeralReport 10 f.path (.tooLong digits)

namespace HatId

/-- The digits of the level at a place. -/
def levelChunk (h : Int) (i : Nat) : List Char :=
  ((digits h).drop (Layout.domainDigits + Layout.levelDigits * i)).take Layout.levelDigits

/-- **The tokens of an id**: its domain, and its levels up to the first empty one. What eight digits
denote is never too long to be written. -/
def tokens (h : Int) : List String :=
  let chunks := (List.range Layout.maxLevels).map (levelChunk h)
  let kept := chunks.takeWhile (· ≠ List.replicate Layout.levelDigits '0')
  Numeral.decimal (treeOf h) :: kept.map fun chunk => Nat.repr (Numeral.value 16 chunk)

/-- **The dotted path of an id.** -/
def toDotted (h : Int) : String := ".".intercalate (tokens h)

/-- The largest value of the segment at a position. -/
def segmentLimit (position : Nat) : Nat :=
  if position = 0 then Layout.maxDomain else Layout.maxLevelHats

/-- The value of a token: a run of ASCII digits that fits its segment. -/
def readToken (position : Nat) (token : List Char) : Except PathCause Nat :=
  if token.isEmpty || !token.all Char.isDigit then
    .error (.notNumber position (String.ofList token))
  else if Numeral.maxDigits < token.length then .error (.tooLong token.length)
  else
    let value := Numeral.value 10 token
    if segmentLimit position < value then .error (.tooLarge position (segmentLimit position) value)
    else .ok value

/-- The values of tokens from a position on. -/
def readTokens (position : Nat) : List (List Char) → Except PathCause (List Nat)
  | [] => .ok []
  | token :: rest => do
    let value ← readToken position token
    let values ← readTokens (position + 1) rest
    pure (value :: values)

/-- The values of the tokens of a path, of which there are at most fifteen. -/
def readPath (cs : List Char) : Except PathCause (List Nat) :=
  let parts := cs.splitOn '.'
  if Layout.maxLevels + 1 < parts.length then .error (.tooManyTokens parts.length)
  else readTokens 0 parts

/-- The digits of a domain and of levels, one behind the other. -/
def joinDigits (d : Nat) (ls : List Nat) : List Char :=
  Numeral.padded Layout.domainDigits d ++
    ls.flatMap fun (l : Nat) => Numeral.padded Layout.levelDigits l

/-- **The id that a path names**: what the digits of its values denote, with zeros behind them up to
the length of an id. -/
def ofDotted (path : String) : Except PathFault Int :=
  match readPath path.toList with
  | .ok values =>
    .ok (Numeral.value 16
      ((joinDigits (values.headD 0) values.tail).rightpad Layout.idDigits '0'))
  | .error cause => .error ⟨path, cause⟩

/-- The hexadecimal form of the id that a path names. -/
def dottedToHex (path : String) : Except PathFault String := (ofDotted path).map toHex

/-- **The tree domain that a path names**: its first token. -/
def treeOfDotted (path : String) : Except PathFault Int :=
  match readToken 0 ((path.toList.splitOn '.').headD []) with
  | .ok value => .ok value
  | .error cause => .error ⟨path, cause⟩

end HatId

end HatTree
