import HatTree.Double.Fixed
import HatTree.Report
import HatTree.Template

/-!
# Filling templates

The directives of a template take their arguments one after the other, or by key from a mapping. A
tuple gives its members as arguments; every other value is a single argument.

## Main definitions

* `Template.Fault`: why a template cannot be filled
* `Template.written`: an argument as a directive asks for it
* `Template.fill`: a template with its arguments filled in
-/

namespace HatTree.Template

open HatTree.Numeral

/-- **Why a template cannot be filled.** -/
inductive Fault where
  /-- A key, and the arguments are no mapping. -/
  | noMapping
  /-- A key that is never closed. -/
  | unclosedKey
  /-- A key that the mapping does not have. -/
  | missingKey (key : String)
  /-- A mapping whose keys are numbers. -/
  | numberedKeys (collection : String)
  /-- The template ends inside a directive. -/
  | incomplete
  /-- An amount that is no integer. -/
  | amountType
  /-- A number beyond the largest width. -/
  | wideWidth
  /-- A number beyond the largest precision. -/
  | widePrecision
  /-- An argument beyond the largest width. -/
  | hugeWidth
  /-- An argument beyond the largest precision. -/
  | hugePrecision
  /-- A directive without an argument. -/
  | tooFew
  /-- An argument without a directive. -/
  | tooMany
  /-- A decimal integer is asked for, and the argument is no number. -/
  | notNumber (letter : Char) (typeName : String)
  /-- An integer in another base is asked for, and the argument is none. -/
  | notInteger (letter : Char) (typeName : String)
  /-- An integer is asked for, and the argument is not a number. -/
  | nan
  /-- An integer is asked for, and the argument is infinite. -/
  | infinite
  /-- A float is asked for, and the argument is no number. -/
  | notReal (typeName : String)
  /-- A float is asked for, and the argument is too large. -/
  | tooLarge
  /-- A character is asked for, and the argument is none. -/
  | notCharacter
  /-- A character is asked for, and the argument is no code point. -/
  | noCodePoint
  /-- A letter that says nothing. -/
  | unknownLetter (letter : Char) (position : Nat)
  /-- An argument that cannot be written. -/
  | overlong (fault : Overlong)
  deriving DecidableEq, Repr

/-- How an unknown letter is named: printable ASCII as it is, and by its code point. -/
def letterName (c : Char) : String :=
  "'" ++ String.singleton (if 31 ≤ c.toNat ∧ c.toNat < 127 then c else '?') ++ "' (0x" ++
    String.ofList (hexDigits c.toNat) ++ ")"

instance : Reportable Fault where
  report
    | .noMapping => .plain .wrongType "format requires a mapping"
    | .unclosedKey => .plain .badValue "incomplete format key"
    | .missingKey key => .plain .badKey (Text.quote key)
    | .numberedKeys collection => .plain .wrongType
        (collection ++ " indices must be integers or slices, not str")
    | .incomplete => .plain .badValue "incomplete format"
    | .amountType => .plain .wrongType "* wants int"
    | .wideWidth => .plain .badValue "width too big"
    | .widePrecision => .plain .badValue "precision too big"
    | .hugeWidth => .plain .overflow "Python int too large to convert to C ssize_t"
    | .hugePrecision => .plain .overflow "Python int too large to convert to C int"
    | .tooFew => .plain .wrongType "not enough arguments for format string"
    | .tooMany => .plain .wrongType "not all arguments converted during string formatting"
    | .notNumber letter typeName => .plain .wrongType ("%" ++ String.singleton letter ++
        " format: a real number is required, not " ++ typeName)
    | .notInteger letter typeName => .plain .wrongType ("%" ++ String.singleton letter ++
        " format: an integer is required, not " ++ typeName)
    | .nan => .plain .badValue "cannot convert float NaN to integer"
    | .infinite => .plain .overflow "cannot convert float infinity to integer"
    | .notReal typeName => .plain .wrongType ("must be real number, not " ++ typeName)
    | .tooLarge => .plain .overflow "int too large to convert to float"
    | .notCharacter => .plain .wrongType "%c requires int or char"
    | .noCodePoint => .plain .overflow "%c arg not in range(0x110000)"
    | .unknownLetter letter position => .plain .badValue ("unsupported format character " ++
        letterName letter ++ " at index " ++ Nat.repr position)
    | .overlong fault => report fault

/-- The arguments of a template. -/
structure Arguments where
  /-- The mapping that keys are looked up in. -/
  mapping : Option Value
  /-- The arguments that are still to be taken. -/
  waiting : List Value

/-- The arguments that a value gives. -/
def Arguments.ofValue : Value → Arguments
  | .tuple items => ⟨none, items⟩
  | v =>
    match v with
    | .dict _ | .list _ | .bytes _ | .ring => ⟨some v, [v]⟩
    | _ => ⟨none, [v]⟩

/-- The next argument. -/
def Arguments.next (args : Arguments) : Except Fault (Value × Arguments) :=
  match args.waiting with
  | [] => .error .tooFew
  | v :: rest => .ok (v, { args with waiting := rest })

/-- The arguments once a key has been looked up: what it stands for is the only one left. -/
def Arguments.select (args : Arguments) : Key → Except Fault Arguments
  | .absent => .ok args
  | key =>
    match args.mapping, key with
    | none, _ => .error .noMapping
    | some (.dict entries), .named name =>
      match Value.lookup name entries with
      | some v => .ok { args with waiting := [v] }
      | none => .error (.missingKey name)
    | some (.bytes _), .named _ => .error (.numberedKeys "byte")
    | some _, .named _ => .error (.numberedKeys "list")
    | some _, _ => .error .unclosedKey

/-- An integer given as an argument; truth values count as integers. -/
def integerOf? : Value → Option Int
  | .int n => some n
  | .bool b => some (if b then 1 else 0)
  | _ => none

/-- An amount as an integer, none if there is none. Numbers beyond the limit are refused. -/
def amount (limit : Nat) (tooWide tooHuge : Fault) (args : Arguments) :
    Amount → Except Fault (Option Int × Arguments)
  | .absent => .ok (none, args)
  | .number n => if limit < n then .error tooWide else .ok (some n, args)
  | .argument => do
    let (v, args) ← args.next
    match integerOf? v with
    | none => .error .amountType
    | some n =>
      if n < -(limit : Int) - 1 ∨ (limit : Int) < n then .error tooHuge else .ok (some n, args)

/-- **An argument as a directive asks for it**: a sign, the mark of a base, and what follows. -/
structure Written where
  /-- The sign. -/
  sign : List Char := []
  /-- The mark of the base. -/
  mark : List Char := []
  /-- What follows. -/
  body : List Char
  /-- Whether zeros may fill it up. -/
  numeric : Bool := true

/-- The sign of a number, as the flags ask for it. -/
def signOf (flags : List Char) (negative : Bool) : List Char :=
  if negative then ['-'] else if flags.contains '+' then ['+']
  else if flags.contains ' ' then [' '] else []

/-- A text cut to the precision. -/
def writtenText (precision : Option Nat) (cs : List Char) : Written :=
  { body := match precision with
      | none => cs
      | some n => cs.take n
    numeric := false }

/-- An integer in a base with at least so many digits. -/
def writtenInteger (flags : List Char) (mark : List Char) (base : Nat) (precision : Option Nat)
    (n : Int) : Written :=
  { sign := signOf flags (n < 0)
    mark := if flags.contains '#' then mark else []
    body := (Nat.toDigits base n.natAbs).leftpad (precision.getD 0) '0' }

/-- The integer that a decimal directive writes; a float loses its fraction. -/
def wholeOf (letter : Char) : Value → Except Fault Int
  | .float x =>
    match x.shape with
    | .nan => .error .nan
    | .infinite _ => .error .infinite
    | .finite .. => .ok (x.truncated?.getD 0)
  | v =>
    match integerOf? v with
    | some n => .ok n
    | none => .error (.notNumber letter v.typeName)

/-- The integer that a directive for another base writes. -/
def integerOf (letter : Char) (v : Value) : Except Fault Int :=
  match integerOf? v with
  | some n => .ok n
  | none => .error (.notInteger letter v.typeName)

/-- The float that a directive writes. -/
def realOf : Value → Except Fault Double
  | .float x => .ok x
  | v =>
    match integerOf? v with
    | none => .error (.notReal v.typeName)
    | some n =>
      match Double.nearest? n with
      | some x => .ok x
      | none => .error .tooLarge

/-- A float in a form, with six digits unless a precision is given. -/
def writtenReal (flags : List Char) (form : Double.Form) (precision : Option Nat) (x : Double) :
    Written :=
  { sign := signOf flags (x.negative && x.shape ≠ .nan)
    body := x.writeAs form (flags.contains '#') (precision.getD 6) }

/-- The character that a directive writes. -/
def characterOf : Value → Except Fault Char
  | .text s =>
    match s.toList with
    | [c] => .ok c
    | _ => .error .notCharacter
  | v =>
    match integerOf? v with
    | none => .error .notCharacter
    | some n => if 0 ≤ n ∧ n < 0x110000 then .ok (Char.ofNat n.toNat) else .error .noCodePoint

/-- A text in which characters beyond ASCII are escaped. -/
def asciiOnly (cs : List Char) : List Char :=
  cs.flatMap fun c => if c.toNat < 128 then [c] else Text.escapeCode c.toNat

/-- What is written in upper case. -/
def Written.upper (w : Written) : Written :=
  { w with mark := w.mark.map Char.toUpper, body := w.body.map Char.toUpper }

/-- **An argument as the letter of a directive asks for it.** -/
def written (flags : List Char) (precision : Option Nat) (letter : Char) (position : Nat)
    (v : Value) : Except Fault Written :=
  match letter with
  | 's' => (v.toPlain.mapError .overlong).map fun s => writtenText precision s.toList
  | 'r' => (v.toShown.mapError .overlong).map fun s => writtenText precision s.toList
  | 'a' => (v.toShown.mapError .overlong).map fun s => writtenText precision (asciiOnly s.toList)
  | 'c' => (characterOf v).map fun c => { body := [c], numeric := false }
  | 'd' | 'i' | 'u' => do
    let n ← wholeOf letter v
    if isWritable n then pure (writtenInteger flags [] 10 precision n) else .error (.overlong {})
  | 'o' => (integerOf letter v).map (writtenInteger flags ['0', 'o'] 8 precision)
  | 'x' => (integerOf letter v).map (writtenInteger flags ['0', 'x'] 16 precision)
  | 'X' => (integerOf letter v).map fun n => (writtenInteger flags ['0', 'x'] 16 precision n).upper
  | 'f' => (realOf v).map (writtenReal flags .places precision)
  | 'F' => (realOf v).map fun x => (writtenReal flags .places precision x).upper
  | 'e' => (realOf v).map (writtenReal flags .exponent precision)
  | 'E' => (realOf v).map fun x => (writtenReal flags .exponent precision x).upper
  | 'g' => (realOf v).map (writtenReal flags .digits precision)
  | 'G' => (realOf v).map fun x => (writtenReal flags .digits precision x).upper
  | _ => .error (.unknownLetter letter position)

/-- **What is written, filled up to a width**: with blanks on the right if the flags or the sign of
the width ask for it, with zeros behind sign and mark if the flags ask for it, else with blanks on
the left. -/
def Written.spread (w : Written) (flags : List Char) (width : Int) : List Char :=
  let all := w.sign ++ w.mark ++ w.body
  if flags.contains '-' ∨ width < 0 then all.rightpad width.natAbs ' '
  else if flags.contains '0' ∧ w.numeric then
    w.sign ++ w.mark ++ w.body.leftpad (width.toNat - w.sign.length - w.mark.length) '0'
  else all.leftpad width.toNat ' '

/-- The largest width. -/
def widthLimit : Nat := 9223372036854775807

/-- The largest precision. -/
def precisionLimit : Nat := 2147483647

/-- What stands in place of a directive, in a template of a given length. -/
def fillDirective (length : Nat) (args : Arguments) (d : Directive) :
    Except Fault (List Char × Arguments) := do
  let args ← args.select d.key
  let (width, args) ← amount widthLimit .wideWidth .hugeWidth args d.width
  let (precision, args) ← amount precisionLimit .widePrecision .hugePrecision args d.precision
  match d.letter with
  | none => .error .incomplete
  | some letter => do
    let (v, args) ← args.next
    let w ← written d.flags (precision.map Int.toNat) letter (length - d.following - 1) v
    pure (w.spread d.flags (width.getD 0), args)

/-- The pieces of a template of a given length, filled in. -/
def fillPieces (length : Nat) (args : Arguments) : List Piece → Except Fault (List Char)
  | [] => if args.waiting.isEmpty ∨ args.mapping.isSome then .ok [] else .error .tooMany
  | .char c :: rest => (fillPieces length args rest).map (c :: ·)
  | .directive d :: rest => do
    let (cs, args) ← fillDirective length args d
    let others ← fillPieces length args rest
    pure (cs ++ others)

/-- **A template with its arguments filled in.** -/
def fill (template : String) (args : Value) : Except Fault String :=
  let cs := template.toList
  (fillPieces cs.length (.ofValue args) (pieces cs)).map String.ofList

end HatTree.Template
