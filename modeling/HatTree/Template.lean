import HatTree.Value.Show

/-!
# Templates

A template is a text with directives, each of which starts with a percent sign: a key in
parentheses, flags, a width, a precision, and the letter that says how the argument is written. A
doubled percent sign stands for itself.

## Main definitions

* `Template.Directive`: what a directive asks for
* `Template.Piece`: a character that stands for itself, or a directive
* `Template.pieces`: the pieces of a template

## Main results

* `Directive.read_length`: a directive is read off the front of a text
-/

namespace HatTree.Template

/-- The key of a directive. -/
inductive Key where
  /-- No key. -/
  | absent
  /-- A key in parentheses. -/
  | named (key : String)
  /-- A key whose parenthesis is never closed. -/
  | unclosed
  deriving DecidableEq, Repr

/-- A width or a precision. -/
inductive Amount where
  /-- None is given. -/
  | absent
  /-- A number. -/
  | number (n : Nat)
  /-- The next argument. -/
  | argument
  deriving DecidableEq, Repr

/-- **What a directive asks for.** -/
structure Directive where
  /-- The key of the argument. -/
  key : Key
  /-- The flags. -/
  flags : List Char
  /-- The least width. -/
  width : Amount
  /-- The precision. -/
  precision : Amount
  /-- The letter, unless the template ends before it. -/
  letter : Option Char
  /-- How many characters of the template follow the letter. -/
  following : Nat
  deriving DecidableEq, Repr

/-- **A piece of a template.** -/
inductive Piece where
  /-- A character that stands for itself. -/
  | char (c : Char)
  /-- A directive. -/
  | directive (d : Directive)
  deriving DecidableEq, Repr

/-- Splits a text at the parenthesis that closes `depth` open ones. -/
def splitKey (depth : Nat) : List Char → Option (List Char × List Char)
  | [] => none
  | c :: cs =>
    if c = ')' ∧ depth ≤ 1 then some ([], cs)
    else
      let depth := if c = '(' then depth + 1 else if c = ')' then depth - 1 else depth
      (splitKey depth cs).map fun (key, rest) => (c :: key, rest)

theorem splitKey_length {depth : Nat} {cs key rest : List Char}
    (h : splitKey depth cs = some (key, rest)) : rest.length ≤ cs.length := by
  induction cs generalizing depth key with
  | nil => simp [splitKey] at h
  | cons c cs ih =>
    simp only [splitKey] at h
    split at h
    · simp only [Option.some.injEq, Prod.mk.injEq] at h
      simp [← h.2]
    · simp only [Option.map_eq_some_iff, Prod.mk.injEq] at h
      obtain ⟨⟨key', rest'⟩, h', -, rfl⟩ := h
      exact Nat.le_succ_of_le (ih h')

/-- The key at the front of a text. -/
def readKey : List Char → Key × List Char
  | '(' :: cs =>
    match splitKey 1 cs with
    | some (key, rest) => (.named (String.ofList key), rest)
    | none => (.unclosed, [])
  | cs => (.absent, cs)

theorem readKey_length (cs : List Char) : (readKey cs).2.length ≤ cs.length := by
  unfold readKey
  split
  · split
    · rename_i h
      exact Nat.le_succ_of_le (splitKey_length h)
    · simp
  · simp

/-- Whether a character is a flag. -/
def isFlag (c : Char) : Bool := ['-', '+', ' ', '#', '0'].contains c

/-- The amount at the front of a text; a precision without digits is zero. -/
def readAmount (missing : Amount) : List Char → Amount × List Char
  | '*' :: cs => (.argument, cs)
  | cs =>
    match cs.takeWhile Char.isDigit with
    | [] => (missing, cs)
    | ds => (.number (Numeral.value 10 ds), cs.dropWhile Char.isDigit)

theorem length_dropWhile_le {α : Type} (p : α → Bool) (cs : List α) :
    (cs.dropWhile p).length ≤ cs.length := (List.dropWhile_sublist p).length_le

theorem readAmount_length (missing : Amount) (cs : List Char) :
    (readAmount missing cs).2.length ≤ cs.length := by
  unfold readAmount
  split
  · simp
  · split
    · simp
    · exact length_dropWhile_le ..

/-- The precision at the front of a text. -/
def readPrecision : List Char → Amount × List Char
  | '.' :: cs => readAmount (.number 0) cs
  | cs => (.absent, cs)

theorem readPrecision_length (cs : List Char) : (readPrecision cs).2.length ≤ cs.length := by
  unfold readPrecision
  split
  · exact Nat.le_succ_of_le (readAmount_length ..)
  · simp

/-- A text without the mark of length at its front, which means nothing. -/
def dropLengthMark : List Char → List Char
  | c :: cs => if ['h', 'l', 'L'].contains c then cs else c :: cs
  | [] => []

theorem dropLengthMark_length (cs : List Char) : (dropLengthMark cs).length ≤ cs.length := by
  unfold dropLengthMark
  split
  · split <;> simp
  · simp

/-- **The directive behind a percent sign**, and what follows it. -/
def Directive.read (cs : List Char) : Directive × List Char :=
  let (key, afterKey) := readKey cs
  let (width, afterWidth) := readAmount .absent (afterKey.dropWhile isFlag)
  let (precision, afterPrecision) := readPrecision afterWidth
  let rest := dropLengthMark afterPrecision
  (⟨key, afterKey.takeWhile isFlag, width, precision, rest.head?, rest.tail.length⟩, rest.tail)

/-- What follows a directive is no longer than the text behind its percent sign. -/
theorem Directive.read_length (cs : List Char) : (Directive.read cs).2.length ≤ cs.length := by
  simp only [Directive.read, List.length_tail]
  have hk := readKey_length cs
  have hf := length_dropWhile_le isFlag (readKey cs).2
  have hw := readAmount_length .absent ((readKey cs).2.dropWhile isFlag)
  have hp := readPrecision_length (readAmount .absent ((readKey cs).2.dropWhile isFlag)).2
  have hl := dropLengthMark_length
    (readPrecision (readAmount .absent ((readKey cs).2.dropWhile isFlag)).2).2
  omega

/-- **The pieces of a template.** -/
def pieces : List Char → List Piece
  | [] => []
  | '%' :: '%' :: cs => .char '%' :: pieces cs
  | '%' :: cs => .directive (Directive.read cs).1 :: pieces (Directive.read cs).2
  | c :: cs => .char c :: pieces cs
  termination_by cs => cs.length
  decreasing_by
    · simp only [List.length_cons]; omega
    · exact Nat.lt_succ_of_le (Directive.read_length cs)
    · simp

end HatTree.Template
