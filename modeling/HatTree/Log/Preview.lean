import HatTree.Text.Blank
import HatTree.Value.Json

/-!
# Previews

A log entry shows a value on one line of bounded length: collections as JSON text, all blanks
between words as single spaces, and an ellipsis in place of what lies beyond the limit. A value that
cannot be written has no preview.

## Main definitions

* `Log.fullText`: the whole text of a value
* `Log.oneLine`: a text with single spaces between its words
* `Log.cut`: a text cut to a limit
* `Log.shorten`: a text on one line, cut to a limit
* `Log.preview`: the preview of a value
-/

namespace HatTree.Log

open HatTree.Text

/-- **The whole text of a value**; no value has no text, and a collection without a JSON text is
shown, if it can be. -/
def fullText (v : Value) : Except Numeral.Overlong String :=
  match v with
  | .null => .ok ""
  | .dict _ | .list _ | .ring =>
    match v.json with
    | .ok s => .ok s
    | .error _ => v.toShown
  | _ => v.toPlain

/-- Words divided by single spaces. -/
def joinWords : List (List Char) → List Char
  | [] => []
  | [w] => w
  | w :: ws => w ++ ' ' :: joinWords ws

/-- **A text with single spaces between its words.** -/
def oneLine (cs : List Char) : List Char := joinWords (words cs)

/-- The first `n` characters; a negative number counts from the end. -/
def upTo (n : Int) (cs : List Char) : List Char :=
  if n < 0 then cs.take (cs.length - n.natAbs) else cs.take n.toNat

/-- The sign that stands for what was cut off. -/
def ellipsis : Char := '…'

/-- **A text cut to a limit.** -/
def cut (limit : Int) (cs : List Char) : List Char :=
  if limit < cs.length then upTo (limit - 1) cs ++ [ellipsis] else cs

/-- The limit that applies where no other is given. -/
def usualLimit : Int := 240

/-- A text on one line, cut to a limit. -/
def shorten (limit : Int) (s : String) : String := String.ofList (cut limit (oneLine s.toList))

/-- **The preview of a value.** -/
def preview (v : Value) (limit : Int := usualLimit) : Except Numeral.Overlong String :=
  (fullText v).map (shorten limit)

end HatTree.Log
