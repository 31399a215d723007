import HatTree.Log.Preview
import HatTree.Text.WordChar

/-!
# Secrets

Keys and passwords are recognized by what leads up to them: the address of a gateway, a parameter of
an address, the name of a setting, or a scheme of authorization. The secret itself is the run of
characters behind the lead, and is replaced; the lead stays.

## Main definitions

* `Secret.Pattern`: leads, and the characters of the secret behind them
* `Secret.Pattern.find?`: the secret at the front of a text
* `Secret.Pattern.replace`: a text with all secrets of a pattern replaced
* `Secret.patterns`: the patterns, in the order in which they are applied
* `Log.redact`, `Log.safeText`: a text without its secrets, and the preview of a value without them

## Main results

* `Pattern.find?_spec`: what is found lies at the front of the text
* `Pattern.replace_found`, `Pattern.replace_none`: replacing at the front of a text
-/

namespace HatTree.Log

namespace Secret

open HatTree.Text

/-- A part of a lead. -/
inductive Piece where
  /-- One character of a class. -/
  | one (accepts : Char → Bool)
  /-- One character of a class, or none. -/
  | optional (accepts : Char → Bool)
  /-- Any number of characters of a class. -/
  | many (accepts : Char → Bool)

/-- **Leads, and the characters of the secret behind them.** -/
structure Pattern where
  /-- The leads, the first that fits is taken. -/
  leads : List (List Piece)
  /-- The characters of the secret. -/
  secret : Char → Bool

/-- Puts a character in front of a lead. -/
def consume (c : Char) (found : List Char × List Char) : List Char × List Char :=
  (c :: found.1, found.2)

/-- Splits off the longest run of a class behind which the rest fits. -/
def splitRun (accepts : Char → Bool) (fits : List Char → Option (List Char × List Char)) :
    List Char → Option (List Char × List Char)
  | [] => fits []
  | c :: cs =>
    if accepts c then
      match splitRun accepts fits cs with
      | some found => some (consume c found)
      | none => fits (c :: cs)
    else fits (c :: cs)

/-- Splits off one character of a class behind which the rest fits. -/
def splitOne (accepts : Char → Bool) (fits : List Char → Option (List Char × List Char)) :
    List Char → Option (List Char × List Char)
  | [] => none
  | c :: cs => if accepts c then (fits cs).map (consume c) else none

/-- Splits off a part, as long as it can be, behind which the rest fits. -/
def Piece.split (fits : List Char → Option (List Char × List Char)) (cs : List Char) :
    Piece → Option (List Char × List Char)
  | .one accepts => splitOne accepts fits cs
  | .optional accepts =>
    match splitOne accepts fits cs with
    | some found => some found
    | none => fits cs
  | .many accepts => splitRun accepts fits cs

/-- Splits off a lead behind which a secret starts. -/
def splitLead (secret : Char → Bool) : List Piece → List Char → Option (List Char × List Char)
  | [], [] => none
  | [], c :: cs => if secret c then some ([], c :: cs) else none
  | piece :: pieces, cs => piece.split (splitLead secret pieces) cs

/-- **A secret at the front of a text**: the lead, the secret itself, and what follows. -/
structure Found where
  /-- The lead. -/
  lead : List Char
  /-- The secret. -/
  secret : List Char
  /-- What follows. -/
  rest : List Char
  deriving DecidableEq, Repr

/-- **The secret at the front of a text**, with a lead that fits; it is as long as it can be. -/
def Pattern.find? (p : Pattern) (cs : List Char) : Option Found :=
  (p.leads.findSome? fun lead => splitLead p.secret lead cs).map fun (lead, rest) =>
    ⟨lead, rest.takeWhile p.secret, rest.dropWhile p.secret⟩

/-- A text without its first `skip` characters, in which the secrets are replaced. -/
def Pattern.replaceFrom (p : Pattern) (replacement : List Char) : Nat → List Char → List Char
  | _, [] => []
  | skip + 1, _ :: cs => p.replaceFrom replacement skip cs
  | 0, c :: cs =>
    match p.find? (c :: cs) with
    | some found =>
      found.lead ++ replacement ++
        p.replaceFrom replacement (found.lead.length + found.secret.length - 1) cs
    | none => c :: p.replaceFrom replacement 0 cs

/-- **A text with all secrets of a pattern replaced**, from left to right. -/
def Pattern.replace (p : Pattern) (replacement cs : List Char) : List Char :=
  p.replaceFrom replacement 0 cs

theorem splitRun_append {accepts : Char → Bool} {fits : List Char → Option (List Char × List Char)}
    (hf : ∀ cs lead rest, fits cs = some (lead, rest) → lead ++ rest = cs)
    (cs lead rest : List Char) (h : splitRun accepts fits cs = some (lead, rest)) :
    lead ++ rest = cs := by
  induction cs generalizing lead with
  | nil => exact hf _ _ _ h
  | cons c cs ih =>
    simp only [splitRun] at h
    split at h
    · split at h
      · rename_i found hfound
        simp only [consume, Option.some.injEq, Prod.mk.injEq] at h
        simp [← h.1, ← ih found.1 (by rw [hfound, ← h.2])]
      · exact hf _ _ _ h
    · exact hf _ _ _ h

theorem splitOne_append {accepts : Char → Bool} {fits : List Char → Option (List Char × List Char)}
    (hf : ∀ cs lead rest, fits cs = some (lead, rest) → lead ++ rest = cs)
    (cs lead rest : List Char) (h : splitOne accepts fits cs = some (lead, rest)) :
    lead ++ rest = cs := by
  cases cs with
  | nil => simp [splitOne] at h
  | cons c cs =>
    simp only [splitOne] at h
    split at h
    · simp only [consume, Option.map_eq_some_iff, Prod.mk.injEq] at h
      obtain ⟨⟨a, b⟩, hab, rfl, rfl⟩ := h
      simp [hf _ _ _ hab]
    · simp at h

theorem Piece.split_append {fits : List Char → Option (List Char × List Char)}
    (hf : ∀ cs lead rest, fits cs = some (lead, rest) → lead ++ rest = cs)
    (piece : Piece) (cs lead rest : List Char) (h : piece.split fits cs = some (lead, rest)) :
    lead ++ rest = cs := by
  cases piece with
  | one accepts => exact splitOne_append hf _ _ _ h
  | optional accepts =>
    simp only [Piece.split] at h
    split at h
    · rename_i found hfound
      exact splitOne_append hf _ _ _ (by rw [hfound, h])
    · exact hf _ _ _ h
  | many accepts => exact splitRun_append hf _ _ _ h

/-- A lead and what follows it make up the text, and a character of the secret follows. -/
theorem splitLead_spec {secret : Char → Bool} (pieces : List Piece) (cs lead rest : List Char)
    (h : splitLead secret pieces cs = some (lead, rest)) : lead ++ rest = cs := by
  induction pieces generalizing cs lead rest with
  | nil =>
    cases cs with
    | nil => simp [splitLead] at h
    | cons c cs =>
      simp only [splitLead] at h
      split at h
      · simp only [Option.some.injEq, Prod.mk.injEq] at h
        simp [← h.1, ← h.2]
      · simp at h
  | cons piece pieces ih => exact piece.split_append ih cs lead rest h

/-- **What is found lies at the front of the text.** -/
theorem Pattern.find?_spec {p : Pattern} {cs : List Char} {found : Found}
    (h : p.find? cs = some found) : found.lead ++ found.secret ++ found.rest = cs := by
  simp only [Pattern.find?, Option.map_eq_some_iff] at h
  obtain ⟨⟨lead, rest⟩, h, rfl⟩ := h
  obtain ⟨pieces, -, h⟩ := List.exists_of_findSome?_eq_some h
  simp [splitLead_spec _ _ _ _ h]

theorem Pattern.replaceFrom_eq_drop (p : Pattern) (replacement : List Char) (skip : Nat)
    (cs : List Char) :
    p.replaceFrom replacement skip cs = p.replace replacement (cs.drop skip) := by
  induction skip generalizing cs with
  | zero => rfl
  | succ skip ih =>
    cases cs with
    | nil => rfl
    | cons c cs => simp [Pattern.replaceFrom, ih]

/-- **Without a secret at the front** the first character stays. -/
theorem Pattern.replace_none {p : Pattern} {replacement : List Char} {c : Char} {cs : List Char}
    (h : p.find? (c :: cs) = none) :
    p.replace replacement (c :: cs) = c :: p.replace replacement cs := by
  simp [Pattern.replace, Pattern.replaceFrom, h]

/-- **A secret at the front** is replaced, and its lead stays. -/
theorem Pattern.replace_found {p : Pattern} {replacement cs : List Char} {found : Found}
    (h : p.find? cs = some found) (hs : found.secret ≠ []) :
    p.replace replacement cs = found.lead ++ replacement ++ p.replace replacement found.rest := by
  have e := Pattern.find?_spec h
  cases cs with
  | nil => simp_all
  | cons c cs =>
    have hpos : 0 < found.lead.length + found.secret.length := by
      have := List.length_pos_iff.2 hs
      omega
    have hd : (c :: cs).drop (found.lead.length + found.secret.length) = found.rest := by
      rw [← e, ← List.length_append, List.drop_left]
    obtain ⟨n, hn⟩ := Nat.exists_eq_succ_of_ne_zero (Nat.ne_of_gt hpos)
    rw [hn, Nat.succ_eq_add_one, List.drop_succ_cons] at hd
    rw [Pattern.replace, Pattern.replaceFrom, h]
    simp only [hn, Nat.succ_sub_one, Nat.succ_eq_add_one, p.replaceFrom_eq_drop, hd]

/-- The small letter that a character stands for when case does not matter. Four characters beyond
ASCII stand for a letter of ASCII. -/
def foldCase (c : Char) : Char :=
  if c.toNat = 0x130 ∨ c.toNat = 0x131 then 'i'
  else if c.toNat = 0x17F then 's'
  else if c.toNat = 0x212A then 'k'
  else c.toLower

/-- A word in any case. -/
def word (s : String) : List Piece := s.toList.map fun c => .one fun d => foldCase d == c

/-- One of the given characters. -/
def oneOf (cs : List Char) : Char → Bool := cs.contains

/-- At least one character of a class. -/
def atLeastOne (accepts : Char → Bool) : List Piece := [.one accepts, .many accepts]

/-- A sign that may divide two parts of a name. -/
def joint : Piece := .optional (oneOf ['_', '-'])

/-- The name of a key of an interface. -/
def apiKey : List Piece := word "api" ++ joint :: word "key"

/-- The key in the address of a gateway. -/
def gatewayKey : Pattern where
  leads := [word "gateway" ++ .many (fun c => isWordChar c || c == '.' || c == '-') ::
    word ".thegraph.com/api/"]
  secret c := c ≠ '/' && !isBlank c

/-- A key among the parameters of an address. -/
def parameter : Pattern where
  leads := [apiKey, word "key", word "token"].map fun name =>
    .one (oneOf ['?', '&']) :: (name ++ word "=")
  secret c := c ≠ '&' && !isBlank c

/-- The value of a setting whose name speaks of a secret. -/
def setting : Pattern where
  leads := [word "password", word "passwd", word "secret", word "token", apiKey,
      word "auth" ++ joint :: word "token"].map fun name =>
    name ++ [.many isBlank, .one (oneOf [':', '=']), .many isBlank, .optional (oneOf ['"', '\''])]
  secret c := !oneOf ['"', '\'', '&'] c && !isBlank c

/-- The credentials behind a scheme of authorization. -/
def credentials : Pattern where
  leads := [word "bearer", word "basic"].map fun scheme => scheme ++ atLeastOne isBlank
  secret c := (foldCase c).isAlphanum || oneOf ['+', '/', '=', '.', '_', '-'] c

/-- **The patterns**, in the order in which they are applied. -/
def patterns : List Pattern := [gatewayKey, parameter, setting, credentials]

/-- What stands in place of a secret. -/
def mark : String := "[REDACTED]"

end Secret

/-- A text without its secrets. -/
def redactChars (replacement cs : List Char) : List Char :=
  Secret.patterns.foldl (fun cs p => p.replace replacement cs) cs

/-- **A text without its secrets.** -/
def redact (s : String) (replacement : String := Secret.mark) : String :=
  String.ofList (redactChars replacement.toList s.toList)

/-- A value without its secrets; only texts are looked at. -/
def redactValue (replacement : String) : Value → Value
  | .text s => .text (redact s replacement)
  | v => v

/-- **The preview of a value**, without secrets if that is wanted. -/
def safeText (v : Value) (limit : Int := usualLimit) (redacted : Bool := true) :
    Except Numeral.Overlong String :=
  (preview v limit).map fun s => if redacted then redact s else s

end HatTree.Log
