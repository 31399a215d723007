import HatTree.Document
import HatTree.Proofs.Selection.Reader

/-!
# Brackets and variables of documents

A document is read by its brackets, which have to be properly nested, and by the variables in it:
the names behind dollar signs. What stands in a document before its first brace declares variables,
the rest uses them. A text whose own brackets are nested and which has no dollar sign can be put
between braces anywhere in a document without a change to either.

## Main definitions

* `nest`, `IsNested`: the brackets still to be closed, and texts that leave none
* `variablesIn`: the variables in a text
* `signatureOf`, `bodyOf`: what declares variables and what uses them
* `IsInert`: texts that change neither
* `Uses`, `Declares`: nested texts and signatures, with their variables
* `IsClosed`: nested documents that declare, use and are sent with the same variables

## Main results

* `nest_of_isNested`: nested texts leave what is to be closed as it is
* `IsInert.append`, `IsInert.insert`, `IsInert.intercalate`: texts made of inert ones
* `variablesIn_append_braced`: the variables in front of braces and between them
* `isClosed_text`: when the text of a document is closed
-/

namespace HatTree.Document

open Selection (isNameChar)

/-! ## Brackets -/

/-- The bracket that closes another one. -/
def closing? : Char → Option Char
  | '(' => some ')'
  | '[' => some ']'
  | '\x7b' => some '\x7d'
  | _ => none

/-- The brackets that close others. -/
def closings : List Char := [')', ']', '\x7d']

/-- The brackets to be closed behind a character, the innermost first. A bracket that closes has to
be the innermost one. -/
def nestStep (pending : List Char) (c : Char) : Option (List Char) :=
  if c ∈ closings then
    if pending.head? = some c then some pending.tail else none
  else some ((closing? c).toList ++ pending)

/-- **The brackets to be closed behind a text**, if all that it closes are to be closed. -/
def nest (pending : List Char) (s : String) : Option (List Char) :=
  s.toList.foldlM nestStep pending

/-- **A text whose brackets are properly nested.** -/
def IsNested (s : String) : Prop := nest [] s = some []

instance (s : String) : Decidable (IsNested s) := inferInstanceAs (Decidable (nest [] s = some []))

theorem nest_append (pending : List Char) (s s' : String) :
    nest pending (s ++ s') = (nest pending s).bind (nest · s') := by
  rw [nest, String.toList_append, List.foldlM_append]
  rfl

theorem nestStep_append {pending next : List Char} {c : Char}
    (h : nestStep pending c = some next) (outer : List Char) :
    nestStep (pending ++ outer) c = some (next ++ outer) := by
  rw [nestStep] at h ⊢
  split at h
  next hc =>
    split at h
    next hhead =>
      obtain ⟨inner, rfl⟩ := List.head?_eq_some_iff.mp hhead
      cases h
      rw [if_pos hc, List.cons_append, if_pos List.head?_cons]
      rfl
    next => cases h
  next hc =>
    cases h
    rw [if_neg hc, List.append_assoc]

theorem foldlM_nestStep_append {cs : List Char} {pending next : List Char}
    (h : cs.foldlM nestStep pending = some next) (outer : List Char) :
    cs.foldlM nestStep (pending ++ outer) = some (next ++ outer) := by
  induction cs generalizing pending with
  | nil =>
    cases h
    rfl
  | cons c cs ih =>
    obtain ⟨middle, hstep, hrest⟩ := Option.bind_eq_some_iff.mp h
    rw [List.foldlM_cons, nestStep_append hstep]
    exact ih hrest

/-- **A nested text** leaves what is to be closed as it is. -/
theorem nest_of_isNested {s : String} (h : IsNested s) (pending : List Char) :
    nest pending s = some pending := foldlM_nestStep_append h pending

theorem IsNested.append {s s' : String} (h : IsNested s) (h' : IsNested s') :
    IsNested (s ++ s') := by
  rw [IsNested, nest_append, h]
  exact h'

/-- **A nested text can be put anywhere** into a nested text. -/
theorem IsNested.insert {o c s : String} (h : IsNested (o ++ c)) (hs : IsNested s) :
    IsNested (o ++ s ++ c) := by
  rw [IsNested, nest_append] at h
  obtain ⟨pending, ho, hc⟩ := Option.bind_eq_some_iff.mp h
  rw [IsNested, nest_append, nest_append, ho, Option.bind_some, nest_of_isNested hs,
    Option.bind_some, hc]

theorem nest_braced {s : String} (h : IsNested s) (pending : List Char) :
    nest pending (braced s) = some pending := by
  have hbraces : IsNested ("\x7b " ++ " \x7d") := by decide
  exact nest_of_isNested (hbraces.insert h) pending

/-! ## Variables -/

/-- The names behind dollar signs. -/
def namesIn : List Char → List String
  | [] => []
  | c :: cs =>
    if c = '$' then String.ofList (cs.takeWhile isNameChar) :: namesIn cs else namesIn cs

/-- **The variables in a text.** -/
def variablesIn (s : String) : List String := namesIn s.toList

theorem namesIn_append_mark {d : Char} (hd : isNameChar d = false) (cs ds : List Char) :
    namesIn (cs ++ d :: ds) = namesIn cs ++ namesIn (d :: ds) := by
  induction cs with
  | nil => rfl
  | cons c cs ih =>
    rw [List.cons_append, namesIn, namesIn, ih]
    split
    next =>
      -- A name ends in front of what is no part of names.
      have hname : (cs ++ d :: ds).takeWhile isNameChar = cs.takeWhile isNameChar := by
        rw [List.takeWhile_append, List.takeWhile_cons_of_neg (by simp [hd]), List.append_nil]
        split
        next h => exact ((List.takeWhile_prefix _).eq_of_length h).symm
        next => rfl
      rw [hname, List.cons_append]
    next => rfl

theorem namesIn_eq_nil {cs : List Char} (h : '$' ∉ cs) : namesIn cs = [] := by
  induction cs with
  | nil => rfl
  | cons c cs ih =>
    rw [List.mem_cons, not_or] at h
    rw [namesIn, if_neg (Ne.symm h.1), ih h.2]

/-- What is no part of a name ends the one in front of it. -/
theorem variablesIn_append {s s' : String} (h : ∀ c ∈ s'.toList.head?, isNameChar c = false) :
    variablesIn (s ++ s') = variablesIn s ++ variablesIn s' := by
  rw [variablesIn, variablesIn, variablesIn, String.toList_append]
  cases hs : s'.toList with
  | nil => rw [List.append_nil, namesIn, List.append_nil]
  | cons d ds =>
    rw [hs] at h
    exact namesIn_append_mark (h d rfl) _ _

theorem variablesIn_braced (s : String) : variablesIn (braced s) = variablesIn s := by
  have hclose : ∀ c ∈ " \x7d".toList.head?, isNameChar c = false := by
    intro c hc
    cases hc
    rfl
  have hopen : variablesIn ("\x7b " ++ s) = variablesIn s := by
    rw [variablesIn, String.toList_append]
    rfl
  rw [braced, variablesIn_append hclose, hopen]
  exact List.append_nil _

/-- **The variables in front of braces and between them.** -/
theorem variablesIn_append_braced (s s' : String) :
    variablesIn (s ++ braced s') = variablesIn s ++ variablesIn s' := by
  have hopen : ∀ c ∈ (braced s').toList.head?, isNameChar c = false := by
    rw [braced, String.toList_append, String.toList_append]
    intro c hc
    cases hc
    rfl
  rw [variablesIn_append hopen, variablesIn_braced]

/-! ## Inert texts -/

/-- **A text that can stand between any braces**: its brackets are nested, and it has no dollar
sign. -/
def IsInert (s : String) : Prop := IsNested s ∧ '$' ∉ s.toList

instance (s : String) : Decidable (IsInert s) :=
  inferInstanceAs (Decidable (IsNested s ∧ '$' ∉ s.toList))

namespace IsInert

variable {s s' : String}

theorem variablesIn_eq_nil (h : IsInert s) : variablesIn s = [] := namesIn_eq_nil h.2

theorem append (h : IsInert s) (h' : IsInert s') : IsInert (s ++ s') := by
  refine ⟨h.1.append h'.1, ?_⟩
  rw [String.toList_append, List.mem_append, not_or]
  exact ⟨h.2, h'.2⟩

/-- **An inert text can be put anywhere** into an inert text. -/
theorem insert {o c : String} (h : IsInert (o ++ c)) (hs : IsInert s) : IsInert (o ++ s ++ c) := by
  refine ⟨h.1.insert hs.1, ?_⟩
  have hoc := h.2
  rw [String.toList_append, List.mem_append, not_or] at hoc
  rw [String.toList_append, String.toList_append, List.mem_append, List.mem_append, not_or, not_or]
  exact ⟨⟨hoc.1, hs.2⟩, hoc.2⟩

/-- Inert texts divided by an inert text. -/
theorem intercalate {divider : String} (hd : IsInert divider) : ∀ (ss : List String) {s : String},
    IsInert s → (∀ s' ∈ ss, IsInert s') → IsInert (divider.intercalate (s :: ss))
  | [], s => fun hs _ => by rwa [String.intercalate_singleton]
  | s' :: ss, s => fun hs hall => by
    show IsInert (divider.intercalate ((s ++ divider ++ s') :: ss))
    exact intercalate hd ss ((hs.append hd).append (hall s' List.mem_cons_self)) fun t ht =>
      hall t (List.mem_cons_of_mem _ ht)

end IsInert

/-- A character of a name is no bracket. -/
theorem nestStep_of_isNameChar {c : Char} (hc : isNameChar c = true) (pending : List Char) :
    nestStep pending c = some pending := by
  have hcloses : c ∉ closings := by
    simp only [closings, List.mem_cons, List.not_mem_nil, or_false]
    rintro (rfl | rfl | rfl) <;> cases hc
  have hopens : closing? c = none := by
    unfold closing?
    split
    next => cases hc
    next => cases hc
    next => cases hc
    next => rfl
  rw [nestStep, if_neg hcloses, hopens]
  rfl

/-- **Names are inert.** -/
theorem isInert_of_isNameChar {s : String} (h : ∀ c ∈ s.toList, isNameChar c = true) :
    IsInert s := by
  constructor
  · show s.toList.foldlM nestStep [] = some []
    revert h
    induction s.toList with
    | nil => exact fun _ => rfl
    | cons c cs ih =>
      intro h
      rw [List.foldlM_cons, nestStep_of_isNameChar (h c List.mem_cons_self)]
      exact ih fun d hd => h d (List.mem_cons_of_mem _ hd)
  · intro hmem
    cases h '$' hmem

/-! ## Texts and their variables -/

/-- A nested text and the variables in it. -/
def Uses (s : String) (vs : List String) : Prop := IsNested s ∧ variablesIn s = vs

instance (s : String) (vs : List String) : Decidable (Uses s vs) :=
  inferInstanceAs (Decidable (IsNested s ∧ variablesIn s = vs))

theorem IsInert.uses {s : String} (h : IsInert s) : Uses s [] := ⟨h.1, h.variablesIn_eq_nil⟩

namespace Uses

variable {s s' : String} {vs vs' : List String}

theorem append_braced (h : Uses s vs) (h' : Uses s' vs') :
    Uses (s ++ braced s') (vs ++ vs') := by
  refine ⟨h.1.append (nest_braced h'.1 []), ?_⟩
  rw [variablesIn_append_braced, h.2, h'.2]

/-- A blank ends the text in front of it. -/
theorem append_blank (h : Uses s vs) (h' : Uses s' vs') (hblank : s'.toList.head? = some ' ') :
    Uses (s ++ s') (vs ++ vs') := by
  refine ⟨h.1.append h'.1, ?_⟩
  have hends : ∀ c ∈ s'.toList.head?, isNameChar c = false := by
    intro c hc
    rw [hblank] at hc
    cases hc
    rfl
  rw [variablesIn_append hends, h.2, h'.2]

end Uses

/-! ## Closed documents -/

/-- What stands in front of the first brace of a document. -/
def signatureOf (query : String) : String := String.ofList (query.toList.takeWhile (· ≠ '\x7b'))

/-- What stands from the first brace of a document on. -/
def bodyOf (query : String) : String := String.ofList (query.toList.dropWhile (· ≠ '\x7b'))

/-- **A document that is closed under variables**: its brackets are nested, and the variables that
it uses are those that it declares and those that are sent with it. -/
structure IsClosed (query : String) (sent : List String) : Prop where
  nested : IsNested query
  mem_body_iff : ∀ v, v ∈ variablesIn (bodyOf query) ↔ v ∈ variablesIn (signatureOf query)
  mem_sent_iff : ∀ v, v ∈ sent ↔ v ∈ variablesIn (signatureOf query)

/-- An operation with the variables that it declares. -/
def signature (operation : String) (parameters : List (String × String)) : String :=
  "query " ++ operation ++ "(" ++ ", ".intercalate (parameters.map declared) ++ ") "

/-- A signature that ends with the first brace behind it and declares given variables. -/
def Declares (operation : String) (parameters : List (String × String)) (vs : List String) : Prop :=
  '\x7b' ∉ (signature operation parameters).toList ∧ Uses (signature operation parameters) vs

instance (operation : String) (parameters : List (String × String)) (vs : List String) :
    Decidable (Declares operation parameters vs) :=
  inferInstanceAs (Decidable ('\x7b' ∉ (signature operation parameters).toList ∧
    Uses (signature operation parameters) vs))

variable {d : Document}

theorem toList_text (d : Document) :
    d.text.toList = (signature d.operation d.parameters).toList ++ (braced d.body).toList :=
  String.toList_append

section Text

variable (h : '\x7b' ∉ (signature d.operation d.parameters).toList)
include h

theorem ne_brace_of_mem_signature :
    ∀ c ∈ (signature d.operation d.parameters).toList, decide (c ≠ '\x7b') = true :=
  fun _ hc => decide_eq_true fun heq => h (heq ▸ hc)

theorem signatureOf_text : signatureOf d.text = signature d.operation d.parameters := by
  rw [signatureOf, toList_text, List.takeWhile_append_of_pos (ne_brace_of_mem_signature h), braced,
    String.toList_append, String.toList_append]
  show String.ofList ((signature d.operation d.parameters).toList ++ []) = _
  rw [List.append_nil, String.ofList_toList]

theorem bodyOf_text : bodyOf d.text = braced d.body := by
  rw [bodyOf, toList_text, List.dropWhile_append_of_pos (ne_brace_of_mem_signature h), braced,
    String.toList_append, String.toList_append]
  show String.ofList ("\x7b ".toList ++ d.body.toList ++ " \x7d".toList) = _
  rw [← String.toList_append, ← String.toList_append, String.ofList_toList]

end Text

/-- **The text of a document is closed** when its body uses what its signature declares. -/
theorem isClosed_text {declared used : List String}
    (hsignature : Declares d.operation d.parameters declared) (hbody : Uses d.body used)
    (hused : ∀ v, v ∈ used ↔ v ∈ declared) :
    IsClosed d.text declared := by
  obtain ⟨h, hnested, hvariables⟩ := hsignature
  refine ⟨hnested.append (nest_braced hbody.1 []), fun v => ?_, fun v => ?_⟩
  · rw [bodyOf_text h, signatureOf_text h, variablesIn_braced, hbody.2, hvariables, hused]
  · rw [signatureOf_text h, hvariables]

end HatTree.Document
