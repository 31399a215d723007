import HatTree.Proofs.Numeral
import HatTree.Proofs.Text

/-!
# Numerals in any script

A decimal numeral may be written in the digits of any script, with spaces around it. It is read by
way of its ASCII counterpart, unless it has more digits than are read.

There are texts that look like numerals and are none: digits of any kind include figures without a
decimal value, blanks include four separators that are no spaces, and a run of digits may be too
long. A text that looks like a numeral is read exactly when it is none of these.

## Main definitions

* `figure`: the decimal value of a digit
* `ascii`: the ASCII counterpart of a space or a decimal digit
* `IsFigures`: runs of decimal digits that are read
* `LooksLikeNumeral`: digits of any kind between blanks
* `Denotes`: the texts that denote a number

## Main results

* `standardize_eq_map`: spaces and decimal digits are replaced one by one
* `read_of_framed`: a run of decimal digits between spaces is read, unless it is too long
* `mayOccur_of_read`: what a text consists of that is read in base ten
* `read_eq_ok_iff_denotes`: which texts are read among those that look like numerals
* `denotes_repr`: a number as it is written denotes itself
-/

namespace HatTree.Numeral

open Text

/-- **The decimal value of a digit**; zero for every other character. -/
def figure (c : Char) : Nat := (digitValue? c).getD 0

/-- **The ASCII counterpart of a space or a decimal digit.** -/
def ascii (c : Char) : Char :=
  if c.toNat < 127 then c else if isBlank c then ' ' else (figure c).digitChar

/-- **A run of decimal digits that is read.** -/
structure IsFigures (ds : List Char) : Prop where
  ne_nil : ds ≠ []
  decimal : ∀ d ∈ ds, (digitValue? d).isSome = true
  length_le : ds.length ≤ maxDigits

/-- **A text that looks like a numeral**: digits of any kind between blanks. -/
def LooksLikeNumeral (cs : List Char) : Prop :=
  ∃ ds, Framed isBlank isBlank ds cs ∧ ds ≠ [] ∧ ∀ d ∈ ds, looksNumeric d = true

/-- **A text that denotes a number**: decimal digits behind characters of some kind and before
spaces. -/
def Denotes (front : Char → Bool) (cs : List Char) (n : Int) : Prop :=
  ∃ ds, Framed front isSpace ds cs ∧ IsFigures ds ∧ n = joined 10 0 (ds.map figure)

/-- The ASCII characters that may occur in a decimal numeral. -/
def mayOccur (c : Char) : Bool := isMargin c || isDigit 10 c || ['+', '-', '_'].contains c

/-! ## One character -/

section Character

variable {c : Char}

theorem isBlank_of_isSpace (h : isSpace c = true) : isBlank c = true := by
  rw [isSpace, Bool.and_eq_true] at h
  exact h.1

theorem isSpace_of_looksNumeric (h : looksNumeric c = true) : isSpace c = false := by
  rw [isSpace, isBlank_of_looksNumeric h, Bool.false_and]

/-- Beyond ASCII every blank is a space. -/
theorem isSpace_of_isBlank (hc : 127 ≤ c.toNat) (h : isBlank c = true) : isSpace c = true := by
  have hbeyond : ¬ c.toNat ≤ 0x1F := by omega
  simp [isSpace, h, hbeyond]

theorem figure_lt (c : Char) : figure c < 10 := by
  unfold figure
  cases h : digitValue? c with
  | none => decide
  | some d => exact digitValue?_lt h

theorem ascii_of_isSome (h : (digitValue? c).isSome = true) : ascii c = (figure c).digitChar := by
  unfold ascii
  by_cases hc : c.toNat < 127
  · rw [if_pos hc]
    exact forall_ascii (p := fun c => (digitValue? c).isSome = true → c = (figure c).digitChar)
      (by decide +kernel) (by omega) h
  · rw [if_neg hc, isBlank_of_looksNumeric (looksNumeric_of_isSome h)]
    rfl

/-- The digits of ASCII are decimal digits. -/
theorem figure_of_isDigit (h : c.isDigit = true) :
    (digitValue? c).isSome = true ∧ (figure c).digitChar = c := by
  have hlt : c.toNat < 128 := by
    rw [Char.isDigit, Bool.and_eq_true, decide_eq_true_eq, decide_eq_true_eq] at h
    have hlast : c.toNat ≤ 0x39 := h.2
    omega
  exact forall_ascii
    (p := fun c => c.isDigit = true → (digitValue? c).isSome = true ∧ (figure c).digitChar = c)
    (by decide +kernel) hlt h

theorem isMargin_ascii (h : isSpace c = true) : isMargin (ascii c) = true := by
  unfold ascii
  by_cases hc : c.toNat < 127
  · rw [if_pos hc]
    exact forall_ascii (p := fun c => isSpace c = true → isMargin c = true)
      (by decide +kernel) (by omega) h
  · rw [if_neg hc, if_pos (isBlank_of_isSpace h)]
    rfl

end Character

/-! ## ASCII counterparts of texts -/

section Standardize

variable {cs : List Char}

theorem standardizeFrom_eq_map (h : ∀ c ∈ cs, isSpace c = true ∨ (digitValue? c).isSome = true) :
    standardizeFrom cs = cs.map ascii := by
  induction cs with
  | nil => rfl
  | cons c cs ih =>
    have hcs := ih fun d hd => h d (List.mem_cons_of_mem c hd)
    rw [standardizeFrom, List.map_cons, hcs, ascii]
    by_cases hc : c.toNat < 127
    · rw [if_pos hc, if_pos hc]
    · rw [if_neg hc, if_neg hc]
      rcases h c List.mem_cons_self with hspace | hdigit
      · rw [if_pos (isBlank_of_isSpace hspace), if_pos (isBlank_of_isSpace hspace)]
      · rw [isBlank_of_looksNumeric (looksNumeric_of_isSome hdigit), figure]
        obtain ⟨d, hd⟩ := Option.isSome_iff_exists.mp hdigit
        rw [hd]
        rfl

/-- **Spaces and decimal digits are replaced one by one.** -/
theorem standardize_eq_map (h : ∀ c ∈ cs, isSpace c = true ∨ (digitValue? c).isSome = true) :
    standardize cs = cs.map ascii := by
  rw [standardize]
  split
  next hall =>
    -- The one ASCII character that is looked at more closely is neither a space nor a digit.
    have hself : ∀ c ∈ cs, ascii c = c := fun c hc => by
      have hlt : c.toNat < 128 := by simpa using List.all_eq_true.mp hall c hc
      exact forall_ascii
        (p := fun c => isSpace c = true ∨ (digitValue? c).isSome = true → ascii c = c)
        (by decide +kernel) hlt (h c hc)
    rw [List.map_congr_left hself, List.map_id']
  next => exact standardizeFrom_eq_map h

theorem mem_of_standardizeFrom (h : ∀ c ∈ standardizeFrom cs, mayOccur c = true) :
    ∀ c ∈ cs, c.toNat < 128 ∧ mayOccur c = true ∨
      127 ≤ c.toNat ∧ (isBlank c = true ∨ (digitValue? c).isSome = true) := by
  induction cs with
  | nil => simp
  | cons c cs ih =>
    rw [standardizeFrom] at h
    rw [List.forall_mem_cons]
    split at h
    next hlt =>
      rw [List.forall_mem_cons] at h
      exact ⟨.inl ⟨by omega, h.1⟩, ih h.2⟩
    next hge =>
      split at h
      next hblank =>
        rw [List.forall_mem_cons] at h
        exact ⟨.inr ⟨by omega, .inl hblank⟩, ih h.2⟩
      next =>
        split at h
        next d hd =>
          rw [List.forall_mem_cons] at h
          exact ⟨.inr ⟨by omega, .inr (by rw [hd]; rfl)⟩, ih h.2⟩
        next => cases h '?' List.mem_cons_self

end Standardize

/-! ## Reading -/

theorem dropMark_ten (cs : List Char) : dropMark 10 cs = cs := by
  unfold dropMark
  split
  next => rw [if_neg (by simp)]
  next => rfl

/-- A run of digits begins neither with a margin nor with a sign. -/
theorem splitSign_dropWhile {left : List Char} {ls : List Nat}
    (hleft : ∀ c ∈ left, isMargin c = true) (hls : ∀ l ∈ ls, l < 10) (hne : ls ≠ [])
    (right : List Char) :
    splitSign ((left ++ (ls.map Nat.digitChar ++ right)).dropWhile isMargin) =
      (false, ls.map Nat.digitChar ++ right) := by
  obtain ⟨l, ls, rfl⟩ := List.exists_cons_of_ne_nil hne
  have hall : ∀ l < 10, isMargin l.digitChar = false ∧ l.digitChar ≠ '+' ∧ l.digitChar ≠ '-' := by
    decide
  obtain ⟨hmargin, hplus, hminus⟩ := hall l (hls l List.mem_cons_self)
  rw [List.dropWhile_append_of_pos hleft, List.map_cons, List.cons_append,
    List.dropWhile_cons_of_neg (by simp [hmargin])]
  simp [splitSign, hplus, hminus]

/-- **A run of decimal digits between spaces is read**, unless it is too long. -/
theorem read_of_framed {ds cs : List Char} (hframed : Framed isSpace isSpace ds cs) (hne : ds ≠ [])
    (hdecimal : ∀ d ∈ ds, (digitValue? d).isSome = true) :
    read 10 (String.ofList cs) =
      if maxDigits < ds.length then .error (.tooLong ds.length)
      else .ok (joined 10 0 (ds.map figure)) := by
  have hchar : ∀ c ∈ cs, isSpace c = true ∨ (digitValue? c).isSome = true :=
    hframed.forall_mem (fun _ => .inl) (fun d hd => .inr (hdecimal d hd)) fun _ => .inl
  obtain ⟨left, right, rfl, hleft, hright⟩ := hframed
  have hstandard : standardize (left ++ ds ++ right) =
      left.map ascii ++ ((ds.map figure).map Nat.digitChar ++ right.map ascii) := by
    rw [standardize_eq_map hchar, List.map_append, List.map_append, List.append_assoc,
      List.map_map, List.map_congr_left fun d hd => ascii_of_isSome (hdecimal d hd)]
    rfl
  have hten : ∀ l ∈ ds.map figure, l < 10 := by
    simpa using fun d _ => figure_lt d
  have hsixteen : ∀ l ∈ ds.map figure, l < 16 := fun l hl => (hten l hl).trans (by decide)
  have hmargin {cs : List Char} (hcs : ∀ c ∈ cs, isSpace c = true) :
      ∀ c ∈ cs.map ascii, isMargin c = true := by
    simpa using fun c hc => isMargin_ascii (hcs c hc)
  have hfigures : ds.map figure ≠ [] := by simpa using hne
  have hlimit : (digitLimit? 10).any (fun limit => decide (limit < ds.length)) =
      decide (maxDigits < ds.length) := rfl
  rw [read, String.toList_ofList, hstandard, splitSign_dropWhile (hmargin hleft) hten hfigures]
  simp only [dropMark_ten]
  rw [readDigits_map_digitChar hsixteen hten hfigures (hmargin hright), List.length_map, hlimit]
  by_cases hlong : maxDigits < ds.length
  · simp [hlong, Except.map]
  · simp [hlong, Except.map]

theorem mayOccur_of_readDigits {cs : List Char} {n : Nat} (h : readDigits 10 cs = .ok n) :
    ∀ c ∈ cs, mayOccur c = true := by
  simp only [readDigits] at h
  split at h
  next => cases h
  next =>
    split at h
    next => cases h
    next =>
      split at h
      next hmargins =>
        intro c hc
        rw [← List.takeWhile_append_dropWhile (p := fun c => isDigit 10 c || c == '_') (l := cs)]
          at hc
        rcases List.mem_append.mp hc with hc | hc
        · have hrun := List.mem_takeWhile_imp hc
          rw [Bool.or_eq_true, beq_iff_eq] at hrun
          rcases hrun with hdigit | rfl
          · rw [mayOccur, hdigit, Bool.or_true, Bool.true_or]
          · rfl
        · rw [mayOccur, List.all_eq_true.mp hmargins c hc, Bool.true_or, Bool.true_or]
      next => cases h

/-- **What a text consists of** that is read in base ten. -/
theorem mayOccur_of_read {s : String} {n : Int} (h : read 10 s = .ok n) :
    ∀ c ∈ standardize s.toList, mayOccur c = true := by
  have hsplit (cs : List Char) : ∀ c ∈ cs, c ∈ (splitSign cs).2 ∨ c = '+' ∨ c = '-' := by
    intro c hc
    unfold splitSign
    split
    · exact (List.mem_cons.mp hc).elim (fun h => .inr (.inl h)) .inl
    · exact (List.mem_cons.mp hc).elim (fun h => .inr (.inr h)) .inl
    · exact .inl hc
  simp only [read, dropMark_ten] at h
  cases hread : readDigits 10 (splitSign ((standardize s.toList).dropWhile isMargin)).2 with
  | error flaw =>
    simp only [hread] at h
    cases h
  | ok m =>
    intro c hc
    rw [← List.takeWhile_append_dropWhile (p := isMargin) (l := standardize s.toList)] at hc
    rcases List.mem_append.mp hc with hc | hc
    · rw [mayOccur, List.mem_takeWhile_imp hc, Bool.true_or, Bool.true_or]
    · rcases hsplit _ c hc with hc | rfl | rfl
      · exact mayOccur_of_readDigits hread c hc
      · rfl
      · rfl

/-- Of blanks and digits of any kind only spaces and decimal digits are read. -/
theorem isSpace_or_isSome_of_read {cs : List Char} {n : Int}
    (h : read 10 (String.ofList cs) = .ok n)
    (hcs : ∀ c ∈ cs, isBlank c = true ∨ looksNumeric c = true) :
    ∀ c ∈ cs, isSpace c = true ∨ (digitValue? c).isSome = true := by
  have hoccur := mayOccur_of_read h
  rw [String.toList_ofList, standardize] at hoccur
  have hmem : ∀ c ∈ cs, c.toNat < 128 ∧ mayOccur c = true ∨
      127 ≤ c.toNat ∧ (isBlank c = true ∨ (digitValue? c).isSome = true) := by
    split at hoccur
    next hall =>
      intro c hc
      have hlt : c.toNat < 128 := by simpa using List.all_eq_true.mp hall c hc
      exact .inl ⟨hlt, hoccur c hc⟩
    next => exact mem_of_standardizeFrom hoccur
  intro c hc
  rcases hmem c hc with ⟨hlt, hmay⟩ | ⟨hge, hblank | hdigit⟩
  · have hascii := forall_ascii
      (p := fun c => mayOccur c = true → isBlank c = true ∨ looksNumeric c = true →
        isSpace c = true ∨ (digitValue? c).isSome = true)
      (by decide +kernel) hlt
    exact hascii hmay (hcs c hc)
  · exact .inl (isSpace_of_isBlank hge hblank)
  · exact .inr hdigit

/-! ## Texts that look like numerals -/

section Looks

variable {cs : List Char} {n : Int}

/-- **A text that looks like a numeral is read** exactly as the number that it denotes. -/
theorem read_eq_ok_iff_denotes (h : LooksLikeNumeral cs) :
    read 10 (String.ofList cs) = .ok n ↔ Denotes isSpace cs n := by
  constructor
  · intro hread
    obtain ⟨ds, hblanks, hne, hlooks⟩ := h
    have hchar := isSpace_or_isSome_of_read hread
      (hblanks.forall_mem (fun _ => .inl) (fun d hd => .inr (hlooks d hd)) fun _ => .inl)
    obtain ⟨left, right, rfl, hleft, hright⟩ := hblanks
    -- A blank is no digit, and a digit is no space.
    have hspace {c : Char} (hc : c ∈ left ++ ds ++ right) (hblank : isBlank c = true) :
        isSpace c = true := by
      refine (hchar c hc).resolve_right fun hdigit => ?_
      rw [isBlank_of_looksNumeric (looksNumeric_of_isSome hdigit)] at hblank
      cases hblank
    have hdecimal : ∀ d ∈ ds, (digitValue? d).isSome = true := fun d hd => by
      refine (hchar d (by simp [hd])).resolve_left fun hd' => ?_
      rw [isSpace_of_looksNumeric (hlooks d hd)] at hd'
      cases hd'
    have hframed : Framed isSpace isSpace ds (left ++ ds ++ right) :=
      ⟨left, right, rfl, fun c hc => hspace (by simp [hc]) (hleft c hc),
        fun c hc => hspace (by simp [hc]) (hright c hc)⟩
    rw [read_of_framed hframed hne hdecimal] at hread
    split at hread
    next => cases hread
    next hlen =>
      cases hread
      exact ⟨ds, hframed, ⟨hne, hdecimal, Nat.le_of_not_lt hlen⟩, rfl⟩
  · rintro ⟨ds, hframed, hfigures, rfl⟩
    rw [read_of_framed hframed hfigures.ne_nil hfigures.decimal,
      if_neg (Nat.not_lt.mpr hfigures.length_le)]

theorem IsFigures.looksNumeric {ds : List Char} (h : IsFigures ds) :
    ∀ d ∈ ds, looksNumeric d = true := fun d hd => looksNumeric_of_isSome (h.decimal d hd)

theorem Denotes.looksLikeNumeral {front : Char → Bool}
    (hfront : ∀ c, front c = true → isBlank c = true) (h : Denotes front cs n) :
    LooksLikeNumeral cs := by
  obtain ⟨ds, ⟨left, right, hcs, hleft, hright⟩, hfigures, -⟩ := h
  exact ⟨ds, ⟨left, right, hcs, fun c hc => hfront c (hleft c hc),
    fun c hc => isBlank_of_isSpace (hright c hc)⟩, hfigures.ne_nil, hfigures.looksNumeric⟩

/-- Dropping blanks stops at a digit. -/
theorem dropWhile_isBlank_of_looksNumeric {left ds : List Char} (right : List Char)
    (hleft : ∀ c ∈ left, isBlank c = true) (hne : ds ≠ [])
    (hds : ∀ d ∈ ds, Text.looksNumeric d = true) :
    (left ++ ds ++ right).dropWhile isBlank = ds ++ right := by
  obtain ⟨d, ds, rfl⟩ := List.exists_cons_of_ne_nil hne
  have hd := isBlank_of_looksNumeric (hds d List.mem_cons_self)
  rw [List.append_assoc, List.dropWhile_append_of_pos hleft, List.cons_append,
    List.dropWhile_cons_of_neg (by simp [hd])]

theorem LooksLikeNumeral.dropWhile (h : LooksLikeNumeral cs) :
    LooksLikeNumeral (cs.dropWhile isBlank) := by
  obtain ⟨ds, ⟨left, right, rfl, hleft, hright⟩, hne, hlooks⟩ := h
  rw [dropWhile_isBlank_of_looksNumeric right hleft hne hlooks]
  exact ⟨ds, ⟨[], right, by simp, by simp, hright⟩, hne, hlooks⟩

/-- Blanks may stand in front of a numeral when they have been dropped before it is read. -/
theorem denotes_dropWhile_iff :
    Denotes isSpace (cs.dropWhile isBlank) n ↔ Denotes isBlank cs n := by
  constructor
  · rintro ⟨ds, ⟨left, right, hcs, hleft, hright⟩, hrest⟩
    refine ⟨ds, ⟨cs.takeWhile isBlank ++ left, right, ?_, ?_, hright⟩, hrest⟩
    · rw [List.append_assoc, List.append_assoc, ← List.append_assoc left, ← hcs,
        List.takeWhile_append_dropWhile]
    · intro c hc
      rcases List.mem_append.mp hc with hc | hc
      · exact List.mem_takeWhile_imp hc
      · exact isBlank_of_isSpace (hleft c hc)
  · rintro ⟨ds, ⟨left, right, rfl, hleft, hright⟩, hfigures, rfl⟩
    rw [dropWhile_isBlank_of_looksNumeric right hleft hfigures.ne_nil hfigures.looksNumeric]
    exact ⟨ds, ⟨[], right, by simp, by simp, hright⟩, hfigures, rfl⟩

end Looks

/-! ## Numerals as they are written -/

theorem joined_figure {cs : List Char} (h : ∀ c ∈ cs, c.isDigit = true) :
    joined 10 0 (cs.map figure) = value 10 cs := by
  have hsmall : ∀ l ∈ cs.map figure, l < 16 := fun l hl => by
    obtain ⟨c, -, rfl⟩ := List.mem_map.mp hl
    exact (figure_lt c).trans (by decide)
  have hself : (cs.map figure).map Nat.digitChar = cs := by
    rw [List.map_map]
    exact (List.map_congr_left fun c hc => (figure_of_isDigit (h c hc)).2).trans cs.map_id
  rw [← value_map_digitChar 10 hsmall, hself]

/-- **A number as it is written** denotes itself, unless it has more digits than are read. -/
theorem denotes_repr {front : Char → Bool} {cs : List Char} {n : Nat} (hn : n < 10 ^ maxDigits)
    (h : Framed front isSpace (Nat.repr n).toList cs) : Denotes front cs n := by
  have hdigits : ∀ c ∈ (Nat.repr n).toList, c.isDigit = true := fun c => isDigit_of_mem_repr
  refine ⟨_, h, ⟨?_, fun c hc => (figure_of_isDigit (hdigits c hc)).1, ?_⟩, ?_⟩
  · rw [Nat.toList_repr]
    exact Nat.toDigits_ne_nil
  · rw [Nat.toList_repr]
    exact (Nat.length_toDigits_le_iff (by decide) (by decide)).mpr hn
  · rw [joined_figure hdigits, value_repr]

end HatTree.Numeral
