import HatTree.Text.Blank
import HatTree.Text.Digit
import Mathlib.Data.List.DropRight

/-!
# Margins and digits of texts

A text is trimmed by taking away its margins. What is left is the only part of the text that has
margins around it and does not begin or end with a character of a margin.

The tables of characters are ranges of code points. A digit of any kind is no blank, since no range
of the one table meets a range of the other.

## Main definitions

* `Framed`: a text between margins
* `IsBare`: a text without margins

## Main results

* `Framed.forall_mem`: what holds of a text between margins
* `trimBy_eq_iff`: a text is trimmed to the bare text between its margins
* `isNumeric_trimBy_iff`: a trimmed text is a run of digits of any kind
* `Ranges.exists_of_covers`: a covered code point lies in a range
* `forall_ascii`: what holds of the ASCII characters is checked one by one
* `isBlank_of_looksNumeric`: a digit of any kind is no blank
-/

namespace HatTree.Text

/-! ## Margins -/

section Margins

variable {α : Type} {p front back : α → Bool} {cs mid : List α}

/-- **A text between margins**: the characters before it are of one kind, and those behind it are of
another. -/
def Framed (front back : α → Bool) (mid cs : List α) : Prop :=
  ∃ left right, cs = left ++ mid ++ right ∧ (∀ c ∈ left, front c = true) ∧
    ∀ c ∈ right, back c = true

/-- A property of all characters between the margins and of those of the margins' kinds. -/
theorem Framed.forall_mem {q : α → Prop} (h : Framed front back mid cs)
    (hfront : ∀ c, front c = true → q c) (hmid : ∀ c ∈ mid, q c)
    (hback : ∀ c, back c = true → q c) : ∀ c ∈ cs, q c := by
  obtain ⟨left, right, rfl, hleft, hright⟩ := h
  intro c hc
  rcases List.mem_append.mp hc with hc | hc
  · rcases List.mem_append.mp hc with hc | hc
    · exact hfront c (hleft c hc)
    · exact hmid c hc
  · exact hback c (hright c hc)

/-- **A text without margins** neither begins nor ends with a character of the kind. -/
structure IsBare (p : α → Bool) (cs : List α) : Prop where
  head : ∀ c ∈ cs.head?, p c = false
  last : ∀ c ∈ cs.getLast?, p c = false

theorem isBare_of_forall (h : ∀ c ∈ cs, p c = false) : IsBare p cs :=
  ⟨fun c hc => h c (List.mem_of_mem_head? hc), fun c hc => h c (List.mem_of_mem_getLast? hc)⟩

theorem trimBy_eq_rdropWhile (p : α → Bool) (cs : List α) :
    trimBy p cs = (cs.dropWhile p).rdropWhile p := rfl

/-- Trimming at the end stops at a character that is not of the kind. -/
theorem rdropWhile_append_cons {x : α} (hx : p x = false) (xs ys : List α) :
    (xs ++ x :: ys).rdropWhile p = xs ++ x :: ys.rdropWhile p := by
  induction ys using List.reverseRecOn with
  | nil =>
    rw [List.rdropWhile_concat_neg _ _ _ (by simp [hx]), List.rdropWhile_nil]
  | append_singleton ys y ih =>
    have hsnoc : xs ++ x :: (ys ++ [y]) = (xs ++ x :: ys) ++ [y] := by simp
    rw [hsnoc, List.rdropWhile_concat, List.rdropWhile_concat]
    by_cases hy : p y = true
    · rw [if_pos hy, if_pos hy, ih]
    · rw [if_neg hy, if_neg hy, ← hsnoc]

/-- Trimming at the end takes a margin away. -/
theorem rdropWhile_append (xs : List α) {ys : List α} (hys : ∀ y ∈ ys, p y = true) :
    (xs ++ ys).rdropWhile p = xs.rdropWhile p := by
  rw [List.rdropWhile, List.reverse_append, List.dropWhile_append_of_pos, List.rdropWhile]
  intro y hy
  exact hys y (List.mem_reverse.mp hy)

/-- What is taken away at the end is of the kind. -/
theorem exists_rdropWhile_append (p : α → Bool) (cs : List α) :
    ∃ right, cs = cs.rdropWhile p ++ right ∧ ∀ c ∈ right, p c = true := by
  refine ⟨(cs.reverse.takeWhile p).reverse, ?_, ?_⟩
  · rw [List.rdropWhile, ← List.reverse_append, List.takeWhile_append_dropWhile,
      List.reverse_reverse]
  · intro c hc
    exact List.mem_takeWhile_imp (List.mem_reverse.mp hc)

theorem framed_trimBy (p : α → Bool) (cs : List α) : Framed p p (trimBy p cs) cs := by
  obtain ⟨right, hcs, hright⟩ := exists_rdropWhile_append p (cs.dropWhile p)
  refine ⟨cs.takeWhile p, right, ?_, fun c hc => List.mem_takeWhile_imp hc, hright⟩
  rw [trimBy_eq_rdropWhile, List.append_assoc, ← hcs, List.takeWhile_append_dropWhile]

theorem head?_dropWhile_eq_false (p : α → Bool) (cs : List α) :
    ∀ c ∈ (cs.dropWhile p).head?, p c = false := by
  intro c hc
  have h := List.head?_dropWhile_not p cs
  rwa [Option.mem_def.mp hc] at h

theorem isBare_trimBy (p : α → Bool) (cs : List α) : IsBare p (trimBy p cs) := by
  constructor
  · obtain ⟨right, hcs, -⟩ := exists_rdropWhile_append p (cs.dropWhile p)
    intro c hc
    -- What is left begins as it did before its end was taken away.
    refine head?_dropWhile_eq_false p cs c ?_
    rw [hcs]
    exact List.mem_head?_append_of_mem_head? hc
  · intro c hc
    rw [trimBy, List.getLast?_reverse] at hc
    exact head?_dropWhile_eq_false p _ c hc

/-- **A text is trimmed** to the bare text between its margins. -/
theorem trimBy_eq_iff : trimBy p cs = mid ↔ Framed p p mid cs ∧ IsBare p mid := by
  constructor
  · rintro rfl
    exact ⟨framed_trimBy p cs, isBare_trimBy p cs⟩
  · rintro ⟨⟨left, right, rfl, hleft, hright⟩, hbare⟩
    rw [trimBy_eq_rdropWhile, List.append_assoc, List.dropWhile_append_of_pos hleft]
    rcases List.eq_nil_or_concat mid with rfl | ⟨front, last, rfl⟩
    · rw [List.nil_append, List.dropWhile_eq_nil_iff.mpr hright, List.rdropWhile_nil]
    · have hlast : p last = false := hbare.last last (by simp)
      have hfirst : (front ++ [last] ++ right).dropWhile p = front ++ [last] ++ right := by
        cases front with
        | nil => simp [hlast]
        | cons first front => simp [hbare.head first (by simp)]
      rw [List.concat_eq_append, hfirst, rdropWhile_append _ hright,
        List.rdropWhile_concat_neg _ _ _ (by simp [hlast])]

theorem trimBy_eq_nil_iff : trimBy p cs = [] ↔ ∀ c ∈ cs, p c = true := by
  rw [trimBy_eq_iff]
  constructor
  · rintro ⟨hframed, -⟩
    exact hframed.forall_mem (fun _ => id) (List.forall_mem_nil _) fun _ => id
  · intro h
    exact ⟨⟨cs, [], by simp, h, by simp⟩, isBare_of_forall (by simp)⟩

theorem exists_of_framed (h : Framed front back mid cs) (hbare : IsBare p mid) (hne : mid ≠ []) :
    ∃ c ∈ cs, p c = false := by
  obtain ⟨left, right, rfl, -, -⟩ := h
  obtain ⟨c, mid, rfl⟩ := List.exists_cons_of_ne_nil hne
  exact ⟨c, by simp, hbare.head c rfl⟩

/-- A text with a character that is not of the kind loses the margins before and behind it. -/
theorem trimBy_append_cons {x : α} (hx : p x = false) (xs ys : List α) :
    trimBy p (xs ++ x :: ys) = xs.dropWhile p ++ x :: ys.rdropWhile p := by
  have hstop : (xs ++ x :: ys).dropWhile p = xs.dropWhile p ++ x :: ys := by
    rw [List.dropWhile_append]
    split
    next hnil => simp [List.isEmpty_iff.mp hnil, hx]
    next => rfl
  rw [trimBy_eq_rdropWhile, hstop, rdropWhile_append_cons hx]

/-- Trimming takes away what trimming at the end does. -/
theorem trimBy_rdropWhile (p : α → Bool) (cs : List α) :
    trimBy p (cs.rdropWhile p) = trimBy p cs := by
  obtain ⟨right, hcs, hright⟩ := exists_rdropWhile_append p cs
  obtain ⟨left, right', hframed, hleft, hright'⟩ := framed_trimBy p (cs.rdropWhile p)
  refine (trimBy_eq_iff.mpr ⟨⟨left, right' ++ right, ?_, hleft, ?_⟩, isBare_trimBy p _⟩).symm
  · conv_lhs => rw [hcs, hframed]
    rw [List.append_assoc]
  · intro c hc
    rcases List.mem_append.mp hc with hc | hc
    · exact hright' c hc
    · exact hright c hc

end Margins

/-! ## Ranges -/

namespace Ranges

variable {rs ss : Ranges} {n : Nat}

/-- **A covered code point lies in a range.** -/
theorem exists_of_covers (h : rs.covers n = true) : ∃ r ∈ rs, r.1 ≤ n ∧ n ≤ r.2 := by
  induction rs with
  | nil => cases h
  | cons r rs ih =>
    obtain ⟨first, last⟩ := r
    rw [covers_cons, Bool.and_eq_true, Bool.or_eq_true, decide_eq_true_eq, decide_eq_true_eq] at h
    obtain ⟨hfirst, hlast | hrest⟩ := h
    · exact ⟨(first, last), List.mem_cons_self, hfirst, hlast⟩
    · obtain ⟨s, hs, hn⟩ := ih hrest
      exact ⟨s, List.mem_cons_of_mem _ hs, hn⟩

/-- Ranges that do not meet cover no code point in common. -/
theorem covers_eq_false_of_covers (hapart : ∀ r ∈ rs, ∀ s ∈ ss, r.2 < s.1 ∨ s.2 < r.1)
    (h : rs.covers n = true) : ss.covers n = false := by
  obtain ⟨r, hr, hn, hn'⟩ := exists_of_covers h
  by_contra hcovers
  obtain ⟨s, hs, hm, hm'⟩ := exists_of_covers (Bool.of_not_eq_false hcovers)
  rcases hapart r hr s hs with hlt | hlt
  · omega
  · omega

theorem isSome_holding? (rs : Ranges) (n : Nat) : (rs.holding? n).isSome = rs.covers n := by
  induction rs with
  | nil => rfl
  | cons r rs ih =>
    obtain ⟨first, last⟩ := r
    rw [holding?, covers_cons]
    by_cases hfirst : n < first
    · simp [hfirst, Nat.not_le.mpr hfirst]
    · rw [if_neg hfirst, decide_eq_true (Nat.le_of_not_lt hfirst), Bool.true_and]
      by_cases hlast : n ≤ last
      · simp [hlast]
      · simp [hlast, ih]

end Ranges

/-! ## Digits -/

/-- **What holds of the 128 ASCII code points** holds of every ASCII character. -/
theorem forall_ascii {p : Char → Prop} (hall : ∀ n < 128, p (Char.ofNat n)) {c : Char}
    (hc : c.toNat < 128) : p c := by
  have h := hall c.toNat hc
  rwa [Char.ofNat_toNat] at h

section Digits

variable {c : Char}

theorem isSome_digitValue? (c : Char) : (digitValue? c).isSome = digitRanges.covers c.toNat := by
  rw [digitValue?, Option.isSome_map, Ranges.isSome_holding?]

theorem digitValue?_lt {d : Nat} (h : digitValue? c = some d) : d < 10 := by
  rw [digitValue?, Option.map_eq_some_iff] at h
  obtain ⟨r, -, rfl⟩ := h
  exact Nat.mod_lt _ (by decide)

/-- A decimal digit looks like one. -/
theorem looksNumeric_of_isSome (h : (digitValue? c).isSome = true) : looksNumeric c = true := by
  rw [isSome_digitValue?] at h
  rw [looksNumeric, h, Bool.true_or]

/-- **A digit of any kind is no blank.** -/
theorem isBlank_of_looksNumeric (h : looksNumeric c = true) : isBlank c = false := by
  have hdigits : ∀ r ∈ digitRanges, ∀ s ∈ blankRanges, r.2 < s.1 ∨ s.2 < r.1 := by decide +kernel
  have hfigures : ∀ r ∈ figureRanges, ∀ s ∈ blankRanges, r.2 < s.1 ∨ s.2 < r.1 := by
    decide +kernel
  rw [looksNumeric, Bool.or_eq_true] at h
  rcases h with h | h
  · exact Ranges.covers_eq_false_of_covers hdigits h
  · exact Ranges.covers_eq_false_of_covers hfigures h

/-- **A trimmed text is a run of digits of any kind** if there is such a run between its blanks. -/
theorem isNumeric_trimBy_iff {cs : List Char} :
    isNumeric (trimBy isBlank cs) = true ↔
      ∃ ds, Framed isBlank isBlank ds cs ∧ ds ≠ [] ∧ ∀ d ∈ ds, looksNumeric d = true := by
  have hrun (ds : List Char) :
      isNumeric ds = true ↔ ds ≠ [] ∧ ∀ d ∈ ds, looksNumeric d = true := by
    simp [isNumeric]
  rw [hrun]
  constructor
  · rintro ⟨hne, hall⟩
    exact ⟨_, framed_trimBy isBlank cs, hne, hall⟩
  · rintro ⟨ds, hframed, hne, hall⟩
    have hbare : IsBare isBlank ds :=
      isBare_of_forall fun d hd => isBlank_of_looksNumeric (hall d hd)
    rw [trimBy_eq_iff.mpr ⟨hframed, hbare⟩]
    exact ⟨hne, hall⟩

end Digits

end HatTree.Text
