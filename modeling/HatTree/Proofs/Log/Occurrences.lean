import HatTree.Log.Secret
import Mathlib.Data.List.Basic

/-!
# Occurrences of a word in a text

A character that a word does not have separates the text around it: the word occurs on either side
of the character, never across it. So a word of letters and digits that is longer than the mark of a
redaction does not occur anywhere around a mark, nor in it.

## Main definitions

* `occurrences`: how often a word occurs in a text

## Main results

* `eq_append_cons_cases`: a character that a word does not have stands on one side of it
* `occurrences_append_cons`: the occurrences on both sides of such a character
* `occurrences_pos_iff`: a word occurs in a text that it is a part of
* `occurrences_mark`: the occurrences on both sides of a mark
-/

namespace HatTree.Log.Secret

variable {s x y : List Char} {c : Char}

/-- **How often a word occurs in a text**, overlaps included. -/
def occurrences (s : List Char) : List Char → Nat
  | [] => 0
  | c :: cs => (if s <+: c :: cs then 1 else 0) + occurrences s cs

/-- **A character that a word does not have** stands on one side of the word. -/
theorem eq_append_cons_cases (hc : c ∉ s) {front back : List Char}
    (h : x ++ s ++ y = front ++ c :: back) :
    (∃ x', x = front ++ c :: x' ∧ back = x' ++ s ++ y) ∨
      ∃ y', y = y' ++ c :: back ∧ front = x ++ s ++ y' := by
  induction x generalizing front with
  | nil =>
    rcases List.append_eq_append_iff.mp h with ⟨y', hfront, hy⟩ | ⟨mid, hs, hy⟩
    · exact .inr ⟨y', hy, hfront⟩
    · cases mid with
      | nil => exact .inr ⟨[], hy.symm, by simpa using hs.symm⟩
      | cons d mid =>
        obtain ⟨rfl, -⟩ := List.cons.inj hy
        exact absurd (by simp [show s = front ++ c :: mid from hs]) hc
  | cons d x ih =>
    cases front with
    | nil =>
      obtain ⟨rfl, rfl⟩ := List.cons.inj h
      exact .inl ⟨x, rfl, rfl⟩
    | cons e front =>
      obtain ⟨rfl, htail⟩ := List.cons.inj h
      rcases ih htail with ⟨x', rfl, hback⟩ | ⟨y', hy, rfl⟩
      · exact .inl ⟨x', rfl, hback⟩
      · exact .inr ⟨y', hy, rfl⟩

/-- Two characters, neither of which stands behind the other, stand in the same place. -/
theorem eq_of_append_cons_eq {d : Char} {front back : List Char}
    (h : x ++ c :: y = front ++ d :: back) (hc : c ∉ back) (hd : d ∉ y) : x = front ∧ c = d := by
  rcases List.append_eq_append_iff.mp h with ⟨mid, hfront, hy⟩ | ⟨mid, hx, hback⟩
  · cases mid with
    | nil => exact ⟨(hfront.trans (List.append_nil x)).symm, (List.cons.inj hy).1⟩
    | cons e mid =>
      obtain ⟨-, rfl⟩ := List.cons.inj hy
      exact absurd (List.mem_append_right mid List.mem_cons_self) hd
  · cases mid with
    | nil => exact ⟨hx.trans (List.append_nil front), (List.cons.inj hback).1.symm⟩
    | cons e mid =>
      obtain ⟨-, rfl⟩ := List.cons.inj hback
      exact absurd (List.mem_append_right mid List.mem_cons_self) hc

/-- What ends before a part of a text leaves the part to the rest. -/
theorem exists_rest_of_length_le {front rest r : List Char} (h : front ++ rest = x ++ r ++ y)
    (hle : front.length ≤ x.length) : ∃ x', x = front ++ x' ∧ rest = x' ++ r ++ y := by
  have hfront : front <+: x := by
    refine List.prefix_of_prefix_length_le (List.prefix_append front rest) ?_ hle
    rw [h, List.append_assoc]
    exact List.prefix_append _ _
  obtain ⟨x', rfl⟩ := hfront
  refine ⟨x', rfl, ?_⟩
  simpa only [List.append_assoc, List.append_cancel_left_eq] using h

/-- What ends behind a part of a text covers the part. -/
theorem exists_cover_of_length_le {front rest r : List Char} (h : front ++ rest = x ++ r ++ y)
    (hle : x.length + r.length ≤ front.length) : ∃ z, front = x ++ r ++ z := by
  have hcover : x ++ r <+: front := by
    refine List.prefix_of_prefix_length_le ⟨y, h.symm⟩ (List.prefix_append front rest) ?_
    rwa [List.length_append]
  obtain ⟨z, rfl⟩ := hcover
  exact ⟨z, rfl⟩

theorem prefix_append_cons_iff (hc : c ∉ s) : s <+: x ++ c :: y ↔ s <+: x := by
  constructor
  · rintro ⟨t, ht⟩
    rcases eq_append_cons_cases (x := []) hc ht with ⟨x', hx, -⟩ | ⟨y', -, rfl⟩
    · cases x <;> cases hx
    · exact ⟨y', rfl⟩
  · exact fun h => h.trans (List.prefix_append _ _)

theorem occurrences_pos_iff (hs : s ≠ []) : 0 < occurrences s x ↔ s <:+: x := by
  induction x with
  | nil => simp [occurrences, hs]
  | cons d x ih =>
    rw [occurrences, List.infix_cons_iff, ← ih]
    split
    next h => exact iff_of_true (by omega) (.inl h)
    next h => rw [Nat.zero_add, or_iff_right h]

/-- **The occurrences on both sides of a character** that a word does not have. -/
theorem occurrences_append_cons (hs : s ≠ []) (hc : c ∉ s) (x y : List Char) :
    occurrences s (x ++ c :: y) = occurrences s x + occurrences s y := by
  induction x with
  | nil =>
    have hnot : ¬ s <+: c :: y := by
      intro h
      exact hs (List.prefix_nil.mp ((prefix_append_cons_iff (x := []) hc).mp h))
    show (if s <+: c :: y then 1 else 0) + occurrences s y = 0 + occurrences s y
    rw [if_neg hnot]
  | cons d x ih =>
    have hiff : s <+: d :: (x ++ c :: y) ↔ s <+: d :: x :=
      prefix_append_cons_iff (x := d :: x) hc
    simp only [List.cons_append, occurrences, ih, hiff, Nat.add_assoc]

theorem occurrences_concat_append (hs : s ≠ []) (hc : c ∉ s) (x y : List Char) :
    occurrences s (x ++ [c] ++ y) = occurrences s (x ++ [c]) + occurrences s y := by
  rw [List.append_assoc, List.singleton_append, occurrences_append_cons hs hc,
    occurrences_append_cons hs hc]
  rfl

theorem occurrences_append (hs : s ≠ []) (hhead : ∀ c ∈ y.head?, c ∉ s) :
    occurrences s (x ++ y) = occurrences s x + occurrences s y := by
  cases y with
  | nil => simp [occurrences]
  | cons c y =>
    have hc := hhead c rfl
    have hcons := occurrences_append_cons hs hc [] y
    rw [List.nil_append] at hcons
    rw [occurrences_append_cons hs hc, hcons]
    simp [occurrences]

theorem not_mem_of_isAlphanum (hs : ∀ c ∈ s, c.isAlphanum = true) (hc : c.isAlphanum = false) :
    c ∉ s := by
  intro hmem
  rw [hs c hmem] at hc
  cases hc

/-- **The occurrences on both sides of a mark.** -/
theorem occurrences_mark (hs : ∀ c ∈ s, c.isAlphanum = true) (hlong : 8 < s.length)
    (x y : List Char) :
    occurrences s (x ++ mark.toList ++ y) = occurrences s x + occurrences s y := by
  have hne : s ≠ [] := List.ne_nil_of_length_pos (by omega)
  have hopen : '[' ∉ s := not_mem_of_isAlphanum hs rfl
  have hclose : ']' ∉ s := not_mem_of_isAlphanum hs rfl
  have hmark : x ++ mark.toList ++ y = x ++ '[' :: ("REDACTED".toList ++ ']' :: y) := by
    have : mark.toList = '[' :: ("REDACTED".toList ++ [']']) := by decide
    simp [this]
  have hword : occurrences s "REDACTED".toList = 0 := by
    by_contra hpos
    have hinfix := (occurrences_pos_iff hne).mp (Nat.pos_of_ne_zero hpos)
    have hlength := hinfix.length_le
    have height : "REDACTED".toList.length = 8 := by decide
    omega
  rw [hmark, occurrences_append_cons hne hopen, occurrences_append_cons hne hclose, hword,
    Nat.zero_add]

end HatTree.Log.Secret
