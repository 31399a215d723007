import HatTree.Proofs.Log.Preview
import HatTree.Proofs.Log.Redaction
import Mathlib.Algebra.Order.BigOperators.Group.List
import Mathlib.Algebra.Order.Group.Nat

/-!
# The line of a safe text

A redaction adds no character but those of its marks, so that a safe text is one line as its preview
is. But the limit bounds the preview only. Each secret that is taken gives way to a mark, which is
longer than a short secret: a safe text keeps to the limit if no secret is shorter than a mark, and
goes beyond it otherwise as far as the preview leaves no room.

## Main results

* `Pattern.Scan.length_add`: what is taken out of a text and what is put in
* `length_redactChars_add`: the same for a redaction
* `mem_redactChars`: the characters of a redacted text
* `exists_safeText_iff`: which values have a safe text
* `length_of_safeText`: the line of a safe text, and its length
-/

namespace HatTree.Log

namespace Secret

variable {p : Pattern} {replacement cs out : List Char} {taken : List Taken}

theorem map_length_shift (n : Nat) (taken : List Taken) :
    (taken.map (Taken.shift n)).map (·.secret.length) = taken.map (·.secret.length) := by
  rw [List.map_map]
  rfl

/-- **What is taken out of a text and what is put in** make up for the difference in length. -/
theorem Pattern.Scan.length_add (h : p.Scan replacement cs out taken) :
    out.length + (taken.map (·.secret.length)).sum =
      cs.length + replacement.length * taken.length := by
  induction h with
  | nil => rfl
  | @skip c cs out taken _ _ ih =>
    rw [map_length_shift, List.length_map, List.length_cons, List.length_cons]
    omega
  | @hit lead secret rest out taken _ _ ih =>
    simp only [List.map_cons, map_length_shift, List.sum_cons, List.length_append, List.length_cons,
      List.length_map, Nat.mul_add, Nat.mul_one]
    omega

theorem Pattern.Scan.mem_cases (h : p.Scan replacement cs out taken) {c : Char} (hc : c ∈ out) :
    c ∈ cs ∨ c ∈ replacement := by
  induction h with
  | nil => exact .inl hc
  | @skip d cs out taken _ _ ih =>
    rcases List.mem_cons.mp hc with rfl | hc
    · exact .inl List.mem_cons_self
    · exact (ih hc).imp_left (List.mem_cons_of_mem _)
  | @hit lead secret rest out taken _ _ ih =>
    rcases List.mem_append.mp hc with hc | hc
    · rcases List.mem_append.mp hc with hc | hc
      · exact .inl (List.mem_append_left _ (List.mem_append_left _ hc))
      · exact .inr hc
    · exact (ih hc).imp_left (List.mem_append_right _)

end Secret

open Secret

/-! ## Redactions -/

theorem length_foldl_add (ps : List Pattern) (cs : List Char) :
    (ps.foldl (fun cs p => p.replace mark.toList cs) cs).length +
        ((takenBy ps cs).map (·.secret.length)).sum =
      cs.length + mark.length * (takenBy ps cs).length := by
  induction ps generalizing cs with
  | nil => rfl
  | cons p ps ih =>
    have hpass := (p.scan mark.toList cs).length_add
    have hrest := ih (p.replace mark.toList cs)
    rw [String.length_toList] at hpass
    rw [takenBy_cons, List.map_append, List.sum_append, List.length_append, Nat.mul_add,
      List.foldl_cons]
    omega

/-- **The length of a redacted text.** -/
theorem length_redactChars_add (cs : List Char) :
    (redactChars mark.toList cs).length + ((takenBy patterns cs).map (·.secret.length)).sum =
      cs.length + mark.length * (takenBy patterns cs).length :=
  length_foldl_add patterns cs

theorem mem_foldl_cases {ps : List Pattern} {replacement cs : List Char} {c : Char}
    (h : c ∈ ps.foldl (fun cs p => p.replace replacement cs) cs) : c ∈ cs ∨ c ∈ replacement := by
  induction ps generalizing cs with
  | nil => exact .inl h
  | cons p ps ih =>
    rcases ih h with h | h
    · exact (p.scan replacement cs).mem_cases h
    · exact .inr h

/-- **The characters of a redacted text** are those of the text and of the marks. -/
theorem mem_redactChars {replacement cs : List Char} {c : Char}
    (h : c ∈ redactChars replacement cs) : c ∈ cs ∨ c ∈ replacement :=
  mem_foldl_cases h

/-! ## Safe texts -/

theorem safeText_eq_ok_iff {v : Value} {limit : Int} {s : String} :
    safeText v limit = .ok s ↔ ∃ p, preview v limit = .ok p ∧ redact p = s := map_eq_ok

/-- **A value has a safe text exactly when it can be written.** -/
theorem exists_safeText_iff (v : Value) (limit : Int) (redacted : Bool) :
    (∃ s, safeText v limit redacted = .ok s) ↔ v.isWritable = true :=
  exists_map_eq_ok_iff.trans (exists_preview_iff v limit)

theorem toList_redact (s : String) : (redact s).toList = redactChars mark.toList s.toList :=
  String.toList_ofList

/-- **The line of a safe text, and its length.** A value has a safe text exactly when it can be
written. A safe text has no blank but spaces. The limit bounds the preview; from there on each
secret that is taken gives way to a mark. So a safe text keeps to the limit when no secret that is
taken is shorter than a mark. -/
theorem length_of_safeText (v : Value) {limit : Int} (hpos : 1 ≤ limit) :
    ((∃ s, safeText v limit = .ok s) ↔ v.isWritable = true) ∧
      ∀ s, safeText v limit = .ok s → ∃ p, preview v limit = .ok p ∧
        (∀ c ∈ s.toList, Text.isBlank c = true → c = ' ') ∧
        p.length ≤ limit ∧
        s.length + ((takenBy patterns p.toList).map (·.secret.length)).sum =
          p.length + mark.length * (takenBy patterns p.toList).length ∧
        ((∀ k ∈ takenBy patterns p.toList, mark.length ≤ k.secret.length) → s.length ≤ limit) := by
  refine ⟨exists_safeText_iff v limit true, fun s hs => ?_⟩
  obtain ⟨p, hp, rfl⟩ := safeText_eq_ok_iff.mp hs
  have hlength := length_redactChars_add p.toList
  rw [← toList_redact, String.length_toList, String.length_toList] at hlength
  have hpreview := length_preview_le hpos hp
  refine ⟨p, hp, fun c hc hblank => ?_, hpreview, hlength, fun hall => ?_⟩
  · rw [toList_redact] at hc
    rcases mem_redactChars hc with hc | hc
    · exact eq_space_of_mem_preview hpos hp hc hblank
    · -- No blank comes in with a mark.
      have hmark : mark.toList.all fun c => !Text.isBlank c := rfl
      rw [(Bool.not_eq_true' _).mp (List.all_eq_true.mp hmark c hc)] at hblank
      cases hblank
  · -- What goes out is at least as long as what comes in.
    have hsum := List.card_nsmul_le_sum
      ((takenBy patterns p.toList).map (·.secret.length)) mark.length (by simpa using hall)
    rw [List.length_map, Nat.nsmul_eq_mul, Nat.mul_comm] at hsum
    omega

/-- A secret of three characters gives way to a mark of ten, and the safe text to the limit. -/
theorem length_of_safeText_short_secret :
    safeText (.text "token=abc") 10 = .ok "token=[REDACTED]" ∧
      ¬ "token=[REDACTED]".length ≤ (10 : Int) ∧
      ∃ p, preview (.text "token=abc") 10 = .ok p ∧
        ∃ k ∈ takenBy patterns p.toList, k.secret.length < mark.length := by
  have htext : safeText (.text "token=abc") 10 = .ok "token=[REDACTED]" := by decide +kernel
  have hlong : ¬ "token=[REDACTED]".length ≤ (10 : Int) := by decide
  obtain ⟨-, hall⟩ := length_of_safeText (.text "token=abc") (show (1 : Int) ≤ 10 by decide)
  obtain ⟨p, hp, -, -, -, hbound⟩ := hall _ htext
  refine ⟨htext, hlong, p, hp, ?_⟩
  by_contra hnone
  exact hlong (hbound fun k hk => Nat.not_lt.mp fun hlt => hnone ⟨k, hk, hlt⟩)

end HatTree.Log
