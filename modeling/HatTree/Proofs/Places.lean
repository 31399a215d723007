import Mathlib.Algebra.BigOperators.Group.Finset.Basic
import Mathlib.Data.List.GetD
import Mathlib.Data.List.Induction
import Mathlib.Tactic.Ring

/-!
# Positional notation

The digits of an id and its levels are the same number cut at different widths: sixteen to a place,
or the span of a level to a place. What holds of both is said here once, over any base.

## Main definitions

* `places b w n`: the last `w` places of `n` in base `b`, the most significant first
* `joined b d ls`: the number that continues `d` by further places

## Main results

* `places_add`: a run of places splits into the places of quotient and remainder
* `joined_places`, `places_joined`: joining and cutting are inverse
* `joined_mul_pow`: joined places as a sum of weighted places
* `places_lt_places_iff`: numbers are ordered as their places are in a dictionary
-/

namespace HatTree

/-- **The last places of a number** in a base, the most significant first. -/
def places (b : Nat) : Nat → Nat → List Nat
  | 0, _ => []
  | w + 1, n => places b w (n / b) ++ [n % b]

/-- **The number that continues another by further places.** -/
def joined (b d : Nat) (ls : List Nat) : Nat := ls.foldl (fun n l => n * b + l) d

variable {b : Nat}

@[simp] theorem places_zero (n : Nat) : places b 0 n = [] := rfl

theorem places_succ (w n : Nat) : places b (w + 1) n = places b w (n / b) ++ [n % b] := rfl

@[simp] theorem length_places (w n : Nat) : (places b w n).length = w := by
  induction w generalizing n with
  | zero => rfl
  | succ w ih => simp [places_succ, ih]

@[simp] theorem joined_nil (d : Nat) : joined b d [] = d := rfl

theorem joined_append (d : Nat) (ls rs : List Nat) :
    joined b d (ls ++ rs) = joined b (joined b d ls) rs := by
  simp [joined]

theorem joined_snoc (d : Nat) (ls : List Nat) (l : Nat) :
    joined b d (ls ++ [l]) = joined b d ls * b + l := by
  simp [joined]

theorem lt_of_mem_places (hb : 0 < b) {w n l : Nat} (hl : l ∈ places b w n) : l < b := by
  induction w generalizing n with
  | zero => simp at hl
  | succ w ih =>
    rw [places_succ, List.mem_append, List.mem_singleton] at hl
    rcases hl with hl | rfl
    · exact ih hl
    · exact Nat.mod_lt _ hb

/-- **A run of places splits** into the places of quotient and remainder. -/
theorem places_add (v w n : Nat) :
    places b (v + w) n = places b v (n / b ^ w) ++ places b w n := by
  induction w generalizing n with
  | zero => simp
  | succ w ih =>
    rw [← Nat.add_assoc, places_succ, ih, places_succ, List.append_assoc, Nat.div_div_eq_div_mul,
      Nat.pow_succ']

theorem take_places (v w n : Nat) : (places b (v + w) n).take v = places b v (n / b ^ w) := by
  rw [places_add, List.take_left' (length_places v _)]

theorem drop_places (v w n : Nat) : (places b (v + w) n).drop v = places b w n := by
  rw [places_add, List.drop_left' (length_places v _)]

theorem getElem_places (w n i : Nat) (hi : i < (places b w n).length) :
    (places b w n)[i] = n / b ^ (w - 1 - i) % b := by
  induction w generalizing n with
  | zero => simp at hi
  | succ w ih =>
    simp only [places_succ]
    rw [length_places] at hi
    -- Every place but the last is one of the quotient.
    rcases Nat.lt_or_ge i w with h | h
    · rw [List.getElem_append_left (by simpa using h), ih, Nat.div_div_eq_div_mul, ← Nat.pow_succ']
      congr 3
      omega
    · obtain rfl : i = w := by omega
      simp

/-- Cutting places off and joining them to the quotient gives the number back. -/
theorem joined_places (w n d : Nat) : joined b d (places b w n) = d * b ^ w + n % b ^ w := by
  induction w generalizing n with
  | zero => simp [Nat.mod_one]
  | succ w ih =>
    rw [places_succ, joined_snoc, ih, Nat.pow_succ', Nat.mod_mul]
    ring

theorem joined_zero_places {w n : Nat} (hn : n < b ^ w) : joined b 0 (places b w n) = n := by
  rw [joined_places, Nat.zero_mul, Nat.zero_add, Nat.mod_eq_of_lt hn]

/-- The places that were joined last are cut off first, and the number before them remains. -/
theorem places_joined {ls : List Nat} (hls : ∀ l ∈ ls, l < b) (d : Nat) :
    places b ls.length (joined b d ls) = ls ∧ joined b d ls / b ^ ls.length = d := by
  induction ls using List.reverseRecOn with
  | nil => simp
  | append_singleton ls l ih =>
    have hl : l < b := hls l (by simp)
    obtain ⟨hp, hq⟩ := ih fun m hm => hls m (by simp [hm])
    have hdiv : joined b d (ls ++ [l]) / b = joined b d ls := by
      rw [joined_snoc, Nat.add_comm, Nat.add_mul_div_right _ _ (by omega), Nat.div_eq_of_lt hl,
        Nat.zero_add]
    have hmod : joined b d (ls ++ [l]) % b = l := by
      rw [joined_snoc, Nat.add_comm, Nat.add_mul_mod_self_right, Nat.mod_eq_of_lt hl]
    rw [List.length_append, List.length_singleton, places_succ, hdiv, hmod, hp, Nat.pow_succ',
      ← Nat.div_div_eq_div_mul, hdiv, hq]
    exact ⟨rfl, rfl⟩

/-- **Joined places are the sum** of each place times its weight. -/
theorem joined_mul_pow (d : Nat) (ls : List Nat) (k : Nat) :
    joined b d ls * b ^ k = d * b ^ (ls.length + k) +
      ∑ i ∈ Finset.range ls.length, ls.getD i 0 * b ^ (ls.length + k - 1 - i) := by
  induction ls using List.reverseRecOn generalizing k with
  | nil => simp
  | append_singleton ls l ih =>
    have hlast : (ls ++ [l]).getD ls.length 0 = l := by simp
    have hinit : ∀ i ∈ Finset.range ls.length,
        (ls ++ [l]).getD i 0 * b ^ (ls.length + 1 + k - 1 - i) =
          ls.getD i 0 * b ^ (ls.length + (k + 1) - 1 - i) := by
      intro i hi
      have hi := Finset.mem_range.mp hi
      rw [List.getD_append _ _ _ _ hi, Nat.add_assoc, Nat.add_comm 1 k]
    have hexp : ls.length + 1 + k = ls.length + (k + 1) := by omega
    have hexp' : ls.length + (k + 1) - 1 - ls.length = k := by omega
    calc joined b d (ls ++ [l]) * b ^ k
        = joined b d ls * b ^ (k + 1) + l * b ^ k := by
          rw [joined_snoc, Nat.add_mul, Nat.mul_assoc, ← Nat.pow_succ']
      _ = d * b ^ (ls.length + (k + 1)) +
            ∑ i ∈ Finset.range ls.length, ls.getD i 0 * b ^ (ls.length + (k + 1) - 1 - i) +
            l * b ^ k := by
          rw [ih]
      _ = _ := by
          rw [List.length_append, List.length_singleton, Finset.sum_range_succ,
            Finset.sum_congr rfl hinit, hlast, hexp, hexp', Nat.add_assoc]

/-- The last places of a number do not depend on what stands before them. -/
theorem places_mod (w n : Nat) : places b w (n % b ^ w) = places b w n := by
  induction w generalizing n with
  | zero => rfl
  | succ w ih =>
    rw [places_succ, places_succ, Nat.pow_succ', Nat.mod_mul_right_div_self, ih,
      Nat.mod_mul_right_mod]

@[simp] theorem places_of_zero (w : Nat) : places b w 0 = List.replicate w 0 := by
  induction w with
  | zero => rfl
  | succ w ih => rw [places_succ, Nat.zero_div, Nat.zero_mod, ih, ← List.replicate_succ']

theorem places_mul_pow (w n : Nat) : places b w (n * b ^ w) = List.replicate w 0 := by
  rw [← places_mod, Nat.mul_mod_left, places_of_zero]

/-! ## The order of numbers -/

/-- **Joined numbers are ordered** first by what they continue, then as their places in the order
of a dictionary. -/
theorem joined_lt_joined_iff {ls ms : List Nat} (hls : ∀ l ∈ ls, l < b) (hms : ∀ m ∈ ms, m < b)
    (hlen : ls.length = ms.length) (d e : Nat) :
    joined b d ls < joined b e ms ↔ d < e ∨ d = e ∧ ls < ms := by
  induction ls generalizing ms d e with
  | nil =>
    obtain rfl := List.length_eq_zero_iff.mp hlen.symm
    simp
  | cons l ls ih =>
    obtain _ | ⟨m, ms⟩ := ms
    · simp at hlen
    have hl : l < b := hls l List.mem_cons_self
    have hm : m < b := hms m List.mem_cons_self
    have hstep : d * b + l < e * b + m ↔ d < e ∨ d = e ∧ l < m := by
      constructor
      · intro h
        rcases Nat.lt_trichotomy d e with hlt | rfl | hgt
        · exact .inl hlt
        · exact .inr ⟨rfl, by omega⟩
        · have hmul : (e + 1) * b ≤ d * b := Nat.mul_le_mul_right b hgt
          rw [Nat.add_mul] at hmul
          omega
      · rintro (hlt | ⟨rfl, hlt⟩)
        · have hmul : (d + 1) * b ≤ e * b := Nat.mul_le_mul_right b hlt
          rw [Nat.add_mul] at hmul
          omega
        · omega
    have heq : d * b + l = e * b + m ↔ d = e ∧ l = m := by
      constructor
      · intro h
        have hquot := congrArg (· / b) h
        simp only [Nat.mul_comm d, Nat.mul_comm e] at hquot
        rw [Nat.mul_add_div (by omega), Nat.mul_add_div (by omega), Nat.div_eq_of_lt hl,
          Nat.div_eq_of_lt hm] at hquot
        obtain rfl : d = e := hquot
        exact ⟨rfl, by omega⟩
      · rintro ⟨rfl, rfl⟩
        rfl
    have htail := ih (fun k hk => hls k (List.mem_cons_of_mem l hk))
      (fun k hk => hms k (List.mem_cons_of_mem m hk)) (by simpa using hlen) (d * b + l) (e * b + m)
    show joined b (d * b + l) ls < joined b (e * b + m) ms ↔ _
    rw [htail, hstep, heq, List.cons_lt_cons_iff]
    tauto

/-- **The order of numbers is that of their places** in a dictionary. -/
theorem places_lt_places_iff (hb : 0 < b) {w n m : Nat} (hn : n < b ^ w) (hm : m < b ^ w) :
    places b w n < places b w m ↔ n < m := by
  have hlen : (places b w n).length = (places b w m).length := by simp
  have h := joined_lt_joined_iff (fun l hl => lt_of_mem_places hb hl)
    (fun l hl => lt_of_mem_places hb hl) hlen 0 0
  rw [joined_zero_places hn, joined_zero_places hm] at h
  simpa using h.symm

end HatTree
