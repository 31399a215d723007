import HatTree.HatId.Ancestry
import HatTree.Proofs.HatId.Segments
import Mathlib.Data.Int.Bitwise

/-!
# Setting levels by bits

The id of a child is that of its admin with the bits of a number set in the first empty level. Where
the bits of a place are all zero, setting bits there is adding, whether the integer is negative or
not; so the id of a child lies as far above its admin's as the number and the weight of the level
tell.

## Main results

* `lor_shiftLeft_eq_add`: setting an empty place by bits is adding
* `getElem?_levels_depth`: the level at the depth of a hat is empty
* `child_eq_ok_iff`: when there is a child, and how far its id lies above the admin's
-/

namespace HatTree

/-! ## Setting bits -/

/-- The last bit of a bitwise or is the or of the last bits. -/
theorem lor_two_mul_add (a c : Int) (x y : Bool) :
    Int.lor (2 * a + cond x 1 0) (2 * c + cond y 1 0) = 2 * Int.lor a c + cond (x || y) 1 0 := by
  have h := Int.lor_bit x a y c
  rwa [Int.bit_val, Int.bit_val, Int.bit_val] at h

theorem lor_zero (a : Int) : Int.lor a 0 = a := by
  cases a with
  | ofNat n => exact congrArg Int.ofNat (Nat.or_zero n)
  | negSucc n =>
    refine congrArg Int.negSucc (Nat.eq_of_testBit_eq fun i => ?_)
    rw [Nat.testBit_ldiff, Nat.zero_testBit, Bool.not_false, Bool.and_true]

theorem two_mul_half_add_bodd (a : Int) : 2 * (a / 2) + cond a.bodd 1 0 = a := by
  rw [← Int.div2_val, Int.add_comm, Int.bodd_add_div2]

/-- Where the last bits of an integer are zero, or with a number adds it. -/
theorem lor_eq_add_of_dvd {w m : Nat} {a : Int} (ha : (2 ^ w : Int) ∣ a) (hm : m < 2 ^ w) :
    Int.lor a m = a + m := by
  induction w generalizing a m with
  | zero =>
    obtain rfl : m = 0 := by simpa using hm
    rw [Nat.cast_zero, lor_zero, Int.add_zero]
  | succ w ih =>
    obtain ⟨c, rfl⟩ := ha
    have hhalf := ih (Int.dvd_mul_right (2 ^ w) c) (show m / 2 < 2 ^ w by omega)
    have hlor := lor_two_mul_add (2 ^ w * c) (m / 2 : Nat) false (Int.bodd m)
    rw [hhalf, Int.natCast_ediv, Nat.cast_ofNat, two_mul_half_add_bodd, cond_false, Int.add_zero,
      Bool.false_or, Int.mul_add, Int.add_assoc, two_mul_half_add_bodd, ← Int.mul_assoc,
      ← pow_succ'] at hlor
    exact hlor

/-- **Setting an empty place by bits is adding**: where the bits of a place are zero, or with a
number shifted there adds it, to a negative integer as well. -/
theorem lor_shiftLeft_eq_add {w m k : Nat} {a : Int} (ha : (2 ^ w : Int) ∣ a / 2 ^ k)
    (hm : m < 2 ^ w) : Int.lor a ((m : Int) <<< k) = a + m * 2 ^ k := by
  rw [Int.shiftLeft_eq]
  induction k generalizing a with
  | zero =>
    rw [pow_zero, Int.ediv_one] at ha
    rw [pow_zero, Int.mul_one, lor_eq_add_of_dvd ha hm]
  | succ k ih =>
    -- The last bit of the shifted number is zero, so that the one of the other stays.
    have hhalf : (2 ^ w : Int) ∣ a / 2 / 2 ^ k := by
      rwa [Int.ediv_ediv_of_nonneg (by decide), ← pow_succ']
    have hlor := lor_two_mul_add (a / 2) (m * 2 ^ k) a.bodd false
    rw [ih hhalf, two_mul_half_add_bodd, cond_false, Int.add_zero, Bool.or_false, Int.mul_add,
      Int.add_right_comm, two_mul_half_add_bodd, Int.mul_left_comm, ← pow_succ'] at hlor
    exact hlor

namespace HatId

open Layout

/-! ## The first empty level -/

/-- Behind the leading members stands one that does not lead, unless they are all. -/
theorem exists_getElem?_length_takeWhile {α : Type} {p : α → Bool} {xs : List α}
    (hlt : (xs.takeWhile p).length < xs.length) :
    ∃ x, xs[(xs.takeWhile p).length]? = some x ∧ p x = false := by
  induction xs with
  | nil => simp at hlt
  | cons y xs ih =>
    cases hy : p y with
    | false =>
      rw [List.takeWhile_cons_of_neg (by simp [hy])]
      exact ⟨y, rfl, hy⟩
    | true =>
      rw [List.takeWhile_cons_of_pos hy] at hlt ⊢
      exact ih (Nat.lt_of_succ_lt_succ hlt)

/-- **The level at the depth of a hat is empty.** -/
theorem getElem?_levels_depth {h : Int} (hdepth : depth h < 14) :
    (levels h)[depth h]? = some 0 := by
  have hlt : ((levels h).takeWhile (· ≠ 0)).length < (levels h).length := by
    rw [length_levels]
    exact hdepth
  obtain ⟨l, hl, hzero⟩ := exists_getElem?_length_takeWhile hlt
  obtain rfl : l = 0 := by simpa using hzero
  exact hl

/-! ## Children -/

theorem bitOr_eq_lor (a b : Int) : bitOr a b = Int.lor a b := by
  cases a <;> cases b <;> rfl

section Child

variable {admin n id : Int}

/-- The bits of the level at the depth of a hat are zero. -/
theorem dvd_of_depth_lt (hdepth : depth admin < 14) :
    (2 ^ levelBits : Int) ∣ admin / 2 ^ (levelBits * (13 - depth admin)) := by
  have hlevel := getElem?_levels_depth hdepth
  have hplace : depth admin < maxLevels := hdepth
  rw [levels, List.getElem?_map, List.getElem?_range hplace, Option.map_some, Option.some.injEq,
    levelAt, Int.toNat_eq_zero, Int.shiftRight_eq_div_pow] at hlevel
  exact Int.dvd_of_emod_eq_zero (le_antisymm hlevel (Int.emod_nonneg _ (by decide)))

/-- **Setting the level at the depth of a hat by bits is adding**, since the level is empty. -/
theorem bitOr_shiftLeft_eq_add (hdepth : depth admin < 14) (hn : 0 ≤ n ∧ n ≤ 65535) :
    bitOr admin (n <<< (levelBits * (13 - depth admin))) =
      admin + n * (levelSpan ^ (13 - depth admin) : Nat) := by
  obtain ⟨m, rfl⟩ := Int.eq_ofNat_of_zero_le hn.1
  have hm : m < 2 ^ levelBits := Nat.lt_succ_of_le (by omega)
  rw [bitOr_eq_lor, lor_shiftLeft_eq_add (dvd_of_depth_lt hdepth) hm, levelSpan_pow]
  push_cast
  rfl

/-- **The ids of children** are those of their admins with a number set by bits, and lie as far
above the admin's as this number tells. -/
theorem child_eq_ok_iff :
    child admin n = .ok id ↔
      depth admin ≠ 14 ∧ (1 ≤ n ∧ n ≤ 65535) ∧
        id = admin + n * (levelSpan ^ (13 - depth admin) : Nat) := by
  have hexp : maxLevels - depth admin - 1 = 13 - depth admin := by
    rw [maxLevels]
    omega
  rw [child, hexp]
  split
  next hdepth => exact ⟨fun h => (by cases h), fun h => absurd hdepth h.1⟩
  next hdepth =>
    split
    next hn =>
      have hlt : depth admin < 14 := lt_of_le_of_ne (depth_le admin) hdepth
      rw [bitOr_shiftLeft_eq_add hlt ⟨by omega, hn.2⟩, Except.ok.injEq, eq_comm]
      exact ⟨fun h => ⟨hdepth, hn, h⟩, fun h => h.2.2⟩
    next hn => exact ⟨fun h => (by cases h), fun h => absurd h.2.1 hn⟩

/-- The id of a child is that of its admin with the bits of the number set. -/
theorem eq_lor_of_child (h : child admin n = .ok id) :
    id = Int.lor admin (n <<< (16 * (13 - depth admin))) := by
  obtain ⟨hdepth, hn, rfl⟩ := child_eq_ok_iff.mp h
  have hlt : depth admin < 14 := lt_of_le_of_ne (depth_le admin) hdepth
  exact (bitOr_shiftLeft_eq_add hlt ⟨by omega, hn.2⟩).symm.trans (bitOr_eq_lor _ _)

end Child

end HatId

end HatTree
