import HatTree.HatId.Segments
import HatTree.Proofs.Places

/-!
# Segments and the ids they make up

The levels of an id are its last fourteen places in the base of a level, and its domain is the
quotient before them. Packing segments into an id and cutting an id into segments are inverse as
long as every level fits its place.

## Main results

* `levels_natCast`, `domain_natCast`: segments as places and quotient
* `levels_pack`, `domain_pack`: the segments of a packed id
* `pack_eq_sum`: a packed id as a sum of weighted segments
* `pack_segments`: the id packed from all its segments
* `isWellFormed_iff`: only zeros follow the leading levels
* `pack_take_depth_levels`: the id packed from its leading levels, if it is well formed
-/

namespace HatTree

theorem Layout.levelSpan_eq : Layout.levelSpan = 65536 := rfl

theorem Layout.levelSpan_pow (k : Nat) : Layout.levelSpan ^ k = 2 ^ (Layout.levelBits * k) := by
  rw [Nat.pow_mul]
  congr 1

namespace HatId

open Layout

theorem levelSpan_pow_pos (k : Nat) : 0 < levelSpan ^ k := by
  rw [levelSpan_pow]
  exact Nat.two_pow_pos _

/-- An id has 256 bits when its domain has 32, whatever its levels are. -/
theorem domain_lt_iff {n : Nat} : n / levelSpan ^ maxLevels < 2 ^ domainBits ↔ n < 2 ^ idBits := by
  rw [Nat.div_lt_iff_lt_mul (levelSpan_pow_pos _), levelSpan_pow, ← Nat.pow_add]
  rfl

/-! ## Segments as places -/

/-- **The levels of an id are its last places** in the base of a level. -/
theorem levels_natCast (n : Nat) : levels (n : Int) = places levelSpan maxLevels n := by
  refine List.ext_getElem (by simp) fun i hi _ => ?_
  rw [getElem_places]
  simp only [levels, List.getElem_map, List.getElem_range, levelAt]
  rw [Int.shiftRight_eq_div_pow, ← levelSpan_pow, ← Int.natCast_ediv, ← Int.natCast_emod,
    Int.toNat_natCast]

theorem domain_natCast (n : Nat) : domain (n : Int) = (n / levelSpan ^ maxLevels : Nat) := by
  rw [domain, Int.shiftRight_eq_div_pow, ← levelSpan_pow, Int.natCast_ediv]

theorem lt_of_mem_levels {h : Int} {l : Nat} (hl : l ∈ levels h) : l < levelSpan := by
  simp only [levels, List.mem_map, levelAt] at hl
  obtain ⟨i, -, rfl⟩ := hl
  rw [levelSpan_eq]
  omega

/-! ## The segments of a packed id -/

theorem pack_eq (d : Nat) (ls : List Nat) :
    pack d ls = joined levelSpan d ls * levelSpan ^ (maxLevels - ls.length) := rfl

section Pack

variable {d : Nat} {ls : List Nat} (hlen : ls.length ≤ maxLevels) (hls : ∀ l ∈ ls, l < levelSpan)
include hlen hls

/-- **The levels of a packed id** are those it was packed from, then zeros. -/
theorem levels_pack :
    levels (pack d ls : Nat) = ls ++ List.replicate (maxLevels - ls.length) 0 := by
  obtain ⟨hp, -⟩ := places_joined hls d
  -- The last places are zeros, and those before them are the levels that were joined.
  have hpos := levelSpan_pow_pos (maxLevels - ls.length)
  have hsplit := places_add (b := levelSpan) ls.length (maxLevels - ls.length) (pack d ls)
  rw [Nat.add_sub_cancel' hlen, pack_eq, Nat.mul_div_cancel _ hpos, hp, places_mul_pow] at hsplit
  rw [levels_natCast, pack_eq, hsplit]

theorem domain_pack : domain (pack d ls : Nat) = d := by
  obtain ⟨-, hq⟩ := places_joined hls d
  have hpos := levelSpan_pow_pos (maxLevels - ls.length)
  -- The quotient is taken in two steps: first the zeros go, then the levels.
  have hexp : maxLevels = maxLevels - ls.length + ls.length := by omega
  rw [domain_natCast, pack_eq, hexp, Nat.pow_add, ← Nat.div_div_eq_div_mul, Nat.add_sub_cancel,
    Nat.mul_div_cancel _ hpos, hq]

theorem div_pack : pack d ls / levelSpan ^ maxLevels = d := by
  have h := domain_pack (d := d) hlen hls
  rwa [domain_natCast, Nat.cast_inj] at h

theorem pack_lt (hd : d < 2 ^ domainBits) : pack d ls < 2 ^ idBits := by
  rw [← domain_lt_iff, div_pack hlen hls]
  exact hd

theorem takeWhile_levels_pack :
    (levels (pack d ls : Nat)).takeWhile (· ≠ 0) = ls.takeWhile (· ≠ 0) := by
  have hzeros : (List.replicate (maxLevels - ls.length) 0).takeWhile (· ≠ 0) = [] := by
    simp
  rw [levels_pack hlen hls, List.takeWhile_append, hzeros, List.append_nil]
  split
  next h => exact ((List.takeWhile_prefix _).eq_of_length h).symm
  next => rfl

end Pack

/-- **A packed id is the sum** of its domain and its levels, each times its weight. -/
theorem pack_eq_sum (d : Nat) {ls : List Nat} (hlen : ls.length ≤ maxLevels) :
    pack d ls =
      d * 2 ^ 224 + ∑ i ∈ Finset.range ls.length, ls.getD i 0 * 2 ^ (16 * (13 - i)) := by
  rw [pack_eq, joined_mul_pow, Nat.add_sub_cancel' hlen, levelSpan_pow]
  refine congrArg (d * 2 ^ 224 + ·) (Finset.sum_congr rfl fun i _ => ?_)
  rw [levelSpan_pow]
  rfl

/-- Zero levels at the end need not be given. -/
theorem pack_append_zeros (d : Nat) {ls : List Nat} {k : Nat} (hk : ls.length + k ≤ maxLevels) :
    pack d (ls ++ List.replicate k 0) = pack d ls := by
  have hexp : maxLevels - ls.length = k + (maxLevels - (ls.length + k)) := by omega
  rw [pack_eq, pack_eq, joined_append, ← places_of_zero (b := levelSpan), joined_places,
    Nat.zero_mod, Nat.add_zero, List.length_append, length_places, hexp, Nat.pow_add,
    Nat.mul_assoc]

/-- **An id is packed from all its segments.** -/
theorem pack_segments (n : Nat) :
    pack (n / levelSpan ^ maxLevels) (levels (n : Int)) = n := by
  rw [pack_eq, levels_natCast, joined_places, length_places, Nat.sub_self, Nat.pow_zero,
    Nat.mul_one, Nat.div_add_mod']

/-- Packing fewer levels of an id clears the places of the others. -/
theorem pack_take_levels (n : Nat) {k : Nat} (hk : k ≤ maxLevels) :
    pack (n / levelSpan ^ maxLevels) ((levels (n : Int)).take k) =
      n / levelSpan ^ (maxLevels - k) * levelSpan ^ (maxLevels - k) := by
  have hq : n / levelSpan ^ maxLevels = n / levelSpan ^ (maxLevels - k) / levelSpan ^ k := by
    rw [Nat.div_div_eq_div_mul, ← Nat.pow_add, Nat.sub_add_cancel hk]
  have htake := take_places (b := levelSpan) k (maxLevels - k) n
  rw [Nat.add_sub_cancel' hk] at htake
  rw [pack_eq, levels_natCast, htake, joined_places, length_places, hq, Nat.div_add_mod']

/-! ## Depth and gaps -/

theorem depth_le (h : Int) : depth h ≤ maxLevels := by
  rw [← length_levels h]
  exact (List.takeWhile_sublist _).length_le

/-- The levels down to the depth of a hat are the leading ones other than zero. -/
theorem take_depth_levels (h : Int) : (levels h).take (depth h) = (levels h).takeWhile (· ≠ 0) :=
  (List.prefix_iff_eq_take.mp (List.takeWhile_prefix _)).symm

theorem length_take_depth_levels (h : Int) : ((levels h).take (depth h)).length = depth h := by
  rw [List.length_take, length_levels, Nat.min_eq_left (depth_le h)]

/-- **An id is well formed** if and only if zeros fill its levels up behind the leading ones. -/
theorem isWellFormed_iff (h : Int) :
    isWellFormed h = true ↔
      levels h = (levels h).take (depth h) ++ List.replicate (maxLevels - depth h) 0 := by
  have hlen : ((levels h).drop (depth h)).length = maxLevels - depth h := by simp
  have hzero : isWellFormed h = true ↔ ∀ l ∈ (levels h).drop (depth h), l = 0 := by
    simp [isWellFormed]
  rw [hzero]
  constructor
  · intro hall
    have hdrop := List.eq_replicate_of_mem hall
    rw [hlen] at hdrop
    rw [← hdrop, List.take_append_drop]
  · intro heq l hl
    rw [heq, List.drop_left' (length_take_depth_levels h)] at hl
    exact List.eq_of_mem_replicate hl

/-- **A well-formed id is packed from its leading levels** alone. -/
theorem pack_take_depth_levels {n : Nat} (hw : isWellFormed (n : Int) = true) :
    pack (n / levelSpan ^ maxLevels) ((levels (n : Int)).take (depth (n : Int))) = n := by
  have hroom : ((levels (n : Int)).take (depth (n : Int))).length + (maxLevels - depth (n : Int)) ≤
      maxLevels := by
    rw [length_take_depth_levels, Nat.add_sub_cancel' (depth_le n)]
  have hpack := pack_segments n
  rwa [(isWellFormed_iff n).mp hw, pack_append_zeros _ hroom] at hpack

end HatId

end HatTree
