import HatTree.Proofs.HatId.Truncation
import Mathlib.Algebra.BigOperators.Ring.Finset

/-!
# Two ways to take an id apart

The segments of an id are shifted out of the number, and its other forms are cut out of hexadecimal
digits. Shifting works on every integer: whatever lies above the levels goes to the domain, with its
sign, and only one domain with fourteen levels of 16 bits sums up to the number. On the ids of 256
bits the digits say the same.

## Main definitions

* `IsSegmented`: a domain and fourteen levels that sum up to an integer

## Main results

* `levels_add_mul`, `domain_add_mul`: what lies above the levels
* `isSegmented_iff`: every integer is segmented in one way
* `length_pathTokens_toDotted`: the number of tokens of a path
* `isTopHat_iff`: top hats by depth and form
* `decoders_agree`: shifted and cut segments are the same
-/

namespace HatTree.HatId

open Layout Numeral

/-- **A domain and fourteen levels of 16 bits that sum up to an integer**, each times its weight. -/
structure IsSegmented (h d : Int) (ls : List Nat) : Prop where
  /-- There are fourteen levels. -/
  length_eq : ls.length = 14
  /-- Each level has 16 bits. -/
  le_of_mem : ∀ l ∈ ls, l ≤ 65535
  /-- The integer is the sum. -/
  eq_sum : h = d * 2 ^ 224 + ∑ i ∈ Finset.range 14, (ls.getD i 0 : Int) * 2 ^ (16 * (13 - i))

/-! ## What lies above the levels -/

/-- **What lies above the levels** does not change them. -/
theorem levels_add_mul (h d : Int) : levels (h + d * 2 ^ 224) = levels h := by
  refine List.map_congr_left fun i hi => ?_
  have hi : i < 14 := List.mem_range.mp hi
  -- It is a multiple of the span of a level, also after the level was shifted to the end.
  have hexp : (2 : Int) ^ 224 =
      2 ^ (16 * i) * levelSpan * 2 ^ (levelBits * (maxLevels - 1 - i)) := by
    rw [show (levelSpan : Int) = 2 ^ 16 from rfl, ← pow_add, ← pow_add]
    congr 1
    simp only [levelBits, maxLevels]
    omega
  have hpos : (2 : Int) ^ (levelBits * (maxLevels - 1 - i)) ≠ 0 := by positivity
  rw [levelAt, levelAt, Int.shiftRight_eq_div_pow, Int.shiftRight_eq_div_pow, Nat.cast_pow,
    Nat.cast_ofNat, hexp, ← mul_assoc, Int.add_mul_ediv_right _ _ hpos, ← mul_assoc,
    Int.add_mul_emod_self_right]

theorem domain_eq (h : Int) : domain h = h / 2 ^ 224 := by
  have hpow : ((2 ^ (levelBits * maxLevels) : Nat) : Int) = 2 ^ 224 := by
    rw [show levelBits * maxLevels = 224 from rfl]
    norm_num
  rw [domain, Int.shiftRight_eq_div_pow, hpow]

/-- What lies above the levels goes to the domain. -/
theorem domain_add_mul (h d : Int) : domain (h + d * 2 ^ 224) = domain h + d := by
  rw [domain_eq, domain_eq, Int.add_mul_ediv_right h d (by positivity)]

/-! ## Every integer -/

variable {h d : Int} {ls : List Nat}

/-- The sum of levels is the number that they are packed into. -/
theorem pack_zero_eq_sum (hlen : ls.length = 14) :
    (pack 0 ls : Int) = ∑ i ∈ Finset.range 14, (ls.getD i 0 : Int) * 2 ^ (16 * (13 - i)) := by
  have hsum := pack_eq_sum 0 (show ls.length ≤ maxLevels from hlen.le)
  rw [hlen, Nat.zero_mul, Nat.zero_add] at hsum
  rw [hsum, Nat.cast_sum]
  refine Finset.sum_congr rfl fun i _ => ?_
  rw [Nat.cast_mul, Nat.cast_pow, Nat.cast_ofNat]

theorem IsSegmented.eq_pack_add (hseg : IsSegmented h d ls) : h = pack 0 ls + d * 2 ^ 224 := by
  rw [hseg.eq_sum, pack_zero_eq_sum hseg.length_eq, add_comm]

/-- **The segments of every integer** sum up to it. -/
theorem isSegmented_segments (h : Int) : IsSegmented h (domain h) (levels h) := by
  -- The levels are those of the remainder, a natural number without a domain.
  have hpos : (0 : Int) < 2 ^ 224 := by positivity
  obtain ⟨n, hn⟩ := Int.eq_ofNat_of_zero_le (Int.emod_nonneg h hpos.ne')
  have hlt : n < levelSpan ^ maxLevels := by
    have hmod := Int.emod_lt_of_pos h hpos
    rw [hn] at hmod
    rw [levelSpan_pow, show levelBits * maxLevels = 224 from rfl]
    exact_mod_cast hmod
  have hh : h = n + domain h * 2 ^ 224 := by
    rw [← hn, domain_eq, Int.emod_add_ediv_mul]
  have hlevels : levels h = levels (n : Int) := by
    conv_lhs => rw [hh, levels_add_mul]
  have hpack : pack 0 (levels h) = n := by
    have hall := pack_segments n
    rwa [Nat.div_eq_of_lt hlt, ← hlevels] at hall
  refine ⟨length_levels h, fun l hl => ?_, ?_⟩
  · have hl := lt_of_mem_levels hl
    rw [levelSpan_eq] at hl
    omega
  · rw [← pack_zero_eq_sum (length_levels h), hpack, add_comm]
    exact hh

/-- **Every integer is segmented in one way**, into its domain and its levels. -/
theorem isSegmented_iff : IsSegmented h d ls ↔ d = domain h ∧ ls = levels h := by
  constructor
  · intro hseg
    have hlen : ls.length ≤ maxLevels := hseg.length_eq.le
    have hls : ∀ l ∈ ls, l < levelSpan := fun l hl => Nat.lt_succ_of_le (hseg.le_of_mem l hl)
    have hzeros : maxLevels - ls.length = 0 := by
      rw [hseg.length_eq]
      rfl
    rw [hseg.eq_pack_add, domain_add_mul, levels_add_mul, domain_pack hlen hls,
      levels_pack hlen hls, hzeros]
    simp
  · rintro ⟨rfl, rfl⟩
    exact isSegmented_segments h

/-- **A top hat** is a well-formed id without levels. -/
theorem isTopHat_iff : isTopHat h = true ↔ depth h = 0 ∧ isWellFormed h = true := by
  constructor
  · intro htop
    have hdepth : depth h = 0 := by
      have hzero : ∀ l ∈ levels h, l = 0 := by simpa [isTopHat] using htop
      rw [depth, List.length_eq_zero_iff, List.takeWhile_eq_nil_iff]
      simpa using fun hlen => hzero _ (List.getElem_mem hlen)
    refine ⟨hdepth, ?_⟩
    rw [isWellFormed, hdepth, List.drop_zero]
    exact htop
  · rintro ⟨hdepth, hw⟩
    rwa [isWellFormed, hdepth, List.drop_zero] at hw

/-! ## Ids of 256 bits -/

/-- **The path of an id** has a token for the domain and one for each level down to the depth. -/
theorem length_pathTokens_toDotted {n : Nat} (hn : n < 2 ^ idBits) :
    (pathTokens (toDotted (n : Int))).length = depth (n : Int) + 1 := by
  rw [toDotted, tokens_natCast hn, pathTokens_intercalate (List.cons_ne_nil _ _), List.length_map,
    List.length_cons, depth]

/-- **Shifted and cut segments are the same.** The domain and the levels that are shifted out of any
integer are the one domain and the fourteen levels of 16 bits that sum up to it, and it is a top hat
exactly when it is well formed and has depth zero. Of an id of 256 bits, the first eight digits
denote the domain, and each four digits that follow, which are those that the path is written from,
denote the next level. So the path has one token more than the id is deep. -/
theorem decoders_agree :
    (∀ (h d : Int) (ls : List Nat), IsSegmented h d ls ↔ d = domain h ∧ ls = levels h) ∧
      (∀ h : Int, isTopHat h = true ↔ depth h = 0 ∧ isWellFormed h = true) ∧
      ∀ h : Int, 0 ≤ h → h < 2 ^ 256 →
        treeOf h = domain h ∧
        (∀ i < 14, levelChunk h i = (((toHex h).toList.drop 2).drop (8 + 4 * i)).take 4 ∧
          (levels h)[i]? = some (value 16 (levelChunk h i))) ∧
        (pathTokens (toDotted h)).length = depth h + 1 := by
  refine ⟨fun _ _ _ => isSegmented_iff, fun _ => isTopHat_iff, fun h h₀ h₁ => ?_⟩
  obtain ⟨n, rfl⟩ := Int.eq_ofNat_of_zero_le h₀
  have hn : n < 2 ^ idBits := by
    rw [idBits]
    exact_mod_cast h₁
  refine ⟨treeOf_natCast hn, fun i hi => ⟨?_, ?_⟩, length_pathTokens_toDotted hn⟩
  · rw [toHex, marked, String.toList_ofList]
    rfl
  · rw [value_levelChunk hn hi, levels, List.getElem?_map, maxLevels, List.getElem?_range hi]
    rfl

/-- The segments of a negative integer, whose domain has its sign, and those of an id with a gap,
where the digits of the third level are read though the path stops before it. -/
theorem decoders_agree_gapped :
    IsSegmented (-1) (-1) (List.replicate 14 65535) ∧
      (0 : Int) ≤ pack 1 [2, 0, 3] ∧ ((pack 1 [2, 0, 3] : Nat) : Int) < 2 ^ 256 ∧
      value 16 (levelChunk (pack 1 [2, 0, 3] : Nat) 2) = 3 ∧
      (pathTokens (toDotted (pack 1 [2, 0, 3] : Nat))).length = 2 ∧
      treeOf (pack 1 [2, 0, 3] : Nat) = 1 := by
  obtain ⟨hevery, -, hid⟩ := decoders_agree
  have h₀ : (0 : Int) ≤ pack 1 [2, 0, 3] := by decide
  have h₁ : ((pack 1 [2, 0, 3] : Nat) : Int) < 2 ^ 256 := by decide
  obtain ⟨htree, hchunks, htokens⟩ := hid _ h₀ h₁
  refine ⟨(hevery _ _ _).mpr (by decide), h₀, h₁, ?_, ?_, ?_⟩
  · obtain ⟨-, hlevel⟩ := hchunks 2 (by decide)
    exact (Option.some.inj hlevel).symm
  · rw [htokens]
    decide
  · rw [htree]
    decide

end HatTree.HatId
