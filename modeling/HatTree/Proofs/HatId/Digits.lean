import HatTree.HatId.Ancestry
import HatTree.HatId.Dotted
import HatTree.Proofs.HatId.Segments
import HatTree.Proofs.Numeral

/-!
# The digits of an id and its segments

An id of 256 bits has 64 hexadecimal digits, eight for its domain and four for each level. Reading
segments off the digits therefore agrees with shifting them out, and cutting digits off an id
agrees with clearing levels.

## Main results

* `topHat_natCast`: the id of a tree's top hat
* `value_rightpad_joinDigits`: the digits of segments denote the id packed from them
* `treeOf_natCast`: the first eight digits denote the domain
* `value_levelChunk`: the digits of a level denote it
* `truncate_natCast`: truncated digits denote the id packed from fewer levels
* `tokens_natCast`: the tokens of an id are its domain and its leading levels
-/

namespace HatTree.HatId

open Layout Numeral

/-! ## The widths of the forms -/

/-- Ids of 256 bits are those of 64 digits. -/
theorem two_pow_idBits : 2 ^ idBits = 16 ^ idDigits := by
  rw [show idBits = 4 * idDigits from rfl, Nat.pow_mul]

theorem levelSpan_pow_digits (k : Nat) : levelSpan ^ k = 16 ^ (levelDigits * k) := by
  rw [Nat.pow_mul]
  congr 1

/-- The digits of an id are those of its domain, of some levels, and of the levels below. -/
theorem idDigits_eq {k : Nat} (hk : k ≤ maxLevels) :
    idDigits = domainDigits + levelDigits * k + levelDigits * (maxLevels - k) := by
  simp only [idDigits, idBits, domainDigits, domainBits, levelDigits, levelBits, maxLevels] at *
  omega

/-- **The top hat of a tree** has the tree's domain and no level. -/
theorem topHat_natCast {d : Nat} (hd : d < 2 ^ domainBits) :
    topHat (d : Int) = .ok (pack d [] : Nat) := by
  have hd' : d < 16 ^ domainDigits := by
    rw [show (16 : Nat) = 2 ^ 4 from rfl, ← Nat.pow_mul]
    exact hd
  -- The digits of the domain are filled up with zeros, the places of levels that are all zero.
  have hdigits : (treeDigits (d : Int)).rightpad idDigits '0' =
      (places 16 domainDigits d ++ places 16 (levelDigits * maxLevels) 0).map Nat.digitChar := by
    rw [treeDigits, padded_eq_places (by decide) hd', List.rightpad, List.length_map,
      length_places, List.map_append, places_of_zero, List.map_replicate]
    rfl
  have hsmall : ∀ l ∈ places 16 domainDigits d ++ places 16 (levelDigits * maxLevels) 0,
      l < 16 := by
    intro l hl
    rcases List.mem_append.mp hl with hl | hl
    · exact lt_of_mem_places (by decide) hl
    · exact lt_of_mem_places (by decide) hl
  have hne : places 16 domainDigits d ++ places 16 (levelDigits * maxLevels) 0 ≠ [] := by
    intro h
    have hlen := congrArg List.length h
    rw [List.length_append, length_places] at hlen
    exact absurd hlen (by simp [domainDigits, domainBits])
  rw [topHat, ofHex, hdigits, marked, read_marked hsmall hne, joined_append,
    joined_zero_places hd', joined_places, Nat.zero_mod, Nat.add_zero, ← levelSpan_pow_digits]
  rfl

/-! ## The digits of segments -/

section Join

variable {d : Nat} {ls : List Nat}

/-- The digits of a level are as many as its places, and denote it. -/
theorem padded_level {l : Nat} (hl : l < levelSpan) :
    (padded levelDigits (l : Int)).length = levelDigits ∧
      value 16 (padded levelDigits (l : Int)) = l := by
  have hl' : l < 16 ^ levelDigits := hl
  rw [padded_eq_places (by decide) hl', List.length_map, length_places, value_places,
    Nat.mod_eq_of_lt hl']
  exact ⟨rfl, rfl⟩

theorem joinDigits_append_singleton (l : Nat) :
    joinDigits d (ls ++ [l]) = joinDigits d ls ++ padded levelDigits (l : Int) := by
  simp [joinDigits]

variable (hd : d < 2 ^ domainBits) (hls : ∀ l ∈ ls, l < levelSpan)
include hd hls

/-- **Digits put one behind the other** denote the number that joins the segments. -/
theorem length_value_joinDigits :
    (joinDigits d ls).length = domainDigits + levelDigits * ls.length ∧
      value 16 (joinDigits d ls) = joined levelSpan d ls := by
  induction ls using List.reverseRecOn with
  | nil =>
    have hd' : d < 16 ^ domainDigits := hd
    rw [joinDigits, List.flatMap_nil, List.append_nil, padded_eq_places (by decide) hd',
      List.length_map, length_places, value_places, Nat.mod_eq_of_lt hd']
    exact ⟨rfl, rfl⟩
  | append_singleton ls l ih =>
    obtain ⟨hlen, hvalue⟩ := ih fun m hm => hls m (by simp [hm])
    obtain ⟨hlen', hvalue'⟩ := padded_level (hls l (by simp))
    rw [joinDigits_append_singleton, List.length_append, hlen, hlen', value_append, hvalue, hlen',
      hvalue', joined_snoc, List.length_append, List.length_singleton, Nat.mul_succ, Nat.add_assoc]
    exact ⟨rfl, rfl⟩

/-- **The digits of segments**, with zeros behind them up to the length of an id, denote the id that
is packed from the segments. -/
theorem value_rightpad_joinDigits (hlen : ls.length ≤ maxLevels) :
    value 16 ((joinDigits d ls).rightpad idDigits '0') = pack d ls := by
  obtain ⟨hjoin, hvalue⟩ := length_value_joinDigits hd hls
  have hrest : idDigits - (domainDigits + levelDigits * ls.length) =
      levelDigits * (maxLevels - ls.length) := Nat.sub_eq_of_eq_add' (idDigits_eq hlen)
  rw [List.rightpad, hjoin, hrest, value_append, hvalue, value_replicate_zero,
    List.length_replicate, ← levelSpan_pow_digits, pack_eq, Nat.add_zero]

end Join

/-! ## The digits of an id in range -/

variable {n : Nat} (hn : n < 2 ^ idBits)
include hn

/-- **The digits of an id** are its places in base sixteen. -/
theorem digits_natCast : digits (n : Int) = (places 16 idDigits n).map Nat.digitChar :=
  padded_eq_places (by decide) (two_pow_idBits ▸ hn)

/-- The digits of the domain and of some levels. -/
theorem take_digits {k : Nat} (hk : k ≤ maxLevels) :
    (digits (n : Int)).take (domainDigits + levelDigits * k) =
      (places 16 (domainDigits + levelDigits * k) (n / levelSpan ^ (maxLevels - k))).map
        Nat.digitChar := by
  rw [digits_natCast hn, ← List.map_take, idDigits_eq hk, take_places, levelSpan_pow_digits]

theorem value_take_digits {k : Nat} (hk : k ≤ maxLevels) :
    value 16 ((digits (n : Int)).take (domainDigits + levelDigits * k)) =
      n / levelSpan ^ (maxLevels - k) := by
  have hq : n / levelSpan ^ (maxLevels - k) < 16 ^ (domainDigits + levelDigits * k) := by
    rw [Nat.div_lt_iff_lt_mul (Nat.pow_pos (by decide)), levelSpan_pow_digits, ← Nat.pow_add,
      ← idDigits_eq hk, ← two_pow_idBits]
    exact hn
  rw [take_digits hn hk, value_places, Nat.mod_eq_of_lt hq]

theorem signedValue_take_digits {k : Nat} (hk : k ≤ maxLevels) (cs : List Char) :
    signedValue 16 ((digits (n : Int)).take (domainDigits + levelDigits * k) ++ cs) =
      value 16 ((digits (n : Int)).take (domainDigits + levelDigits * k) ++ cs) := by
  rw [take_digits hn hk]
  refine signedValue_map_digitChar (fun l hl => lt_of_mem_places (by decide) hl) 16 ?_ cs
  intro h
  have hlen := congrArg List.length h
  rw [length_places, List.length_nil] at hlen
  exact absurd hlen (by simp [domainDigits, domainBits])

/-! ## Segments read off the digits -/

/-- **The first eight digits denote the domain.** -/
theorem treeOf_natCast : treeOf (n : Int) = domain (n : Int) := by
  have hv := value_take_digits hn (Nat.zero_le _)
  have hs := signedValue_take_digits hn (Nat.zero_le _) []
  rw [List.append_nil] at hs
  rw [treeOf, domain_natCast]
  exact hs.trans (congrArg Nat.cast hv)

/-- **Truncated digits denote the id packed from fewer levels.** -/
theorem truncate_natCast {k : Nat} (hk : k ≤ maxLevels) :
    truncate (n : Int) k = pack (n / levelSpan ^ maxLevels) ((levels (n : Int)).take k) := by
  -- As many zeros are filled in as digits were cut off, so that the number shifts back.
  have hlen : idDigits - ((digits (n : Int)).take (domainDigits + levelDigits * k)).length =
      levelDigits * (maxLevels - k) := by
    rw [take_digits hn hk, List.length_map, length_places]
    exact Nat.sub_eq_of_eq_add' (idDigits_eq hk)
  rw [pack_take_levels n hk, truncate, List.rightpad, hlen, signedValue_take_digits hn hk,
    value_append, value_take_digits hn hk, value_replicate_zero, List.length_replicate,
    levelSpan_pow_digits]
  rfl

theorem levelChunk_natCast {i : Nat} (hi : i < maxLevels) :
    levelChunk (n : Int) i =
      (places 16 levelDigits (n / levelSpan ^ (maxLevels - 1 - i))).map Nat.digitChar := by
  have hbelow : levelDigits * (maxLevels - i) =
      levelDigits + levelDigits * (maxLevels - 1 - i) := by
    rw [show maxLevels - i = maxLevels - 1 - i + 1 by omega, Nat.mul_succ, Nat.add_comm]
  have hsum := idDigits_eq hi.le
  rw [hbelow] at hsum
  rw [levelChunk, digits_natCast hn, ← List.map_drop, ← List.map_take, hsum, drop_places,
    take_places, levelSpan_pow_digits]

/-- **The digits of a level denote it.** -/
theorem value_levelChunk {i : Nat} (hi : i < maxLevels) :
    value 16 (levelChunk (n : Int) i) = levelAt (n : Int) i := by
  have hlevel : levelAt (n : Int) i = n / levelSpan ^ (maxLevels - 1 - i) % levelSpan := by
    rw [levelAt, Int.shiftRight_eq_div_pow, ← levelSpan_pow, ← Int.natCast_ediv,
      ← Int.natCast_emod, Int.toNat_natCast]
  rw [levelChunk_natCast hn hi, value_places, hlevel]
  rfl

theorem levelChunk_eq_zeros_iff {i : Nat} (hi : i < maxLevels) :
    levelChunk (n : Int) i = List.replicate levelDigits '0' ↔ levelAt (n : Int) i = 0 := by
  rw [← value_levelChunk hn hi]
  constructor
  · intro h
    rw [h, value_replicate_zero]
  · intro h
    -- Places that denote zero are those of zero.
    rw [levelChunk_natCast hn hi, value_places] at h
    rw [levelChunk_natCast hn hi, ← places_mod, h, places_of_zero, List.map_replicate]
    rfl

/-- Chunks up to the first of zeros denote the levels up to the first that is zero. -/
theorem map_value_takeWhile_levelChunk {is : List Nat} (his : ∀ i ∈ is, i < maxLevels) :
    ((is.map (levelChunk (n : Int))).takeWhile (· ≠ List.replicate levelDigits '0')).map
        (value 16) =
      (is.map (levelAt (n : Int))).takeWhile (· ≠ 0) := by
  induction is with
  | nil => rfl
  | cons i is ih =>
    have hi := his i (by simp)
    have hz := levelChunk_eq_zeros_iff hn hi
    have ih := ih fun j hj => his j (by simp [hj])
    rw [List.map_cons, List.map_cons]
    -- Both runs stop at the same level, since its chunk is zeros exactly when it is zero.
    by_cases h : levelAt (n : Int) i = 0
    · rw [List.takeWhile_cons_of_neg (by simpa using hz.mpr h),
        List.takeWhile_cons_of_neg (by simpa using h), List.map_nil]
    · rw [List.takeWhile_cons_of_pos (by simpa using fun hc => h (hz.mp hc)),
        List.takeWhile_cons_of_pos (by simpa using h), List.map_cons, ih, value_levelChunk hn hi]

/-- **The tokens of an id** are its domain and its leading levels other than zero. -/
theorem tokens_natCast :
    tokens (n : Int) =
      (n / levelSpan ^ maxLevels :: (levels (n : Int)).takeWhile (· ≠ 0)).map Nat.repr := by
  have hkept := map_value_takeWhile_levelChunk hn
    fun i (hi : i ∈ List.range maxLevels) => List.mem_range.mp hi
  rw [tokens, treeOf_natCast hn, domain_natCast, List.map_cons, levels, ← hkept, List.map_map]
  rfl

end HatTree.HatId
