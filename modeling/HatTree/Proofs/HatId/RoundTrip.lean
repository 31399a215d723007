import HatTree.Proofs.HatId.Digits
import HatTree.Proofs.HatId.Language

/-!
# Through the dotted form and back

The dotted path of an id holds its domain and its leading levels. Reading the path therefore gives
the id with everything behind the first empty level cleared: the admin at the depth of the hat,
which is the hat itself exactly when the id is well formed.

## Main results

* `isReadable_repr`: a written value that fits its segment is readable
* `ofDotted_tokens`: a path written from segments names the id packed from them
* `ofDotted_toDotted`: the round trip of every id, with or without gaps
* `dotted_round_trip`: where it ends, and which ids survive it
-/

namespace HatTree.HatId

open Layout Numeral

/-! ## Reading what was written -/

theorem point_not_mem_repr (v : Nat) : '.' ∉ (Nat.repr v).toList := fun h => by
  cases isDigit_of_mem_repr h

/-- **A written value that fits its segment is readable.** -/
theorem isReadable_repr {position v : Nat} (hv : v ≤ if position = 0 then 4294967295 else 65535) :
    IsReadable position (Nat.repr v).toList := by
  refine ⟨⟨⟨?_, fun c hc => isDigit_of_mem_repr hc⟩, ?_⟩, fun hlong => ?_⟩
  · intro hnil
    have hpos : 0 < (Nat.repr v).toList.length := by
      rw [Nat.toList_repr]
      exact Nat.length_toDigits_pos
    rw [hnil] at hpos
    cases hpos
  · rw [value_repr]
    exact hv
  · -- The greatest domain has ten digits, far fewer than are read.
    have hv' : v < 10 ^ 10 := by
      split at hv <;> omega
    have hlen := (Nat.length_toDigits_le_iff (by decide) (by decide)).mpr hv'
    rw [← Nat.toList_repr] at hlen
    have hmany := hlong.2
    omega

theorem pathTokens_intercalate {vs : List Nat} (hne : vs ≠ []) :
    pathTokens (".".intercalate (vs.map Nat.repr)) = vs.map fun v => (Nat.repr v).toList := by
  rw [pathTokens, String.toList_intercalate, List.map_map]
  refine List.splitOn_intercalate '.' (fun cs hcs => ?_) (by simpa using hne)
  obtain ⟨v, -, rfl⟩ := List.mem_map.mp hcs
  exact point_not_mem_repr v

/-- **A path written from segments names the id packed from them.** -/
theorem ofDotted_tokens {d : Nat} {ls : List Nat} (hd : d ≤ maxDomain)
    (hlen : ls.length ≤ maxLevels) (hls : ∀ l ∈ ls, l < levelSpan) :
    ofDotted (".".intercalate ((d :: ls).map Nat.repr)) = .ok (pack d ls : Nat) := by
  have htokens := pathTokens_intercalate (List.cons_ne_nil d ls)
  have hvalues : tokenValues (".".intercalate ((d :: ls).map Nat.repr)) = d :: ls := by
    rw [tokenValues, htokens, List.map_map]
    exact List.map_id'' value_repr _
  refine ofDotted_eq_ok_iff.mpr ⟨⟨?_, fun i token hi => ?_⟩, by rw [hvalues]; rfl⟩
  · rw [htokens, List.length_map]
    exact Nat.succ_le_succ hlen
  · rw [htokens, List.getElem?_map, Option.map_eq_some_iff] at hi
    obtain ⟨v, hv, rfl⟩ := hi
    refine isReadable_repr ?_
    cases i with
    | zero =>
      cases hv
      exact hd
    | succ i =>
      have hlt := hls v (List.mem_of_getElem? hv)
      rw [levelSpan_eq] at hlt
      rw [if_neg (Nat.succ_ne_zero i)]
      omega

/-! ## The round trip -/

section RoundTrip

variable {n : Nat} (hn : n < 2 ^ idBits)
include hn

theorem domain_le_maxDomain : n / levelSpan ^ maxLevels ≤ maxDomain :=
  Nat.le_sub_one_of_lt (domain_lt_iff.mpr hn)

/-- **The dotted form of every id is read**, as the id cut behind its leading levels. -/
theorem ofDotted_toDotted : ofDotted (toDotted (n : Int)) = .ok (truncate (n : Int) (depth n)) := by
  have htake := take_depth_levels (n : Int)
  have hlen : ((levels (n : Int)).takeWhile (· ≠ 0)).length ≤ maxLevels := depth_le n
  rw [truncate_natCast hn (depth_le n), htake, toDotted, tokens_natCast hn]
  exact ofDotted_tokens (domain_le_maxDomain hn) hlen fun l hl =>
    lt_of_mem_levels ((List.takeWhile_sublist _).subset hl)

/-- **Cutting an id behind its leading levels** changes nothing exactly when it is well formed. -/
theorem truncate_depth_eq_self_iff :
    truncate (n : Int) (depth n) = n ↔ isWellFormed (n : Int) = true := by
  have hlen := length_take_depth_levels (n : Int)
  have hcut : levels (truncate (n : Int) (depth n)) =
      (levels (n : Int)).take (depth n) ++ List.replicate (maxLevels - depth n) 0 := by
    rw [truncate_natCast hn (depth_le n), levels_pack (hlen.le.trans (depth_le n))
      (fun l hl => lt_of_mem_levels (List.mem_of_mem_take hl)), hlen]
  constructor
  · intro h
    rw [isWellFormed_iff, ← hcut, h]
  · intro hw
    rw [truncate_natCast hn (depth_le n), pack_take_depth_levels hw]

end RoundTrip

/-- **The dotted form of every id is read back** as the admin at the depth of the hat, and this is
the hat itself exactly when its id is well formed. -/
theorem dotted_round_trip (h : Int) (h₀ : 0 ≤ h) (h₁ : h < 2 ^ 256) :
    ∃ a : Int, ofDotted (toDotted h) = .ok a ∧ adminAt h (depth h) = .ok a ∧
      (a = h ↔ isWellFormed h = true) := by
  obtain ⟨n, rfl⟩ := Int.eq_ofNat_of_zero_le h₀
  have hn : n < 2 ^ idBits := by
    rw [idBits]
    exact_mod_cast h₁
  refine ⟨truncate n (depth n), ofDotted_toDotted hn, ?_, truncate_depth_eq_self_iff hn⟩
  have hdepth := depth_le (n : Int)
  rw [adminAt, if_pos (by omega), Int.toNat_natCast]

/-- An id with a gap: the domain and the first level survive, the third level is lost. -/
theorem dotted_round_trip_gapped :
    (0 : Int) ≤ pack 1 [2, 0, 3] ∧ ((pack 1 [2, 0, 3] : Nat) : Int) < 2 ^ 256 ∧
      ∃ a : Int, ofDotted (toDotted (pack 1 [2, 0, 3] : Nat)) = .ok a ∧
        adminAt (pack 1 [2, 0, 3] : Nat) (depth (pack 1 [2, 0, 3] : Nat)) = .ok a ∧
        (a = (pack 1 [2, 0, 3] : Nat) ↔ isWellFormed (pack 1 [2, 0, 3] : Nat) = true) :=
  ⟨by decide, by decide, dotted_round_trip (pack 1 [2, 0, 3] : Nat) (by decide) (by decide)⟩

end HatTree.HatId
