import HatTree.Proofs.HatId.Climb
import HatTree.Proofs.HatId.Meaning

/-!
# Truncation

The admin at a level keeps the domain and the first levels of an id, with zeros behind them. This is
the same whether it is read off the segments, the number or the dotted path, and for ids with gaps
as much as for well-formed ones. Truncating twice truncates to the lower of the two levels, and one
well-formed id is a truncation of another exactly when its path is the beginning of the other's.

## Main definitions

* `keep`: the id with the domain and the first levels of another

## Main results

* `adminAt_natCast`: the admin at a level keeps so many levels
* `levels_keep`, `div_keep`: its segments
* `keep_keep`: truncating twice
* `tokens_keep`: its tokens are the first ones
* `Path.pathTokens_prefix_iff`: beginnings of paths are truncations of ids
* `adminAt_truncates`: truncation in every representation
-/

namespace HatTree.HatId

open Layout

/-- **The id with the domain and the first levels of another.** -/
def keep (k n : Nat) : Nat := pack (n / levelSpan ^ maxLevels) ((levels (n : Int)).take k)

section Keep

variable {k l n : Nat}

theorem length_take_levels (hk : k ≤ 14) : ((levels (n : Int)).take k).length = k := by
  rw [List.length_take, length_levels]
  exact min_eq_left hk

theorem length_take_levels_le : ((levels (n : Int)).take k).length ≤ maxLevels :=
  (List.length_take_le' k _).trans (length_levels _).le

theorem lt_of_mem_take_levels {v : Nat} (hv : v ∈ (levels (n : Int)).take k) : v < levelSpan :=
  lt_of_mem_levels (List.mem_of_mem_take hv)

/-- **The domain is kept.** -/
theorem div_keep : keep k n / levelSpan ^ maxLevels = n / levelSpan ^ maxLevels :=
  div_pack length_take_levels_le fun _ => lt_of_mem_take_levels

theorem domain_keep : domain (keep k n : Nat) = domain (n : Int) := by
  rw [domain_natCast, domain_natCast, div_keep]

/-- **The first levels are kept**, and zeros follow them. -/
theorem levels_keep (hk : k ≤ 14) :
    levels (keep k n : Nat) = (levels (n : Int)).take k ++ List.replicate (14 - k) 0 := by
  rw [keep, levels_pack length_take_levels_le fun _ => lt_of_mem_take_levels,
    length_take_levels hk]
  rfl

theorem takeWhile_levels_keep :
    (levels (keep k n : Nat)).takeWhile (· ≠ 0) =
      ((levels (n : Int)).takeWhile (· ≠ 0)).take k := by
  rw [keep, takeWhile_levels_pack length_take_levels_le fun _ => lt_of_mem_take_levels,
    List.take_takeWhile]

theorem keep_lt (hn : n < 2 ^ idBits) : keep k n < 2 ^ idBits :=
  pack_lt length_take_levels_le (fun _ => lt_of_mem_take_levels) (domain_lt_iff.mpr hn)

theorem keep_maxLevels : keep maxLevels n = n := by
  rw [keep, List.take_of_length_le (length_levels _).le, pack_segments]

/-- **Truncating twice** is truncating to the lower of the two levels. -/
theorem keep_keep (hk : k ≤ 14) (hl : l ≤ 14) : keep l (keep k n) = keep (min k l) n := by
  refine eq_of_segments ?_ ?_
  · rw [div_keep, div_keep, div_keep]
  · rw [levels_keep hl, levels_keep hk, levels_keep ((min_le_left k l).trans hk), List.take_append,
      length_take_levels hk, List.take_take, List.take_replicate, min_comm l k, List.append_assoc,
      List.replicate_append_replicate]
    -- The levels left out are zeros, whichever truncation leaves them out.
    have hzeros : min (l - k) (14 - k) + (14 - l) = 14 - min k l := by omega
    rw [hzeros]

/-- **The admin at a level** keeps so many levels. -/
theorem adminAt_natCast (hn : n < 2 ^ idBits) (hk : k ≤ 14) :
    adminAt (n : Int) k = .ok (keep k n : Nat) := by
  rw [adminAt, if_pos ⟨Int.natCast_nonneg k, by exact_mod_cast hk⟩, Int.toNat_natCast,
    truncate_natCast hn hk, keep]

theorem length_tokens (hn : n < 2 ^ idBits) : (tokens (n : Int)).length = depth n + 1 := by
  rw [tokens_natCast hn, List.length_map, List.length_cons, depth]

/-- **The tokens of a truncated id** are the first ones. -/
theorem tokens_keep (hn : n < 2 ^ idBits) :
    tokens (keep k n : Nat) = (tokens (n : Int)).take (min k (depth n) + 1) := by
  have htake : (tokens (n : Int)).take (k + 1) = (tokens (n : Int)).take (min k (depth n) + 1) := by
    rw [List.take_eq_take_min, length_tokens hn, Nat.add_min_add_right]
  rw [← htake, tokens_natCast (keep_lt hn), tokens_natCast hn, div_keep, takeWhile_levels_keep,
    ← List.map_take, List.take_succ_cons]

theorem topHat_treeOf (hn : n < 2 ^ idBits) : topHat (treeOf (n : Int)) = .ok (keep 0 n : Nat) := by
  rw [treeOf_natCast hn, domain_natCast, topHat_natCast (domain_lt_iff.mpr hn)]
  rfl

end Keep

/-! ## Truncation and the beginnings of paths -/

theorem toList_repr_injective : Function.Injective fun v : Nat => (Nat.repr v).toList :=
  Function.LeftInverse.injective (g := Numeral.value 10) Numeral.value_repr

namespace Path

variable (p q : Path)

theorem pathTokens_toDotted :
    pathTokens (toDotted p.encode) = (p.tree :: p.levels).map fun v => (Nat.repr v).toList := by
  rw [toDotted, tokens_natCast p.encode_lt, p.div_encode, p.takeWhile_levels_encode,
    pathTokens_intercalate (List.cons_ne_nil _ _)]

/-- **Beginnings of paths are truncations of ids.** -/
theorem pathTokens_prefix_iff :
    pathTokens (toDotted p.encode) <+: pathTokens (toDotted q.encode) ↔
      adminAt q.encode (depth p.encode) = .ok p.encode := by
  have hlen : depth (p.encode : Int) ≤ 14 := depth_le _
  have hadmin : adminAt q.encode (depth p.encode) = .ok p.encode ↔
      q.take p.levels.length = p := by
    rw [q.adminAt_encode hlen, p.depth_encode, Except.ok.injEq, Nat.cast_inj,
      encode_injective.eq_iff]
  rw [hadmin, pathTokens_toDotted, pathTokens_toDotted,
    List.prefix_map_iff_of_injective toList_repr_injective, List.cons_prefix_cons,
    List.prefix_iff_eq_take, Path.ext_iff, tree_take, levels_take, eq_comm, @eq_comm _ p.levels]

end Path

/-- **Truncation in every representation.** The admin at a level of an id of 256 bits, with or
without gaps, has its domain and its first levels, the others zero; its own admins are the id's up
to that level; and its path is the first tokens of the id's. Level fourteen gives the id itself and
level zero the top hat of its tree. Of two well-formed ids, the path of one is the beginning of that
of the other exactly when it is the other's admin at its depth. -/
theorem adminAt_truncates {h : Int} (h₀ : 0 ≤ h) (h₁ : h < 2 ^ 256) :
    (∀ k : Nat, k ≤ 14 → ∃ a, adminAt h k = .ok a ∧
        domain a = domain h ∧ levels a = (levels h).take k ++ List.replicate (14 - k) 0 ∧
        (∀ l : Nat, l ≤ 14 → adminAt a l = adminAt h (min k l : Nat)) ∧
        toDotted a = ".".intercalate ((tokens h).take (min k (depth h) + 1))) ∧
      adminAt h 14 = .ok h ∧
      (∃ top, adminAt h 0 = .ok top ∧ topHat (treeOf h) = .ok top) ∧
      ∀ a : Int, 0 ≤ a → a < 2 ^ 256 → isWellFormed a = true → isWellFormed h = true →
        (pathTokens (toDotted a) <+: pathTokens (toDotted h) ↔ adminAt h (depth a) = .ok a) := by
  obtain ⟨n, rfl⟩ := Int.eq_ofNat_of_zero_le h₀
  have hn : n < 2 ^ idBits := by
    rw [idBits]
    exact_mod_cast h₁
  refine ⟨fun k hk => ?_, ?_, ?_, fun a ha₀ ha₁ ha hw => ?_⟩
  · refine ⟨_, adminAt_natCast hn hk, domain_keep, levels_keep hk, fun l hl => ?_, ?_⟩
    · rw [adminAt_natCast (keep_lt hn) hl, adminAt_natCast hn ((min_le_left k l).trans hk),
        keep_keep hk hl]
    · rw [toDotted, tokens_keep hn]
  · have hall := adminAt_natCast hn (k := maxLevels) le_rfl
    rwa [keep_maxLevels] at hall
  · exact ⟨_, adminAt_natCast hn (Nat.zero_le 14), topHat_treeOf hn⟩
  · -- Both are ids of paths.
    obtain ⟨p, -, rfl⟩ := Path.bijOn_encode.surjOn ⟨ha₀, ha₁, ha⟩
    obtain ⟨q, -, hq⟩ := Path.bijOn_encode.surjOn ⟨h₀, h₁, hw⟩
    rw [← hq]
    exact p.pathTokens_prefix_iff q

/-- An id with a gap, truncated below the gap: the zero level is kept, and the path stops at it. -/
theorem adminAt_truncates_gapped :
    (0 : Int) ≤ pack 1 [2, 0, 3, 4] ∧ ((pack 1 [2, 0, 3, 4] : Nat) : Int) < 2 ^ 256 ∧
      adminAt (pack 1 [2, 0, 3, 4] : Nat) 3 = .ok (pack 1 [2, 0, 3] : Nat) ∧
      ∃ a, adminAt (pack 1 [2, 0, 3, 4] : Nat) 3 = .ok a ∧ toDotted a = "1.2" ∧
        adminAt a 2 = adminAt (pack 1 [2, 0, 3, 4] : Nat) 2 := by
  have h₀ : (0 : Int) ≤ pack 1 [2, 0, 3, 4] := by decide
  have h₁ : ((pack 1 [2, 0, 3, 4] : Nat) : Int) < 2 ^ 256 := by decide
  obtain ⟨a, ha, -, -, hagain, hdotted⟩ := (adminAt_truncates h₀ h₁).1 3 (by decide)
  exact ⟨h₀, h₁, by decide +kernel, a, ha, hdotted.trans (by decide), hagain 2 (by decide)⟩

end HatTree.HatId
