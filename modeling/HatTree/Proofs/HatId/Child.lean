import HatTree.Proofs.HatId.Truncation

/-!
# The ids of children

The id of a child is that of its admin with one level changed: the first empty one takes the number
of the child, and nothing else moves, whatever the levels below it hold. Only where these are empty
is the child one level deeper than its admin; in an id with a gap the number may close the gap, and
the child then lies as deep as the levels behind it reach.

## Main results

* `child_natCast`: the id of a child is packed from its admin's levels with the first empty one set
* `takeWhile_set_length`: how far the leading levels reach once the first empty one is set
* `child_sets_level`: what a child has in common with its admin
-/

namespace HatTree

/-! ## Changing one place -/

/-- What continues a sum continues one summand, and the other moves on. -/
theorem joined_add {b : Nat} (d e : Nat) (ls : List Nat) :
    joined b (d + e) ls = joined b d ls + e * b ^ ls.length := by
  induction ls using List.reverseRecOn with
  | nil => simp
  | append_singleton ls l ih =>
    rw [joined_snoc, joined_snoc, ih, List.length_append, List.length_singleton, Nat.pow_succ]
    ring

/-- **Setting an empty place** adds its new value times its weight. -/
theorem joined_set {b d i m : Nat} {ls : List Nat} (hi : ls[i]? = some 0) :
    joined b d (ls.set i m) = joined b d ls + m * b ^ (ls.length - 1 - i) := by
  obtain ⟨hlt, hzero⟩ := List.getElem?_eq_some_iff.mp hi
  have hlen : (ls.drop (i + 1)).length = ls.length - 1 - i := by
    rw [List.length_drop]
    omega
  have hjoin (l : Nat) : joined b d (ls.take i ++ l :: ls.drop (i + 1)) =
      joined b (joined b d (ls.take i) * b + l) (ls.drop (i + 1)) := by
    rw [List.append_cons, joined_append, joined_snoc]
  have hsplit : joined b d ls = joined b (joined b d (ls.take i) * b) (ls.drop (i + 1)) := by
    rw [← Nat.add_zero (joined b d (ls.take i) * b), ← hjoin, ← hzero,
      ← List.drop_eq_getElem_cons hlt, List.take_append_drop]
  -- Before the place nothing changes, and behind it the difference moves on.
  rw [List.set_eq_take_cons_drop _ hlt, hjoin, joined_add, hlen, hsplit]

namespace HatId

open Layout

/-! ## The first empty level -/

section TakeWhile

variable {α : Type} {p : α → Bool} {xs : List α} {i : Nat}

/-- **How far the leading members reach** once one that leads is put behind them: over that one, and
over those that lead behind it. -/
theorem takeWhile_set_length {x : α} (hx : p x = true)
    (hlt : (xs.takeWhile p).length < xs.length) :
    (xs.set (xs.takeWhile p).length x).takeWhile p =
      xs.takeWhile p ++ x :: (xs.drop ((xs.takeWhile p).length + 1)).takeWhile p := by
  have htake : xs.take (xs.takeWhile p).length = xs.takeWhile p :=
    (List.prefix_iff_eq_take.mp (List.takeWhile_prefix p)).symm
  rw [List.set_eq_take_cons_drop _ hlt, htake,
    List.takeWhile_append_of_pos fun _ => List.mem_takeWhile_imp, List.takeWhile_cons_of_pos hx]

/-- None leads from a place on exactly if the one there does not, or there is none. -/
theorem takeWhile_drop_eq_nil_iff :
    (xs.drop i).takeWhile p = [] ↔ xs.length ≤ i ∨ ∃ x, xs[i]? = some x ∧ p x = false := by
  rcases Nat.lt_or_ge i xs.length with hi | hi
  · rw [List.drop_eq_getElem_cons hi, List.getElem?_eq_getElem hi]
    cases hx : p xs[i] <;> simp [hx, hi]
  · simp [List.drop_eq_nil_of_le hi, hi]

end TakeWhile

/-- **The id with the first empty level of another set.** -/
def fill (m n : Nat) : Nat :=
  pack (n / levelSpan ^ maxLevels) ((levels (n : Int)).set (depth (n : Int)) m)

section Fill

variable {m n : Nat}

theorem length_set_levels_le : ((levels (n : Int)).set (depth (n : Int)) m).length ≤ maxLevels := by
  rw [List.length_set, length_levels]

theorem fill_eq_add (hdepth : depth (n : Int) < 14) :
    fill m n = n + m * levelSpan ^ (13 - depth (n : Int)) := by
  have hlen : (levels (n : Int)).length = maxLevels := length_levels n
  have hall := pack_segments n
  rw [pack_eq, hlen, Nat.sub_self, Nat.pow_zero, Nat.mul_one] at hall
  rw [fill, pack_eq, List.length_set, hlen, Nat.sub_self, Nat.pow_zero, Nat.mul_one,
    joined_set (getElem?_levels_depth hdepth), hall, hlen]
  rfl

/-- **The id of a child** is that of its admin with the first empty level set. -/
theorem child_natCast (hdepth : depth (n : Int) < 14) (hm : 1 ≤ m ∧ m ≤ 65535) :
    child (n : Int) m = .ok (fill m n : Nat) := by
  refine child_eq_ok_iff.mpr ⟨hdepth.ne, by omega, ?_⟩
  rw [fill_eq_add hdepth]
  push_cast
  rfl

section Segments

variable (hm : m ≤ 65535)
include hm

theorem lt_of_mem_set_levels {v : Nat} (hv : v ∈ (levels (n : Int)).set (depth (n : Int)) m) :
    v < levelSpan := by
  rcases List.mem_or_eq_of_mem_set hv with hv | rfl
  · exact lt_of_mem_levels hv
  · exact Nat.lt_succ_of_le hm

/-- **The other levels are those of the admin.** -/
theorem levels_fill :
    levels (fill m n : Nat) = (levels (n : Int)).set (depth (n : Int)) m := by
  rw [fill, levels_pack length_set_levels_le fun _ => lt_of_mem_set_levels hm, List.length_set,
    length_levels, Nat.sub_self, List.replicate_zero, List.append_nil]

theorem div_fill : fill m n / levelSpan ^ maxLevels = n / levelSpan ^ maxLevels :=
  div_pack length_set_levels_le fun _ => lt_of_mem_set_levels hm

theorem fill_lt (hn : n < 2 ^ idBits) : fill m n < 2 ^ idBits :=
  pack_lt length_set_levels_le (fun _ => lt_of_mem_set_levels hm) (domain_lt_iff.mpr hn)

/-- Down to the depth of the admin, the child has the admin's levels. -/
theorem keep_depth_fill : keep (depth (n : Int)) (fill m n) = keep (depth (n : Int)) n := by
  rw [keep, keep, div_fill hm, levels_fill hm, List.take_set_of_le le_rfl]

end Segments

/-- **The depth of a child**: one below its admin, and further as long as the levels that follow are
not empty. -/
theorem depth_fill (hdepth : depth (n : Int) < 14) (hm : 1 ≤ m ∧ m ≤ 65535) :
    depth (fill m n : Nat) =
      depth (n : Int) + 1 +
        (((levels (n : Int)).drop (depth (n : Int) + 1)).takeWhile (· ≠ 0)).length := by
  have hlt : ((levels (n : Int)).takeWhile (· ≠ 0)).length < (levels (n : Int)).length := by
    rw [length_levels]
    exact hdepth
  have hlead := takeWhile_set_length (p := (· ≠ 0)) (x := m) (by simpa using by omega) hlt
  rw [depth, levels_fill hm.2]
  show ((((levels (n : Int)).set ((levels (n : Int)).takeWhile (· ≠ 0)).length m)).takeWhile
    (· ≠ 0)).length = _
  rw [hlead, List.length_append, List.length_cons, ← Nat.add_assoc, Nat.add_right_comm]
  rfl

/-- A child is one level below its admin exactly if the level behind its own is empty or does not
exist. -/
theorem depth_fill_eq_succ_iff (hdepth : depth (n : Int) < 14) (hm : 1 ≤ m ∧ m ≤ 65535) :
    depth (fill m n : Nat) = depth (n : Int) + 1 ↔
      depth (n : Int) = 13 ∨ (levels (n : Int))[depth (n : Int) + 1]? = some 0 := by
  have hlast : (levels (n : Int)).length ≤ depth (n : Int) + 1 ↔ depth (n : Int) = 13 := by
    rw [length_levels, maxLevels]
    omega
  rw [depth_fill hdepth hm, Nat.add_eq_left, List.length_eq_zero_iff, takeWhile_drop_eq_nil_iff,
    hlast]
  simp

end Fill

/-- **A child's id sets one level of its admin's.** An admin of 256 bits, with or without gaps, has
an `n`-th child exactly if it is above the deepest level and `n` is a number of 16 bits from one on.
The child's id has 256 bits and the segments of the admin's, but for the level at the admin's depth,
which was empty and is `n`; as a number it lies above the admin's by `n` times the weight of that
level, whether this is added or set by bits. The child lies at least one level below the admin, and
exactly one if the next level is empty or does not exist. Its admin at the admin's depth is the
admin itself exactly if that is well formed. -/
theorem child_sets_level {a : Int} (h₀ : 0 ≤ a) (h₁ : a < 2 ^ 256) (n : Int) :
    ((∃ c, child a n = .ok c) ↔ depth a < 14 ∧ 1 ≤ n ∧ n ≤ 65535) ∧
      ∀ c, child a n = .ok c →
        (0 ≤ c ∧ c < 2 ^ 256) ∧
        domain c = domain a ∧
        (levels a)[depth a]? = some 0 ∧ levels c = (levels a).set (depth a) n.toNat ∧
        c = a + n * 2 ^ (16 * (13 - depth a)) ∧
        c = Int.lor a (n <<< (16 * (13 - depth a))) ∧
        depth a + 1 ≤ depth c ∧
        (depth c = depth a + 1 ↔ depth a = 13 ∨ (levels a)[depth a + 1]? = some 0) ∧
        (adminAt c (depth a) = .ok a ↔ isWellFormed a = true) := by
  obtain ⟨k, rfl⟩ := Int.eq_ofNat_of_zero_le h₀
  have hk : k < 2 ^ idBits := by
    rw [idBits]
    exact_mod_cast h₁
  have hle : depth (k : Int) ≤ 14 := depth_le k
  constructor
  · constructor
    · rintro ⟨c, hc⟩
      obtain ⟨hne, hn, -⟩ := child_eq_ok_iff.mp hc
      exact ⟨by omega, hn⟩
    · rintro ⟨hdepth, hn⟩
      exact ⟨_, child_eq_ok_iff.mpr ⟨hdepth.ne, hn, rfl⟩⟩
  · intro c hc
    obtain ⟨hne, hn, -⟩ := child_eq_ok_iff.mp hc
    have hdepth : depth (k : Int) < 14 := by omega
    obtain ⟨m, rfl⟩ := Int.eq_ofNat_of_zero_le (show 0 ≤ n by omega)
    have hm : 1 ≤ m ∧ m ≤ 65535 := by omega
    obtain rfl : (fill m k : Nat) = c := by
      rw [child_natCast hdepth hm] at hc
      exact Except.ok.inj hc
    have hlt := fill_lt hm.2 hk
    refine ⟨⟨Int.natCast_nonneg _, by exact_mod_cast hlt⟩, ?_, getElem?_levels_depth hdepth,
      levels_fill hm.2, ?_, ?_, ?_, depth_fill_eq_succ_iff hdepth hm, ?_⟩
    · rw [domain_natCast, domain_natCast, div_fill hm.2]
    · rw [fill_eq_add hdepth, levelSpan_pow]
      push_cast
      rfl
    · exact eq_lor_of_child hc
    · rw [depth_fill hdepth hm]
      exact Nat.le_add_right _ _
    · rw [adminAt_natCast hlt hle, keep_depth_fill hm.2, Except.ok.injEq, keep,
        ← truncate_natCast hk hle]
      exact truncate_depth_eq_self_iff hk

/-- A child that closes the gap of its admin's id: it is two levels below the admin, and its own
admin there is another hat. -/
theorem child_sets_level_gap :
    (0 : Int) ≤ pack 1 [2, 0, 3] ∧ ((pack 1 [2, 0, 3] : Nat) : Int) < 2 ^ 256 ∧
      child (pack 1 [2, 0, 3] : Nat) 5 = .ok (pack 1 [2, 5, 3] : Nat) ∧
      depth (pack 1 [2, 5, 3] : Nat) = 3 ∧
      adminAt (pack 1 [2, 5, 3] : Nat) 1 ≠ .ok (pack 1 [2, 0, 3] : Nat) := by
  have h₀ : (0 : Int) ≤ pack 1 [2, 0, 3] := by decide
  have h₁ : ((pack 1 [2, 0, 3] : Nat) : Int) < 2 ^ 256 := by decide
  have hchild : child (pack 1 [2, 0, 3] : Nat) 5 = .ok (pack 1 [2, 5, 3] : Nat) := by
    decide +kernel
  obtain ⟨-, -, -, -, -, -, -, -, hadmin⟩ := (child_sets_level h₀ h₁ 5).2 _ hchild
  refine ⟨h₀, h₁, hchild, by decide, fun h => ?_⟩
  exact absurd (hadmin.mp h) (by decide)

end HatId

end HatTree
