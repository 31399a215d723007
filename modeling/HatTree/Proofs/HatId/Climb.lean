import HatTree.HatId.Walk
import HatTree.Proofs.HatId.Bits
import HatTree.Proofs.HatId.Path

/-!
# Climbing on ids and on paths

Truncating digits, shifting a number into an empty level and reading segments are, on the ids of
paths, nothing but cutting a list, putting a number at its end and measuring it. A climb through a
tree therefore takes ids and paths to the same places, however long it is.

## Main definitions

* `Climb`: a move within a tree
* `Path.climb`, `Path.reach`: where climbs lead on paths
* `position`: where a walk on ids stands after moves

## Main results

* `adminAt_encode`, `topHat_encode`, `child_encode_extend`: single operations
* `step_encode`: one move
* `position_encode`: any number of moves
* `ids_simulate_paths`: the correspondence as a whole
-/

namespace HatTree.HatId

open Layout

/-! ## Single operations -/

namespace Path

theorem treeOf_encode (p : Path) : treeOf (p.encode : Int) = p.tree := by
  rw [treeOf_natCast p.encode_lt, domain_encode]

/-- **The admin at a level** has the path cut there. -/
theorem adminAt_encode (p : Path) {k : Nat} (hk : k ≤ 14) :
    adminAt p.encode k = .ok (p.take k).encode := by
  have hlen := p.length_le
  have hroom : (p.levels.take k).length + (k - p.levels.length) ≤ maxLevels := by
    rw [List.length_take, maxLevels]
    omega
  -- Beyond the path, the cut takes some of the zeros that follow it.
  have hcut : (HatId.levels (p.encode : Int)).take k =
      p.levels.take k ++ List.replicate (k - p.levels.length) 0 := by
    have hmin : min (k - p.levels.length) (maxLevels - p.levels.length) = k - p.levels.length := by
      rw [maxLevels]
      omega
    rw [levels_encode, List.take_append, List.take_replicate, hmin]
  rw [adminAt, if_pos ⟨Int.natCast_nonneg k, by exact_mod_cast hk⟩, Int.toNat_natCast,
    truncate_natCast p.encode_lt hk, div_encode, hcut, pack_append_zeros _ hroom, encode_eq_pack]
  rfl

/-- **The top hat of the tree** has the empty path. -/
theorem topHat_encode (p : Path) : topHat (treeOf p.encode) = .ok (p.take 0).encode := by
  rw [treeOf_encode, topHat_natCast p.tree_lt, encode_eq_pack]
  rfl

/-- **A child** has the path with its number at the end. -/
theorem child_encode_extend (p : Path) {n : Nat} (hp : p.levels.length < 14)
    (hn : 1 ≤ n ∧ n ≤ 65535) : child p.encode n = .ok (p.extend n hp hn).encode := by
  have hdepth : depth (p.encode : Int) ≠ 14 := by
    rw [depth_encode]
    exact hp.ne
  -- The number takes the first empty level, and every number before it has that level's weight
  -- times the span as a factor.
  have hexp : (maxLevels - p.levels.length - 1).succ = maxLevels - p.levels.length := by
    rw [maxLevels]
    omega
  have hpack : (p.extend n hp hn).encode =
      p.encode + n * levelSpan ^ (maxLevels - p.levels.length - 1) := by
    rw [encode_eq_pack, encode_eq_pack, tree_extend, levels_extend, pack_eq, pack_eq, joined_snoc,
      List.length_append, List.length_singleton, ← Nat.sub_sub, Nat.add_mul, Nat.mul_assoc,
      ← Nat.pow_succ', hexp]
  refine child_eq_ok_iff.mpr ⟨hdepth, by omega, ?_⟩
  rw [hpack, depth_encode, maxLevels, Nat.sub_right_comm]
  push_cast
  rfl

/-- A hat on the deepest level has no child, whatever its number. -/
theorem child_encode_deepest (p : Path) (hp : p.levels.length = 14) (n : Int) :
    child p.encode n = .error (.deepest p.encode) := by
  rw [child, if_pos (depth_encode p ▸ hp)]

/-- Above the deepest level, only numbers of 16 bits from one on are those of children. -/
theorem child_encode_noRoom (p : Path) (hp : p.levels.length < 14) {n : Int}
    (hn : ¬ (1 ≤ n ∧ n ≤ 65535)) : child p.encode n = .error (.noRoom p.encode n) := by
  have hdepth : ¬ depth (p.encode : Int) = maxLevels := by
    rw [depth_encode, maxLevels]
    omega
  have hrange : ¬ (1 ≤ n ∧ n ≤ (maxLevelHats : Int)) := hn
  rw [child, if_neg hdepth, if_neg hrange]

end Path

/-! ## Climbs -/

/-- **A move within a tree.** -/
inductive Climb where
  /-- Down to the `n`-th child. -/
  | child (n : Int)
  /-- Up to the admin at a level. -/
  | admin (level : Int)
  /-- Up to the direct admin. -/
  | parent
  /-- Up to the top hat. -/
  | top
  deriving DecidableEq, Repr

/-- The move on ids. -/
def Climb.toMove : Climb → Move
  | child n => .child n
  | admin level => .admin level
  | parent => .parent
  | top => .top

/-- **Where a climb leads from a path**, if it leads anywhere. -/
def Path.climb (p : Path) : Climb → Option Path
  | .child n =>
    if h : p.levels.length < 14 ∧ 1 ≤ n.toNat ∧ n.toNat ≤ 65535 then
      some (p.extend n.toNat h.1 h.2)
    else none
  | .admin level => if 0 ≤ level ∧ level ≤ 14 then some (p.take level.toNat) else none
  | .parent => if p.levels = [] then none else some (p.take (p.levels.length - 1))
  | .top => some (p.take 0)

/-- **The path reached by climbs**, one after the other; one that leads nowhere is left out. -/
def Path.reach (p : Path) (cs : List Climb) : Path := cs.foldl (fun q c => (q.climb c).getD q) p

/-- **Where a walk stands after moves.** -/
def position (h : Int) (ms : List Move) : Int := ms.foldl Move.step h

/-- **One climb** leads from the id of a path to the id of where it leads from the path, and fails
where that leads nowhere. -/
theorem toOption_apply_encode (p : Path) (c : Climb) :
    (c.toMove.apply p.encode).toOption = (p.climb c).map fun q => (q.encode : Int) := by
  have hlen := p.length_le
  cases c with
  | child n =>
    -- The depth is looked at before the number.
    by_cases hp : p.levels.length = 14
    · have hnone : p.climb (.child n) = none := dif_neg (by omega)
      rw [hnone, Climb.toMove, Move.apply, p.child_encode_deepest hp]
      rfl
    · have hp' : p.levels.length < 14 := by omega
      by_cases hn : 1 ≤ n ∧ n ≤ 65535
      · have hn' : 1 ≤ n.toNat ∧ n.toNat ≤ 65535 := by omega
        have hsome : p.climb (.child n) = some (p.extend n.toNat hp' hn') := dif_pos ⟨hp', hn'⟩
        have hchild := p.child_encode_extend hp' hn'
        rw [Int.toNat_of_nonneg (by omega)] at hchild
        rw [hsome, Climb.toMove, Move.apply, hchild]
        rfl
      · have hnone : p.climb (.child n) = none := dif_neg (by omega)
        rw [hnone, Climb.toMove, Move.apply, p.child_encode_noRoom hp' hn]
        rfl
  | admin level =>
    by_cases hl : 0 ≤ level ∧ level ≤ 14
    · have hadmin := p.adminAt_encode (k := level.toNat) (by omega)
      rw [Int.toNat_of_nonneg hl.1] at hadmin
      rw [Climb.toMove, Move.apply, hadmin, Path.climb, if_pos hl]
      rfl
    · have hl' : ¬ (0 ≤ level ∧ level ≤ (maxLevels : Int)) := hl
      rw [Climb.toMove, Move.apply, adminAt, if_neg hl', Path.climb, if_neg hl]
      rfl
  | parent =>
    rw [Climb.toMove, Move.apply, p.depth_encode, Path.climb]
    rcases Nat.eq_zero_or_pos p.levels.length with h | h
    · -- The parent of a top hat would be its admin at a level below zero.
      rw [if_pos (List.length_eq_zero_iff.mp h), h, adminAt, if_neg (by omega)]
      rfl
    · have hlevel : (p.levels.length : Int) - 1 = (p.levels.length - 1 : Nat) := by omega
      rw [if_neg (List.length_pos_iff.mp h), hlevel, p.adminAt_encode (by omega)]
      rfl
  | top =>
    rw [Climb.toMove, Move.apply, p.topHat_encode]
    rfl

/-- **One climb**, which stays where it is when it leads nowhere. -/
theorem step_encode (p : Path) (c : Climb) :
    c.toMove.step p.encode = ((p.climb c).getD p).encode := by
  have h := toOption_apply_encode p c
  -- Both lead somewhere or neither does, and then both stay.
  rw [Move.step]
  cases hm : c.toMove.apply p.encode <;> cases hc : p.climb c <;>
    simp_all [Except.toOption]

/-- **Any number of climbs** leads from the id of a path to the id of the path reached. -/
theorem position_encode (p : Path) (cs : List Climb) :
    position p.encode (cs.map Climb.toMove) = (p.reach cs).encode := by
  induction cs generalizing p with
  | nil => rfl
  | cons c cs ih =>
    have hstep := step_encode p c
    rw [List.map_cons, position, List.foldl_cons, hstep]
    exact ih _

theorem tree_climb {p q : Path} {c : Climb} (h : p.climb c = some q) : q.tree = p.tree := by
  cases c with
  | child n =>
    rw [Path.climb] at h
    split at h
    · rw [← Option.some.inj h, Path.tree_extend]
    · cases h
  | admin level =>
    rw [Path.climb] at h
    split at h
    · rw [← Option.some.inj h, Path.tree_take]
    · cases h
  | parent =>
    rw [Path.climb] at h
    split at h
    · cases h
    · rw [← Option.some.inj h, Path.tree_take]
  | top => rw [← Option.some.inj h, Path.tree_take]

theorem tree_reach (p : Path) (cs : List Climb) : (p.reach cs).tree = p.tree := by
  induction cs generalizing p with
  | nil => rfl
  | cons c cs ih =>
    rw [Path.reach, List.foldl_cons, ← Path.reach, ih]
    cases h : p.climb c with
    | none => rfl
    | some q => exact tree_climb h

/-! ## The correspondence -/

/-- **Ids simulate paths.** The ids of paths are exactly the well-formed ids of 256 bits; each
operation on the id of a path is an operation on the path; and from a well-formed id, climbs of any
number reach the id of the path they reach on paths, which is well formed and of the same tree. -/
theorem ids_simulate_paths :
    Set.BijOn (fun p : Path => (p.encode : Int)) Set.univ
        {h | 0 ≤ h ∧ h < 2 ^ 256 ∧ isWellFormed h = true} ∧
      (∀ p : Path,
        depth p.encode = p.levels.length ∧
        treeOf p.encode = p.tree ∧
        (∀ k : Nat, k ≤ 14 → adminAt p.encode k = .ok (p.take k).encode) ∧
        topHat (treeOf p.encode) = .ok (p.take 0).encode ∧
        (∀ (n : Nat) (hp : p.levels.length < 14) (hn : 1 ≤ n ∧ n ≤ 65535),
          child p.encode n = .ok (p.extend n hp hn).encode) ∧
        (∀ n : Int, p.levels.length = 14 → child p.encode n = .error (.deepest p.encode)) ∧
        ∀ n : Int, p.levels.length < 14 → ¬ (1 ≤ n ∧ n ≤ 65535) →
          child p.encode n = .error (.noRoom p.encode n)) ∧
      ∀ h : Int, 0 ≤ h ∧ h < 2 ^ 256 ∧ isWellFormed h = true →
        ∃ p : Path, p.encode = h ∧ ∀ cs : List Climb,
          position h (cs.map Climb.toMove) = (p.reach cs).encode ∧
          0 ≤ position h (cs.map Climb.toMove) ∧
          position h (cs.map Climb.toMove) < 2 ^ 256 ∧
          isWellFormed (position h (cs.map Climb.toMove)) = true ∧
          treeOf (position h (cs.map Climb.toMove)) = treeOf h := by
  refine ⟨Path.bijOn_encode, fun p => ?_, fun h hh => ?_⟩
  · exact ⟨p.depth_encode, p.treeOf_encode, fun k hk => p.adminAt_encode hk, p.topHat_encode,
      fun n hp hn => p.child_encode_extend hp hn, fun n hp => p.child_encode_deepest hp n,
      fun n hp hn => p.child_encode_noRoom hp hn⟩
  · -- The start is the id of a path, and so is whatever a climb reaches.
    obtain ⟨p, -, rfl⟩ := Path.bijOn_encode.surjOn hh
    refine ⟨p, rfl, fun cs => ?_⟩
    have hreach := position_encode p cs
    obtain ⟨h₀, h₁, hw⟩ := Path.bijOn_encode.mapsTo (Set.mem_univ (p.reach cs))
    refine ⟨hreach, ?_, ?_, ?_, ?_⟩
    · rw [hreach]
      exact h₀
    · rw [hreach]
      exact h₁
    · rw [hreach]
      exact hw
    · show treeOf (position p.encode _) = treeOf p.encode
      rw [hreach, Path.treeOf_encode, Path.treeOf_encode, tree_reach]

/-- The second child of a top hat, from which a climb goes down, up to a level that does not exist,
and up to its parent. -/
theorem ids_simulate_paths_second_child :
    (0 ≤ ((pack 1 [2] : Nat) : Int) ∧ ((pack 1 [2] : Nat) : Int) < 2 ^ 256 ∧
        isWellFormed (pack 1 [2] : Nat) = true) ∧
      ∃ p : Path, (p.encode : Int) = (pack 1 [2] : Nat) ∧
        position (pack 1 [2] : Nat) [.child 3, .admin 15, .parent] =
          (p.reach [.child 3, .admin 15, .parent]).encode := by
  have hstart : 0 ≤ ((pack 1 [2] : Nat) : Int) ∧ ((pack 1 [2] : Nat) : Int) < 2 ^ 256 ∧
      isWellFormed (pack 1 [2] : Nat) = true := by decide
  obtain ⟨p, hp, hrun⟩ := ids_simulate_paths.2.2 (pack 1 [2] : Nat) hstart
  exact ⟨hstart, p, hp, (hrun [.child 3, .admin 15, .parent]).1⟩

end HatTree.HatId
