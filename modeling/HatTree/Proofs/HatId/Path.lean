import HatTree.Proofs.HatId.RoundTrip
import Mathlib.Data.Set.Function

/-!
# Paths through trees of hats

A path names a hat by its tree and by the number of each hat among its siblings, from the top down.
Paths are what well-formed ids stand for: an id is the number that a path is written as, and going
up or down a tree changes the path at its end only.

## Main definitions

* `Path`: a tree domain with at most fourteen numbers
* `Path.encode`: the id of a path
* `Path.take`, `Path.extend`: the path to an admin, and the path to a child

## Main results

* `Path.encode_eq_pack`: the id of a path is packed from its segments
* `levels_encode`: the levels of the id are the numbers of the path, then zeros
* `bijOn_encode`: the ids of paths are exactly the well-formed ids of 256 bits
-/

namespace HatTree.HatId

open Layout

/-- **A path to a hat**: the domain of its tree, and its number and that of each hat above it among
their siblings. -/
@[ext]
structure Path where
  /-- The domain of the tree. -/
  tree : Nat
  /-- The numbers, from the top. -/
  levels : List Nat
  /-- The domain has 32 bits. -/
  tree_lt : tree < 2 ^ 32
  /-- There are at most fourteen levels. -/
  length_le : levels.length ≤ 14
  /-- Numbers count from one and have 16 bits. -/
  level_mem : ∀ l ∈ levels, 1 ≤ l ∧ l ≤ 65535

namespace Path

/-- **The id of a path**: 32 bits for the tree, then 16 bits for each level. -/
def encode (p : Path) : Nat :=
  p.tree * 2 ^ 224 + ∑ i ∈ Finset.range p.levels.length, p.levels.getD i 0 * 2 ^ (16 * (13 - i))

/-- The path to the admin at a level. -/
def take (p : Path) (k : Nat) : Path where
  tree := p.tree
  levels := p.levels.take k
  tree_lt := p.tree_lt
  length_le := (List.length_take_le' k p.levels).trans p.length_le
  level_mem := fun l hl => p.level_mem l (List.mem_of_mem_take hl)

/-- The path to a child. -/
def extend (p : Path) (n : Nat) (hp : p.levels.length < 14) (hn : 1 ≤ n ∧ n ≤ 65535) : Path where
  tree := p.tree
  levels := p.levels ++ [n]
  tree_lt := p.tree_lt
  length_le := by
    rw [List.length_append, List.length_singleton]
    exact hp
  level_mem := by
    intro l hl
    rcases List.mem_append.mp hl with hl | hl
    · exact p.level_mem l hl
    · rwa [List.mem_singleton.mp hl]

@[simp] theorem tree_take (p : Path) (k : Nat) : (p.take k).tree = p.tree := rfl

@[simp] theorem levels_take (p : Path) (k : Nat) : (p.take k).levels = p.levels.take k := rfl

@[simp] theorem tree_extend (p : Path) (n : Nat) (hp : p.levels.length < 14)
    (hn : 1 ≤ n ∧ n ≤ 65535) : (p.extend n hp hn).tree = p.tree := rfl

@[simp] theorem levels_extend (p : Path) (n : Nat) (hp : p.levels.length < 14)
    (hn : 1 ≤ n ∧ n ≤ 65535) : (p.extend n hp hn).levels = p.levels ++ [n] := rfl

theorem level_lt (p : Path) {l : Nat} (hl : l ∈ p.levels) : l < levelSpan := by
  have h := p.level_mem l hl
  rw [levelSpan_eq]
  omega

theorem level_ne_zero (p : Path) {l : Nat} (hl : l ∈ p.levels) : l ≠ 0 := by
  have h := p.level_mem l hl
  omega

/-! ## The id of a path -/

/-- **The id of a path is packed from its segments.** -/
theorem encode_eq_pack (p : Path) : p.encode = pack p.tree p.levels :=
  (pack_eq_sum p.tree p.length_le).symm

/-- **The levels of the id** are the numbers of the path, then zeros. -/
theorem levels_encode (p : Path) :
    HatId.levels (p.encode : Int) =
      p.levels ++ List.replicate (maxLevels - p.levels.length) 0 := by
  rw [encode_eq_pack, levels_pack p.length_le fun l hl => p.level_lt hl]

theorem domain_encode (p : Path) : domain (p.encode : Int) = p.tree := by
  rw [encode_eq_pack, domain_pack p.length_le fun l hl => p.level_lt hl]

theorem div_encode (p : Path) : p.encode / levelSpan ^ maxLevels = p.tree := by
  rw [encode_eq_pack, div_pack p.length_le fun l hl => p.level_lt hl]

theorem takeWhile_levels_encode (p : Path) :
    (HatId.levels (p.encode : Int)).takeWhile (· ≠ 0) = p.levels := by
  rw [encode_eq_pack, takeWhile_levels_pack p.length_le fun l hl => p.level_lt hl]
  exact List.takeWhile_eq_self_iff.mpr fun l hl => by simpa using p.level_ne_zero hl

/-- **The depth of the id** is the length of the path. -/
theorem depth_encode (p : Path) : depth (p.encode : Int) = p.levels.length := by
  rw [depth, takeWhile_levels_encode]

theorem isWellFormed_encode (p : Path) : isWellFormed (p.encode : Int) = true := by
  rw [isWellFormed_iff, take_depth_levels, takeWhile_levels_encode, depth_encode, levels_encode]

theorem encode_lt (p : Path) : p.encode < 2 ^ idBits := by
  rw [encode_eq_pack]
  exact pack_lt p.length_le (fun l hl => p.level_lt hl) p.tree_lt

/-! ## Paths and well-formed ids -/

theorem encode_injective : Function.Injective encode := by
  intro p q h
  -- The domain and the leading levels of an id tell which path it is of.
  have htree := domain_encode p
  have hlevels := takeWhile_levels_encode p
  rw [h, domain_encode, Nat.cast_inj] at htree
  rw [h, takeWhile_levels_encode] at hlevels
  exact Path.ext htree.symm hlevels.symm

/-- The path that an id of 256 bits starts with. -/
def ofId (n : Nat) (hn : n < 2 ^ idBits) : Path where
  tree := n / levelSpan ^ maxLevels
  levels := (HatId.levels (n : Int)).takeWhile (· ≠ 0)
  tree_lt := domain_lt_iff.mpr hn
  length_le := depth_le n
  level_mem := by
    intro l hl
    have hpos : l ≠ 0 := by simpa using List.mem_takeWhile_imp hl
    have hlt := lt_of_mem_levels ((List.takeWhile_sublist _).subset hl)
    rw [levelSpan_eq] at hlt
    omega

/-- **A well-formed id is that of the path it starts with.** -/
theorem encode_ofId {n : Nat} (hn : n < 2 ^ idBits) (hw : isWellFormed (n : Int) = true) :
    (ofId n hn).encode = n := by
  have hpack := pack_take_depth_levels hw
  rw [take_depth_levels] at hpack
  rw [encode_eq_pack]
  exact hpack

/-- **The ids of paths are exactly the well-formed ids of 256 bits**, each of one path. -/
theorem bijOn_encode :
    Set.BijOn (fun p : Path => (p.encode : Int)) Set.univ
      {h | 0 ≤ h ∧ h < 2 ^ 256 ∧ isWellFormed h = true} := by
  refine ⟨?_, ?_, ?_⟩
  · intro p _
    have hlt : (p.encode : Int) < 2 ^ 256 := by exact_mod_cast p.encode_lt
    exact ⟨Int.natCast_nonneg _, hlt, p.isWellFormed_encode⟩
  · intro p _ q _ h
    exact encode_injective (Nat.cast_inj.mp h)
  · rintro h ⟨h₀, h₁, hw⟩
    obtain ⟨n, rfl⟩ := Int.eq_ofNat_of_zero_le h₀
    have hn : n < 2 ^ idBits := by
      rw [idBits]
      exact_mod_cast h₁
    exact ⟨ofId n hn, Set.mem_univ _, congrArg Nat.cast (encode_ofId hn hw)⟩

end Path

end HatTree.HatId
