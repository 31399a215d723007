import HatTree.Ledger
import HatTree.Proofs.HatId.Climb
import Mathlib.Data.Fintype.Card
import Mathlib.Data.Fintype.EquivFin

/-!
# Forests of linked trees

The top hat of a tree can be linked to a hat of another tree, which is its admin from then on. Links
that never lead back to where they start make a forest of the trees. In a forest every hat has a
level, counted across links, and above it one hat on each lower level.

## Main definitions

* `Forest`: trees with links
* `Forest.level`: the level of a path across links
* `Forest.Above`: the paths above a path, in its own tree and across links
* `Forest.Answers`: what a reader knows of a forest
* `Forest.reader`: the reader that answers from a forest

## Main results

* `wellFounded_linksTo`: chains of links end
* `Above.level_lt`: levels fall on the way up
* `ancestor_eq_of_above`: the path above a path at a level is the only one there
* `answers_reader`: every forest has a reader
-/

namespace HatTree.Ledger

open HatId (Path)
open Relation (TransGen)

/-- A tree links to another: its top hat is linked to a hat there. -/
def LinksTo (link : Nat → Option Path) (d e : Nat) : Prop := ∃ q, link d = some q ∧ q.tree = e

/-- **A forest of linked trees.** -/
structure Forest where
  /-- The hat that the top hat of a tree is linked to, if any. -/
  link : Nat → Option Path
  /-- No chain of links leads back to its start. -/
  acyclic : ∀ d, ¬ TransGen (LinksTo link) d d

namespace Forest

variable (F : Forest)

/-- **Chains of links end.** -/
theorem wellFounded_linksTo : WellFounded fun e d => LinksTo F.link d e := by
  -- The domain of a tree that is linked to has 32 bits, so that chains stay among finitely many.
  let chain (e d : Fin (2 ^ 32)) : Prop := TransGen (LinksTo F.link) d e
  have : IsTrans (Fin (2 ^ 32)) chain := ⟨fun _ _ _ hba hcb => hcb.trans hba⟩
  have : Std.Irrefl chain := ⟨fun d => F.acyclic d⟩
  have hchain : WellFounded chain := Finite.wellFounded_of_trans_of_irrefl chain
  have hacc (d : Fin (2 ^ 32)) : Acc (fun e d => LinksTo F.link d e) (d : Nat) := by
    induction d using hchain.induction with
    | _ d ih =>
      refine ⟨_, ?_⟩
      rintro e ⟨q, hq, rfl⟩
      exact ih ⟨q.tree, q.tree_lt⟩ (.single ⟨q, hq, rfl⟩)
  refine ⟨fun d => ⟨d, ?_⟩⟩
  rintro e ⟨q, hq, rfl⟩
  exact hacc ⟨q.tree, q.tree_lt⟩

/-! ## Levels across links -/

/-- **The level of a path across links**: its level in its tree, and one more than that of the hat
that the tree is linked to. -/
def level (p : Path) : Nat :=
  p.levels.length + match hq : F.link p.tree with
    | none => 0
    | some q => 1 + level q
termination_by F.wellFounded_linksTo.wrap p.tree
decreasing_by exact ⟨q, hq, rfl⟩

/-- The level of the top hat of a tree. -/
def topLevel (d : Nat) : Nat :=
  match F.link d with
  | none => 0
  | some q => 1 + F.level q

theorem level_eq (p : Path) : F.level p = p.levels.length + F.topLevel p.tree := by
  rw [level, topLevel]
  split <;> simp_all

theorem topLevel_of_link {d : Nat} {q : Path} (hq : F.link d = some q) :
    F.topLevel d = 1 + F.level q := by
  rw [topLevel, hq]

theorem level_take (p : Path) {k : Nat} (hk : k ≤ p.levels.length) :
    F.level (p.take k) = k + F.topLevel p.tree := by
  rw [level_eq, HatId.Path.levels_take, List.length_take, min_eq_left hk, HatId.Path.tree_take]

/-- **The paths above a path**: the shorter ones in its tree, the one that the tree is linked to,
and those above that one. -/
inductive Above : Path → Path → Prop
  | within {p : Path} {k : Nat} (hk : k < p.levels.length) : Above (p.take k) p
  | linked {p q : Path} (hq : F.link p.tree = some q) : Above q p
  | across {p q a : Path} (hq : F.link p.tree = some q) (ha : Above a q) : Above a p

variable {F}

/-- **Levels fall on the way up.** -/
theorem Above.level_lt {a p : Path} (h : F.Above a p) : F.level a < F.level p := by
  induction h with
  | @within p k hk =>
    rw [F.level_take p hk.le, F.level_eq]
    omega
  | @linked p q hq =>
    rw [F.level_eq p, F.topLevel_of_link hq]
    omega
  | @across p q a hq _ ih =>
    rw [F.level_eq p, F.topLevel_of_link hq]
    omega

/-! ## Readers -/

/-- **A reader answers from a forest**: for the id of a path it gives the two levels of the path
and, at the level of a path above, the id of that one. -/
structure Answers (F : Forest) (r : Reader) : Prop where
  level : ∀ p : Path, r.level p.encode = F.level p
  localLevel : ∀ p : Path, r.localLevel p.encode = HatId.depth p.encode
  adminAt : ∀ {a p : Path}, F.Above a p → r.adminAt p.encode (F.level a) = a.encode

variable (F)

/-- The path at a level, found in the tree of a path or behind its link. -/
def ancestor (p : Path) (l : Nat) : Path :=
  match hq : F.link p.tree with
  | none => p.take l
  | some q => if F.level q < l then p.take (l - (1 + F.level q)) else ancestor q l
termination_by F.wellFounded_linksTo.wrap p.tree
decreasing_by exact ⟨q, hq, rfl⟩

theorem ancestor_take (p : Path) {k : Nat} (hk : k ≤ p.levels.length) :
    F.ancestor p (F.level (p.take k)) = p.take k := by
  rw [F.level_take p hk, ancestor]
  split
  next hnone => rw [topLevel, hnone, Nat.add_zero]
  next q hq => rw [F.topLevel_of_link hq, if_pos (by omega), Nat.add_sub_cancel]

theorem ancestor_self (p : Path) : F.ancestor p (F.level p) = p := by
  have htake : p.take p.levels.length = p := HatId.Path.ext rfl (List.take_length)
  have h := F.ancestor_take p le_rfl
  rwa [htake] at h

/-- Above the top hat, the search goes on behind the link. -/
theorem ancestor_of_link {p q : Path} (hq : F.link p.tree = some q) {l : Nat}
    (hl : l ≤ F.level q) : F.ancestor p l = F.ancestor q l := by
  rw [ancestor]
  split
  next hnone =>
    rw [hq] at hnone
    cases hnone
  next q' hq' =>
    rw [hq] at hq'
    cases hq'
    rw [if_neg hl.not_gt]

/-- **A path above a path is the one found at its level.** -/
theorem ancestor_eq_of_above {a p : Path} (h : F.Above a p) : F.ancestor p (F.level a) = a := by
  induction h with
  | within hk => exact F.ancestor_take _ hk.le
  | linked hq => rw [F.ancestor_of_link hq le_rfl, F.ancestor_self]
  | across hq ha ih => rw [F.ancestor_of_link hq ha.level_lt.le, ih]

/-- The path of a number. -/
def pathOf (h : Int) : Path :=
  HatId.Path.ofId (h.toNat % 2 ^ Layout.idBits) (Nat.mod_lt _ (Nat.two_pow_pos _))

theorem pathOf_encode (p : Path) : pathOf p.encode = p := by
  have hmod : (p.encode : Int).toNat % 2 ^ Layout.idBits = p.encode := by
    rw [Int.toNat_natCast]
    exact Nat.mod_eq_of_lt p.encode_lt
  refine HatId.Path.encode_injective ?_
  rw [pathOf, HatId.Path.encode_ofId, hmod]
  rw [hmod]
  exact p.isWellFormed_encode

/-- **The reader that answers from a forest.** -/
def reader : Reader where
  level h := F.level (pathOf h)
  localLevel h := HatId.depth h
  adminAt h l := (F.ancestor (pathOf h) l.toNat).encode
  childCount _ := 0

/-- **Every forest has a reader.** -/
theorem answers_reader : F.Answers F.reader where
  level p := by
    show (F.level (pathOf p.encode) : Int) = _
    rw [pathOf_encode]
  localLevel p := rfl
  adminAt {a p} h := by
    show ((F.ancestor (pathOf p.encode) (F.level a : Int).toNat).encode : Int) = _
    rw [pathOf_encode, Int.toNat_natCast, F.ancestor_eq_of_above h]

end Forest

end HatTree.Ledger
