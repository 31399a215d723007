import HatTree.Proofs.Ledger.Forest

/-!
# Climbing a forest

The direct admin of a hat is one level above it, inside its tree or across the link of the tree:
cutting digits gives the same hat as asking for the one on that level. Asked again and again, it
leads through all levels up to a top hat that is linked nowhere, and to no hat twice.

## Main definitions

* `lineage`: the hats met on the way up
* `Forest.admin?`: the direct admin of a path

## Main results

* `outcome_admin`: one step on ids is one step on paths
* `exists_lineage`: a whole climb, with the levels of the hats met
* `admin_climbs_forest`: both for every well-formed id
-/

namespace HatTree.Ledger

open HatId (Path)

/-- **The hats met on the way up**: a hat, its admin, and so on. -/
def lineage (r : Reader) : Nat → Int → Except Fault (List Int)
  | 0, h => .ok [h]
  | n + 1, h => do
    let a ← (admin r h).outcome
    let hats ← lineage r n a
    pure (h :: hats)

namespace Forest

variable {F : Forest} {r : Reader} {p a : Path}

/-- **The direct admin of a path**: one level up in its tree, or where the tree is linked to. -/
def admin? (F : Forest) (p : Path) : Option Path :=
  if p.levels = [] then F.link p.tree else some (p.take (p.levels.length - 1))

theorem above_of_admin? (h : F.admin? p = some a) : F.Above a p := by
  rw [admin?] at h
  split at h
  next => exact .linked h
  next hp =>
    cases h
    exact .within (Nat.sub_lt (List.length_pos_iff.mpr hp) Nat.one_pos)

/-- **A direct admin is one level up.** -/
theorem level_of_admin? (h : F.admin? p = some a) : F.level p = F.level a + 1 := by
  rw [admin?] at h
  split at h
  next hp =>
    rw [F.level_eq p, F.topLevel_of_link h, hp, List.length_nil, Nat.zero_add, Nat.add_comm]
  next hp =>
    cases h
    have hpos : 0 < p.levels.length := List.length_pos_iff.mpr hp
    rw [F.level_take p (Nat.sub_le _ _), F.level_eq p]
    omega

/-- A path without an admin is an unlinked top hat. -/
theorem admin?_eq_none_iff : F.admin? p = none ↔ p.levels = [] ∧ F.link p.tree = none := by
  rw [admin?]
  split <;> simp_all

theorem level_eq_zero_iff : F.level p = 0 ↔ F.admin? p = none := by
  cases h : F.admin? p with
  | none =>
    obtain ⟨hp, hlink⟩ := admin?_eq_none_iff.mp h
    simp [F.level_eq p, topLevel, hp, hlink]
  | some a => simp [level_of_admin? h]

/-- **One step up** from the id of a path leads to the id of its admin, which is also what the
reader gives one level up; the id of an unlinked top hat stays. -/
theorem outcome_admin (hr : F.Answers r) (p : Path) :
    (admin r p.encode).outcome = .ok ((F.admin? p).getD p).encode := by
  rw [admin, hr.level]
  cases h : F.admin? p with
  | none =>
    rw [if_pos (by exact_mod_cast level_eq_zero_iff.mpr h)]
    rfl
  | some a =>
    have hlevel := level_of_admin? h
    rw [if_neg (by omega), hr.localLevel, p.depth_encode]
    rw [admin?] at h
    split at h
    next hp =>
      -- A top hat is linked, and the reader knows the hat it is linked to by its level.
      have hasked : r.adminAt p.encode ((F.level p : Int) - 1) = a.encode := by
        rw [hlevel, Nat.cast_succ, add_sub_cancel_right]
        exact hr.adminAt (.linked h)
      rw [if_neg (by simp [hp])]
      exact congrArg Except.ok hasked
    next hp =>
      -- Inside a tree nothing is asked for.
      cases h
      have hpos : 0 < p.levels.length := List.length_pos_iff.mpr hp
      have hcast : (p.levels.length : Int) - 1 = (p.levels.length - 1 : Nat) := by omega
      have hlen := p.length_le
      rw [if_pos (by omega)]
      show (HatId.adminAt p.encode ((p.levels.length : Int) - 1)).mapError Fault.level = _
      rw [hcast, p.adminAt_encode (by omega)]
      rfl

/-- **A whole climb** meets one hat on each level, down to level zero, where it ends. -/
theorem exists_lineage (hr : F.Answers r) {n : Nat} (hp : F.level p = n) :
    ∃ hats, ∃ top : Path, lineage r n p.encode = .ok hats ∧
      hats.map r.level = (List.range (n + 1)).reverse.map Nat.cast ∧
      hats.getLast? = some (top.encode : Int) ∧ F.admin? top = none := by
  induction n generalizing p with
  | zero =>
    refine ⟨[p.encode], p, rfl, ?_, rfl, level_eq_zero_iff.mp hp⟩
    simp [hr.level, hp]
  | succ n ih =>
    cases h : F.admin? p with
    | none =>
      rw [level_eq_zero_iff.mpr h] at hp
      cases hp
    | some a =>
      have hlevel := level_of_admin? h
      obtain ⟨hats, top, hlineage, hlevels, hlast, htop⟩ := ih (p := a) (by omega)
      refine ⟨p.encode :: hats, top, ?_, ?_, ?_, htop⟩
      · rw [lineage, outcome_admin hr, h, Option.getD_some]
        show (lineage r n a.encode >>= _) = _
        rw [hlineage]
        rfl
      · rw [List.map_cons, hlevels, hr.level, hp, List.range_succ (n := n + 1)]
        simp
      · rw [List.getLast?_cons, hlast, Option.getD_some]

theorem isTopHat_encode (hp : p.levels = []) : HatId.isTopHat p.encode = true := by
  rw [HatId.isTopHat, p.levels_encode, hp]
  rfl

/-- **Climbing a forest.** Where a reader answers from a forest, every well-formed id of 256 bits
has a direct admin. It is the id itself if and only if the id is on level zero; otherwise it is what
the reader gives one level up, and on that level. A climb of as many steps as the level meets one
hat on each level, none of them twice, and ends at a top hat whose tree is linked nowhere. -/
theorem admin_climbs_forest (F : Forest) {r : Reader} (hr : F.Answers r) {h : Int}
    (hrange : 0 ≤ h ∧ h < 2 ^ 256) (hw : HatId.isWellFormed h = true) :
    ∃ (a : Int) (n : Nat) (hats : List Int) (top : Int),
      (admin r h).outcome = .ok a ∧
      (a = h ↔ r.level h = 0) ∧
      (r.level h ≠ 0 → a = r.adminAt h (r.level h - 1) ∧ r.level a = r.level h - 1) ∧
      r.level h = n ∧ lineage r n h = .ok hats ∧
      hats.map r.level = (List.range (n + 1)).reverse.map Nat.cast ∧ hats.Nodup ∧
      hats.getLast? = some top ∧ HatId.isTopHat top = true ∧
      F.link (HatId.treeOf top).toNat = none := by
  obtain ⟨p, -, rfl⟩ := HatId.Path.bijOn_encode.surjOn ⟨hrange.1, hrange.2, hw⟩
  obtain ⟨hats, top, hlineage, hlevels, hlast, htop⟩ := exists_lineage hr (p := p) rfl
  obtain ⟨hempty, hlink⟩ := admin?_eq_none_iff.mp htop
  refine ⟨_, F.level p, hats, top.encode, outcome_admin hr p, ?_, fun hne => ?_, hr.level p,
    hlineage, hlevels, ?_, hlast, isTopHat_encode hempty, ?_⟩
  · show _ ↔ r.level p.encode = 0
    rw [hr.level, Nat.cast_inj, HatId.Path.encode_injective.eq_iff, Nat.cast_eq_zero,
      level_eq_zero_iff]
    cases hadmin : F.admin? p with
    | none => simp
    | some a =>
      -- An admin is on another level, and thus another hat.
      have hlevel := level_of_admin? hadmin
      simp only [Option.getD_some, reduceCtorEq, iff_false]
      rintro rfl
      omega
  · show _ = r.adminAt p.encode (r.level p.encode - 1) ∧ _ = r.level p.encode - 1
    change r.level p.encode ≠ 0 at hne
    rw [hr.level, Nat.cast_ne_zero] at hne
    obtain ⟨a, hadmin⟩ := Option.ne_none_iff_exists'.mp (mt level_eq_zero_iff.mpr hne)
    have hup : (F.level p : Int) - 1 = F.level a := by
      rw [level_of_admin? hadmin]
      omega
    rw [hadmin, Option.getD_some, hr.level, hr.level, hup]
    exact ⟨(hr.adminAt (above_of_admin? hadmin)).symm, rfl⟩
  · -- The levels of the hats differ, and so do the hats.
    refine List.Nodup.of_map r.level ?_
    rw [hlevels]
    exact (List.nodup_reverse.mpr List.nodup_range).map Nat.cast_injective
  · rw [top.treeOf_encode, Int.toNat_natCast]
    exact hlink

/-- Two trees, the second of which is linked to the first child of the top hat of the first. -/
def twoTrees : Forest where
  link d := if d = 2 then some ⟨1, [1], by decide, by decide, by decide⟩ else none
  acyclic := by
    intro d hd
    -- A chain of links starts at the second tree and ends at the first.
    obtain ⟨e, ⟨q, hq, rfl⟩, -⟩ := Relation.TransGen.head'_iff.mp hd
    obtain ⟨e, -, ⟨q', hq', rfl⟩⟩ := Relation.TransGen.tail'_iff.mp hd
    simp only [Option.ite_none_right_eq_some, Option.some.injEq] at hq hq'
    obtain ⟨htwo, -⟩ := hq
    obtain ⟨-, rfl⟩ := hq'
    cases htwo

/-- A climb from below the top hat of the second tree to the top hat of the first. -/
theorem admin_climbs_forest_two_trees :
    twoTrees.Answers twoTrees.reader ∧ (0 ≤ (HatId.pack 2 [5] : Int) ∧
        (HatId.pack 2 [5] : Int) < 2 ^ 256) ∧
      HatId.isWellFormed (HatId.pack 2 [5]) = true ∧
      twoTrees.reader.level (HatId.pack 2 [5]) = 3 ∧
      ∃ hats, lineage twoTrees.reader 3 (HatId.pack 2 [5]) = .ok hats ∧ hats.Nodup := by
  have hrange : 0 ≤ (HatId.pack 2 [5] : Int) ∧ (HatId.pack 2 [5] : Int) < 2 ^ 256 := by decide
  have hw : HatId.isWellFormed (HatId.pack 2 [5]) = true := by decide
  have hlevel : twoTrees.reader.level (HatId.pack 2 [5]) = 3 := by
    have hpath := twoTrees.answers_reader.level ⟨2, [5], by decide, by decide, by decide⟩
    rw [HatId.Path.encode_eq_pack] at hpath
    rw [hpath]
    simp [level_eq, topLevel, twoTrees]
  obtain ⟨a, n, hats, top, -, -, -, hn, hlineage, -, hnodup, -⟩ :=
    admin_climbs_forest twoTrees twoTrees.answers_reader hrange hw
  have hthree : n = 3 := by exact_mod_cast hn.symm.trans hlevel
  subst hthree
  exact ⟨twoTrees.answers_reader, hrange, hw, hlevel, hats, hlineage, hnodup⟩

end Forest

end HatTree.Ledger
