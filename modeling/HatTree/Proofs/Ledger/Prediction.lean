import HatTree.Ledger
import HatTree.Proofs.HatId.Child

/-!
# Predicting children

The children of an admin are numbered from one on. A listing gives the first of them, a prediction
those that follow, and both count numbers up from a start. What a prediction gives is therefore what
later listings have more than earlier ones; and since every number has to be one of 16 bits, a
prediction is complete or not given at all, whatever a reader answers.

## Main definitions

* `AreChildren`: children of an admin with consecutive numbers

## Main results

* `childrenFrom_eq_ok_iff`: what counting up gives
* `childrenFrom_add`: counting on from where another count ends
* `exists_childrenFrom_eq_ok`: numbers of 16 bits are all counted
* `pairwise_lt_of_areChildren`: children with higher numbers have higher ids
* `areChildren_of_predict`: what a prediction gives, whatever the reader answers
* `predict_continues_listing`: predictions and listings agree
-/

namespace HatTree.Ledger

open HatId (Path child_eq_ok_iff)

/-- **Children of an admin with consecutive numbers**, from the `n`-th on. -/
def AreChildren (admin n : Int) (ids : List Int) : Prop :=
  ∀ i (hi : i < ids.length), HatId.child admin (n + i) = .ok ids[i]

section Counting

variable {admin n id : Int} {count : Nat} {ids : List Int}

theorem areChildren_cons :
    AreChildren admin n (id :: ids) ↔
      HatId.child admin n = .ok id ∧ AreChildren admin (n + 1) ids := by
  constructor
  · intro h
    refine ⟨by simpa using h 0 (Nat.succ_pos _), fun i hi => ?_⟩
    have hnext := h (i + 1) (Nat.succ_lt_succ hi)
    rw [Nat.cast_succ, Int.add_comm (i : Int), ← Int.add_assoc] at hnext
    exact hnext
  · rintro ⟨hfirst, hrest⟩ i hi
    cases i with
    | zero => simpa using hfirst
    | succ i =>
      rw [Nat.cast_succ, Int.add_comm (i : Int), ← Int.add_assoc]
      exact hrest i (Nat.lt_of_succ_lt_succ hi)

/-- **Counting up** gives as many children as are counted, with consecutive numbers. -/
theorem childrenFrom_eq_ok_iff :
    childrenFrom admin n count = .ok ids ↔ ids.length = count ∧ AreChildren admin n ids := by
  induction count generalizing n ids with
  | zero =>
    rw [childrenFrom, Except.ok.injEq, List.length_eq_zero_iff, eq_comm]
    refine ⟨fun h => ⟨h, fun i hi => ?_⟩, And.left⟩
    rw [h] at hi
    cases hi
  | succ count ih =>
    constructor
    · intro h
      obtain ⟨id, hid, h⟩ := bind_eq_ok.mp h
      obtain ⟨rest, hrest, h⟩ := bind_eq_ok.mp h
      cases h
      obtain ⟨hlen, hnumbers⟩ := ih.mp hrest
      exact ⟨congrArg Nat.succ hlen, areChildren_cons.mpr ⟨hid, hnumbers⟩⟩
    · rintro ⟨hlen, hnumbers⟩
      cases ids with
      | nil => cases hlen
      | cons id ids =>
        obtain ⟨hid, hrest⟩ := areChildren_cons.mp hnumbers
        have hids := ih.mpr ⟨Nat.succ.inj hlen, hrest⟩
        rw [childrenFrom, hid]
        show (childrenFrom admin (n + 1) count >>= _) = _
        rw [hids]
        rfl

/-- **Counting on** from where another count ends. -/
theorem childrenFrom_add {more : Nat} {before after : List Int}
    (hbefore : childrenFrom admin n count = .ok before)
    (hafter : childrenFrom admin (n + count) more = .ok after) :
    childrenFrom admin n (count + more) = .ok (before ++ after) := by
  obtain ⟨hlen, hnumbers⟩ := childrenFrom_eq_ok_iff.mp hbefore
  obtain ⟨hlen', hnumbers'⟩ := childrenFrom_eq_ok_iff.mp hafter
  refine childrenFrom_eq_ok_iff.mpr ⟨by rw [List.length_append, hlen, hlen'], fun i hi => ?_⟩
  rw [List.getElem_append]
  split
  next h => exact hnumbers i h
  next h =>
    -- Past the first list, numbers go on where its own end.
    have hnumber : n + i = n + count + (i - before.length : Nat) := by omega
    rw [hnumber]
    exact hnumbers' _ _

/-! ## Single children -/

theorem child_lt_child {m a b : Int} (ha : HatId.child admin n = .ok a)
    (hb : HatId.child admin m = .ok b) (hlt : n < m) : a < b := by
  obtain ⟨-, -, rfl⟩ := child_eq_ok_iff.mp ha
  obtain ⟨-, -, rfl⟩ := child_eq_ok_iff.mp hb
  have hpos : (0 : Int) < (Layout.levelSpan ^ (13 - HatId.depth admin) : Nat) := by
    exact_mod_cast HatId.levelSpan_pow_pos _
  have := Int.mul_lt_mul_of_pos_right hlt hpos
  omega

/-- **Children with higher numbers have higher ids.** -/
theorem pairwise_lt_of_areChildren (h : AreChildren admin n ids) : ids.Pairwise (· < ·) := by
  rw [List.pairwise_iff_getElem]
  intro i j hi hj hij
  exact child_lt_child (h i hi) (h j hj) (by omega)

/-- **Numbers of 16 bits are all counted**, if the admin is above the deepest level. -/
theorem exists_childrenFrom_eq_ok (hdepth : HatId.depth admin ≠ 14) (hn : 1 ≤ n)
    (hlast : n + count ≤ 65536) : ∃ ids, childrenFrom admin n count = .ok ids := by
  induction count generalizing n with
  | zero => exact ⟨[], rfl⟩
  | succ count ih =>
    obtain ⟨ids, hids⟩ := ih (n := n + 1) (by omega) (by omega)
    obtain ⟨hlen, hnumbers⟩ := childrenFrom_eq_ok_iff.mp hids
    have hchild := child_eq_ok_iff.mpr ⟨hdepth, ⟨hn, by omega⟩, Eq.refl _⟩
    exact ⟨_ :: ids, childrenFrom_eq_ok_iff.mpr
      ⟨congrArg Nat.succ hlen, areChildren_cons.mpr ⟨hchild, hnumbers⟩⟩⟩

end Counting

/-! ## Children on paths -/

/-- **A child of the hat of a path** has the path with its number at the end. -/
theorem exists_extend_of_child {p : Path} {n id : Int} (h : HatId.child p.encode n = .ok id) :
    ∃ hp hn, id = (p.extend n.toNat hp hn).encode := by
  obtain ⟨hdepth, hn, -⟩ := child_eq_ok_iff.mp h
  rw [p.depth_encode] at hdepth
  have hp : p.levels.length < 14 := Nat.lt_of_le_of_ne p.length_le hdepth
  have hn' : 1 ≤ n.toNat ∧ n.toNat ≤ 65535 := by omega
  have hchild := p.child_encode_extend hp hn'
  rw [Int.toNat_of_nonneg (by omega), h] at hchild
  exact ⟨hp, hn', Except.ok.inj hchild⟩

/-- **A child is well formed and one level below its admin**, which truncation finds. -/
theorem child_spec {p : Path} {n id : Int} (h : HatId.child p.encode n = .ok id) :
    HatId.isWellFormed id = true ∧ HatId.depth id = HatId.depth p.encode + 1 ∧
      HatId.adminAt id (HatId.depth p.encode) = .ok p.encode := by
  obtain ⟨hp, hn, rfl⟩ := exists_extend_of_child h
  have htake : (p.extend n.toNat hp hn).take p.levels.length = p :=
    HatId.Path.ext rfl (List.take_left' rfl)
  refine ⟨Path.isWellFormed_encode _, ?_, ?_⟩
  · rw [Path.depth_encode, Path.levels_extend, List.length_append, List.length_singleton,
      p.depth_encode]
  · rw [p.depth_encode, Path.adminAt_encode _ p.length_le, htake]

/-! ## Predictions -/

section Predict

variable {r : Reader} {admin c : Int}

theorem predict_of_lt_one (hc : c < 1) : predict r admin c = { outcome := .ok [] } := by
  rw [predict, if_pos hc]

theorem outcome_predict_of_full (hc : 1 ≤ c) (hfull : 65535 < r.childCount admin + c) :
    (predict r admin c).outcome = .error (.full admin (r.childCount admin) c) := by
  have hfull' : (Layout.maxLevelHats : Int) < r.childCount admin + c := hfull
  simp only [predict, if_neg (not_lt.mpr hc), if_pos hfull']

theorem outcome_predict_of_deepest (hc : 1 ≤ c) (hroom : r.childCount admin + c ≤ 65535)
    (hlevel : r.localLevel admin = 14) :
    (predict r admin c).outcome = .error (.child (.deepest admin)) := by
  have hroom' : ¬ (Layout.maxLevelHats : Int) < r.childCount admin + c := not_lt.mpr hroom
  have hlevel' : r.localLevel admin = Layout.maxLevels := hlevel
  simp only [predict, if_neg (not_lt.mpr hc), if_neg hroom', if_pos hlevel']

theorem outcome_predict_of_room (hc : 1 ≤ c) (hroom : r.childCount admin + c ≤ 65535)
    (hlevel : r.localLevel admin ≠ 14) :
    (predict r admin c).outcome =
      (childrenFrom admin (r.childCount admin + 1) c.toNat).mapError .child := by
  have hroom' : ¬ (Layout.maxLevelHats : Int) < r.childCount admin + c := not_lt.mpr hroom
  have hlevel' : ¬ r.localLevel admin = Layout.maxLevels := hlevel
  simp only [predict, if_neg (not_lt.mpr hc), if_neg hroom', if_neg hlevel']

/-- **What a prediction gives**, whatever the reader answers: all children asked for, each with a
number of 16 bits. -/
theorem areChildren_of_predict {ids : List Int} (h : (predict r admin c).outcome = .ok ids) :
    ids.length = c.toNat ∧ AreChildren admin (r.childCount admin + 1) ids ∧
      ∀ i < ids.length, 1 ≤ r.childCount admin + 1 + i ∧ r.childCount admin + 1 + i ≤ 65535 := by
  suffices hcounted : childrenFrom admin (r.childCount admin + 1) c.toNat = .ok ids by
    obtain ⟨hlen, hids⟩ := childrenFrom_eq_ok_iff.mp hcounted
    exact ⟨hlen, hids, fun i hi => (child_eq_ok_iff.mp (hids i hi)).2.1⟩
  rcases lt_or_ge c 1 with hc | hc
  · -- Nothing is asked for, and nothing is counted.
    rw [predict_of_lt_one hc] at h
    cases h
    rw [Int.toNat_of_nonpos (by omega)]
    rfl
  rcases lt_or_ge 65535 (r.childCount admin + c) with hfull | hroom
  · rw [outcome_predict_of_full hc hfull] at h
    cases h
  by_cases hlevel : r.localLevel admin = 14
  · rw [outcome_predict_of_deepest hc hroom hlevel] at h
    cases h
  · rw [outcome_predict_of_room hc hroom hlevel] at h
    exact mapError_eq_ok.mp h

end Predict

/-- An outcome is an error of a kind of the library. -/
def Raises {α : Type} (outcome : Except Fault α) (kind : Kind) : Prop :=
  ∃ fault, outcome = .error fault ∧ (report fault).family = .library kind

theorem raises_error_iff {α : Type} {fault : Fault} {kind : Kind} :
    Raises (.error fault : Except Fault α) kind ↔ (report fault).family = .library kind := by
  simp [Raises]

theorem not_raises_ok {α : Type} {x : α} {kind : Kind} :
    ¬ Raises (.ok x : Except Fault α) kind := by
  simp [Raises]

theorem outcome_children {r : Reader} {admin : Int} {n : Nat} (hcount : r.childCount admin = n) :
    (children r admin).outcome = (childrenFrom admin 1 n).mapError .child := by
  rw [children, hcount, Int.toNat_natCast]

/-- **A prediction continues the listing**: both together are the listing of later. -/
theorem exists_predict_eq_ok {r : Reader} {admin c : Int} {n : Nat}
    (hcount : r.childCount admin = n) (hlevel : r.localLevel admin ≠ 14) (hc : 1 ≤ c)
    (hroom : n + c ≤ 65535) (hdepth : HatId.depth admin ≠ 14) :
    ∃ before ids, (predict r admin c).outcome = .ok ids ∧ ids.length = c ∧
      (children r admin).outcome = .ok before ∧
      (∀ later : Reader, later.childCount admin = n + c →
        (children later admin).outcome = .ok (before ++ ids)) ∧
      AreChildren admin 1 (before ++ ids) := by
  obtain ⟨m, rfl⟩ := Int.eq_ofNat_of_zero_le (a := c) (by omega)
  obtain ⟨before, hbefore⟩ : ∃ before, childrenFrom admin 1 n = .ok before :=
    exists_childrenFrom_eq_ok hdepth le_rfl (by omega)
  obtain ⟨ids, hids⟩ : ∃ ids, childrenFrom admin (1 + n) m = .ok ids :=
    exists_childrenFrom_eq_ok hdepth (by omega) (by omega)
  have hall := childrenFrom_add hbefore hids
  refine ⟨before, ids, ?_, ?_, ?_, fun later hlater => ?_, (childrenFrom_eq_ok_iff.mp hall).2⟩
  · rw [outcome_predict_of_room hc (by rwa [hcount]) hlevel, hcount, Int.add_comm,
      Int.toNat_natCast, hids]
    rfl
  · rw [(childrenFrom_eq_ok_iff.mp hids).1]
  · rw [outcome_children hcount, hbefore]
    rfl
  · rw [outcome_children (n := n + m) (by rw [hlater, Nat.cast_add]), hall]
    rfl

/-- **Predictions and listings agree.** Suppose that a reader knows the number of children of a
well-formed admin of 256 bits, and its level. A prediction of no children is empty, and nothing is
asked for it. Otherwise too many children are an error, and so is an admin on the deepest level when
they are not. What remains is given in full: it is what the listing has more after these children
were created. Ids in a listing increase, and each is well formed, one level below the admin, and
truncated to the admin.

Whatever a reader answers about any admin, a prediction has all children that were asked for, with
consecutive numbers of 16 bits behind the number of children that the reader gives. -/
theorem predict_continues_listing :
    (∀ (admin : Int) (r : Reader) (n : Nat) (c : Int), 0 ≤ admin → admin < 2 ^ 256 →
        HatId.isWellFormed admin = true → r.childCount admin = n →
        r.localLevel admin = HatId.depth admin →
      (c < 1 → (predict r admin c).outcome = .ok [] ∧ (predict r admin c).questions = []) ∧
      (Raises (predict r admin c).outcome .maxHatsInLevelReached ↔ 1 ≤ c ∧ 65535 < n + c) ∧
      (Raises (predict r admin c).outcome .maxLevelReached ↔
        1 ≤ c ∧ n + c ≤ 65535 ∧ HatId.depth admin = 14) ∧
      (1 ≤ c → n + c ≤ 65535 → HatId.depth admin ≠ 14 → ∃ before ids,
        (predict r admin c).outcome = .ok ids ∧ ids.length = c ∧
        (children r admin).outcome = .ok before ∧
        (∀ later : Reader, later.childCount admin = n + c →
          (children later admin).outcome = .ok (before ++ ids)) ∧
        (before ++ ids).Pairwise (· < ·) ∧ (before ++ ids).Nodup ∧
        ∀ id ∈ before ++ ids, HatId.isWellFormed id = true ∧
          HatId.depth id = HatId.depth admin + 1 ∧
          HatId.adminAt id (HatId.depth admin) = .ok admin)) ∧
    ∀ (r : Reader) (admin c : Int) (ids : List Int), (predict r admin c).outcome = .ok ids →
      ids.length = c.toNat ∧ AreChildren admin (r.childCount admin + 1) ids ∧
        ∀ i < ids.length, 1 ≤ r.childCount admin + 1 + i ∧ r.childCount admin + 1 + i ≤ 65535 := by
  refine ⟨fun admin r n c h₀ h₁ hw hcount hlevel => ?_, fun r admin c ids => areChildren_of_predict⟩
  have hlevel' : r.localLevel admin = 14 ↔ HatId.depth admin = 14 := by omega
  rcases lt_or_ge c 1 with hc | hc
  · rw [predict_of_lt_one hc]
    exact ⟨fun _ => ⟨rfl, rfl⟩, iff_of_false not_raises_ok (by omega),
      iff_of_false not_raises_ok (by omega), by omega⟩
  refine ⟨by omega, ?_⟩
  rcases lt_or_ge 65535 (n + c) with hfull | hroom
  · rw [outcome_predict_of_full hc (by rwa [hcount]), raises_error_iff, raises_error_iff]
    exact ⟨iff_of_true rfl ⟨hc, hfull⟩, iff_of_false (fun h => by cases h) (by omega), by omega⟩
  by_cases hdepth : HatId.depth admin = 14
  · rw [outcome_predict_of_deepest hc (by rwa [hcount]) (hlevel'.mpr hdepth), raises_error_iff,
      raises_error_iff]
    exact ⟨iff_of_false (fun h => by cases h) (by omega), iff_of_true rfl ⟨hc, hroom, hdepth⟩,
      fun _ _ h => absurd hdepth h⟩
  · obtain ⟨before, ids, hids, hlen, hbefore, hlater, hnumbers⟩ :=
      exists_predict_eq_ok hcount (mt hlevel'.mp hdepth) hc hroom hdepth
    rw [hids]
    refine ⟨iff_of_false not_raises_ok (by omega), iff_of_false not_raises_ok (by omega),
      fun _ _ _ => ⟨before, ids, rfl, hlen, hbefore, hlater, pairwise_lt_of_areChildren hnumbers,
        (pairwise_lt_of_areChildren hnumbers).imp fun h => h.ne, fun id hid => ?_⟩⟩
    -- A well-formed admin is the hat of a path, and so are its children.
    obtain ⟨p, -, rfl⟩ := Path.bijOn_encode.surjOn ⟨h₀, h₁, hw⟩
    obtain ⟨i, hi, rfl⟩ := List.mem_iff_getElem.mp hid
    exact child_spec (hnumbers i hi)

/-- A reader by which every hat has so many children and stands in a tree that is not linked. -/
def evenReader (n : Nat) : Reader where
  level h := HatId.depth h
  localLevel h := HatId.depth h
  adminAt h _ := h
  childCount _ := n

/-- The last two children that an admin can have, the first 65533 of which exist. -/
theorem predict_continues_listing_up_to_limit :
    ((0 : Int) ≤ HatId.pack 1 [2] ∧ (HatId.pack 1 [2] : Int) < 2 ^ 256 ∧
        HatId.isWellFormed (HatId.pack 1 [2]) = true) ∧
      ∃ before ids, (predict (evenReader 65533) (HatId.pack 1 [2]) 2).outcome = .ok ids ∧
        (children (evenReader 65535) (HatId.pack 1 [2])).outcome = .ok (before ++ ids) ∧
        (before ++ ids).Pairwise (· < ·) ∧ ids.length = 2 ∧
        AreChildren (HatId.pack 1 [2]) (65533 + 1) ids := by
  have h₀ : (0 : Int) ≤ HatId.pack 1 [2] := by decide
  have h₁ : (HatId.pack 1 [2] : Int) < 2 ^ 256 := by decide
  have hw : HatId.isWellFormed (HatId.pack 1 [2]) = true := by decide
  have hdepth : HatId.depth (HatId.pack 1 [2]) ≠ 14 := by decide
  obtain ⟨-, -, -, hroom⟩ := predict_continues_listing.1 (HatId.pack 1 [2]) (evenReader 65533) 65533
    2 h₀ h₁ hw rfl rfl
  obtain ⟨before, ids, hids, -, -, hlater, hincreasing, -, -⟩ :=
    hroom (by decide) (by decide) hdepth
  obtain ⟨hlen, hnumbers, -⟩ := predict_continues_listing.2 _ _ _ _ hids
  exact ⟨⟨h₀, h₁, hw⟩, before, ids, hids, hlater (evenReader 65535) (by decide), hincreasing, hlen,
    hnumbers⟩

end HatTree.Ledger
