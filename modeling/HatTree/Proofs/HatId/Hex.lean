import HatTree.Proofs.HatId.Digits
import Mathlib.Data.Int.ConditionallyCompleteOrder
import Mathlib.Data.Set.Function
import Mathlib.Data.String.Basic

/-!
# The order of hexadecimal forms

The form of a number is the mark of base sixteen and lower-case digits, filled up with zeros to a
width. Below the bound that the width can hold, every such text is the form of exactly one number,
reading it gives the number back, and the forms stand in a dictionary in the order of their numbers.
A number beyond the bound has a longer form, which is read all the same.

## Main definitions

* `IsHexForm`: the mark and so many lower-case digits
* `OrdersForms`: numbers below a bound and forms of a width, in the same order

## Main results

* `ofHex_marked_padded`: the form of every natural number is read
* `ordersForms_marked_padded`: numbers and forms of a width are in the same order
* `hexForms_in_order`: the forms of ids and of tree domains
-/

namespace HatTree.HatId

open Layout Numeral

/-- The lower-case digits of base sixteen. -/
def lowerDigits : List Char :=
  ['0', '1', '2', '3', '4', '5', '6', '7', '8', '9', 'a', 'b', 'c', 'd', 'e', 'f']

/-- **A hexadecimal form of a width**: the mark of base sixteen and so many lower-case digits. -/
def IsHexForm (width : Nat) (s : String) : Prop :=
  ∃ ds : List Char, s = "0x" ++ String.ofList ds ∧ ds.length = width ∧ ∀ c ∈ ds, c ∈ lowerDigits

/-- **Numbers below a bound and their forms of a width**, in the same order. -/
structure OrdersForms (bound : Int) (width : Nat) (write : Int → String) : Prop where
  /-- Every number has a form, and every form is that of one number. -/
  bijOn : Set.BijOn write (Set.Ico 0 bound) {s | IsHexForm width s}
  /-- A number is read back from its form. -/
  read_write : ∀ x ∈ Set.Ico 0 bound, ofHex (write x) = .ok x
  /-- A form is written again from what it is read as. -/
  write_read : ∀ s, IsHexForm width s → ∃ x ∈ Set.Ico 0 bound, ofHex s = .ok x ∧ write x = s
  /-- Numbers are ordered as their forms are. -/
  lt_iff : ∀ x ∈ Set.Ico 0 bound, ∀ y ∈ Set.Ico 0 bound, x < y ↔ write x < write y

/-! ## Digits -/

theorem digitChar_mem_lowerDigits {l : Nat} (hl : l < 16) : l.digitChar ∈ lowerDigits := by
  interval_cases l <;> decide

/-- Lower-case digits are the digits of numbers below sixteen. -/
theorem exists_map_digitChar {ds : List Char} (hds : ∀ c ∈ ds, c ∈ lowerDigits) :
    ∃ ls : List Nat, ds = ls.map Nat.digitChar ∧ ∀ l ∈ ls, l < 16 := by
  have hall : lowerDigits = (List.range 16).map Nat.digitChar := by decide
  induction ds with
  | nil => exact ⟨[], rfl, by simp⟩
  | cons c ds ih =>
    have hc := hds c List.mem_cons_self
    rw [hall] at hc
    obtain ⟨l, hl, rfl⟩ := List.mem_map.mp hc
    obtain ⟨ls, rfl, hls⟩ := ih fun c hc => hds c (List.mem_cons_of_mem _ hc)
    refine ⟨l :: ls, rfl, List.forall_mem_cons.mpr ⟨?_, hls⟩⟩
    exact List.mem_range.mp hl

theorem marked_eq (ds : List Char) : marked ds = "0x" ++ String.ofList ds := by
  apply String.toList_injective
  simp [marked]

/-- The mark in front of two texts does not change their order. -/
theorem marked_lt_marked_iff {ds es : List Char} : marked ds < marked es ↔ ds < es := by
  rw [marked, marked, String.lt_iff_toList_lt, String.toList_ofList, String.toList_ofList]
  simp

/-- **The form of every natural number is read**, whether it fits the width or not. -/
theorem ofHex_marked_padded (width n : Nat) : ofHex (marked (padded width n)) = .ok (n : Int) := by
  have hpos : 0 < (hexDigits n).length := Nat.length_toDigits_pos
  have hfits : n < 16 ^ max width (hexDigits n).length :=
    (Nat.length_toDigits_le_iff (by decide) (by omega)).mp (le_max_right _ _)
  have hne : places 16 (max width (hexDigits n).length) n ≠ [] := by
    intro h
    have hlen := congrArg List.length h
    rw [length_places, List.length_nil] at hlen
    omega
  rw [ofHex, padded_eq_places_max, marked,
    read_marked (fun l hl => lt_of_mem_places (by decide) hl) hne, joined_zero_places hfits]

/-! ## Numbers below the bound of a width -/

section Width

variable {width : Nat} (hwidth : 0 < width)
include hwidth

theorem isHexForm_marked_padded {n : Nat} (hn : n < 16 ^ width) :
    IsHexForm width (marked (padded width n)) := by
  refine ⟨padded width n, marked_eq _, ?_, ?_⟩
  · rw [padded_eq_places hwidth hn, List.length_map, length_places]
  · intro c hc
    rw [padded_eq_places hwidth hn] at hc
    obtain ⟨l, hl, rfl⟩ := List.mem_map.mp hc
    exact digitChar_mem_lowerDigits (lt_of_mem_places (by decide) hl)

/-- **Every form is that of a number** which it is read as. -/
theorem exists_of_isHexForm {s : String} (hs : IsHexForm width s) :
    ∃ n < 16 ^ width, marked (padded width (n : Nat)) = s := by
  obtain ⟨ds, rfl, hlen, hds⟩ := hs
  obtain ⟨ls, rfl, hls⟩ := exists_map_digitChar hds
  rw [List.length_map] at hlen
  subst hlen
  -- The number whose places are the digits has no further place.
  obtain ⟨hplaces, hquot⟩ := places_joined hls 0
  have hn : joined 16 0 ls < 16 ^ ls.length := by
    have hpow : 0 < 16 ^ ls.length := Nat.pow_pos (by decide)
    rcases (Nat.div_eq_zero_iff).mp hquot with h | h
    · omega
    · exact h
  exact ⟨joined 16 0 ls, hn, by rw [padded_eq_places hwidth hn, hplaces, marked_eq]⟩

theorem marked_padded_lt_iff {n m : Nat} (hn : n < 16 ^ width) (hm : m < 16 ^ width) :
    marked (padded width n) < marked (padded width m) ↔ n < m := by
  rw [marked_lt_marked_iff, padded_eq_places hwidth hn, padded_eq_places hwidth hm,
    map_digitChar_lt_iff (fun l hl => lt_of_mem_places (by decide) hl)
      (fun l hl => lt_of_mem_places (by decide) hl),
    places_lt_places_iff (by decide) hn hm]

/-- **Numbers and their forms of a width** are in the same order. -/
theorem ordersForms_marked_padded {bound : Int} (hbound : bound = (16 ^ width : Nat)) :
    OrdersForms bound width fun x => marked (padded width x) := by
  subst hbound
  have hnat : ∀ x ∈ Set.Ico (0 : Int) (16 ^ width : Nat), ∃ n < 16 ^ width, x = (n : Nat) := by
    rintro x ⟨h₀, h₁⟩
    obtain ⟨n, rfl⟩ := Int.eq_ofNat_of_zero_le h₀
    exact ⟨n, by exact_mod_cast h₁, rfl⟩
  have hread : ∀ x ∈ Set.Ico (0 : Int) (16 ^ width : Nat),
      ofHex (marked (padded width x)) = .ok x := by
    intro x hx
    obtain ⟨n, -, rfl⟩ := hnat x hx
    exact ofHex_marked_padded width n
  have hwrite : ∀ s, IsHexForm width s → ∃ x ∈ Set.Ico (0 : Int) (16 ^ width : Nat),
      ofHex s = .ok x ∧ marked (padded width x) = s := by
    intro s hs
    obtain ⟨n, hn, rfl⟩ := exists_of_isHexForm hwidth hs
    exact ⟨n, ⟨by omega, by exact_mod_cast hn⟩, ofHex_marked_padded width n, rfl⟩
  refine ⟨⟨?_, ?_, ?_⟩, hread, hwrite, ?_⟩
  · intro x hx
    obtain ⟨n, hn, rfl⟩ := hnat x hx
    exact isHexForm_marked_padded hwidth hn
  · -- Equal forms are read as one number.
    intro x hx y hy h
    have hxy : ofHex (marked (padded width x)) = ofHex (marked (padded width y)) :=
      congrArg ofHex h
    rw [hread x hx, hread y hy] at hxy
    exact Except.ok.inj hxy
  · intro s hs
    obtain ⟨x, hx, -, h⟩ := hwrite s hs
    exact ⟨x, hx, h⟩
  · intro x hx y hy
    obtain ⟨n, hn, rfl⟩ := hnat x hx
    obtain ⟨m, hm, rfl⟩ := hnat y hy
    rw [marked_padded_lt_iff hwidth hn hm, Int.ofNat_lt]

end Width

/-! ## Ids and tree domains -/

/-- The top hat of a tree is its domain before fourteen empty levels. -/
theorem topHat_eq_ok {d : Nat} (hd : d < 2 ^ domainBits) :
    topHat d = .ok (d * 2 ^ 224 : Nat) ∧ treeOf (d * 2 ^ 224 : Nat) = d := by
  have hpack : pack d [] = d * 2 ^ 224 := by simpa using @pack_eq_sum d [] (by simp)
  have hlt : pack d [] < 2 ^ idBits := pack_lt (by simp) (by simp) hd
  constructor
  · rw [topHat_natCast hd, hpack]
  · rw [← hpack, treeOf_natCast hlt, domain_pack (by simp) (by simp)]

/-- **The hexadecimal forms of ids and of tree domains** hold all texts of their width, each for one
number, in the order of the numbers; the forms of ids beyond 256 bits are read as well, and the top
hat of a tree carries the domain of the tree. -/
theorem hexForms_in_order :
    OrdersForms (2 ^ 256) 64 toHex ∧ OrdersForms (2 ^ 32) 8 treeToHex ∧
      (∀ x : Int, 0 ≤ x → ofHex (toHex x) = .ok x) ∧
      ∀ d : Int, 0 ≤ d → d < 2 ^ 32 →
        topHat d = .ok (d * 2 ^ 224) ∧ (topHat d).map treeOf = .ok d := by
  refine ⟨ordersForms_marked_padded (by decide) (by norm_num),
    ordersForms_marked_padded (by decide) (by norm_num), ?_, ?_⟩
  · intro x hx
    obtain ⟨n, rfl⟩ := Int.eq_ofNat_of_zero_le hx
    exact ofHex_marked_padded idDigits n
  · intro d h₀ h₁
    obtain ⟨n, rfl⟩ := Int.eq_ofNat_of_zero_le h₀
    have hn : n < 2 ^ domainBits := by
      rw [domainBits]
      exact_mod_cast h₁
    obtain ⟨htop, htree⟩ := topHat_eq_ok hn
    have hcast : (n : Int) * 2 ^ 224 = (n * 2 ^ 224 : Nat) := by push_cast; rfl
    rw [hcast, htop]
    exact ⟨rfl, congrArg Except.ok htree⟩

/-- The form of 2^256 has 65 digits and is read; the form of nine stands before that of sixteen; and
the top hat of the seventh tree carries its domain. -/
theorem hexForms_in_order_beyond_width :
    ofHex (toHex (2 ^ 256)) = .ok (2 ^ 256) ∧ toHex 9 < toHex 16 ∧
      topHat 7 = .ok (7 * 2 ^ 224) ∧ (topHat 7).map treeOf = .ok 7 := by
  obtain ⟨hids, -, hread, htop⟩ := hexForms_in_order
  refine ⟨hread (2 ^ 256) (by norm_num), ?_, htop 7 (by norm_num) (by norm_num)⟩
  exact (hids.lt_iff 9 (by simp) 16 (by simp)).mp (by norm_num)

end HatTree.HatId
