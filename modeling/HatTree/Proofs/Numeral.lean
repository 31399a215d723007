import HatTree.Numeral
import HatTree.Proofs.Places
import HatTree.Proofs.Text
import Mathlib.Data.List.TakeWhile
import Mathlib.Tactic.IntervalCases

/-!
# Digits and their values

Padded hexadecimal digits are places in base sixteen, and a run of digits denotes the number that
its places join to.

## Main results

* `value_append`: the value of a run is that of its parts
* `value_map_digitChar`: digits denote what their places join to
* `padded_eq_places`, `padded_eq_places_max`: padded digits are places in base sixteen
* `value_toDigits`: the digits of a number denote it
* `toDigits_eq_cons`: they do not start with zero, unless the number is zero
* `map_digitChar_lt_iff`: runs of digits are ordered as the numbers in them
* `isWritable_iff`: which integers do not have too many digits
* `readDigits_map_digitChar`: digits of a base are read up to a margin
* `read_marked`: digits behind the mark of base sixteen are read as what they denote
-/

namespace HatTree.Numeral

theorem digit?_digitChar {d : Nat} (hd : d < 16) : digit? d.digitChar = some d := by
  -- Sixteen characters, each against the three ranges of digits.
  interval_cases d <;> rfl

theorem value_append (b : Nat) (xs ys : List Char) :
    value b (xs ++ ys) = value b xs * b ^ ys.length + value b ys := by
  induction ys using List.reverseRecOn with
  | nil => simp
  | append_singleton ys c ih =>
    rw [← List.append_assoc, value_append_singleton, ih, value_append_singleton,
      List.length_append, List.length_singleton, Nat.pow_succ]
    ring

/-- **Digits denote what their places join to.** -/
theorem value_map_digitChar (b : Nat) {ls : List Nat} (hls : ∀ l ∈ ls, l < 16) :
    value b (ls.map Nat.digitChar) = joined b 0 ls := by
  induction ls using List.reverseRecOn with
  | nil => rfl
  | append_singleton ls l ih =>
    rw [List.map_append, List.map_singleton, value_append_singleton, joined_snoc,
      digit?_digitChar (hls l (by simp)), ih fun m hm => hls m (by simp [hm]), Option.getD_some,
      Nat.mul_comm]

theorem value_places (w n : Nat) :
    value 16 ((places 16 w n).map Nat.digitChar) = n % 16 ^ w := by
  rw [value_map_digitChar 16 fun l hl => lt_of_mem_places (by decide) hl, joined_places,
    Nat.zero_mul, Nat.zero_add]

theorem value_replicate_zero (b w : Nat) : value b (List.replicate w '0') = 0 := by
  induction w with
  | zero => rfl
  | succ w ih =>
    rw [List.replicate_succ', value_append_singleton, ih]
    rfl

theorem value_toDigits {b : Nat} (hb : 1 < b) (hb' : b ≤ 16) (n : Nat) :
    value b (Nat.toDigits b n) = n := by
  induction n using Nat.strong_induction_on with
  | _ n ih =>
    rw [Nat.toDigits_eq_if hb]
    split
    next h => simp [value, digit?_digitChar (Nat.lt_of_lt_of_le h hb')]
    next h =>
      have hm : n % b < 16 := Nat.lt_of_lt_of_le (Nat.mod_lt n (by omega)) hb'
      rw [value_append_singleton, ih _ (Nat.div_lt_self (by omega) hb), digit?_digitChar hm,
        Option.getD_some, Nat.div_add_mod]

theorem value_repr (n : Nat) : value 10 (Nat.repr n).toList = n := by
  rw [Nat.toList_repr]
  exact value_toDigits (by decide) (by decide) n

theorem isDigit_of_mem_repr {n : Nat} {c : Char} (hc : c ∈ (Nat.repr n).toList) :
    c.isDigit = true := by
  rw [Nat.toList_repr] at hc
  exact Nat.isDigit_of_mem_toDigits (by omega) le_rfl hc

/-- A number above zero starts with a digit other than zero. -/
theorem toDigits_eq_cons {b : Nat} (hb : 1 < b) {n : Nat} (hn : 0 < n) :
    ∃ c cs, Nat.toDigits b n = c :: cs ∧ c ≠ '0' := by
  induction n using Nat.strong_induction_on with
  | _ n ih =>
    rw [Nat.toDigits_eq_if hb]
    split
    next h => exact ⟨_, _, rfl, fun h0 => Nat.ne_of_gt hn (Nat.digitChar_eq_zero.mp h0)⟩
    next h =>
      obtain ⟨c, cs, hcs, hc⟩ := ih (n / b) (Nat.div_lt_self hn hb)
        (Nat.div_pos (Nat.le_of_not_lt h) (Nat.lt_trans Nat.zero_lt_one hb))
      exact ⟨c, cs ++ [Nat.digitChar (n % b)], by rw [hcs, List.cons_append], hc⟩

/-- Filling a run up from the left leaves its last character alone. -/
theorem leftpad_append_singleton (w : Nat) (cs : List Char) (c z : Char) :
    (cs ++ [c]).leftpad (w + 1) z = cs.leftpad w z ++ [c] := by
  simp [List.leftpad]

/-- **Padded digits are places in base sixteen**, at every width that holds the number. -/
theorem padded_eq_places {w n : Nat} (hw : 0 < w) (hn : n < 16 ^ w) :
    padded w n = (places 16 w n).map Nat.digitChar := by
  show (Nat.toDigits 16 n).leftpad w '0' = _
  induction w generalizing n with
  | zero => omega
  | succ w ih =>
    rw [places_succ, List.map_append, Nat.toDigits_eq_if (by decide)]
    split
    next h =>
      rw [Nat.div_eq_of_lt h, Nat.mod_eq_of_lt h, places_of_zero, List.map_replicate]
      simp [List.leftpad]
    next h =>
      -- A second digit needs a second place.
      have hw : 0 < w := by
        rcases Nat.eq_zero_or_pos w with rfl | hw
        · omega
        · exact hw
      have hq : n / 16 < 16 ^ w := by
        rw [Nat.div_lt_iff_lt_mul (by decide), ← Nat.pow_succ]
        exact hn
      rw [leftpad_append_singleton, ih hw hq]
      rfl

/-- **Padded digits are places** in base sixteen, as many as the width has or the number needs. -/
theorem padded_eq_places_max (w n : Nat) :
    padded w n = (places 16 (max w (hexDigits n).length) n).map Nat.digitChar := by
  have hpos : 0 < (hexDigits n).length := Nat.length_toDigits_pos
  have hfits : n < 16 ^ max w (hexDigits n).length :=
    (Nat.length_toDigits_le_iff (by decide) (by omega)).mp (le_max_right _ _)
  rw [← padded_eq_places (by omega) hfits]
  -- Beyond its own digits a number is filled up alike.
  have hfill : max w (hexDigits n).length - (hexDigits n).length = w - (hexDigits n).length := by
    omega
  show (hexDigits n).leftpad w '0' = (hexDigits n).leftpad _ '0'
  rw [List.leftpad, List.leftpad, hfill]

/-! ## The order of digits -/

theorem digitChar_lt_digitChar_iff {l m : Nat} (hl : l < 16) (hm : m < 16) :
    l.digitChar < m.digitChar ↔ l < m := by
  have hall : ∀ l < 16, ∀ m < 16, (l.digitChar < m.digitChar ↔ l < m) := by decide
  exact hall l hl m hm

theorem map_digitChar_lt_iff {ls ms : List Nat} (hls : ∀ l ∈ ls, l < 16) (hms : ∀ m ∈ ms, m < 16) :
    ls.map Nat.digitChar < ms.map Nat.digitChar ↔ ls < ms := by
  induction ls generalizing ms with
  | nil => cases ms <;> simp
  | cons l ls ih =>
    obtain _ | ⟨m, ms⟩ := ms
    · simp
    have hl : l < 16 := hls l List.mem_cons_self
    have hm : m < 16 := hms m List.mem_cons_self
    have heq : l.digitChar = m.digitChar ↔ l = m := by
      constructor
      · intro h
        have hd := digit?_digitChar hl
        rw [h, digit?_digitChar hm] at hd
        exact (Option.some.inj hd).symm
      · exact congrArg _
    rw [List.map_cons, List.map_cons, List.cons_lt_cons_iff, List.cons_lt_cons_iff,
      digitChar_lt_digitChar_iff hl hm, heq,
      ih (fun k hk => hls k (List.mem_cons_of_mem l hk))
        fun k hk => hms k (List.mem_cons_of_mem m hk)]

/-! ## Integers that can be written -/

/-- **The integers that can be written** are those below a power of ten. -/
theorem isWritable_iff {n : Int} : isWritable n = true ↔ n.natAbs < 10 ^ maxDigits := by
  rw [isWritable, decide_eq_true_eq, Nat.length_toDigits_le_iff (by decide) (by decide)]

/-- The least natural number that cannot be written. -/
theorem isWritable_pow : isWritable (10 ^ maxDigits : Nat) = false := by
  rw [Bool.eq_false_iff, ne_eq, isWritable_iff, Int.natAbs_natCast]
  exact Nat.lt_irrefl _

/-! ## Reading digits -/

/-- A character that denotes nothing is none of the sixteen digits. -/
theorem digitChar_ne {l : Nat} (hl : l < 16) {c : Char} (hc : digit? c = none) :
    l.digitChar ≠ c := by
  intro h
  have hd := digit?_digitChar hl
  rw [h, hc] at hd
  exact absurd hd (by simp)

/-- A margin is neither a digit nor a low line. -/
theorem digit?_of_isMargin {c : Char} (h : isMargin c = true) : digit? c = none ∧ c ≠ '_' := by
  have hlast : c.toNat < 128 := by
    simp only [isMargin, Bool.or_eq_true, beq_iff_eq, Bool.and_eq_true, decide_eq_true_eq] at h
    rcases h with rfl | h
    · decide
    · omega
  exact Text.forall_ascii (p := fun c => isMargin c = true → digit? c = none ∧ c ≠ '_')
    (by decide +kernel) hlast h

section Digits

variable {ls : List Nat} (hls : ∀ l ∈ ls, l < 16)
include hls

theorem signedValue_map_digitChar (b : Nat) (hne : ls ≠ []) (cs : List Char) :
    signedValue b (ls.map Nat.digitChar ++ cs) = value b (ls.map Nat.digitChar ++ cs) := by
  obtain ⟨l, ls, rfl⟩ := List.exists_cons_of_ne_nil hne
  have hl : l.digitChar ≠ '-' := digitChar_ne (hls l (by simp)) (by simp [digit?])
  rw [List.map_cons, List.cons_append, signedValue]
  intro ds h
  exact hl (List.cons.inj h).1

theorem isDigit_of_mem_map_digitChar {b : Nat} (hb : ∀ l ∈ ls, l < b) {c : Char}
    (hc : c ∈ ls.map Nat.digitChar) : isDigit b c = true := by
  obtain ⟨l, hl, rfl⟩ := List.mem_map.mp hc
  rw [isDigit, digit?_digitChar (hls l hl)]
  simpa using hb l hl

theorem lowLine_not_mem_map_digitChar : '_' ∉ ls.map Nat.digitChar := by
  intro h
  obtain ⟨l, hl, hc⟩ := List.mem_map.mp h
  exact digitChar_ne (hls l hl) (by simp [digit?]) hc

theorem toNat_lt_of_mem_map_digitChar {c : Char} (hc : c ∈ ls.map Nat.digitChar) :
    c.toNat < 128 := by
  obtain ⟨l, hl, rfl⟩ := List.mem_map.mp hc
  have hl' := hls l hl
  interval_cases l <;> decide

/-- **Digits of a base are read** up to a margin, unless there are too many of them. -/
theorem readDigits_map_digitChar {b : Nat} (hb : ∀ l ∈ ls, l < b) (hne : ls ≠ [])
    {right : List Char} (hright : ∀ c ∈ right, isMargin c = true) :
    readDigits b (ls.map Nat.digitChar ++ right) =
      if (digitLimit? b).any (· < ls.length) then .error (.tooLong ls.length)
      else .ok (joined b 0 ls) := by
  let inRun := fun c : Char => isDigit b c || c == '_'
  have hrun : ∀ c ∈ ls.map Nat.digitChar, inRun c = true := fun c hc => by
    show (isDigit b c || c == '_') = true
    rw [isDigit_of_mem_map_digitChar hls hb hc, Bool.true_or]
  have hstop : ∀ c ∈ right, inRun c = false := fun c hc => by
    have hmargin := digit?_of_isMargin (hright c hc)
    simp [inRun, isDigit, hmargin]
  have htake : (ls.map Nat.digitChar ++ right).takeWhile inRun = ls.map Nat.digitChar := by
    rw [List.takeWhile_append_of_pos hrun]
    cases right with
    | nil => rw [List.takeWhile_nil, List.append_nil]
    | cons c right => simp [hstop c List.mem_cons_self]
  have hdrop : (ls.map Nat.digitChar ++ right).dropWhile inRun = right := by
    rw [List.dropWhile_append_of_pos hrun]
    cases right with
    | nil => rfl
    | cons c right => simp [hstop c List.mem_cons_self]
  have hgroups : (ls.map Nat.digitChar).splitOn '_' = [ls.map Nat.digitChar] :=
    List.splitOn_eq_singleton (lowLine_not_mem_map_digitChar hls)
  have hmargins : right.all isMargin = true := List.all_eq_true.mpr hright
  rw [← value_map_digitChar b hls]
  simp [readDigits, inRun, htake, hdrop, hgroups, hne, hmargins]

/-- **Digits behind the mark of base sixteen** are read as what they denote. -/
theorem read_marked (hne : ls ≠ []) :
    read 16 (String.ofList ('0' :: 'x' :: ls.map Nat.digitChar)) = .ok (joined 16 0 ls : Nat) := by
  have hascii : standardize ('0' :: 'x' :: ls.map Nat.digitChar) =
      '0' :: 'x' :: ls.map Nat.digitChar := by
    rw [standardize, if_pos]
    rw [List.all_cons, List.all_cons, Bool.and_eq_true, Bool.and_eq_true]
    refine ⟨by decide, by decide, List.all_eq_true.mpr fun c hc => ?_⟩
    exact decide_eq_true (toNat_lt_of_mem_map_digitChar hls hc)
  have hmark : dropMark 16 ('0' :: 'x' :: ls.map Nat.digitChar) = ls.map Nat.digitChar := by
    obtain ⟨l, ls, rfl⟩ := List.exists_cons_of_ne_nil hne
    have hl : l.digitChar ≠ '_' := digitChar_ne (hls l (by simp)) (by simp [digit?])
    simp only [dropMark, true_and, true_or, if_true, List.map_cons]
    split
    next h => exact absurd (List.cons.inj h).1 hl
    next => rfl
  rw [read, String.toList_ofList, hascii, List.dropWhile_cons_of_neg (by decide)]
  have hsign : splitSign ('0' :: 'x' :: ls.map Nat.digitChar) =
      (false, '0' :: 'x' :: ls.map Nat.digitChar) := by simp [splitSign]
  have hdigits := readDigits_map_digitChar hls hls hne (List.forall_mem_nil (isMargin · = true))
  rw [List.append_nil] at hdigits
  simp only [hsign, hmark, hdigits]
  rfl

end Digits

end HatTree.Numeral
