import HatTree.Log.Preview
import HatTree.Proofs.Reading

/-!
# One line of bounded length

A value has a preview exactly when it can be written: whatever form its text takes, every integer in
it is written on the way.

The words of a text are read off from left to right: a blank ends a word, and what has no blank is
one word. A line of words therefore has no blank but single spaces, it starts with the word that the
text starts with, and ends with the word that the text ends with. What is cut off a line is cut off
at its end, so that the line starts as the whole text does.

## Main definitions

* `wordInduction`: induction on a text word by word

## Main results

* `isWritable_of_json`, `exists_fullText_iff`: which values have a text
* `words_append_blank`: the words on both sides of a blank
* `oneLine_append_blank`: the line on both sides of a blank
* `exists_preview_iff`: which values have a preview
* `eq_space_of_mem_preview`: a preview has no blank but spaces
* `length_preview_le`: the length of a preview
* `exists_cut_append`: what the limit leaves of a line
-/

namespace HatTree

/-! ## Values that can be written -/

namespace Value

theorem isWritable_of_write {n : Int} {s : String} (h : Numeral.write n = .ok s) :
    Numeral.isWritable n = true := by
  rw [Numeral.write] at h
  split at h
  next hn => exact hn
  next => cases h

theorem exists_toPlain_iff {v : Value} : (∃ s, v.toPlain = .ok s) ↔ v.isWritable = true := by
  rw [toPlain]
  cases v.isWritable <;> simp

theorem isWritable_of_jsonKey {k : Value} {s : String} (h : jsonKey k = .ok s) :
    k.isWritable = true := by
  cases k with
  | null | bool | float | text => rfl
  | int n => exact isWritable_of_write (mapError_eq_ok.mp h)
  | _ => cases h

mutual

/-- **What has a JSON text can be written.** -/
theorem isWritable_of_json : ∀ (v : Value) {s : String}, json v = .ok s → v.isWritable = true
  | .null, _ | .bool _, _ | .float _, _ | .text _, _ | .bytes _, _ => fun _ => rfl
  | .int _, _ => fun h => isWritable_of_write (mapError_eq_ok.mp h)
  | .list items, _ | .tuple items, _ => fun h => by
    obtain ⟨ss, hss, -⟩ := map_eq_ok.mp h
    exact areWritable_of_jsonItems items hss
  | .dict entries, _ => fun h => by
    obtain ⟨ss, hss, -⟩ := map_eq_ok.mp h
    exact pairsWritable_of_jsonEntries entries hss
  | .ring, _ => fun h => by cases h
  | .scalarField _, _ | .relationField .., _ | .selectionNode .., _ => fun h => by
    obtain ⟨t, ht, -⟩ := map_eq_ok.mp h
    exact exists_toPlain_iff.mp ⟨t, mapError_eq_ok.mp ht⟩

theorem areWritable_of_jsonItems : ∀ (vs : List Value) {ss : List String},
    jsonItems vs = .ok ss → areWritable vs = true
  | [], _ => fun _ => rfl
  | v :: vs, _ => fun h => by
    obtain ⟨s, hs, h⟩ := bind_eq_ok.mp h
    obtain ⟨ss, hss, -⟩ := bind_eq_ok.mp h
    rw [areWritable, isWritable_of_json v hs, areWritable_of_jsonItems vs hss, Bool.and_self]

theorem pairsWritable_of_jsonEntries : ∀ (es : List (Value × Value)) {ss : List String},
    jsonEntries es = .ok ss → pairsWritable es = true
  | [], _ => fun _ => rfl
  | (k, v) :: es, _ => fun h => by
    obtain ⟨key, hkey, h⟩ := bind_eq_ok.mp h
    obtain ⟨s, hs, h⟩ := bind_eq_ok.mp h
    obtain ⟨ss, hss, -⟩ := bind_eq_ok.mp h
    rw [pairsWritable, isWritable_of_jsonKey hkey, isWritable_of_json v hs,
      pairsWritable_of_jsonEntries es hss, Bool.and_self, Bool.and_self]

end

end Value

/-- **A value has a text exactly when it can be written.** -/
theorem Log.exists_fullText_iff {v : Value} :
    (∃ s, fullText v = .ok s) ↔ v.isWritable = true := by
  have hshown {v : Value} : (∃ s, v.toShown = .ok s) ↔ v.isWritable = true := by
    rw [Value.toShown]
    cases v.isWritable <;> simp
  cases v with
  | null => exact ⟨fun _ => rfl, fun _ => ⟨"", rfl⟩⟩
  | list | dict | ring =>
    rw [fullText]
    split
    next s hjson => exact ⟨fun _ => Value.isWritable_of_json _ hjson, fun _ => ⟨s, rfl⟩⟩
    next => exact hshown
  | _ => exact Value.exists_toPlain_iff

namespace Text

/-! ## Words -/

/-- **The words on both sides of a blank.** -/
theorem words_append_blank {b : Char} (hb : isBlank b = true) (x y : List Char) :
    words (x ++ b :: y) = words x ++ words y := by
  rw [words, List.splitOnP_append_cons x y hb, List.filter_append]
  rfl

theorem words_eq_singleton {w : List Char} (hw : ∀ c ∈ w, isBlank c = false) (hne : w ≠ []) :
    words w = [w] := by
  rw [words, List.splitOnP_eq_singleton hw]
  simp [hne]

/-- **Induction on a text word by word**: what has no blank, and a word with a blank and more text
behind it. -/
@[elab_as_elim]
theorem wordInduction {P : List Char → Prop} (cs : List Char)
    (word : ∀ w, (∀ c ∈ w, isBlank c = false) → P w)
    (blank : ∀ w b rest, (∀ c ∈ w, isBlank c = false) → isBlank b = true → P rest →
      P (w ++ b :: rest)) : P cs := by
  induction hn : cs.length using Nat.strongRecOn generalizing cs with
  | ind n ih =>
    -- The text divides at its first blank, and what is behind it is shorter.
    have hw : ∀ c ∈ cs.takeWhile (!isBlank ·), isBlank c = false := fun c hc =>
      (Bool.not_eq_true' _).mp (List.all_eq_true.mp List.all_takeWhile c hc)
    have hsplit : cs.takeWhile (!isBlank ·) ++ cs.dropWhile (!isBlank ·) = cs :=
      List.takeWhile_append_dropWhile
    cases hrest : cs.dropWhile (!isBlank ·) with
    | nil =>
      rw [hrest, List.append_nil] at hsplit
      exact word cs (hsplit ▸ hw)
    | cons b rest =>
      have hb := List.head?_dropWhile_not (!isBlank ·) cs
      rw [hrest] at hb hsplit
      have hlength := congrArg List.length hsplit
      rw [List.length_append, List.length_cons] at hlength
      rw [← hsplit]
      exact blank _ b rest hw (by simpa using hb) (ih rest.length (by omega) rest rfl)

/-- A word has no blank. -/
theorem isBlank_of_mem_words {cs w : List Char} (h : w ∈ words cs) :
    ∀ c ∈ w, isBlank c = false := by
  induction cs using wordInduction generalizing w with
  | word cs hcs =>
    cases cs with
    | nil => cases h
    | cons c cs =>
      rw [words_eq_singleton hcs (List.cons_ne_nil _ _), List.mem_singleton] at h
      exact h ▸ hcs
  | blank v b rest hv hb ih =>
    rw [words_append_blank hb, List.mem_append] at h
    rcases h with h | h
    · cases v with
      | nil => cases h
      | cons c v =>
        rw [words_eq_singleton hv (List.cons_ne_nil _ _), List.mem_singleton] at h
        exact h ▸ hv
    · exact ih h

end Text

namespace Log

open Text

/-! ## Lines -/

theorem joinWords_cons {ws : List (List Char)} (w : List Char) (h : ws ≠ []) :
    joinWords (w :: ws) = w ++ ' ' :: joinWords ws := by
  cases ws with
  | nil => exact absurd rfl h
  | cons v ws => rfl

theorem joinWords_append {ws vs : List (List Char)} (hws : ws ≠ []) (hvs : vs ≠ []) :
    joinWords (ws ++ vs) = joinWords ws ++ ' ' :: joinWords vs := by
  induction ws with
  | nil => exact absurd rfl hws
  | cons w ws ih =>
    cases ws with
    | nil => exact joinWords_cons w hvs
    | cons v ws =>
      rw [List.cons_append, joinWords_cons w (by simp), ih (List.cons_ne_nil _ _),
        joinWords_cons w (List.cons_ne_nil _ _), List.append_assoc, List.cons_append]

theorem mem_joinWords {ws : List (List Char)} {c : Char} (h : c ∈ joinWords ws) :
    c = ' ' ∨ ∃ w ∈ ws, c ∈ w := by
  induction ws with
  | nil => cases h
  | cons w ws ih =>
    cases ws with
    | nil => exact .inr ⟨w, List.mem_cons_self, h⟩
    | cons v ws =>
      rw [joinWords_cons w (List.cons_ne_nil _ _), List.mem_append, List.mem_cons] at h
      rcases h with h | rfl | h
      · exact .inr ⟨w, List.mem_cons_self, h⟩
      · exact .inl rfl
      · rcases ih h with rfl | ⟨u, hu, hc⟩
        · exact .inl rfl
        · exact .inr ⟨u, List.mem_cons_of_mem _ hu, hc⟩

theorem oneLine_eq_self {w : List Char} (hw : ∀ c ∈ w, isBlank c = false) : oneLine w = w := by
  cases w with
  | nil => rfl
  | cons c w =>
    rw [oneLine, words_eq_singleton hw (List.cons_ne_nil _ _)]
    rfl

/-- **The line on both sides of a blank**, if there are words on both sides. -/
theorem oneLine_append_blank {b : Char} (hb : isBlank b = true) {x y : List Char}
    (hx : words x ≠ []) (hy : words y ≠ []) :
    oneLine (x ++ b :: y) = oneLine x ++ ' ' :: oneLine y := by
  rw [oneLine, words_append_blank hb, joinWords_append hx hy]
  rfl

theorem words_ne_nil_of_oneLine {cs : List Char} (h : oneLine cs ≠ []) : words cs ≠ [] := by
  intro hnil
  rw [oneLine, hnil] at h
  exact h rfl

/-- **The line of a text that ends with a word** or the end of one. -/
theorem exists_oneLine_append_word {w : List Char} (hw : ∀ c ∈ w, isBlank c = false) (hne : w ≠ [])
    (x : List Char) : ∃ x', oneLine (x ++ w) = x' ++ w := by
  induction x using wordInduction with
  | word v hv =>
    refine ⟨v, oneLine_eq_self fun c hc => ?_⟩
    exact (List.mem_append.mp hc).elim (hv c) (hw c)
  | blank v b rest hv hb ih =>
    obtain ⟨x', hx'⟩ := ih
    rw [List.append_assoc, List.cons_append]
    cases v with
    | nil =>
      -- A blank at the front makes no word.
      rw [oneLine, words_append_blank hb]
      exact ⟨x', hx'⟩
    | cons c v =>
      have hwords : words (rest ++ w) ≠ [] := words_ne_nil_of_oneLine (by simp [hx', hne])
      have hv' := words_eq_singleton hv (List.cons_ne_nil _ _)
      rw [oneLine_append_blank hb (by simp [hv']) hwords, hx']
      exact ⟨oneLine (c :: v) ++ ' ' :: x', by simp⟩

/-- **The line of a text that starts with a word** or the start of one. -/
theorem exists_oneLine_word_append {w : List Char} (hw : ∀ c ∈ w, isBlank c = false) (hne : w ≠ [])
    (y : List Char) : ∃ y', oneLine (w ++ y) = w ++ y' := by
  induction y using wordInduction with
  | word v hv =>
    refine ⟨v, oneLine_eq_self fun c hc => ?_⟩
    exact (List.mem_append.mp hc).elim (hw c) (hv c)
  | blank v b rest hv hb _ =>
    -- The first word goes on to the first blank.
    have hfirst : ∀ c ∈ w ++ v, isBlank c = false := fun c hc =>
      (List.mem_append.mp hc).elim (hw c) (hv c)
    have hwords : words (w ++ v) = [w ++ v] := words_eq_singleton hfirst (by simp [hne])
    rw [← List.append_assoc]
    by_cases hrest : words rest = []
    · refine ⟨v, ?_⟩
      rw [oneLine, words_append_blank hb, hrest, hwords]
      rfl
    · refine ⟨v ++ ' ' :: oneLine rest, ?_⟩
      rw [oneLine_append_blank hb (by simp [hwords]) hrest, oneLine_eq_self hfirst,
        List.append_assoc]

/-- A line has no blank but spaces. -/
theorem eq_space_of_mem_oneLine {cs : List Char} {c : Char} (h : c ∈ oneLine cs)
    (hc : isBlank c = true) : c = ' ' := by
  rcases mem_joinWords h with rfl | ⟨w, hw, hmem⟩
  · rfl
  · rw [isBlank_of_mem_words hw c hmem] at hc
    cases hc

/-! ## What is cut off -/

section Cut

variable {limit : Int} {cs : List Char}

theorem cut_of_length_le (h : cs.length ≤ limit) : cut limit cs = cs :=
  if_neg (Int.not_lt.mpr h)

theorem cut_of_lt_length (hpos : 1 ≤ limit) (h : limit < cs.length) :
    cut limit cs = cs.take (limit - 1).toNat ++ [ellipsis] := by
  rw [cut, if_pos h, upTo, if_neg (by omega)]

theorem length_cut_le (hpos : 1 ≤ limit) : (cut limit cs).length ≤ limit := by
  by_cases h : limit < cs.length
  · rw [cut_of_lt_length hpos h, List.length_append, List.length_take, List.length_singleton]
    omega
  · rw [cut_of_length_le (by omega)]
    omega

theorem mem_cut {c : Char} (hpos : 1 ≤ limit) (h : c ∈ cut limit cs) : c ∈ cs ∨ c = ellipsis := by
  by_cases hlength : limit < cs.length
  · rw [cut_of_lt_length hpos hlength, List.mem_append, List.mem_singleton] at h
    exact h.imp_left List.mem_of_mem_take
  · rw [cut_of_length_le (by omega)] at h
    exact .inl h

/-- **What the limit leaves**: the front of a text, if it is shorter than the limit. -/
theorem exists_cut_append (hpos : 1 ≤ limit) {x y : List Char}
    (h : (x ++ y).length ≤ limit ∨ x.length < limit) : ∃ y', cut limit (x ++ y) = x ++ y' := by
  by_cases hlength : limit < (x ++ y).length
  · have hx : x.length ≤ (limit - 1).toNat := by omega
    rw [cut_of_lt_length hpos hlength, List.take_append, List.take_of_length_le hx,
      List.append_assoc]
    exact ⟨_, rfl⟩
  · rw [cut_of_length_le (by omega)]
    exact ⟨y, rfl⟩

end Cut

/-! ## Previews -/

section Preview

variable {limit : Int} {v : Value}

theorem preview_eq_ok_iff {s : String} :
    preview v limit = .ok s ↔ ∃ text, fullText v = .ok text ∧ shorten limit text = s := map_eq_ok

/-- **A value has a preview exactly when it can be written.** -/
theorem exists_preview_iff (v : Value) (limit : Int) :
    (∃ s, preview v limit = .ok s) ↔ v.isWritable = true :=
  exists_map_eq_ok_iff.trans exists_fullText_iff

theorem toList_shorten (s : String) : (shorten limit s).toList = cut limit (oneLine s.toList) :=
  String.toList_ofList

variable (hpos : 1 ≤ limit) {s : String}
include hpos

/-- **A preview has no blank but spaces.** -/
theorem eq_space_of_mem_preview (h : preview v limit = .ok s) {c : Char} (hmem : c ∈ s.toList)
    (hc : isBlank c = true) : c = ' ' := by
  obtain ⟨text, -, rfl⟩ := preview_eq_ok_iff.mp h
  rw [toList_shorten] at hmem
  rcases mem_cut hpos hmem with hmem | rfl
  · exact eq_space_of_mem_oneLine hmem hc
  · cases hc

/-- **The length of a preview** is at most the limit. -/
theorem length_preview_le (h : preview v limit = .ok s) : s.length ≤ limit := by
  obtain ⟨text, -, rfl⟩ := preview_eq_ok_iff.mp h
  rw [← String.length_toList, toList_shorten]
  exact length_cut_le hpos

end Preview

end Log

end HatTree
