import HatTree.Proofs.Log.SafeText
import HatTree.Proofs.Log.Shield
import HatTree.Proofs.Reading

/-!
# Entries of logged dictionaries

A dictionary is logged as JSON text, or shown if it has none. Either way an entry that maps a text
to a text has both in quotation marks, with a colon and a space in between, and the line of the
whole text keeps them so. The patterns know settings in plain text only, where nothing stands
between the name and the sign. So the value of an entry survives a redaction whatever its key is,
and only what the limit cuts off is left out.

## Main results

* `exists_quoted_entry`: the text of an entry
* `occurrences_oneLine`, `eq_of_occurrences_eq_one`: occurrences in a line
* `survival_of_entry`: when a secret of a dictionary survives
-/

namespace HatTree

namespace Log

open Text Secret

/-! ## The text of an entry -/

theorem infix_intercalate {sep t : List Char} {ts : List (List Char)} (h : t ∈ ts) :
    t <:+: sep.intercalate ts := by
  induction ts with
  | nil => cases h
  | cons u ts ih =>
    cases ts with
    | nil =>
      have hu : sep.intercalate [u] = t := by
        rw [List.mem_singleton.mp h, List.intercalate_singleton]
      exact hu ▸ List.infix_rfl
    | cons v ts =>
      rw [List.intercalate_cons_cons]
      rcases List.mem_cons.mp h with rfl | h
      · rw [List.append_assoc]
        exact (List.prefix_append _ _).isInfix
      · exact (ih h).trans (List.suffix_append _ _).isInfix

theorem infix_toList_intercalate {sep t : String} {ts : List String} (h : t ∈ ts) :
    t.toList <:+: (sep.intercalate ts).toList := by
  rw [String.toList_intercalate]
  exact infix_intercalate (List.mem_map_of_mem h)

/-- A letter or a digit of ASCII prints. -/
theorem isPrintable_of_isAlphanum {c : Char} (h : c.isAlphanum = true) : isPrintable c = true := by
  have hc := isAlphanum_iff.mp h
  have hcovers : ∀ rest, Ranges.covers ((0x0, 0x1F) :: (0x7F, 0xA0) :: rest) c.toNat = false := by
    intro rest
    rw [Ranges.covers_cons, Ranges.covers_cons]
    simp
    omega
  rw [isPrintable, unprintableRanges, hcovers]
  rfl

theorem jsonEscape_of_isAlphanum {c : Char} (h : c.isAlphanum = true) : jsonEscape c = [c] := by
  have hc := isAlphanum_iff.mp h
  have hne (d : Char) (hd : d.isAlphanum = false) : c ≠ d := ne_of_isAlphanum h hd
  rw [jsonEscape, if_neg (not_or.mpr ⟨hne _ rfl, hne _ rfl⟩), if_neg (hne _ rfl),
    if_neg (hne _ rfl), if_neg (hne _ rfl), if_neg (by omega), if_neg (by omega), if_neg (by omega)]

theorem escape_of_isAlphanum {mark c : Char} (h : c.isAlphanum = true)
    (hmark : mark.isAlphanum = false) : escape mark c = [c] := by
  have hne (d : Char) (hd : d.isAlphanum = false) : c ≠ d := ne_of_isAlphanum h hd
  rw [escape, if_neg (not_or.mpr ⟨hne _ hmark, hne _ rfl⟩), if_neg (hne _ rfl), if_neg (hne _ rfl),
    if_neg (hne _ rfl), if_pos (isPrintable_of_isAlphanum h)]

theorem flatMap_of_isAlphanum {f : Char → List Char} {s : List Char}
    (hs : ∀ c ∈ s, c.isAlphanum = true) (hf : ∀ c, c.isAlphanum = true → f c = [c]) :
    s.flatMap f = s := by
  rw [List.flatMap_congr fun c hc => hf c (hs c hc), List.flatMap_singleton']

theorem eq_shown_of_toShown {v : Value} {text : String} (h : v.toShown = .ok text) :
    text = v.shown := by
  rw [Value.toShown] at h
  split at h
  · exact (Except.ok.inj h).symm
  · cases h

theorem isQuote_quoteMark (cs : List Char) : isQuote (quoteMark cs) = true := by
  rw [quoteMark]
  split <;> rfl

section Entry

variable {entries : List (Value × Value)} {key s : String}

theorem mem_jsonEntries {ss : List String} (hentry : (.text key, .text s) ∈ entries)
    (hjson : Value.jsonEntries entries = .ok ss) : jsonString key ++ ": " ++ jsonString s ∈ ss := by
  induction entries generalizing ss with
  | nil => cases hentry
  | cons entry entries ih =>
    obtain ⟨k, v⟩ := entry
    rw [Value.jsonEntries] at hjson
    obtain ⟨name, hname, hjson⟩ := bind_eq_ok.mp hjson
    obtain ⟨t, ht, hjson⟩ := bind_eq_ok.mp hjson
    obtain ⟨ts, hts, hjson⟩ := bind_eq_ok.mp hjson
    cases hjson
    rcases List.mem_cons.mp hentry with hentry | hentry
    · cases hentry
      cases hname
      rw [Value.json] at ht
      cases ht
      exact List.mem_cons_self
    · exact List.mem_cons_of_mem _ (ih hentry hts)

theorem mem_shownEntries (hentry : (.text key, .text s) ∈ entries) :
    quote key ++ ": " ++ quote s ∈ Value.shownEntries entries := by
  induction entries with
  | nil => cases hentry
  | cons entry entries ih =>
    obtain ⟨k, v⟩ := entry
    show _ ∈ (Value.shown k ++ ": " ++ Value.shown v) :: Value.shownEntries entries
    rcases List.mem_cons.mp hentry with hentry | hentry
    · cases hentry
      exact List.mem_cons_self
    · exact List.mem_cons_of_mem _ (ih hentry)

variable (hs : ∀ c ∈ s.toList, c.isAlphanum = true)
include hs

theorem infix_json_entry (key : String) : ['"', ':', ' ', '"'] ++ s.toList <:+:
    (jsonString key ++ ": " ++ jsonString s).toList := by
  refine ⟨'"' :: key.toList.flatMap jsonEscape, ['"'], ?_⟩
  have hsecret := flatMap_of_isAlphanum hs fun _ => jsonEscape_of_isAlphanum
  simp [jsonString, hsecret]

theorem infix_shown_entry (key : String) : ∃ q' q, isQuote q' = true ∧ isQuote q = true ∧
    [q', ':', ' ', q] ++ s.toList <:+: (quote key ++ ": " ++ quote s).toList := by
  have hmark : (quoteMark s.toList).isAlphanum = false := by
    rcases isQuote_cases (isQuote_quoteMark s.toList) with h | h <;> rw [h] <;> rfl
  have hsecret := flatMap_of_isAlphanum hs fun _ hc => escape_of_isAlphanum hc hmark
  refine ⟨quoteMark key.toList, quoteMark s.toList, isQuote_quoteMark _, isQuote_quoteMark _, ?_⟩
  refine ⟨quoteMark key.toList :: key.toList.flatMap (escape (quoteMark key.toList)),
    [quoteMark s.toList], ?_⟩
  simp [quote, quoteChars, hsecret]

/-- **The text of an entry** with a text for its key: the value stands in quotation marks behind a
quoted key. -/
theorem exists_quoted_entry (hentry : (.text key, .text s) ∈ entries) {text : String}
    (htext : fullText (.dict entries) = .ok text) : ∃ q' q, isQuote q' = true ∧ isQuote q = true ∧
      [q', ':', ' ', q] ++ s.toList <:+: text.toList := by
  have hmember {t : String} {ts : List String} (ht : t ∈ ts) :
      t.toList <:+: ("\x7b" ++ ", ".intercalate ts ++ "\x7d").toList := by
    rw [String.toList_append, String.toList_append]
    exact (infix_toList_intercalate ht).trans (List.infix_append _ _ _)
  rw [fullText, Value.json] at htext
  cases hjson : Value.jsonEntries entries with
  | ok ts =>
    rw [hjson] at htext
    cases htext
    have hmem := hmember (mem_jsonEntries hentry hjson)
    exact ⟨'"', '"', rfl, rfl, (infix_json_entry hs key).trans hmem⟩
  | error flaw =>
    -- A dictionary is shown if another key of it has no JSON form, or a list in it holds itself.
    rw [hjson] at htext
    have hshown : text = "\x7b" ++ ", ".intercalate (Value.shownEntries entries) ++ "\x7d" :=
      eq_shown_of_toShown htext
    obtain ⟨q', q, hq', hq, hinfix⟩ := infix_shown_entry hs key
    rw [hshown]
    exact ⟨q', q, hq', hq, hinfix.trans (hmember (mem_shownEntries hentry))⟩

end Entry

/-! ## Occurrences in a line -/

section Line

variable {s cs x y : List Char}

/-- **A word without blanks occurs in a line as often as in the text.** -/
theorem occurrences_oneLine (hs : ∀ c ∈ s, isBlank c = false) (hne : s ≠ []) (cs : List Char) :
    occurrences s (oneLine cs) = occurrences s cs := by
  have hnot {b : Char} (hb : isBlank b = true) : b ∉ s := by
    intro hmem
    rw [hs b hmem] at hb
    cases hb
  induction cs using wordInduction with
  | word w hw => rw [oneLine_eq_self hw]
  | blank w b rest hw hb ih =>
    rw [occurrences_append_cons hne (hnot hb), ← ih]
    cases w with
    | nil =>
      -- A blank at the front makes no word.
      rw [oneLine, List.nil_append, ← List.nil_append (b :: rest), words_append_blank hb]
      exact (Nat.zero_add _).symm
    | cons c w =>
      have hwords : words (c :: w) = [c :: w] := words_eq_singleton hw (List.cons_ne_nil _ _)
      by_cases hrest : words rest = []
      · rw [oneLine, words_append_blank hb, hwords, oneLine, hrest]
        rfl
      · rw [oneLine_append_blank hb (by simp [hwords]) hrest, oneLine_eq_self hw,
          occurrences_append_cons hne (hnot rfl)]

/-- **A word that occurs once** stands in one place. -/
theorem eq_of_occurrences_eq_one (hne : s ≠ []) {x' y' : List Char}
    (h : x ++ s ++ y = x' ++ s ++ y') (honce : occurrences s (x ++ s ++ y) = 1) : x = x' := by
  have hpos (x y : List Char) : 0 < occurrences s (x ++ s ++ y) :=
    (occurrences_pos_iff hne).mpr ⟨x, y, rfl⟩
  -- A word at the front and one behind it are two occurrences.
  have hhead {c : Char} {x y z : List Char} (hsplit : s ++ z = c :: (x ++ s ++ y)) :
      occurrences s (c :: (x ++ s ++ y)) ≠ 1 := by
    have hprefix : s <+: c :: (x ++ s ++ y) := ⟨z, hsplit⟩
    have hbehind := hpos x y
    rw [occurrences, if_pos hprefix]
    omega
  induction x generalizing x' with
  | nil =>
    cases x' with
    | nil => rfl
    | cons c x' =>
      rw [h] at honce
      exact absurd honce (hhead h)
  | cons c x ih =>
    cases x' with
    | nil => exact absurd honce (hhead h.symm)
    | cons d x' =>
      obtain ⟨rfl, htail⟩ := List.cons.inj h
      have hbehind := hpos x y
      have honce : (if s <+: c :: (x ++ s ++ y) then 1 else 0) + occurrences s (x ++ s ++ y) = 1 :=
        honce
      rw [ih htail (by omega)]

end Line

/-! ## Entries -/

/-- **The line of an entry**: the value is shielded by its quotation mark and its quoted key. -/
theorem shielded_of_entry {entries : List (Value × Value)} {key s text : String}
    (hentry : (.text key, .text s) ∈ entries) (hs : ∀ c ∈ s.toList, c.isAlphanum = true)
    (htext : fullText (.dict entries) = .ok text) : Shielded s.toList (oneLine text.toList) := by
  obtain ⟨q', q, hq', hq, x, y, hinfix⟩ := exists_quoted_entry hs hentry htext
  have hquote {c : Char} (hc : isQuote c = true) : isBlank c = false := by
    rcases isQuote_cases hc with rfl | rfl <;> rfl
  have hkey : ∀ c ∈ [q', ':'], isBlank c = false := by
    simp [hquote hq', show isBlank ':' = false from rfl]
  have hvalue : ∀ c ∈ q :: s.toList, isBlank c = false :=
    List.forall_mem_cons.mpr ⟨hquote hq, fun c hc => isBlank_of_isAlphanum (hs c hc)⟩
  obtain ⟨x', hx'⟩ := exists_oneLine_append_word hkey (List.cons_ne_nil _ _) x
  obtain ⟨y', hy'⟩ := exists_oneLine_word_append hvalue (List.cons_ne_nil _ _) y
  have hsplit : text.toList = (x ++ [q', ':']) ++ ' ' :: (q :: s.toList ++ y) := by
    rw [← hinfix]
    simp
  refine ⟨x', [q', ':'], q, y', ?_, .key hq', hq⟩
  have hback : oneLine (q :: s.toList ++ y) ≠ [] := by
    rw [hy']
    exact List.cons_ne_nil _ _
  rw [hsplit, oneLine_append_blank rfl (words_ne_nil_of_oneLine (by simp [hx']))
    (words_ne_nil_of_oneLine hback), hx', hy']
  simp

/-- **What the limit leaves of a line holds a word** that occurs once if it goes beyond the word. -/
theorem infix_cut_iff {limit : Int} (hpos : 1 ≤ limit) {s x y : List Char} (hne : s ≠ [])
    (hs : ellipsis ∉ s) (honce : occurrences s (x ++ s ++ y) = 1) :
    s <:+: cut limit (x ++ s ++ y) ↔
      (x ++ s ++ y).length ≤ limit ∨ (x ++ s).length < limit := by
  constructor
  · intro h
    by_contra! hcut
    obtain ⟨hlong, hshort⟩ := hcut
    rw [cut_of_lt_length hpos hlong] at h
    obtain ⟨u, v, hinfix⟩ := h
    rcases eq_append_cons_cases hs hinfix with ⟨_, -, hnil⟩ | ⟨v', -, htake⟩
    · simp [hne] at hnil
    · -- The word would end before the limit, in the one place where it stands.
      have hwhole : x ++ s ++ y = u ++ s ++ (v' ++ (x ++ s ++ y).drop (limit - 1).toNat) := by
        rw [← List.append_assoc, ← htake, List.take_append_drop]
      have hplace := eq_of_occurrences_eq_one hne hwhole honce
      have hlength := congrArg List.length htake
      simp only [List.length_take, List.length_append, hplace] at hlength hshort
      omega
  · intro h
    obtain ⟨y', hy'⟩ := exists_cut_append hpos h
    rw [hy']
    exact ⟨x, y', rfl⟩

/-- **When a secret of a dictionary survives.** A text of letters and digits that is longer than the
word of a mark, that is the value of a text in a dictionary and that occurs once in the text of the
dictionary, is not redacted, whatever its key is. It is in the safe text exactly if the limit leaves
it: if the whole line fits, or what is left of it goes on behind the secret. -/
theorem survival_of_entry {entries : List (Value × Value)} {key s text : String} {limit : Int}
    (hentry : (.text key, .text s) ∈ entries) (hs : ∀ c ∈ s.toList, c.isAlphanum = true)
    (hlong : 8 < s.toList.length) (htext : fullText (.dict entries) = .ok text)
    (honce : occurrences s.toList text.toList = 1) (hpos : 1 ≤ limit) :
    ∃ safe x y, safeText (.dict entries) limit = .ok safe ∧
      oneLine text.toList = x ++ s.toList ++ y ∧
      (s.toList <:+: safe.toList ↔
        (x ++ s.toList ++ y).length ≤ limit ∨ (x ++ s.toList).length < limit) := by
  have hne : s.toList ≠ [] := List.ne_nil_of_length_pos (by omega)
  have hother (c : Char) (hc : c.isAlphanum = false) : c ∉ s.toList := not_mem_of_isAlphanum hs hc
  have hblank : ∀ c ∈ s.toList, isBlank c = false := fun c hc => isBlank_of_isAlphanum (hs c hc)
  obtain ⟨x, w, q, y, hline, hw, hq⟩ := shielded_of_entry hentry hs htext
  have hsplit : x ++ (w ++ ' ' :: q :: s.toList) ++ y = (x ++ w ++ [' ', q]) ++ s.toList ++ y := by
    simp
  have honce' : occurrences s.toList ((x ++ w ++ [' ', q]) ++ s.toList ++ y) = 1 := by
    rw [← hsplit, ← hline, occurrences_oneLine hblank hne, honce]
  have hcut := infix_cut_iff hpos hne (hother _ rfl) honce'
  have hpreview : preview (.dict entries) limit = .ok (shorten limit text) :=
    preview_eq_ok_iff.mpr ⟨text, htext, rfl⟩
  refine ⟨redact (shorten limit text), x ++ w ++ [' ', q], y,
    safeText_eq_ok_iff.mpr ⟨_, hpreview, rfl⟩, hline.trans hsplit, ?_⟩
  rw [toList_redact, toList_shorten, hline, hsplit, ← hcut]
  refine ⟨infix_of_infix_redactChars hs hlong, fun h => ?_⟩
  -- What the limit leaves is shielded as the line is.
  obtain ⟨y', hy'⟩ := exists_cut_append hpos (hcut.mp h)
  refine Shielded.infix_redactChars hs ⟨x, w, q, y', ?_, hw, hq⟩
  rw [hy']
  simp

/-- No name of a setting leads to the value of an entry. -/
theorem survival_of_entry_settings :
    safeText (.dict [(.text "password", .text "abcdef123456")]) =
        .ok "\x7b\"password\": \"abcdef123456\"\x7d" ∧
      ∀ key ∈ ["password", "passwd", "secret", "token", "api_key", "api-key", "auth_token"],
        ∃ safe, safeText (.dict [(.text key, .text "abcdef123456")]) = .ok safe ∧
          "abcdef123456".toList <:+: safe.toList := by
  have htext (key : String) : fullText (.dict [(.text key, .text "abcdef123456")]) =
      .ok ("\x7b" ++ (jsonString key ++ ": " ++ jsonString "abcdef123456") ++ "\x7d") := by
    show Except.ok ("\x7b" ++ ", ".intercalate [_] ++ "\x7d") = _
    rw [String.intercalate_singleton]
  have hfacts : ∀ key ∈
      ["password", "passwd", "secret", "token", "api_key", "api-key", "auth_token"],
      occurrences "abcdef123456".toList ("\x7b" ++ (jsonString key ++ ": " ++
          jsonString "abcdef123456") ++ "\x7d").toList = 1 ∧
        (oneLine ("\x7b" ++ (jsonString key ++ ": " ++
          jsonString "abcdef123456") ++ "\x7d").toList).length ≤ usualLimit := by
    decide +kernel
  refine ⟨by decide +kernel, fun key hkey => ?_⟩
  obtain ⟨honce, hfits⟩ := hfacts key hkey
  have hentry : (Value.text key, Value.text "abcdef123456") ∈
      [(.text key, .text "abcdef123456")] := List.mem_cons_self
  have hs : ∀ c ∈ "abcdef123456".toList, c.isAlphanum = true := List.all_eq_true.mp rfl
  obtain ⟨safe, x, y, hsafe, hline, hiff⟩ :=
    survival_of_entry hentry hs (by decide) (htext key) honce (show 1 ≤ usualLimit by decide)
  exact ⟨safe, hsafe, hiff.mpr (.inl (hline ▸ hfits))⟩

end Log

end HatTree
