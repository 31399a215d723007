import HatTree.Proofs.HatId.Digits
import HatTree.Proofs.Reading

/-!
# The language of dotted paths

A path is cut into tokens at its points. It is read if and only if there are at most fifteen tokens
and each is a run of ASCII digits that fits its segment, however many zeros lead it, as long as the
run has no more digits than are read. Otherwise the fault is the number of tokens, or the first
token that is not read; and it is a malformed path, unless that token is overlong.

## Main definitions

* `pathTokens`: the tokens of a path
* `IsRun`, `FitsSegment`, `IsOverlong`: what a token can be
* `IsReadable`, `IsFirstFlaw`: the tokens that are read, and the first one that is not

## Main results

* `readToken_eq_ok_iff`, `readTokens_eq_ok_iff`: what is read, and as which values
* `exists_of_readTokens_eq_error`: the fault of tokens is that of the first one with a fault
* `IsPath.exists_segments`: the values of a path are a domain and at most fourteen levels
* `ofDotted_eq_ok_iff`: the paths that are read, and the ids that they name
* `language_of_ofDotted`: the language of paths, and the faults outside of it
-/

namespace HatTree.HatId

open Layout Numeral

/-- **The tokens of a path**: what stands between its points. -/
def pathTokens (path : String) : List (List Char) := path.toList.splitOn '.'

/-- A run of ASCII digits. -/
def IsRun (token : List Char) : Prop := token ≠ [] ∧ ∀ c ∈ token, c.isDigit = true

/-- **A token that fits its segment**: a run of digits, of 32 bits at the first position and of 16
bits behind it. -/
structure FitsSegment (position : Nat) (token : List Char) : Prop where
  isRun : IsRun token
  value_le : value 10 token ≤ if position = 0 then 4294967295 else 65535

/-- A run of more digits than are read. -/
def IsOverlong (token : List Char) : Prop := IsRun token ∧ 4300 < token.length

/-- A token that is read at a position. -/
def IsReadable (position : Nat) (token : List Char) : Prop :=
  FitsSegment position token ∧ ¬ IsOverlong token

/-- **The first token that is not read**, and its position. -/
structure IsFirstFlaw (ts : List (List Char)) (i : Nat) (token : List Char) : Prop where
  at_position : ts[i]? = some token
  not_readable : ¬ IsReadable i token
  readable_before : ∀ j < i, ∀ t, ts[j]? = some t → IsReadable j t

/-- **A fault that is reported as a malformed path**, with the position that its details give. -/
structure IsMalformed (path : String) (position? : Option Nat) (fault : PathFault) : Prop where
  family : (report fault).family = .library .malformedPath
  details : (report fault).details =
    ("path", .text path) :: position?.toList.map fun i => ("position", .int i)

/-! ## One token -/

theorem isRun_iff (token : List Char) :
    IsRun token ↔ ¬ (token.isEmpty || !token.all Char.isDigit) = true := by
  simp [IsRun]

theorem readToken_of_not_isRun {position : Nat} {token : List Char} (h : ¬ IsRun token) :
    readToken position token = .error (.notNumber position (String.ofList token)) := by
  rw [isRun_iff, not_not] at h
  rw [readToken, if_pos h]

theorem readToken_of_isOverlong {position : Nat} {token : List Char} (h : IsOverlong token) :
    readToken position token = .error (.tooLong token.length) := by
  obtain ⟨hrun, hlen⟩ := h
  have hlen : maxDigits < token.length := hlen
  rw [readToken, if_neg ((isRun_iff token).mp hrun), if_pos hlen]

theorem readToken_of_isRun {position : Nat} {token : List Char} (hrun : IsRun token)
    (hlen : ¬ IsOverlong token) :
    readToken position token =
      if segmentLimit position < value 10 token then
        .error (.tooLarge position (segmentLimit position) (value 10 token))
      else .ok (value 10 token) := by
  have hshort : ¬ maxDigits < token.length := fun h => hlen ⟨hrun, h⟩
  rw [readToken, if_neg ((isRun_iff token).mp hrun), if_neg hshort]

/-- **A token is read** as its value. -/
theorem readToken_eq_ok_iff {position : Nat} {token : List Char} {v : Nat} :
    readToken position token = .ok v ↔ IsReadable position token ∧ v = value 10 token := by
  by_cases hrun : IsRun token
  · by_cases hlong : IsOverlong token
    · rw [readToken_of_isOverlong hlong]
      constructor
      · intro h
        cases h
      · rintro ⟨⟨-, h⟩, -⟩
        exact absurd hlong h
    · rw [readToken_of_isRun hrun hlong]
      split
      next hlarge =>
        constructor
        · intro h
          cases h
        · rintro ⟨⟨hfits, -⟩, -⟩
          exact absurd hfits.value_le (Nat.not_le.mpr hlarge)
      next hsmall =>
        have hread : IsReadable position token := ⟨⟨hrun, Nat.not_lt.mp hsmall⟩, hlong⟩
        constructor
        · intro h
          cases h
          exact ⟨hread, rfl⟩
        · rintro ⟨-, rfl⟩
          rfl
  · rw [readToken_of_not_isRun hrun]
    constructor
    · intro h
      cases h
    · rintro ⟨⟨hfits, -⟩, -⟩
      exact absurd hfits.isRun hrun

/-- **The fault of a token** tells its position, unless the token is overlong. -/
theorem fault_of_readToken {path : String} {position : Nat} {token : List Char} {cause : PathCause}
    (h : readToken position token = .error cause) :
    (IsOverlong token → (report (PathFault.mk path cause)).family = .badValue) ∧
      (¬ IsOverlong token → IsMalformed path (some position) ⟨path, cause⟩) := by
  constructor
  · intro hlong
    rw [readToken_of_isOverlong hlong] at h
    cases h
    rfl
  · intro hlong
    by_cases hrun : IsRun token
    · rw [readToken_of_isRun hrun hlong] at h
      split at h
      · cases h
        exact ⟨rfl, rfl⟩
      · cases h
    · rw [readToken_of_not_isRun hrun] at h
      cases h
      exact ⟨rfl, rfl⟩

/-! ## The tokens of a path -/

theorem forall_getElem?_cons {p : Nat → List Char → Prop} {t : List Char} {ts : List (List Char)} :
    (∀ i token, (t :: ts)[i]? = some token → p i token) ↔
      p 0 t ∧ ∀ i token, ts[i]? = some token → p (i + 1) token := by
  constructor
  · intro h
    exact ⟨h 0 t rfl, fun i token hi => h (i + 1) token hi⟩
  · rintro ⟨h₀, h⟩ (_ | i) token hi
    · cases hi
      exact h₀
    · exact h i token hi

/-- **Tokens are read** when each is, as their values. -/
theorem readTokens_eq_ok_iff {position : Nat} {ts : List (List Char)} {vs : List Nat} :
    readTokens position ts = .ok vs ↔
      (∀ i token, ts[i]? = some token → IsReadable (position + i) token) ∧
        vs = ts.map (value 10) := by
  induction ts generalizing position vs with
  | nil =>
    constructor
    · intro h
      cases h
      exact ⟨fun i token => by simp, rfl⟩
    · rintro ⟨-, rfl⟩
      rfl
  | cons t ts ih =>
    have hshift (i : Nat) : position + 1 + i = position + (i + 1) := by omega
    rw [forall_getElem?_cons, readTokens]
    constructor
    · intro h
      obtain ⟨v, hv, h⟩ := bind_eq_ok.mp h
      obtain ⟨vs, hvs, h⟩ := bind_eq_ok.mp h
      obtain ⟨ht, rfl⟩ := readToken_eq_ok_iff.mp hv
      obtain ⟨hts, rfl⟩ := ih.mp hvs
      cases h
      exact ⟨⟨ht, fun i token hi => hshift i ▸ hts i token hi⟩, rfl⟩
    · rintro ⟨⟨ht, hts⟩, rfl⟩
      have hfirst : readToken position t = .ok (value 10 t) := readToken_eq_ok_iff.mpr ⟨ht, rfl⟩
      have hrest : readTokens (position + 1) ts = .ok (ts.map (value 10)) :=
        ih.mpr ⟨fun i token hi => (hshift i).symm ▸ hts i token hi, rfl⟩
      rw [hfirst, hrest]
      rfl

/-- **The fault of tokens** is that of the first one with a fault. -/
theorem exists_of_readTokens_eq_error {position : Nat} {ts : List (List Char)} {cause : PathCause}
    (h : readTokens position ts = .error cause) :
    ∃ i token, ts[i]? = some token ∧ readToken (position + i) token = .error cause ∧
      ∀ j < i, ∀ t, ts[j]? = some t → IsReadable (position + j) t := by
  induction ts generalizing position with
  | nil => cases h
  | cons t ts ih =>
    rw [readTokens] at h
    rcases bind_eq_error.mp h with h | ⟨v, hv, h⟩
    · exact ⟨0, t, rfl, h, fun j hj => absurd hj (Nat.not_lt_zero j)⟩
    · rcases bind_eq_error.mp h with h | ⟨vs, -, h⟩
      · obtain ⟨i, token, hi, hcause, hbefore⟩ := ih h
        have hshift (i : Nat) : position + 1 + i = position + (i + 1) := by omega
        refine ⟨i + 1, token, hi, hshift i ▸ hcause, ?_⟩
        rintro (_ | j) hj t' ht'
        · -- The token before the others was read.
          cases ht'
          exact (readToken_eq_ok_iff.mp hv).1
        · exact hshift j ▸ hbefore j (Nat.lt_of_succ_lt_succ hj) t' ht'
      · cases h

/-! ## Paths -/

/-- **A path**: at most fifteen tokens that are read. -/
structure IsPath (path : String) : Prop where
  length_le : (pathTokens path).length ≤ 15
  readable : ∀ i token, (pathTokens path)[i]? = some token → IsReadable i token

/-- **The values of the tokens of a path.** -/
def tokenValues (path : String) : List Nat := (pathTokens path).map (value 10)

theorem readPath_of_length_le {path : String} (h : (pathTokens path).length ≤ 15) :
    readPath path.toList = readTokens 0 (pathTokens path) := by
  rw [readPath]
  exact if_neg (Nat.not_lt.mpr h)

theorem readPath_of_lt_length {path : String} (h : 15 < (pathTokens path).length) :
    readPath path.toList = .error (.tooManyTokens (pathTokens path).length) := by
  rw [readPath]
  exact if_pos h

/-- **The values of a path** are a domain of 32 bits and at most fourteen levels of 16 bits. -/
theorem IsPath.exists_segments {path : String} (hpath : IsPath path) :
    ∃ d ls, tokenValues path = d :: ls ∧ d < 2 ^ domainBits ∧ ls.length ≤ maxLevels ∧
      ∀ l ∈ ls, l < levelSpan := by
  obtain ⟨hlen, hread⟩ := hpath
  rw [tokenValues]
  -- Cutting at points leaves at least one token.
  cases hts : pathTokens path with
  | nil => exact absurd hts (List.splitOn_ne_nil _ _)
  | cons t ts =>
    rw [hts] at hlen hread
    refine ⟨value 10 t, ts.map (value 10), rfl, ?_, ?_, ?_⟩
    · have hvalue := (hread 0 t rfl).1.value_le
      rw [if_pos rfl] at hvalue
      exact Nat.lt_of_le_of_lt hvalue (by decide)
    · rw [List.length_map]
      exact Nat.le_of_succ_le_succ hlen
    · intro l hl
      obtain ⟨token, hmem, rfl⟩ := List.mem_map.mp hl
      obtain ⟨i, hi⟩ := List.mem_iff_getElem?.mp hmem
      have hvalue := (hread (i + 1) token hi).1.value_le
      rw [if_neg (Nat.succ_ne_zero i)] at hvalue
      rw [levelSpan_eq]
      omega

/-- The digits of the values of a path denote the id packed from them. -/
theorem IsPath.value_joinDigits {path : String} (hpath : IsPath path) :
    value 16 ((joinDigits ((tokenValues path).headD 0) (tokenValues path).tail).rightpad
      idDigits '0') = pack ((tokenValues path).headD 0) (tokenValues path).tail := by
  obtain ⟨d, ls, hvalues, hd, hlen, hls⟩ := hpath.exists_segments
  rw [hvalues]
  exact value_rightpad_joinDigits hd hls hlen

/-- **A path is read** as the id packed from the values of its tokens. -/
theorem ofDotted_eq_ok_iff {path : String} {h : Int} :
    ofDotted path = .ok h ↔
      IsPath path ∧ h = pack ((tokenValues path).headD 0) (tokenValues path).tail := by
  rcases Nat.lt_or_ge 15 (pathTokens path).length with hlen | hlen
  · rw [ofDotted, readPath_of_lt_length hlen]
    constructor
    · intro h
      cases h
    · rintro ⟨hpath, -⟩
      exact absurd hpath.length_le (Nat.not_le.mpr hlen)
  · rw [ofDotted, readPath_of_length_le hlen]
    cases hread : readTokens 0 (pathTokens path) with
    | ok vs =>
      obtain ⟨hall, rfl⟩ := readTokens_eq_ok_iff.mp hread
      simp only [Nat.zero_add] at hall
      constructor
      · intro h
        cases h
        have hpath : IsPath path := ⟨hlen, hall⟩
        exact ⟨hpath, congrArg Nat.cast hpath.value_joinDigits⟩
      · rintro ⟨hpath, rfl⟩
        exact congrArg (fun n : Nat => Except.ok (n : Int)) hpath.value_joinDigits
    | error cause =>
      constructor
      · intro h
        cases h
      · rintro ⟨hpath, -⟩
        -- A path whose tokens are all read has no fault.
        have hall : ∀ i token, (pathTokens path)[i]? = some token → IsReadable (0 + i) token :=
          fun i token hi => (Nat.zero_add i).symm ▸ hpath.readable i token hi
        rw [readTokens_eq_ok_iff.mpr ⟨hall, rfl⟩] at hread
        cases hread

/-- **The fault of a text that is no path.** -/
theorem fault_of_ofDotted {path : String} {fault : PathFault} (h : ofDotted path = .error fault) :
    (15 < (pathTokens path).length ∧ IsMalformed path none fault) ∨
      ((pathTokens path).length ≤ 15 ∧
        ∃ i token, IsFirstFlaw (pathTokens path) i token ∧
          (IsOverlong token → (report fault).family = .badValue) ∧
          (¬ IsOverlong token → IsMalformed path (some i) fault)) := by
  rcases Nat.lt_or_ge 15 (pathTokens path).length with hlen | hlen
  · rw [ofDotted, readPath_of_lt_length hlen] at h
    cases h
    exact .inl ⟨hlen, rfl, rfl⟩
  · rw [ofDotted, readPath_of_length_le hlen] at h
    cases hread : readTokens 0 (pathTokens path) with
    | ok vs =>
      rw [hread] at h
      cases h
    | error cause =>
      rw [hread] at h
      cases h
      obtain ⟨i, token, hi, hcause, hbefore⟩ := exists_of_readTokens_eq_error hread
      simp only [Nat.zero_add] at hcause hbefore
      have hflaw : ¬ IsReadable i token := by
        intro hread
        rw [readToken_eq_ok_iff.mpr ⟨hread, rfl⟩] at hcause
        cases hcause
      exact .inr ⟨hlen, i, token, ⟨hi, hflaw, hbefore⟩, fault_of_readToken hcause⟩

/-- **The language of paths.** A text is read if and only if it has at most fifteen tokens, each of
them a run of digits that fits its segment and is not overlong. More tokens are reported as a
malformed path without a position. Otherwise the first token that is not read decides: the text is
reported as a malformed path with the position of that token, unless the token is overlong. -/
theorem language_of_ofDotted (path : String) :
    ((∃ h, ofDotted path = .ok h) ↔
        (pathTokens path).length ≤ 15 ∧
          ∀ i token, (pathTokens path)[i]? = some token →
            FitsSegment i token ∧ ¬ IsOverlong token) ∧
      ∀ fault, ofDotted path = .error fault →
        (15 < (pathTokens path).length ∧ IsMalformed path none fault) ∨
          ((pathTokens path).length ≤ 15 ∧
            ∃ i token, IsFirstFlaw (pathTokens path) i token ∧
              (IsOverlong token → (report fault).family = .badValue) ∧
              (¬ IsOverlong token → IsMalformed path (some i) fault)) := by
  refine ⟨⟨?_, ?_⟩, fun fault h => fault_of_ofDotted h⟩
  · rintro ⟨h, hread⟩
    obtain ⟨hpath, -⟩ := ofDotted_eq_ok_iff.mp hread
    exact ⟨hpath.length_le, hpath.readable⟩
  · rintro ⟨hlen, hall⟩
    exact ⟨_, ofDotted_eq_ok_iff.mpr ⟨⟨hlen, hall⟩, rfl⟩⟩

theorem isRun_replicate_zero {n : Nat} (hn : 0 < n) : IsRun (List.replicate n '0') := by
  refine ⟨fun h => ?_, fun c hc => ?_⟩
  · rw [List.replicate_eq_nil_iff] at h
    omega
  · rw [List.eq_of_mem_replicate hc]
    rfl

theorem pathTokens_ofList_of_isRun {token : List Char} (h : IsRun token) :
    pathTokens (String.ofList token) = [token] := by
  rw [pathTokens, String.toList_ofList]
  refine List.splitOn_eq_singleton fun hpoint => ?_
  cases h.2 _ hpoint

/-- A zero of 4301 digits fits the first segment, and is refused as a bad value. -/
theorem language_of_ofDotted_long_zero :
    pathTokens (String.ofList (List.replicate 4301 '0')) = [List.replicate 4301 '0'] ∧
      FitsSegment 0 (List.replicate 4301 '0') ∧
      ∃ fault, ofDotted (String.ofList (List.replicate 4301 '0')) = .error fault ∧
        (report fault).family = .badValue := by
  have hrun : IsRun (List.replicate 4301 '0') := isRun_replicate_zero (by decide)
  have hlong : IsOverlong (List.replicate 4301 '0') := by
    refine ⟨hrun, ?_⟩
    rw [List.length_replicate]
    decide
  have htokens := pathTokens_ofList_of_isRun hrun
  refine ⟨htokens, ⟨hrun, ?_⟩, ?_⟩
  · rw [value_replicate_zero]
    exact Nat.zero_le _
  · obtain ⟨hok, herror⟩ := language_of_ofDotted (String.ofList (List.replicate 4301 '0'))
    rw [htokens] at hok herror
    cases hread : ofDotted (String.ofList (List.replicate 4301 '0')) with
    | ok h =>
      obtain ⟨-, hall⟩ := hok.mp ⟨h, hread⟩
      exact absurd hlong (hall 0 _ rfl).2
    | error fault =>
      refine ⟨fault, rfl, ?_⟩
      rcases herror fault hread with ⟨hlen, -⟩ | ⟨-, i, token, hflaw, hbad, -⟩
      · cases hlen with
        | step h => cases h
      · -- There is one token only, and it is overlong.
        have htoken := List.mem_of_getElem? hflaw.at_position
        rw [List.mem_singleton] at htoken
        exact hbad (htoken ▸ hlong)

end HatTree.HatId
