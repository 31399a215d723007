import HatTree.Proofs.HatId.Language

/-!
# What dotted paths mean

The values of the tokens of a path are the segments of the id that it names; levels that are not
given are zero. The path written for that id is the canonical one: numerals without leading zeros,
up to the first zero level. So two paths name the same id exactly when their values agree, however
these are written and however many zeros follow them.

## Main results

* `rightpad_segments`: filled up with zeros, they are all the segments of the id
* `treeOfDotted_of_isPath`: the first one alone is the domain
* `toDotted_pack`: the path written for a packed id
* `meaning_of_ofDotted`: the id, its other forms, and the paths that share it
-/

namespace HatTree.HatId

open Layout Numeral

variable {path : String}

/-- **The first token alone** is read as the domain. -/
theorem treeOfDotted_of_isPath (hpath : IsPath path) {d : Nat} {ls : List Nat}
    (hvalues : tokenValues path = d :: ls) : treeOfDotted path = .ok d := by
  rw [tokenValues] at hvalues
  cases hts : pathTokens path with
  | nil => exact absurd hts (List.splitOn_ne_nil _ _)
  | cons t ts =>
    rw [hts] at hvalues
    have hhead : (path.toList.splitOn '.').headD [] = t := by
      rw [← pathTokens, hts]
      rfl
    have hread : readToken 0 t = .ok d :=
      readToken_eq_ok_iff.mpr ⟨hpath.readable 0 t (by rw [hts]; rfl),
        (List.cons.inj hvalues).1.symm⟩
    rw [treeOfDotted, hhead, hread]

section Segments

variable {d : Nat} {ls : List Nat} (hlen : ls.length ≤ maxLevels) (hls : ∀ l ∈ ls, l < levelSpan)
include hlen hls

/-- **The path written for a packed id** has its domain and its levels up to the first zero. -/
theorem toDotted_pack (hd : d < 2 ^ domainBits) :
    toDotted (pack d ls : Nat) = ".".intercalate ((d :: ls.takeWhile (· ≠ 0)).map Nat.repr) := by
  rw [toDotted, tokens_natCast (pack_lt hlen hls hd), div_pack hlen hls,
    takeWhile_levels_pack hlen hls]

/-- The segments of a packed id are those it was packed from, filled up with zeros. -/
theorem rightpad_segments :
    (d :: ls).rightpad 15 0 = pack d ls / levelSpan ^ maxLevels :: levels (pack d ls : Nat) := by
  have hexp : 15 - (ls.length + 1) = maxLevels - ls.length := by
    rw [maxLevels]
    omega
  rw [div_pack hlen hls, levels_pack hlen hls, List.rightpad, List.length_cons, List.cons_append,
    hexp]

end Segments

theorem eq_of_segments {n m : Nat} (hd : n / levelSpan ^ maxLevels = m / levelSpan ^ maxLevels)
    (hls : levels (n : Int) = levels (m : Int)) : n = m := by
  rw [← pack_segments n, ← pack_segments m, hd, hls]

/-- **What a path means.** The id that a path names is the sum of the values of its tokens, each
times its weight, and it has 256 bits. Its domain is the value of the first token, also when only
that token is read; its hexadecimal form is the one of the path; and the path written for it has the
values without leading zeros, up to the first zero level. Another path names the same id exactly
when its values are the same after filling up with zeros. -/
theorem meaning_of_ofDotted {h : Int} (hpath : ofDotted path = .ok h) :
    ∃ d ls, tokenValues path = d :: ls ∧
      h = (d * 2 ^ 224 + ∑ i ∈ Finset.range ls.length, ls.getD i 0 * 2 ^ (16 * (13 - i)) : Nat) ∧
      0 ≤ h ∧ h < 2 ^ 256 ∧
      treeOfDotted path = .ok d ∧ treeOf h = d ∧
      dottedToHex path = .ok (toHex h) ∧
      toDotted h = ".".intercalate ((d :: ls.takeWhile (· ≠ 0)).map Nat.repr) ∧
      ∀ path' h', ofDotted path' = .ok h' →
        (h' = h ↔ (tokenValues path').rightpad 15 0 = (tokenValues path).rightpad 15 0) := by
  obtain ⟨hread, hpack⟩ := ofDotted_eq_ok_iff.mp hpath
  obtain ⟨d, ls, hvalues, hd, hlen, hls⟩ := hread.exists_segments
  rw [hvalues] at hpack
  obtain rfl : h = (pack d ls : Nat) := hpack
  have hlt := pack_lt hlen hls hd
  refine ⟨d, ls, hvalues, ?_, Int.natCast_nonneg _, by exact_mod_cast hlt,
    treeOfDotted_of_isPath hread hvalues, ?_, ?_, toDotted_pack hlen hls hd, ?_⟩
  · rw [pack_eq_sum d hlen]
  · rw [treeOf_natCast hlt, domain_pack hlen hls]
  · rw [dottedToHex, hpath]
    rfl
  · intro path' h' hpath'
    obtain ⟨hread', hpack'⟩ := ofDotted_eq_ok_iff.mp hpath'
    obtain ⟨d', ls', hvalues', -, hlen', hls'⟩ := hread'.exists_segments
    rw [hvalues'] at hpack'
    obtain rfl : h' = (pack d' ls' : Nat) := hpack'
    rw [hvalues, hvalues', rightpad_segments hlen hls, rightpad_segments hlen' hls', Nat.cast_inj]
    constructor
    · intro heq
      rw [heq]
    · intro heq
      obtain ⟨hdomain, hlevels⟩ := List.cons.inj heq
      exact eq_of_segments hdomain hlevels

/-- A path with leading zeros, and with a zero level that hides the level behind it. -/
theorem meaning_of_ofDotted_hidden_level :
    ofDotted "01.002.0.3" = .ok (pack 1 [2, 0, 3] : Nat) ∧
      toDotted (pack 1 [2, 0, 3] : Nat) = "1.2" ∧ treeOf (pack 1 [2, 0, 3] : Nat) = 1 := by
  have hpath : ofDotted "01.002.0.3" = .ok (pack 1 [2, 0, 3] : Nat) := by decide
  obtain ⟨d, ls, hvalues, -, -, -, -, htree, -, hdotted, -⟩ := meaning_of_ofDotted hpath
  have hgiven : tokenValues "01.002.0.3" = [1, 2, 0, 3] := by decide
  rw [hgiven] at hvalues
  cases hvalues
  exact ⟨hpath, hdotted, htree⟩

end HatTree.HatId
