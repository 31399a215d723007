import HatTree.Proofs.Settings.Environment

/-!
# Endpoints as they are written

Pairs of a chain and an endpoint are written with an equals sign between them and commas between the
pairs, and blanks may stand around each part. Read back, every chain has the endpoint of its last
pair. Put over the public endpoints, the pairs give settings exactly when each of these last
endpoints is on the web; and no environment whatever gives settings with an endpoint that is not.

## Main definitions

* `IsPair`: the pairs that can be written
* `Writes`: the pieces that write a pair
* `lastUrl?`: the endpoint of the last pair with a chain

## Main results

* `Writes.gives`: what is written is given
* `listing_splitOn`: the pieces of a text are those that were joined by commas
* `isWeb_merged_iff`: which merged endpoints are all on the web
* `endpoints_of_listing`: what is read from a text of pairs, and the settings that it gives
-/

namespace HatTree.Environment

open Text Numeral Endpoints

/-- **A pair that can be written**: a chain of at most 256 bits, and a text without commas that
neither begins nor ends with a blank. -/
structure IsPair (chain : Int) (url : String) : Prop where
  nonneg : 0 ≤ chain
  lt : chain < 2 ^ 256
  ne_empty : url ≠ ""
  comma_notMem : ',' ∉ url.toList
  isBare : IsBare isBlank url.toList

/-- **A piece that writes a pair**: the chain in base ten, an equals sign and the endpoint, with
blanks around each. Behind the chain these are spaces. -/
def Writes (piece : List Char) (entry : Int × String) : Prop :=
  IsPair entry.1 entry.2 ∧ ∃ chain url, piece = chain ++ '=' :: url ∧
    Framed isBlank isSpace (decimal entry.1).toList chain ∧
    Framed isBlank isBlank entry.2.toList url

/-- **The endpoint of the last pair** with a chain. -/
def lastUrl? (pairs : List (Int × String)) (chain : Int) : Option String :=
  pairs.reverse.lookup chain

/-! ## Pieces -/

section Pieces

variable {piece : List Char} {entry : Int × String}

/-- **What is written is given.** -/
theorem Writes.gives (h : Writes piece entry) : Gives piece entry := by
  obtain ⟨hpair, chain, url, rfl, hchain, hurl⟩ := h
  obtain ⟨n, hn⟩ := Int.eq_ofNat_of_zero_le hpair.nonneg
  -- A chain of 256 bits has far fewer digits than are read.
  have hlt : n < 10 ^ maxDigits :=
    calc
      n < 2 ^ 256 := by
        have h := hpair.lt
        rw [hn] at h
        exact_mod_cast h
      _ ≤ 10 ^ 256 := Nat.pow_le_pow_left (by decide) 256
      _ ≤ 10 ^ maxDigits := Nat.pow_le_pow_right (by decide) (by decide)
  rw [hn] at hchain
  refine ⟨chain, url, rfl, ?_, hurl, hpair.isBare, hpair.ne_empty⟩
  rw [hn]
  exact denotes_repr hlt hchain

theorem comma_notMem_of_framed {back : Char → Bool} {mid cs : List Char}
    (hback : back ',' = false) (hmid : ',' ∉ mid) (h : Framed isBlank back mid cs) : ',' ∉ cs := by
  refine fun hmem => h.forall_mem (q := (· ≠ ',')) ?_ ?_ ?_ _ hmem rfl
  · rintro c hc rfl
    cases hc
  · rintro c hc rfl
    exact hmid hc
  · rintro c hc rfl
    rw [hback] at hc
    cases hc

theorem Writes.comma_notMem (h : Writes piece entry) : ',' ∉ piece := by
  obtain ⟨hpair, chain, url, rfl, hchain, hurl⟩ := h
  obtain ⟨n, hn⟩ := Int.eq_ofNat_of_zero_le hpair.nonneg
  have hdigits : ',' ∉ (decimal entry.1).toList := fun hmem => by
    rw [hn] at hmem
    cases isDigit_of_mem_repr hmem
  intro hmem
  rcases List.mem_append.mp hmem with hmem | hmem
  · exact comma_notMem_of_framed (by decide) hdigits hchain hmem
  · rcases List.mem_cons.mp hmem with heq | hmem
    · cases heq
    · exact comma_notMem_of_framed (by decide) hpair.comma_notMem hurl hmem

variable {ps : List (List Char)} {pairs : List (Int × String)}

theorem Listing.gives (h : Listing Writes ps pairs) : Listing Gives ps pairs := by
  induction h with
  | nil => exact .nil
  | blank hpiece _ ih => exact .blank hpiece ih
  | entry hpiece _ ih => exact .entry hpiece.gives ih

theorem Listing.comma_notMem (h : Listing Writes ps pairs) : ∀ piece ∈ ps, ',' ∉ piece := by
  induction h with
  | nil => simp
  | blank hpiece _ ih =>
    refine List.forall_mem_cons.mpr ⟨fun hmem => ?_, ih⟩
    cases hpiece ',' hmem
  | entry hpiece _ ih => exact List.forall_mem_cons.mpr ⟨hpiece.comma_notMem, ih⟩

/-- **The pieces of a text** are those that were joined by commas; the empty text has a blank piece
of its own. -/
theorem listing_splitOn (h : Listing Writes ps pairs) :
    Listing Gives (([','].intercalate ps).splitOn ',') pairs := by
  cases ps with
  | nil =>
    cases h
    exact .blank (List.forall_mem_nil _) .nil
  | cons piece ps =>
    rw [List.splitOn_intercalate ',' h.comma_notMem (List.cons_ne_nil _ _)]
    exact h.gives

/-- Pieces give one list of entries at most. -/
theorem Listing.unique {es es' : List (Int × String)} (h : Listing Gives ps es)
    (h' : Listing Gives ps es') : es = es' := by
  have hread := mapM_items_eq_ok_iff.mpr h
  rw [mapM_items_eq_ok_iff.mpr h'] at hread
  exact (Except.ok.inj hread).symm

end Pieces

/-! ## The merged endpoints -/

section Merged

variable {pairs : List (Int × String)}

theorem lookup_putAll_nil (chain : Int) :
    (Ordered.putAll [] pairs).lookup chain = lastUrl? pairs chain := by
  rw [Ordered.lookup_putAll, List.lookup_nil, Option.or_none, lastUrl?]

theorem lookup_merged (chain : Int) :
    (Ordered.putAll publicUrls (Ordered.putAll [] pairs)).lookup chain =
      (lastUrl? pairs chain).or (publicUrls.lookup chain) := by
  have hkeys : ((Ordered.putAll [] pairs).map (·.1)).Nodup :=
    Ordered.nodup_putAll (by simp) pairs
  rw [Ordered.lookup_putAll, Ordered.lookup_reverse hkeys, lookup_putAll_nil]

theorem nodup_publicUrls : (publicUrls.map (·.1)).Nodup := by
  simp [publicUrls]

theorem isWeb_publicUrl (network : String) : IsWeb (publicUrl network) := by
  have hfront : IsWeb "https://api.studio.thegraph.com/query/55784/hats-v1-" :=
    ⟨"api.studio.thegraph.com/query/55784/hats-v1-", .inr rfl⟩
  exact (hfront.append network).append "/version/latest"

theorem isWeb_of_mem_publicUrls : ∀ e ∈ publicUrls, IsWeb e.2 := by
  simp [publicUrls, isWeb_publicUrl]

/-- **Merged endpoints are on the web** when the last one of each chain is. -/
theorem isWeb_merged_iff :
    (∀ e ∈ Ordered.putAll publicUrls (Ordered.putAll [] pairs), IsWeb e.2) ↔
      ∀ chain url, lastUrl? pairs chain = some url → IsWeb url := by
  have hkeys := Ordered.nodup_putAll nodup_publicUrls (Ordered.putAll [] pairs)
  constructor
  · intro hweb chain url hlast
    refine hweb (chain, url) ((Ordered.lookup_eq_some_iff hkeys).mp ?_)
    rw [lookup_merged, hlast, Option.some_or]
  · rintro hweb ⟨chain, url⟩ hmem
    rw [← Ordered.lookup_eq_some_iff hkeys, lookup_merged] at hmem
    cases hlast : lastUrl? pairs chain with
    | none =>
      rw [hlast, Option.none_or, Ordered.lookup_eq_some_iff nodup_publicUrls] at hmem
      exact isWeb_of_mem_publicUrls _ hmem
    | some last =>
      rw [hlast, Option.some_or] at hmem
      cases hmem
      exact hweb chain url hlast

end Merged

/-! ## Settings -/

/-- The page size is the usual one where none is given. -/
theorem denotes_pageSizeText {environment : List (String × String)}
    (h : environment.lookup "HATS_SUBGRAPH_PAGE_SIZE" = none) :
    Denotes isSpace (pageSizeText environment).toList (Layout.defaultPageSize : Nat) := by
  have hsize : Layout.defaultPageSize < 10 ^ maxDigits :=
    calc
      Layout.defaultPageSize < 10 ^ 4 := by decide
      _ ≤ 10 ^ maxDigits := Nat.pow_le_pow_right (by decide) (by decide)
  rw [pageSizeText, h]
  exact denotes_repr hsize ⟨[], [], by simp, by simp, by simp⟩

/-- **What is read from a text of pairs.** Each chain has the endpoint of its last pair, and the
chains come in the order of their first pairs. Where nothing else is set, there are settings exactly
when all these endpoints are on the web; a chain has its last endpoint then, or else its public one.
Whatever the environment, settings have endpoints on the web only and a positive page size. -/
theorem endpoints_of_listing {ps : List (List Char)} {pairs : List (Int × String)} {raw : String}
    (hlisting : Listing Writes ps pairs) (hraw : raw.toList = [','].intercalate ps) :
    (∃ given, overrides raw = .ok given ∧ given.map (·.1) = (pairs.map (·.1)).eraseDups ∧
        ∀ chain, given.lookup chain = lastUrl? pairs chain) ∧
      (∀ environment, environment.lookup "HATS_SUBGRAPH_ENDPOINTS" = some raw →
        environment.lookup "HATS_SUBGRAPH_PAGE_SIZE" = none →
        environment.lookup "LOG_LEVEL" = none →
        ((∃ s, settings environment = .ok s) ↔
            ∀ chain url, lastUrl? pairs chain = some url → IsWeb url) ∧
          ∀ s, settings environment = .ok s → ∀ chain : Int, s.endpoints.find? (.int chain) =
            .ok ((lastUrl? pairs chain).or (publicUrls.lookup chain))) ∧
      ∀ environment s, settings environment = .ok s →
        (∀ e ∈ s.endpoints.urls, IsWeb e.2) ∧ 1 ≤ s.endpoints.pageSize := by
  have hgives : Listing Gives (pieces raw) pairs := by
    rw [pieces, hraw]
    exact listing_splitOn hlisting
  refine ⟨⟨_, overrides_eq_ok_iff.mpr ⟨pairs, hgives, rfl⟩, Ordered.keys_putAll pairs,
    lookup_putAll_nil⟩, ?_, ?_⟩
  · intro environment hendpoints hsize hlevel
    have htext : endpointsText environment = raw := by
      rw [endpointsText, hendpoints]
      rfl
    constructor
    · rw [← isWeb_merged_iff]
      constructor
      · rintro ⟨s, hs⟩
        obtain ⟨es, size, level, hes, -, -, hweb, -⟩ := settings_eq_ok_iff.mp hs
        rw [htext] at hes
        rwa [hes.unique hgives] at hweb
      · intro hweb
        have hunset : ∀ name, environment.lookup "LOG_LEVEL" = some name →
            (Severity.ofLabel? name).isSome = true := fun name hname => by
          rw [hlevel] at hname
          cases hname
        obtain ⟨level, hlevel⟩ := exists_severity hunset
        exact ⟨_, settings_eq_ok_iff.mpr ⟨pairs, _, level, htext ▸ hgives,
          denotes_pageSizeText hsize, by decide, hweb, hlevel, rfl⟩⟩
    · intro s hs chain
      obtain ⟨es, size, level, hes, -, -, -, -, rfl⟩ := settings_eq_ok_iff.mp hs
      rw [htext] at hes
      rw [hes.unique hgives]
      exact congrArg Except.ok (lookup_merged chain)
  · intro environment s hs
    obtain ⟨es, size, level, -, -, hpos, hweb, -, rfl⟩ := settings_eq_ok_iff.mp hs
    exact ⟨hweb, hpos⟩

/-- Two pairs with one chain, the first with blanks around its parts and an equals sign in its
endpoint, and a blank piece between them. -/
theorem endpoints_of_listing_repeated :
    Listing Writes [" 5 = http://a?b=c".toList, " ".toList, "5=https://d".toList]
        [(5, "http://a?b=c"), (5, "https://d")] ∧
      " 5 = http://a?b=c, ,5=https://d".toList =
        [','].intercalate [" 5 = http://a?b=c".toList, " ".toList, "5=https://d".toList] ∧
      ∃ given, overrides " 5 = http://a?b=c, ,5=https://d" = .ok given ∧ given.map (·.1) = [5] ∧
        given.lookup 5 = some "https://d" := by
  have hspace : ∀ c ∈ [' '], isBlank c = true ∧ isSpace c = true :=
    List.forall_mem_singleton.mpr (by decide)
  have hfirst : Writes " 5 = http://a?b=c".toList (5, "http://a?b=c") := by
    refine ⟨⟨by decide, by decide, by decide, by decide, ⟨?_, ?_⟩⟩, " 5 ".toList,
      " http://a?b=c".toList, by decide, ?_, ?_⟩
    · rintro c ⟨⟩
      decide
    · rintro c ⟨⟩
      decide
    · exact ⟨[' '], [' '], by decide, fun c hc => (hspace c hc).1, fun c hc => (hspace c hc).2⟩
    · exact ⟨[' '], [], by decide, fun c hc => (hspace c hc).1, by simp⟩
  have hsecond : Writes "5=https://d".toList (5, "https://d") := by
    refine ⟨⟨by decide, by decide, by decide, by decide, ⟨?_, ?_⟩⟩, "5".toList,
      "https://d".toList, by decide, ?_, ?_⟩
    · rintro c ⟨⟩
      decide
    · rintro c ⟨⟩
      decide
    · exact ⟨[], [], by decide, by simp, by simp⟩
    · exact ⟨[], [], by decide, by simp, by simp⟩
  have hlisting : Listing Writes [" 5 = http://a?b=c".toList, " ".toList, "5=https://d".toList]
      [(5, "http://a?b=c"), (5, "https://d")] := by
    refine .entry hfirst (.blank (fun c hc => (hspace c ?_).1) (.entry hsecond .nil))
    simpa using hc
  have hraw : " 5 = http://a?b=c, ,5=https://d".toList =
      [','].intercalate [" 5 = http://a?b=c".toList, " ".toList, "5=https://d".toList] := by decide
  obtain ⟨⟨given, hgiven, hkeys, hlast⟩, -⟩ := endpoints_of_listing hlisting hraw
  exact ⟨hlisting, hraw, given, hgiven, hkeys, hlast 5⟩

end HatTree.Environment
