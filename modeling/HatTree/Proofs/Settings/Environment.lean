import HatTree.Proofs.Settings.Overrides

/-!
# Settings from the environment, step by step

The endpoints are read first, then the page size, and then both are checked. An environment stumbles
when the first thing that is not read looks as if it could be: a piece of the endpoints, or the page
size. Then the failure is that of a value that cannot be used. Every other environment whose level
is known gives settings or fails with an error of the library.

## Main definitions

* `Endpoints.IsWeb`: addresses on the web
* `endpointsText`, `pageSizeText`: the texts that an environment has for endpoints and page size
* `Stumbles`: environments whose digits are no numeral

## Main results

* `pageSize_eq_ok_iff`, `family_of_pageSize`: the page size
* `checkedEndpoints_eq_ok_iff`: the check of both
* `settings_eq_ok_iff`: the settings of an environment
* `outcome_of_settings`: which environments give settings, and the family of the failure of others
-/

namespace HatTree

namespace Endpoints

/-- **An address on the web** has one of two schemes in front. -/
def IsWeb (url : String) : Prop := ∃ rest, url = "http://" ++ rest ∨ url = "https://" ++ rest

theorem IsWeb.append {url : String} (h : IsWeb url) (rest : String) : IsWeb (url ++ rest) := by
  obtain ⟨front, rfl | rfl⟩ := h
  · exact ⟨front ++ rest, .inl String.append_assoc⟩
  · exact ⟨front ++ rest, .inr String.append_assoc⟩

theorem startsWith_iff {url scheme : String} :
    url.startsWith scheme = true ↔ ∃ rest, url = scheme ++ rest := by
  rw [String.startsWith_string_iff]
  constructor
  · rintro ⟨rest, h⟩
    refine ⟨String.ofList rest, ?_⟩
    rw [← String.toList_inj, String.toList_append, String.toList_ofList, h]
  · rintro ⟨rest, rfl⟩
    rw [String.toList_append]
    exact List.prefix_append _ _

theorem isWebUrl_iff {url : String} : isWebUrl url = true ↔ IsWeb url := by
  rw [isWebUrl, Bool.or_eq_true, startsWith_iff, startsWith_iff, IsWeb, exists_or]

theorem reachable_eq_ok_iff {urls found : List (Int × String)} :
    reachable urls = .ok found ↔ (∀ e ∈ urls, IsWeb e.2) ∧ found = urls := by
  unfold reachable
  split
  next hfind =>
    have hweb : ∀ e ∈ urls, IsWeb e.2 := fun e he => by
      simpa [isWebUrl_iff] using List.find?_eq_none.mp hfind e he
    constructor
    · intro h
      cases h
      exact ⟨hweb, rfl⟩
    · rintro ⟨-, rfl⟩
      rfl
  next chain url hfind =>
    constructor
    · intro h
      split at h <;> cases h
    · rintro ⟨hweb, -⟩
      have hnot : isWebUrl url = false := by simpa using List.find?_some hfind
      rw [isWebUrl_iff.mpr (hweb _ (List.mem_of_find?_eq_some hfind))] at hnot
      cases hnot

end Endpoints

namespace Environment

open Text Numeral Endpoints

/-- The text of the endpoints in an environment. -/
def endpointsText (environment : List (String × String)) : String :=
  (environment.lookup "HATS_SUBGRAPH_ENDPOINTS").getD ""

/-- The text of the page size in an environment. -/
def pageSizeText (environment : List (String × String)) : String :=
  (environment.lookup "HATS_SUBGRAPH_PAGE_SIZE").getD (Nat.repr Layout.defaultPageSize)

/-- The level that an environment names. -/
def severity (environment : List (String × String)) : Except Fault Severity :=
  ((Reading.checked (Severity.read (.text ((environment.lookup "LOG_LEVEL").getD "INFO")))).under
    (.key "log_level")).mapError .settings

/-- Endpoints and page size after their check. -/
def checkedEndpoints (urls : List (Int × String)) (size : Int) : Except Fault Endpoints :=
  let reachable := (Reading.checked (reachable urls)).under (.key "endpoints")
  let positive := (Reading.checked (Reading.positive (.ok size))).under (.key "default_page_size")
  (Checked.guarded (reachable.issues ++ positive.issues) do
    pure (Endpoints.mk (← reachable) (← positive))).mapError .endpoints

theorem settings_eq (environment : List (String × String)) :
    settings environment = (do
      let given ← overrides (endpointsText environment)
      let size ← pageSize (pageSizeText environment)
      let endpoints ← checkedEndpoints (Ordered.putAll publicUrls given) size
      let severity ← severity environment
      pure
        { severity
          json := isTrue ((environment.lookup "LOG_JSON").getD "false")
          service := environment.lookup "SERVICE_NAME"
          endpoints }) := rfl

/-- **An environment stumbles** when the first piece of its endpoints that gives none looks as if it
gave one, or when all pieces are read and the page size looks like a numeral and is none. -/
inductive Stumbles (environment : List (String × String)) : Prop
  | endpoints {before behind : List (List Char)} {piece : List Char} {es : List (Int × String)}
      (hpieces : pieces (endpointsText environment) = before ++ piece :: behind)
      (hbefore : Listing Gives before es) (hlooks : LooksLikeOverride piece)
      (hnone : ∀ e, ¬ Gives piece e)
  | pageSize {es : List (Int × String)}
      (hpieces : Listing Gives (pieces (endpointsText environment)) es)
      (hlooks : LooksLikeNumeral (pageSizeText environment).toList)
      (hnone : ∀ n, ¬ Denotes isSpace (pageSizeText environment).toList n)

section PageSize

variable {raw : String}

theorem pageSize_eq_ok_iff {n : Int} : pageSize raw = .ok n ↔ Denotes isSpace raw.toList n := by
  unfold pageSize
  by_cases hlooks : LooksLikeNumeral raw.toList
  · rw [if_pos (looksLikeNumeral_iff.mp hlooks)]
    exact number_eq_ok_iff hlooks
  · rw [if_neg (mt looksLikeNumeral_iff.mpr hlooks)]
    constructor
    · intro h
      cases h
    · intro h
      exact absurd (h.looksLikeNumeral fun _ => isBlank_of_isSpace) hlooks

theorem family_of_pageSize {fault : Fault} (h : pageSize raw = .error fault) :
    (LooksLikeNumeral raw.toList → (report fault).family = .badValue) ∧
      (¬ LooksLikeNumeral raw.toList → (report fault).family = .library .configuration) := by
  unfold pageSize at h
  by_cases hlooks : LooksLikeNumeral raw.toList
  · rw [if_pos (looksLikeNumeral_iff.mp hlooks)] at h
    exact ⟨fun _ => family_of_number h, fun hnot => absurd hlooks hnot⟩
  · rw [if_neg (mt looksLikeNumeral_iff.mpr hlooks)] at h
    cases h
    exact ⟨fun hyes => absurd hyes hlooks, fun _ => rfl⟩

end PageSize

theorem checkedEndpoints_eq_ok_iff {urls : List (Int × String)} {size : Int}
    {endpoints : Endpoints} :
    checkedEndpoints urls size = .ok endpoints ↔
      (∀ e ∈ urls, IsWeb e.2) ∧ 0 < size ∧ endpoints = ⟨urls, size⟩ := by
  unfold checkedEndpoints
  constructor
  · intro h
    rw [mapError_eq_ok, Checked.guarded_eq_ok] at h
    obtain ⟨found, hfound, h⟩ := bind_eq_ok.mp h.2
    obtain ⟨n, hn, h⟩ := bind_eq_ok.mp h
    cases h
    rw [Checked.under_eq_ok, Reading.checked_eq_ok] at hfound hn
    obtain ⟨hweb, rfl⟩ := reachable_eq_ok_iff.mp hfound
    obtain ⟨hpos, rfl⟩ := Reading.positive_ok_eq_ok.mp hn
    exact ⟨hweb, hpos, rfl⟩
  · rintro ⟨hweb, hpos, rfl⟩
    rw [reachable_eq_ok_iff.mpr ⟨hweb, rfl⟩, Reading.positive_ok_eq_ok.mpr ⟨hpos, rfl⟩]
    rfl

theorem family_of_checkedEndpoints {urls : List (Int × String)} {size : Int} {fault : Fault}
    (h : checkedEndpoints urls size = .error fault) :
    (report fault).family = .library .configuration := by
  obtain ⟨issues, -, rfl⟩ := mapError_eq_error.mp h
  rfl

/-- **The settings of an environment** have its endpoints, put over the public ones. -/
theorem settings_eq_ok_iff {environment : List (String × String)} {s : Settings} :
    settings environment = .ok s ↔
      ∃ es size level, Listing Gives (pieces (endpointsText environment)) es ∧
        Denotes isSpace (pageSizeText environment).toList size ∧ 0 < size ∧
        (∀ e ∈ Ordered.putAll publicUrls (Ordered.putAll [] es), IsWeb e.2) ∧
        severity environment = .ok level ∧
        s = { severity := level
              json := isTrue ((environment.lookup "LOG_JSON").getD "false")
              service := environment.lookup "SERVICE_NAME"
              endpoints := ⟨Ordered.putAll publicUrls (Ordered.putAll [] es), size⟩ } := by
  rw [settings_eq]
  constructor
  · intro h
    obtain ⟨given, hgiven, h⟩ := bind_eq_ok.mp h
    obtain ⟨size, hsize, h⟩ := bind_eq_ok.mp h
    obtain ⟨endpoints, hendpoints, h⟩ := bind_eq_ok.mp h
    obtain ⟨level, hlevel, h⟩ := bind_eq_ok.mp h
    obtain ⟨es, hes, rfl⟩ := overrides_eq_ok_iff.mp hgiven
    obtain ⟨hweb, hpos, rfl⟩ := checkedEndpoints_eq_ok_iff.mp hendpoints
    cases h
    exact ⟨es, size, level, hes, pageSize_eq_ok_iff.mp hsize, hpos, hweb, hlevel, rfl⟩
  · rintro ⟨es, size, level, hes, hsize, hpos, hweb, hlevel, rfl⟩
    rw [overrides_eq_ok_iff.mpr ⟨es, hes, rfl⟩, pageSize_eq_ok_iff.mpr hsize, hlevel]
    show (checkedEndpoints _ size >>= _) = _
    rw [checkedEndpoints_eq_ok_iff.mpr ⟨hweb, hpos, rfl⟩]
    rfl

theorem exists_severity {environment : List (String × String)}
    (hlevel : ∀ name, environment.lookup "LOG_LEVEL" = some name →
      (Severity.ofLabel? name).isSome = true) : ∃ level, severity environment = .ok level := by
  have hknown :
      (Severity.ofLabel? ((environment.lookup "LOG_LEVEL").getD "INFO")).isSome = true := by
    cases hname : environment.lookup "LOG_LEVEL" with
    | none => decide +kernel
    | some name => exact hlevel name hname
  obtain ⟨level, hlevel⟩ := Option.isSome_iff_exists.mp hknown
  refine ⟨level, ?_⟩
  rw [severity, Severity.read, hlevel]
  rfl

section Outcome

variable {environment : List (String × String)}

/-- An environment that stumbles fails with a value that cannot be used. -/
theorem Stumbles.exists_fault (h : Stumbles environment) :
    ∃ fault, settings environment = .error fault ∧ (report fault).family = .badValue := by
  rw [settings_eq]
  cases h with
  | @endpoints before behind piece es hpieces hbefore hlooks hnone =>
    cases hpiece : override (trimBy isBlank piece) with
    | ok e => exact absurd (override_eq_ok_iff.mp hpiece) (hnone e)
    | error fault =>
      have hfault : overrides (endpointsText environment) = .error fault :=
        overrides_eq_error_iff.mpr
          ⟨before, piece, behind, hpieces, ⟨es, hbefore⟩, hlooks.not_blank, hpiece⟩
      rw [hfault]
      exact ⟨fault, rfl, (family_of_override hpiece).1 hlooks⟩
  | @pageSize es hpieces hlooks hnone =>
    cases hsize : Environment.pageSize (pageSizeText environment) with
    | ok n => exact absurd (pageSize_eq_ok_iff.mp hsize) (hnone n)
    | error fault =>
      rw [overrides_eq_ok_iff.mpr ⟨es, hpieces, rfl⟩]
      exact ⟨fault, rfl, (family_of_pageSize hsize).1 hlooks⟩

/-- The failure of any other environment whose level is known is an error of the library. -/
theorem family_of_settings {fault : Fault} {level : Severity} (hnot : ¬ Stumbles environment)
    (hlevel : severity environment = .ok level) (h : settings environment = .error fault) :
    (report fault).family = .library .configuration := by
  rw [settings_eq] at h
  -- The steps that fail first: had what they fail on looked as if it could be read, it would be a
  -- stumble.
  rcases bind_eq_error.mp h with hgiven | ⟨given, hgiven, h⟩
  · obtain ⟨before, piece, behind, hpieces, ⟨es, hbefore⟩, -, hpiece⟩ :=
      overrides_eq_error_iff.mp hgiven
    refine (family_of_override hpiece).2 fun hlooks => hnot ?_
    refine .endpoints hpieces hbefore hlooks fun e he => ?_
    rw [override_eq_ok_iff.mpr he] at hpiece
    cases hpiece
  obtain ⟨es, hes, rfl⟩ := overrides_eq_ok_iff.mp hgiven
  rcases bind_eq_error.mp h with hsize | ⟨size, -, h⟩
  · refine (family_of_pageSize hsize).2 fun hlooks => hnot ?_
    refine .pageSize hes hlooks fun n hn => ?_
    rw [pageSize_eq_ok_iff.mpr hn] at hsize
    cases hsize
  rcases bind_eq_error.mp h with hendpoints | ⟨endpoints, -, h⟩
  · exact family_of_checkedEndpoints hendpoints
  · rw [hlevel] at h
    cases h

end Outcome

/-- **What comes of an environment** whose level is unset or known. It gives settings exactly when
its pieces give endpoints, its page size denotes a positive number, and all endpoints together are
on the web. If it stumbles, it fails with a value that cannot be used; and if it neither gives
settings nor stumbles, it fails with an error of the library. -/
theorem outcome_of_settings {environment : List (String × String)}
    (hlevel : ∀ name, environment.lookup "LOG_LEVEL" = some name →
      (Severity.ofLabel? name).isSome = true) :
    ((∃ s, settings environment = .ok s) ↔
      ∃ es size, Listing Gives (pieces (endpointsText environment)) es ∧
        Denotes isSpace (pageSizeText environment).toList size ∧ 0 < size ∧
        ∀ e ∈ Ordered.putAll publicUrls (Ordered.putAll [] es), IsWeb e.2) ∧
      (Stumbles environment →
        ∃ fault, settings environment = .error fault ∧ (report fault).family = .badValue) ∧
      (¬ Stumbles environment → (∃ s, settings environment = .ok s) ∨
        ∃ fault, settings environment = .error fault ∧
          (report fault).family = .library .configuration) := by
  obtain ⟨level, hseverity⟩ := exists_severity hlevel
  refine ⟨?_, Stumbles.exists_fault, ?_⟩
  · constructor
    · rintro ⟨s, hs⟩
      obtain ⟨es, size, -, hes, hsize, hpos, hweb, -⟩ := settings_eq_ok_iff.mp hs
      exact ⟨es, size, hes, hsize, hpos, hweb⟩
    · rintro ⟨es, size, hes, hsize, hpos, hweb⟩
      exact ⟨_, settings_eq_ok_iff.mpr ⟨es, size, level, hes, hsize, hpos, hweb, hseverity, rfl⟩⟩
  · intro hnot
    cases h : settings environment with
    | ok s => exact .inl ⟨s, rfl⟩
    | error fault => exact .inr ⟨fault, rfl, family_of_settings hnot hseverity h⟩

/-- A page size in superscript, which looks like a numeral and is none. -/
theorem outcome_of_settings_superscript :
    (∀ name, List.lookup "LOG_LEVEL" [("HATS_SUBGRAPH_PAGE_SIZE", "²")] = some name →
        (Severity.ofLabel? name).isSome = true) ∧
      Stumbles [("HATS_SUBGRAPH_PAGE_SIZE", "²")] ∧
      ∃ fault, settings [("HATS_SUBGRAPH_PAGE_SIZE", "²")] = .error fault ∧
        (report fault).family = .badValue := by
  have hlevel : ∀ name, List.lookup "LOG_LEVEL" [("HATS_SUBGRAPH_PAGE_SIZE", "²")] = some name →
      (Severity.ofLabel? name).isSome = true := by
    intro name h
    cases h
  have hlooks : LooksLikeNumeral ['²'] :=
    ⟨['²'], ⟨[], [], rfl, by simp, by simp⟩, by simp, List.forall_mem_singleton.mpr (by decide)⟩
  have hstumbles : Stumbles [("HATS_SUBGRAPH_PAGE_SIZE", "²")] := by
    refine .pageSize (.blank (List.forall_mem_nil _) .nil) hlooks fun n hn => ?_
    cases (read_eq_ok_iff_denotes hlooks).mpr hn
  obtain ⟨-, hfault, -⟩ := outcome_of_settings hlevel
  exact ⟨hlevel, hstumbles, hfault hstumbles⟩

end Environment

end HatTree
