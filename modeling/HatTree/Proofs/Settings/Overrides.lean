import HatTree.Proofs.Numeral.Script
import HatTree.Proofs.Ordered
import HatTree.Proofs.Reading
import HatTree.Settings.Environment

/-!
# Endpoints in a text

A text of endpoints is cut at its commas. A piece gives an endpoint if it denotes a chain in front
of an equals sign and has a text behind it; blank pieces are passed over. The text is read if and
only if all other pieces give endpoints, and then these are put into a table one after the other.
Otherwise the first other piece is at fault. The fault is an error of the library, unless the piece
looks as if it gave an endpoint: then its digits are no numeral.

## Main definitions

* `Gives`: the pieces that give an endpoint, and to which chain
* `LooksLikeOverride`: the pieces that are taken to give one
* `Listing`: what pieces give, one after the other
* `IsFirstFault`: the first piece that is not read

## Main results

* `override_of_cons`: what is made of a piece with an equals sign
* `override_eq_ok_iff`, `family_of_override`: one piece, trimmed
* `mapM_items_eq_ok_iff`, `mapM_items_eq_error_iff`: all pieces
* `overrides_eq_ok_iff`, `overrides_eq_error_iff`: a text of endpoints
-/

namespace HatTree.Environment

open Text Numeral

/-- **A piece that gives an endpoint** denotes a chain in front of an equals sign, and behind it has
a text between blanks. -/
def Gives (piece : List Char) (entry : Int × String) : Prop :=
  ∃ chain url, piece = chain ++ '=' :: url ∧ Denotes isBlank chain entry.1 ∧
    Framed isBlank isBlank entry.2.toList url ∧ IsBare isBlank entry.2.toList ∧ entry.2 ≠ ""

/-- **A piece that looks as if it gave an endpoint** has what looks like a numeral in front of an
equals sign, and behind it more than blanks. -/
def LooksLikeOverride (piece : List Char) : Prop :=
  ∃ chain url, piece = chain ++ '=' :: url ∧ LooksLikeNumeral chain ∧ ∃ c ∈ url, isBlank c = false

/-- A piece of blanks, which is passed over. -/
def IsBlankPiece (piece : List Char) : Prop := ∀ c ∈ piece, isBlank c = true

/-- **What pieces give**, one after the other: nothing if they are blank, and otherwise an entry. -/
inductive Listing (gives : List Char → Int × String → Prop) :
    List (List Char) → List (Int × String) → Prop
  | nil : Listing gives [] []
  | blank {piece : List Char} {pieces : List (List Char)} {entries : List (Int × String)}
      (hpiece : IsBlankPiece piece) (rest : Listing gives pieces entries) :
      Listing gives (piece :: pieces) entries
  | entry {piece : List Char} {pieces : List (List Char)} {e : Int × String}
      {entries : List (Int × String)} (hpiece : gives piece e)
      (rest : Listing gives pieces entries) : Listing gives (piece :: pieces) (e :: entries)

/-! ## One piece -/

section Piece

variable {piece chain url : List Char}

theorem equals_notMem_of_looksLikeNumeral (h : LooksLikeNumeral chain) : '=' ∉ chain := by
  obtain ⟨ds, hframed, -, hds⟩ := h
  have hblank : ∀ c, isBlank c = true → c ≠ '=' := by
    rintro c hc rfl
    cases hc
  have hdigit : ∀ d ∈ ds, d ≠ '=' := by
    rintro d hd rfl
    cases hds _ hd
  exact fun hmem => hframed.forall_mem hblank hdigit hblank _ hmem rfl

/-- Digits of any kind between blanks are a chain that passes. -/
theorem looksLikeNumeral_iff : LooksLikeNumeral chain ↔ isNumeric (trimBy isBlank chain) = true :=
  isNumeric_trimBy_iff.symm

theorem number_eq_ok_iff {n : Int} (h : LooksLikeNumeral chain) :
    number chain = .ok n ↔ Denotes isSpace chain n :=
  mapError_eq_ok.trans (read_eq_ok_iff_denotes h)

theorem family_of_number {fault : Fault} (h : number chain = .error fault) :
    (report fault).family = .badValue := by
  obtain ⟨flaw, -, rfl⟩ := mapError_eq_error.mp h
  cases flaw <;> rfl

/-- **What is made of a piece with an equals sign**: blanks around it do not matter, but those in
front of the sign are part of what is read. -/
theorem override_of_cons (hchain : '=' ∉ chain) (url : List Char) :
    override (trimBy isBlank (chain ++ '=' :: url)) =
      if isNumeric (trimBy isBlank chain) && !(trimBy isBlank url).isEmpty then do
        let n ← number (chain.dropWhile isBlank)
        pure (n, String.ofList (trimBy isBlank url))
      else .error (.entry (String.ofList (trimBy isBlank (chain ++ '=' :: url)))) := by
  have hfront : ∀ c ∈ chain.dropWhile isBlank, decide (c ≠ '=') = true := fun c hc => by
    have hmem : c ∈ chain := (List.dropWhile_sublist _).mem hc
    simpa using fun h : c = '=' => hchain (h ▸ hmem)
  have htrim : trimBy isBlank (chain.dropWhile isBlank) = trimBy isBlank chain := by
    rw [trimBy_eq_rdropWhile, trimBy_eq_rdropWhile, List.dropWhile_idempotent]
  -- Trimming the piece takes blanks away in front of the chain and behind the endpoint only.
  rw [trimBy_append_cons (by decide)]
  unfold override
  rw [List.takeWhile_append_of_pos hfront, List.dropWhile_append_of_pos hfront,
    List.takeWhile_cons_of_neg (by simp), List.dropWhile_cons_of_neg (by simp), List.append_nil,
    List.drop_one, List.tail_cons]
  simp only [htrim, trimBy_rdropWhile]
  cases isNumeric (trimBy isBlank chain) <;> cases (trimBy isBlank url).isEmpty <;> simp

theorem override_of_notMem (h : '=' ∉ piece) :
    override (trimBy isBlank piece) = .error (.entry (String.ofList (trimBy isBlank piece))) := by
  have hmem : '=' ∉ trimBy isBlank piece := by
    obtain ⟨left, right, hpiece, -, -⟩ := framed_trimBy isBlank piece
    intro hmem
    rw [hpiece] at h
    exact h (List.mem_append_left right (List.mem_append_right left hmem))
  simp [override, hmem]

theorem override_of_looksLike (hchain : LooksLikeNumeral chain)
    (hurl : ∃ c ∈ url, isBlank c = false) :
    override (trimBy isBlank (chain ++ '=' :: url)) =
      (do
        let n ← number (chain.dropWhile isBlank)
        pure (n, String.ofList (trimBy isBlank url))) := by
  have hne : trimBy isBlank url ≠ [] := fun hnil => by
    obtain ⟨c, hc, hblank⟩ := hurl
    rw [trimBy_eq_nil_iff.mp hnil c hc] at hblank
    cases hblank
  rw [override_of_cons (equals_notMem_of_looksLikeNumeral hchain), looksLikeNumeral_iff.mp hchain]
  simp [hne]

theorem override_of_not_looksLike (h : ¬ LooksLikeOverride piece) :
    override (trimBy isBlank piece) = .error (.entry (String.ofList (trimBy isBlank piece))) := by
  by_cases hmem : '=' ∈ piece
  · obtain ⟨chain, url, rfl, hchain⟩ := List.eq_append_cons_of_mem hmem
    rw [override_of_cons hchain, if_neg]
    intro hguard
    rw [Bool.and_eq_true, ← looksLikeNumeral_iff] at hguard
    refine h ⟨chain, url, rfl, hguard.1, ?_⟩
    by_contra hnone
    have hblank : ∀ c ∈ url, isBlank c = true := by simpa using hnone
    rw [trimBy_eq_nil_iff.mpr hblank] at hguard
    cases hguard.2
  · exact override_of_notMem hmem

theorem LooksLikeOverride.not_blank (h : LooksLikeOverride piece) : ¬ IsBlankPiece piece := by
  obtain ⟨chain, url, rfl, -⟩ := h
  intro hblank
  cases hblank '=' (by simp)

theorem Gives.looksLikeOverride {entry : Int × String} (h : Gives piece entry) :
    LooksLikeOverride piece := by
  obtain ⟨chain, url, rfl, hchain, hframed, hbare, hne⟩ := h
  exact ⟨chain, url, rfl, hchain.looksLikeNumeral fun _ => id,
    exists_of_framed hframed hbare fun h => hne (String.toList_eq_nil_iff.mp h)⟩

theorem Gives.not_blank {entry : Int × String} (h : Gives piece entry) : ¬ IsBlankPiece piece :=
  h.looksLikeOverride.not_blank

/-- **A piece is read** if it gives an endpoint, as what it gives. -/
theorem override_eq_ok_iff {entry : Int × String} :
    override (trimBy isBlank piece) = .ok entry ↔ Gives piece entry := by
  constructor
  · intro h
    have hlooks : LooksLikeOverride piece := by
      by_contra hnot
      rw [override_of_not_looksLike hnot] at h
      cases h
    obtain ⟨chain, url, rfl, hchain, hurl⟩ := hlooks
    rw [override_of_looksLike hchain hurl] at h
    obtain ⟨n, hn, h⟩ := bind_eq_ok.mp h
    cases h
    rw [number_eq_ok_iff hchain.dropWhile, denotes_dropWhile_iff] at hn
    refine ⟨chain, url, rfl, hn, ?_, ?_, ?_⟩
    · rw [String.toList_ofList]
      exact framed_trimBy isBlank url
    · rw [String.toList_ofList]
      exact isBare_trimBy isBlank url
    · intro hempty
      obtain ⟨c, hc, hblank⟩ := hurl
      rw [String.ofList_eq_empty_iff, trimBy_eq_nil_iff] at hempty
      rw [hempty c hc] at hblank
      cases hblank
  · intro h
    obtain ⟨chain, url, rfl, hchain, hframed, hbare, hne⟩ := h
    have hlooks := hchain.looksLikeNumeral fun _ => id
    have hnumber : number (chain.dropWhile isBlank) = .ok entry.1 :=
      (number_eq_ok_iff hlooks.dropWhile).mpr (denotes_dropWhile_iff.mpr hchain)
    have htrim : trimBy isBlank url = entry.2.toList := trimBy_eq_iff.mpr ⟨hframed, hbare⟩
    have hurl : ∃ c ∈ url, isBlank c = false :=
      exists_of_framed hframed hbare fun h => hne (String.toList_eq_nil_iff.mp h)
    rw [override_of_looksLike hlooks hurl, hnumber, htrim, String.ofList_toList]
    rfl

/-- **The fault of a piece** is an error of the library, unless the piece looks as if it gave an
endpoint. -/
theorem family_of_override {fault : Fault} (h : override (trimBy isBlank piece) = .error fault) :
    (LooksLikeOverride piece → (report fault).family = .badValue) ∧
      (¬ LooksLikeOverride piece → (report fault).family = .library .configuration) := by
  constructor
  · rintro ⟨chain, url, rfl, hchain, hurl⟩
    rw [override_of_looksLike hchain hurl] at h
    rcases bind_eq_error.mp h with hnumber | ⟨n, -, hpure⟩
    · exact family_of_number hnumber
    · cases hpure
  · intro hnot
    rw [override_of_not_looksLike hnot] at h
    cases h
    rfl

end Piece

/-! ## All pieces -/

/-- The pieces of a text of endpoints: what stands between its commas. -/
def pieces (raw : String) : List (List Char) := raw.toList.splitOn ','

/-- The items that pieces leave: they are trimmed, and those without anything are passed over. -/
def items (ps : List (List Char)) : List (List Char) :=
  (ps.map (trimBy isBlank)).filter fun item => !item.isEmpty

section Pieces

variable {piece : List Char} {ps : List (List Char)} {es : List (Int × String)}

theorem items_cons_of_blank (h : IsBlankPiece piece) : items (piece :: ps) = items ps := by
  simp [items, trimBy_eq_nil_iff.mpr h]

theorem items_cons_of_not_blank (h : ¬ IsBlankPiece piece) :
    items (piece :: ps) = trimBy isBlank piece :: items ps := by
  have hne : trimBy isBlank piece ≠ [] := fun hnil => h (trimBy_eq_nil_iff.mp hnil)
  simp [items, hne]

theorem listing_cons_of_blank (h : IsBlankPiece piece) :
    Listing Gives (piece :: ps) es ↔ Listing Gives ps es := by
  constructor
  · intro hlisting
    cases hlisting with
    | blank _ rest => exact rest
    | entry hpiece _ => exact absurd h hpiece.not_blank
  · exact .blank h

theorem listing_cons_of_not_blank (h : ¬ IsBlankPiece piece) :
    Listing Gives (piece :: ps) es ↔
      ∃ e rest, es = e :: rest ∧ Gives piece e ∧ Listing Gives ps rest := by
  constructor
  · intro hlisting
    cases hlisting with
    | blank hpiece _ => exact absurd hpiece h
    | entry hpiece rest => exact ⟨_, _, rfl, hpiece, rest⟩
  · rintro ⟨e, rest, rfl, hpiece, hrest⟩
    exact .entry hpiece hrest

/-- **Pieces are read** as what they give. -/
theorem mapM_items_eq_ok_iff : (items ps).mapM override = .ok es ↔ Listing Gives ps es := by
  induction ps generalizing es with
  | nil =>
    constructor
    · intro h
      cases h
      exact .nil
    · intro h
      cases h
      rfl
  | cons piece ps ih =>
    by_cases hblank : IsBlankPiece piece
    · rw [items_cons_of_blank hblank, listing_cons_of_blank hblank, ih]
    · rw [items_cons_of_not_blank hblank, listing_cons_of_not_blank hblank, List.mapM_cons]
      constructor
      · intro h
        obtain ⟨e, he, h⟩ := bind_eq_ok.mp h
        obtain ⟨rest, hrest, h⟩ := bind_eq_ok.mp h
        cases h
        exact ⟨e, rest, rfl, override_eq_ok_iff.mp he, ih.mp hrest⟩
      · rintro ⟨e, rest, rfl, he, hrest⟩
        rw [override_eq_ok_iff.mpr he, ih.mpr hrest]
        rfl

/-- **The first fault of pieces**: all pieces before it are blank or give endpoints. -/
structure IsFirstFault (ps before behind : List (List Char)) (piece : List Char) (fault : Fault) :
    Prop where
  split : ps = before ++ piece :: behind
  listing : ∃ es, Listing Gives before es
  not_blank : ¬ IsBlankPiece piece
  fails : override (trimBy isBlank piece) = .error fault

/-- **The fault of pieces** is that of the first one that is neither blank nor gives an endpoint. -/
theorem mapM_items_eq_error_iff {fault : Fault} :
    (items ps).mapM override = .error fault ↔
      ∃ before piece behind, IsFirstFault ps before behind piece fault := by
  induction ps with
  | nil =>
    constructor
    · intro h
      cases h
    · rintro ⟨before, piece, behind, h⟩
      cases before <;> cases h.split
  | cons piece ps ih =>
    by_cases hblank : IsBlankPiece piece
    · rw [items_cons_of_blank hblank, ih]
      constructor
      · rintro ⟨before, first, behind, rfl, ⟨es, hes⟩, hfirst, hfails⟩
        exact ⟨piece :: before, first, behind, rfl, ⟨es, .blank hblank hes⟩, hfirst, hfails⟩
      · rintro ⟨_ | ⟨_, before⟩, first, behind, hsplit, ⟨es, hes⟩, hfirst, hfails⟩
        · cases hsplit
          exact absurd hblank hfirst
        · cases hsplit
          exact ⟨before, first, behind, rfl, ⟨es, (listing_cons_of_blank hblank).mp hes⟩, hfirst,
            hfails⟩
    · rw [items_cons_of_not_blank hblank, List.mapM_cons, bind_eq_error]
      constructor
      · rintro (hfails | ⟨e, he, h⟩)
        · exact ⟨[], piece, ps, rfl, ⟨[], .nil⟩, hblank, hfails⟩
        · rcases bind_eq_error.mp h with hrest | ⟨es, -, hpure⟩
          · obtain ⟨before, first, behind, rfl, ⟨es, hes⟩, hfirst, hfails⟩ := ih.mp hrest
            exact ⟨piece :: before, first, behind, rfl,
              ⟨e :: es, .entry (override_eq_ok_iff.mp he) hes⟩, hfirst, hfails⟩
          · cases hpure
      · rintro ⟨_ | ⟨_, before⟩, first, behind, hsplit, ⟨es, hes⟩, hfirst, hfails⟩
        · cases hsplit
          exact .inl hfails
        · cases hsplit
          obtain ⟨e, rest, -, he, hrest⟩ := (listing_cons_of_not_blank hblank).mp hes
          refine .inr ⟨e, override_eq_ok_iff.mpr he, ?_⟩
          rw [ih.mpr ⟨before, first, behind, rfl, ⟨rest, hrest⟩, hfirst, hfails⟩]
          rfl

end Pieces

/-! ## A text of endpoints -/

section Text

variable {raw : String}

/-- **A text of endpoints is read** if its pieces give endpoints, as the table of all of them. -/
theorem overrides_eq_ok_iff {given : List (Int × String)} :
    overrides raw = .ok given ↔
      ∃ es, Listing Gives (pieces raw) es ∧ given = Ordered.putAll [] es := by
  show ((items (pieces raw)).mapM override >>= fun es => pure (Ordered.putAll [] es)) = _ ↔ _
  rw [bind_eq_ok]
  constructor
  · rintro ⟨es, hes, h⟩
    cases h
    exact ⟨es, mapM_items_eq_ok_iff.mp hes, rfl⟩
  · rintro ⟨es, hes, rfl⟩
    exact ⟨es, mapM_items_eq_ok_iff.mpr hes, rfl⟩

theorem overrides_eq_error_iff {fault : Fault} :
    overrides raw = .error fault ↔
      ∃ before piece behind, IsFirstFault (pieces raw) before behind piece fault := by
  show ((items (pieces raw)).mapM override >>= fun es => pure (Ordered.putAll [] es)) = _ ↔ _
  rw [← mapM_items_eq_error_iff, bind_eq_error]
  constructor
  · rintro (h | ⟨es, -, h⟩)
    · exact h
    · cases h
  · exact .inl

end Text

end HatTree.Environment
