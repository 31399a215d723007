import HatTree.Proofs.Log.Lead

/-!
# Guards of leads

Each lead has a first character of some kind that is met nowhere before it, such as the equals sign
of a parameter, and hardly any letter or digit behind it. A lead therefore never covers another lead
together with a long secret of letters and digits, whatever a pattern finds in between.

## Main definitions

* `Excludes`: parts of leads that take no character of a kind
* `Guarded`: patterns whose leads have a guard
* `Parted`: patterns whose leads have a part that guards, behind which no secret goes on

## Main results

* `Parted.guarded`: a part that guards leads guards the pattern
* `Guarded.length_le`: how little a lead covers behind another one
* `exists_guarded`: each of the patterns has a guard
-/

namespace HatTree.Log.Secret

open HatTree.Text

/-! ## Characters -/

theorem isAlphanum_iff {c : Char} : c.isAlphanum = true ↔
    (48 ≤ c.toNat ∧ c.toNat ≤ 57) ∨ (65 ≤ c.toNat ∧ c.toNat ≤ 90) ∨
      (97 ≤ c.toNat ∧ c.toNat ≤ 122) := by
  have hval : c.val.toNat = c.toNat := rfl
  delta Char.isAlphanum Char.isAlpha Char.isUpper Char.isLower Char.isDigit
  simp only [Bool.or_eq_true, Bool.and_eq_true, decide_eq_true_eq, ge_iff_le,
    UInt32.le_iff_toNat_le, hval, UInt32.reduceToNat, Char.reduceVal]
  rw [or_comm]

theorem isBlank_of_isAlphanum {c : Char} (h : c.isAlphanum = true) : isBlank c = false := by
  have hc := isAlphanum_iff.mp h
  simp [isBlank, blankRanges, Ranges.covers]
  omega

theorem isAlphanum_of_isBlank {c : Char} (h : isBlank c = true) : c.isAlphanum = false := by
  cases hc : c.isAlphanum with
  | false => rfl
  | true =>
    rw [isBlank_of_isAlphanum hc] at h
    cases h

/-- A character stays the same among small letters, or it is a letter and becomes one. -/
theorem toLower_cases (c : Char) :
    c.toLower = c ∨ c.isAlpha = true ∧ c.toLower.isAlpha = true := by
  delta Char.toLower
  split
  next h =>
    have hA : 'A'.val.toNat = 65 := rfl
    have hZ : 'Z'.val.toNat = 90 := rfl
    have ha : 'a'.val.toNat = 97 := rfl
    have hz : 'z'.val.toNat = 122 := rfl
    have hstep : ('a'.val - 'A'.val).toNat = 32 := rfl
    delta Char.isAlpha Char.isUpper Char.isLower
    simp only [Bool.or_eq_true, Bool.and_eq_true, decide_eq_true_eq, ge_iff_le,
      UInt32.le_iff_toNat_le, UInt32.toNat_add] at h ⊢
    omega
  next => exact .inl rfl

theorem isAlphanum_foldCase {c : Char} (h : c.isAlphanum = true) :
    (foldCase c).isAlphanum = true := by
  have hc := isAlphanum_iff.mp h
  rw [foldCase, if_neg (by omega), if_neg (by omega), if_neg (by omega)]
  rcases toLower_cases c with hlower | ⟨-, hlower⟩
  · rw [hlower]
    exact h
  · rw [Char.isAlphanum, hlower, Bool.true_or]

/-- A character that is no letter stands for itself only. -/
theorem eq_of_foldCase {c d : Char} (h : foldCase c = d) (hd : d.isAlpha = false) : c = d := by
  rw [foldCase] at h
  split at h
  next =>
    subst h
    cases hd
  split at h
  next =>
    subst h
    cases hd
  split at h
  next =>
    subst h
    cases hd
  next =>
    rcases toLower_cases c with hlower | ⟨-, hlower⟩
    · rw [← h, hlower]
    · rw [← h, hlower] at hd
      cases hd

/-- A blank stands for itself. -/
theorem foldCase_of_isBlank {c : Char} (h : isBlank c = true) : foldCase c = c := by
  have hne (n : Nat) (hn : blankRanges.covers n = false) : c.toNat ≠ n := by
    rintro rfl
    rw [isBlank, hn] at h
    cases h
  have hother : ¬ (c.toNat = 0x130 ∨ c.toNat = 0x131) := by
    rintro (hc | hc)
    · exact hne _ (by decide) hc
    · exact hne _ (by decide) hc
  rw [foldCase, if_neg hother, if_neg (hne _ (by decide)), if_neg (hne _ (by decide))]
  refine (toLower_cases c).resolve_right fun hletter => ?_
  have hc := isAlphanum_of_isBlank h
  rw [Char.isAlphanum, hletter.1] at hc
  cases hc

/-! ## Guards of leads -/

/-- Parts of leads that take no character of a kind. -/
def Excludes (kind : Char → Bool) (pieces : List Piece) : Prop :=
  ∀ cs, LeadFits pieces cs → ∀ c ∈ cs, kind c = false

theorem LeadFits.exists_append {pieces pieces' : List Piece} {cs : List Char}
    (h : LeadFits (pieces ++ pieces') cs) :
    ∃ front back, cs = front ++ back ∧ LeadFits pieces front ∧ LeadFits pieces' back := by
  induction pieces generalizing cs with
  | nil => exact ⟨[], cs, rfl, .nil, h⟩
  | cons piece pieces ih =>
    cases h with
    | cons hpiece hrest =>
      obtain ⟨front, back, rfl, hfront, hback⟩ := ih hrest
      exact ⟨_, back, (List.append_assoc _ _ _).symm, .cons hpiece hfront, hback⟩

theorem map_foldCase_of_leadFits {s : String} {cs : List Char} (h : LeadFits (word s) cs) :
    cs.map foldCase = s.toList := by
  rw [word] at h
  revert h
  induction s.toList generalizing cs with
  | nil =>
    rintro ⟨⟩
    rfl
  | cons d ds ih =>
    intro h
    cases h with
    | cons hpiece hrest =>
      cases hpiece with
      | one hc => rw [List.singleton_append, List.map_cons, ih hrest, beq_iff_eq.mp hc]

/-- The characters that a part of a lead takes. -/
def Piece.accepts : Piece → Char → Bool
  | .one accepts | .optional accepts | .many accepts => accepts

theorem Piece.Fits.accepts {piece : Piece} {cs : List Char} (h : piece.Fits cs) :
    ∀ c ∈ cs, piece.accepts c = true := by
  cases h with
  | one hc => simpa [Piece.accepts] using hc
  | absent => simp
  | optional hc => simpa [Piece.accepts] using hc
  | many hrun => exact hrun

section Excludes

variable {kind : Char → Bool} {piece : Piece} {pieces pieces' : List Piece}

theorem excludes_nil : Excludes kind [] := by
  rintro _ ⟨⟩ c hc
  cases hc

theorem Excludes.append (h : Excludes kind pieces) (h' : Excludes kind pieces') :
    Excludes kind (pieces ++ pieces') := by
  intro cs hcs c hc
  obtain ⟨front, back, rfl, hfront, hback⟩ := hcs.exists_append
  rcases List.mem_append.mp hc with hc | hc
  · exact h front hfront c hc
  · exact h' back hback c hc

theorem Excludes.cons (h : ∀ c, kind c = true → piece.accepts c = false)
    (h' : Excludes kind pieces) : Excludes kind (piece :: pieces) := by
  rintro _ (_ | ⟨hpiece, hrest⟩) c hc
  rcases List.mem_append.mp hc with hc | hc
  · cases hkind : kind c with
    | false => rfl
    | true => rw [← h c hkind, hpiece.accepts c hc]
  · exact h' _ hrest c hc

theorem Excludes.mono {kind' : Char → Bool} (h : Excludes kind' pieces)
    (hkind : ∀ c, kind c = true → kind' c = true) : Excludes kind pieces := by
  intro cs hcs c hc
  cases hc' : kind c with
  | false => rfl
  | true => rw [← h cs hcs c hc, hkind c hc']

/-- A word takes no character of a kind that is the same in any case and not in the word. -/
theorem excludes_word (hcase : ∀ c, kind c = true → foldCase c = c) {s : String}
    (hs : s.toList.any kind = false) : Excludes kind (word s) := by
  intro cs hcs c hc
  cases hkind : kind c with
  | false => rfl
  | true =>
    have hmem : foldCase c ∈ s.toList := by
      rw [← map_foldCase_of_leadFits hcs]
      exact List.mem_map_of_mem hc
    rw [hcase c hkind] at hmem
    exact absurd hkind (List.any_eq_false.mp hs c hmem)

/-- Whether parts take no character out of a few can be computed. -/
theorem excludes_oneOf {chars : List Char}
    (h : pieces.all fun piece => chars.all fun c => !piece.accepts c) :
    Excludes (oneOf chars) pieces := by
  induction pieces with
  | nil => exact excludes_nil
  | cons piece pieces ih =>
    rw [List.all_cons, Bool.and_eq_true] at h
    refine .cons (fun c hc => ?_) (ih h.2)
    exact (Bool.not_eq_true' _).mp (List.all_eq_true.mp h.1 c (List.contains_iff_mem.mp hc))

/-- What no part of any lead takes is not in a lead. -/
theorem Pattern.FitsLead.excludes {p : Pattern} {chars lead : List Char} (hlead : p.FitsLead lead)
    (h : p.leads.all fun pieces => pieces.all fun piece => chars.all fun c => !piece.accepts c) :
    ∀ c ∈ lead, oneOf chars c = false := by
  obtain ⟨pieces, hmem, hfits⟩ := hlead
  exact excludes_oneOf (List.all_eq_true.mp h pieces hmem) lead hfits

theorem Pattern.FitsLead.not_mem {p : Pattern} {chars lead : List Char} {c : Char}
    (hlead : p.FitsLead lead)
    (h : p.leads.all fun pieces => pieces.all fun piece => chars.all fun c => !piece.accepts c)
    (hc : oneOf chars c = true) : c ∉ lead := by
  intro hmem
  rw [hlead.excludes h c hmem] at hc
  cases hc

end Excludes

/-- **Patterns whose leads have a guard**: a first character of a kind, and hardly any letter or
digit behind it. A lead does not end with a letter or a digit, of which secrets can be made. -/
structure Guarded (p : Pattern) (guard : Char → Bool) : Prop where
  /-- Letters and digits are characters of secrets. -/
  secret : ∀ c, c.isAlphanum = true → p.secret c = true
  /-- A lead ends with another character. -/
  ends : ∀ lead, p.FitsLead lead → ∃ front c, lead = front ++ [c] ∧ c.isAlphanum = false
  /-- A lead has a first character of the kind. -/
  guards : ∀ lead, p.FitsLead lead → ∃ front c back, lead = front ++ c :: back ∧
    (∀ d ∈ front, guard d = false) ∧ guard c = true ∧ back.countP Char.isAlphanum ≤ 8

section Guarded

variable {p : Pattern} {guard : Char → Bool}

theorem Guarded.not_mem (h : Guarded p guard) {cs : List Char} {d : Char}
    (hcs : ∀ c ∈ cs, c.isAlphanum = true) (hd : p.secret d = false) : d ∉ cs := by
  intro hmem
  rw [h.secret d (hcs d hmem)] at hd
  cases hd

/-- What stands behind a guard stands behind the first guard. -/
theorem suffix_of_guard {front back front' back' : List Char} {c c' : Char}
    (h : front ++ c :: back = front' ++ c' :: back') (hfront' : ∀ d ∈ front', guard d = false)
    (hc : guard c = true) : back <:+ back' := by
  rcases List.append_eq_append_iff.mp h with ⟨mid, hmid, htail⟩ | ⟨mid, hmid, htail⟩
  · cases mid with
    | nil =>
      cases htail
      exact List.suffix_rfl
    | cons d mid =>
      obtain ⟨rfl, -⟩ := List.cons.inj htail
      rw [hfront' c (by simp [hmid])] at hc
      cases hc
  · cases mid with
    | nil =>
      cases htail
      exact List.suffix_rfl
    | cons d mid =>
      cases htail
      exact ⟨mid ++ [c], by simp⟩

/-- **Hardly any letter or digit of a lead stands behind another lead.** -/
theorem Guarded.length_le (h : Guarded p guard) {lead before secret after : List Char}
    (hlead : p.FitsLead lead) (hcover : p.FitsLead (before ++ lead ++ secret ++ after))
    (hsecret : ∀ c ∈ secret, c.isAlphanum = true) : secret.length ≤ 8 := by
  obtain ⟨front, c, back, rfl, -, hc, -⟩ := h.guards lead hlead
  obtain ⟨front', c', back', heq, hfront', -, hback'⟩ := h.guards _ hcover
  -- The first guard of the lead that covers stands at the other lead's guard or before it.
  have hsplit : (before ++ front) ++ c :: (back ++ secret ++ after) = front' ++ c' :: back' := by
    rw [← heq]
    simp
  have hsuffix := suffix_of_guard hsplit hfront' hc
  have hback : secret <:+: back' := List.IsInfix.trans ⟨back, after, rfl⟩ hsuffix.isInfix
  calc secret.length = secret.countP Char.isAlphanum := (List.countP_eq_length.mpr hsecret).symm
    _ ≤ back'.countP Char.isAlphanum := hback.sublist.countP_le
    _ ≤ 8 := hback'

/-- **Patterns whose leads have a part that guards**: no part before it takes a guard, and no part
behind it takes a character of the secret. -/
def Parted (p : Pattern) (guard : Char → Bool) : Prop :=
  ∀ pieces ∈ p.leads, ∃ front accepts back, pieces = front ++ .one accepts :: back ∧
    Excludes guard front ∧ (∀ c, accepts c = true → guard c = true ∧ c.isAlphanum = false) ∧
      Excludes p.secret back

theorem Parted.exists_of_fitsLead (h : Parted p guard) {lead : List Char}
    (hlead : p.FitsLead lead) : ∃ front c back, lead = front ++ c :: back ∧
      (∀ d ∈ front, guard d = false) ∧ guard c = true ∧ c.isAlphanum = false ∧
        ∀ d ∈ back, p.secret d = false := by
  obtain ⟨pieces, hmem, hfits⟩ := hlead
  obtain ⟨front, accepts, back, rfl, hfront, hone, hback⟩ := h pieces hmem
  obtain ⟨cs, ds, rfl, hcs, hds⟩ := hfits.exists_append
  cases hds with
  | cons hpiece hrest =>
    cases hpiece with
    | one hc =>
      exact ⟨cs, _, _, rfl, hfront cs hcs, (hone _ hc).1, (hone _ hc).2, hback _ hrest⟩

/-- **A part that guards leads guards the pattern**, when letters and digits are characters of the
secret. -/
theorem Parted.guarded (h : Parted p guard)
    (hsecret : ∀ c, c.isAlphanum = true → p.secret c = true) : Guarded p guard := by
  have hother {back : List Char} (hback : ∀ d ∈ back, p.secret d = false) :
      ∀ d ∈ back, d.isAlphanum = false := by
    intro d hd
    cases hc : d.isAlphanum with
    | false => rfl
    | true => rw [← hback d hd, hsecret d hc]
  refine ⟨hsecret, fun lead hlead => ?_, fun lead hlead => ?_⟩
  · obtain ⟨front, c, back, rfl, -, -, hc, hback⟩ := h.exists_of_fitsLead hlead
    have hne : c :: back ≠ [] := List.cons_ne_nil _ _
    refine ⟨front ++ (c :: back).dropLast, (c :: back).getLast hne, ?_, ?_⟩
    · rw [List.append_assoc, List.dropLast_concat_getLast]
    · have hall : ∀ d ∈ c :: back, d.isAlphanum = false :=
        List.forall_mem_cons.mpr ⟨hc, hother hback⟩
      exact hall _ (List.getLast_mem hne)
  · obtain ⟨front, c, back, rfl, hfront, hc, -, hback⟩ := h.exists_of_fitsLead hlead
    refine ⟨front, c, back, rfl, hfront, hc, ?_⟩
    rw [List.countP_eq_zero.mpr fun d hd => by rw [hother hback d hd]; exact Bool.false_ne_true]
    exact Nat.zero_le _

end Guarded

/-! ## The guards of the patterns -/

/-- The address of a gateway has no slash before that in front of the last part. -/
theorem exists_of_fitsLead_gatewayKey {lead : List Char} (hlead : gatewayKey.FitsLead lead) :
    ∃ front back, lead = front ++ '/' :: back ∧ (∀ d ∈ front, (d == '/') = false) ∧
      back.map foldCase = "api/".toList := by
  have hcase : ∀ c, (c == '/') = true → foldCase c = c := by
    intro c hc
    cases beq_iff_eq.mp hc
    decide
  have hname : Excludes (· == '/') (word "gateway") := excludes_word hcase rfl
  have hhost : Excludes (· == '/')
      [.many fun c => isWordChar c || c == '.' || c == '-'] := by
    refine .cons (fun c hc => ?_) excludes_nil
    cases beq_iff_eq.mp hc
    decide
  have hdomain : Excludes (· == '/') (word ".thegraph.com") := excludes_word hcase rfl
  obtain ⟨pieces, hmem, hfits⟩ := hlead
  cases List.mem_singleton.mp hmem
  have hword : word ".thegraph.com/api/" = word ".thegraph.com" ++ word "/api/" := by
    rw [word, word, word, ← List.map_append, ← String.toList_append]
    rfl
  rw [← List.singleton_append, ← List.append_assoc, hword, ← List.append_assoc] at hfits
  obtain ⟨front, rest, rfl, hfront, hrest⟩ := hfits.exists_append
  obtain ⟨c, back, rfl, hc, hback⟩ := List.map_eq_cons_iff.mp (map_foldCase_of_leadFits hrest)
  cases eq_of_foldCase hc rfl
  exact ⟨front, back, rfl, ((hname.append hhost).append hdomain) front hfront, hback⟩

theorem ne_of_isAlphanum {c d : Char} (hc : c.isAlphanum = true) (hd : d.isAlphanum = false) :
    c ≠ d := by
  rintro rfl
  rw [hc] at hd
  cases hd

theorem exists_concat_of_fitsLead_gatewayKey {lead : List Char} (hlead : gatewayKey.FitsLead lead) :
    ∃ front, lead = front ++ ['/'] := by
  obtain ⟨front, back, rfl, -, hback⟩ := exists_of_fitsLead_gatewayKey hlead
  have hlast : "api/".toList = "api".toList ++ ['/'] := by decide
  rw [hlast] at hback
  obtain ⟨api, slash, rfl, -, hslash⟩ := List.map_eq_append_iff.mp hback
  obtain ⟨c, rfl, hc⟩ := List.map_eq_singleton_iff.mp hslash
  cases eq_of_foldCase hc rfl
  exact ⟨front ++ '/' :: api, by simp⟩

theorem guarded_gatewayKey : Guarded gatewayKey (· == '/') := by
  refine ⟨fun c hc => ?_, fun lead hlead => ?_, fun lead hlead => ?_⟩
  · simp [gatewayKey, isBlank_of_isAlphanum hc, ne_of_isAlphanum hc (d := '/') rfl]
  · obtain ⟨front, rfl⟩ := exists_concat_of_fitsLead_gatewayKey hlead
    exact ⟨front, '/', rfl, rfl⟩
  · obtain ⟨front, back, rfl, hfront, hback⟩ := exists_of_fitsLead_gatewayKey hlead
    refine ⟨front, '/', back, rfl, hfront, rfl, ?_⟩
    calc back.countP Char.isAlphanum ≤ back.length := List.countP_le_length
      _ = "api/".toList.length := by rw [← hback, List.length_map]
      _ ≤ 8 := by decide

/-- The signs that divide the name of a setting or of a parameter from its value. -/
def divides : Char → Bool := oneOf [':', '=']

theorem parted_parameter : Parted parameter divides := by
  intro pieces hpieces
  obtain ⟨name, hname, rfl⟩ := List.mem_map.mp hpieces
  have hnames : ∀ name ∈ [apiKey, word "key", word "token"],
      (Piece.one (oneOf ['?', '&']) :: name).all fun piece =>
        [':', '='].all fun c => !piece.accepts c := by
    decide
  refine ⟨.one (oneOf ['?', '&']) :: name, _, [], rfl, excludes_oneOf (hnames name hname), ?_,
    excludes_nil⟩
  intro c hc
  cases eq_of_foldCase (beq_iff_eq.mp hc) rfl
  exact ⟨rfl, rfl⟩

theorem guarded_parameter : Guarded parameter divides := by
  refine parted_parameter.guarded fun c hc => ?_
  simp [parameter, isBlank_of_isAlphanum hc, ne_of_isAlphanum hc (d := '&') rfl]

/-- A lead of a setting is a name, a sign and what is no character of the secret. The name takes no
quotation mark, and at least one character. -/
theorem exists_of_mem_leads_setting {pieces : List Piece} (h : pieces ∈ setting.leads) :
    ∃ accepts name back, pieces = .one accepts :: name ++ .one (oneOf [':', '=']) :: back ∧
      Excludes (oneOf [':', '=', '"', '\'']) (.one accepts :: name) ∧
        Excludes setting.secret back := by
  obtain ⟨name, hname, rfl⟩ := List.mem_map.mp h
  have hnames : ∀ name ∈ [word "password", word "passwd", word "secret", word "token", apiKey,
      word "auth" ++ joint :: word "token"],
      (name ++ [Piece.many isBlank]).all fun piece =>
        [':', '=', '"', '\''].all fun c => !piece.accepts c := by
    decide
  have hexcludes := excludes_oneOf (hnames name hname)
  obtain ⟨accepts, rest, rfl⟩ : ∃ accepts rest, name = .one accepts :: rest := by
    simp only [List.mem_cons, List.not_mem_nil, or_false] at hname
    rcases hname with rfl | rfl | rfl | rfl | rfl | rfl <;> exact ⟨_, _, rfl⟩
  rw [List.cons_append] at hexcludes
  refine ⟨accepts, rest ++ [.many isBlank], [.many isBlank, .optional (oneOf ['"', '\''])], by simp,
    hexcludes, .cons (fun c hc => ?_) (.cons (fun c hc => ?_) excludes_nil)⟩
  · exact (Bool.not_eq_true' _).mp (Bool.and_eq_true_iff.mp hc).2
  · have hsign := (Bool.not_eq_true' _).mp (Bool.and_eq_true_iff.mp hc).1
    have hne : c ≠ '"' ∧ c ≠ '\'' ∧ c ≠ '&' := by simpa [oneOf] using hsign
    simp [Piece.accepts, oneOf, hne]

theorem divides_cases {c : Char} (h : divides c = true) : c = ':' ∨ c = '=' := by
  simpa [divides, oneOf] using h

theorem parted_setting : Parted setting divides := by
  intro pieces hpieces
  obtain ⟨accepts, name, back, rfl, hname, hback⟩ := exists_of_mem_leads_setting hpieces
  refine ⟨.one accepts :: name, oneOf [':', '='], back, rfl, hname.mono fun c hc => ?_, ?_, hback⟩
  · rcases divides_cases hc with rfl | rfl <;> rfl
  · intro c hc
    rcases divides_cases hc with rfl | rfl <;> exact ⟨rfl, rfl⟩

theorem guarded_setting : Guarded setting divides := by
  refine parted_setting.guarded fun c hc => ?_
  simp [setting, oneOf, isBlank_of_isAlphanum hc, ne_of_isAlphanum hc (d := '&') rfl,
    ne_of_isAlphanum hc (d := '"') rfl, ne_of_isAlphanum hc (d := '\'') rfl]

theorem secret_credentials_of_isBlank {c : Char} (h : isBlank c = true) :
    credentials.secret c = false := by
  have hsign : oneOf ['+', '/', '=', '.', '_', '-'] c = false := by
    rw [← Bool.not_eq_true, oneOf, List.contains_iff_mem]
    intro hmem
    have hnot : ['+', '/', '=', '.', '_', '-'].all fun d => !isBlank d := rfl
    rw [(Bool.not_eq_true' _).mp (List.all_eq_true.mp hnot c hmem)] at h
    cases h
  show ((foldCase c).isAlphanum || oneOf ['+', '/', '=', '.', '_', '-'] c) = false
  rw [foldCase_of_isBlank h, isAlphanum_of_isBlank h, hsign, Bool.or_false]

theorem parted_credentials : Parted credentials isBlank := by
  intro pieces hpieces
  obtain ⟨scheme, hscheme, rfl⟩ := List.mem_map.mp hpieces
  refine ⟨scheme, isBlank, [.many isBlank], rfl, ?_, ?_, ?_⟩
  · simp only [List.mem_cons, List.not_mem_nil, or_false] at hscheme
    have hcase (c : Char) (hc : isBlank c = true) : foldCase c = c := foldCase_of_isBlank hc
    rcases hscheme with rfl | rfl
    · exact excludes_word hcase rfl
    · exact excludes_word hcase rfl
  · exact fun c hc => ⟨hc, isAlphanum_of_isBlank hc⟩
  · refine .cons (fun c hc => ?_) excludes_nil
    cases hblank : isBlank c with
    | false => exact hblank
    | true =>
      rw [secret_credentials_of_isBlank hblank] at hc
      cases hc

theorem guarded_credentials : Guarded credentials isBlank := by
  refine parted_credentials.guarded fun c hc => ?_
  simp [credentials, isAlphanum_foldCase hc]

/-- **Each of the patterns has a guard.** -/
theorem exists_guarded {p : Pattern} (h : p ∈ patterns) : ∃ guard, Guarded p guard := by
  simp only [patterns, List.mem_cons, List.not_mem_nil, or_false] at h
  rcases h with rfl | rfl | rfl | rfl
  · exact ⟨_, guarded_gatewayKey⟩
  · exact ⟨_, guarded_parameter⟩
  · exact ⟨_, guarded_setting⟩
  · exact ⟨_, guarded_credentials⟩

end HatTree.Log.Secret
