import HatTree.Proofs.Log.Scan

/-!
# Quoted values behind quoted keys

A value stands in quotation marks, with a blank in front, and its key is quoted as well. No pattern
takes such a value. The first two end their secrets at the blank, which none of their leads has. The
name of a setting would have to stand right in front of the colon, where the quotation mark of the
key stands. What a secret takes off the key it takes up to the blank, so that a mark stands there.

## Main definitions

* `Pattern.LeadsTo`: a lead stands at the end of a text
* `Shielded`: a word that is quoted, behind a quoted key or what is left of it

## Main results

* `Pattern.Scan.not_touches`: what a pattern can neither enter nor lead to is not touched
* `Pattern.Scan.keeps_or_marks`: what stands in front of a part that is not touched
* `Shielded.replace`: the first two patterns keep a word shielded
* `Shielded.infix_redactChars`: a shielded word survives
-/

namespace HatTree.Log.Secret

open HatTree.Text

/-! ## What a pattern does not touch -/

/-- **A lead stands at the end of a text.** -/
def Pattern.LeadsTo (p : Pattern) (cs : List Char) : Prop := ∃ lead, p.FitsLead lead ∧ lead <:+ cs

section Scan

variable {p : Pattern} {guard : Char → Bool} {replacement cs out : List Char} {taken : List Taken}
  {k : Taken}

/-- No lead ends with a letter or a digit, or with a character that leads do not have. -/
theorem Guarded.not_leadsTo (hp : Guarded p guard) {r : List Char} (hne : r ≠ [])
    (hr : ∀ d ∈ r, d.isAlphanum = true ∨ ∀ lead, p.FitsLead lead → d ∉ lead) (x : List Char) :
    ¬ p.LeadsTo (x ++ r) := by
  rintro ⟨lead, hlead, hsuffix⟩
  obtain ⟨front, c, rfl, hc⟩ := hp.ends lead hlead
  obtain ⟨r, d, rfl⟩ := (List.eq_nil_or_concat' r).resolve_left hne
  rw [← List.append_assoc] at hsuffix
  have hsingle : [c].length = [d].length := rfl
  obtain ⟨-, hlast⟩ := (List.suffix_append_inj_of_length_eq hsingle).mp hsuffix
  cases hlast
  rcases hr c (List.mem_append_right r List.mem_cons_self) with halphanum | hnot
  · rw [hc] at halphanum
    cases halphanum
  · exact hnot _ hlead (List.mem_append_right front List.mem_cons_self)

namespace Pattern.Scan

theorem secret_of_mem (h : p.Scan replacement cs out taken) (hk : k ∈ taken) :
    ∀ c ∈ k.secret, p.secret c = true := by
  induction h generalizing k with
  | nil => cases hk
  | skip _ _ ih =>
    obtain ⟨k, hmem, rfl⟩ := List.mem_map.mp hk
    show ∀ c ∈ k.secret, p.secret c = true
    exact ih hmem
  | hit h _ ih =>
    rcases List.mem_cons.mp hk with rfl | hk
    · exact (Pattern.find?_eq_some h).2.2.1
    · obtain ⟨k, hmem, rfl⟩ := List.mem_map.mp hk
      show ∀ c ∈ k.secret, p.secret c = true
      exact ih hmem

/-- **What a pattern can neither enter nor lead to is not touched**: it starts with a character that
ends secrets, and no lead ends in it. -/
theorem not_touches (h : p.Scan replacement cs out taken) (hk : k ∈ taken) {x r y : List Char}
    {c : Char} (hcs : cs = x ++ (c :: r) ++ y) (hc : p.secret c = false)
    (hfit : ∀ r', r' <+: r → ¬ p.LeadsTo (x ++ c :: r')) :
    ¬ k.Touches x.length (c :: r).length := by
  rintro ⟨hstop, hstart⟩
  obtain ⟨before, lead, after, htext, hlength, hlead, -, -⟩ := h.exists_of_mem hk
  have hnot : c ∉ k.secret := by
    intro hmem
    rw [h.secret_of_mem hk c hmem] at hc
    cases hc
  have hsplit : (before ++ lead) ++ k.secret ++ after = x ++ c :: (r ++ y) := by
    rw [← htext, hcs, List.append_assoc, List.cons_append]
  rcases eq_append_cons_cases hnot hsplit with ⟨r', hfront, htail⟩ | ⟨y', -, rfl⟩
  · -- The secret starts behind the character, and its lead ends in the part.
    have hprefix : r' <+: r := by
      rw [List.append_assoc] at htail
      refine List.prefix_of_prefix_length_le ⟨_, htail.symm⟩ (List.prefix_append r y) ?_
      have hfront := congrArg List.length hfront
      simp only [List.length_append, List.length_cons] at hfront hstart
      omega
    exact hfit r' hprefix ⟨lead, hlead, hfront ▸ List.suffix_append before lead⟩
  · simp only [Taken.stop, hlength, List.length_append] at hstop
    omega

/-- The scan goes on behind a secret that is taken, and puts the replacement in front. -/
theorem exists_behind (h : p.Scan replacement cs out taken) (hk : k ∈ taken) :
    ∃ front rest front' out' taken', cs = front ++ rest ∧ front.length = k.stop ∧
      out = front' ++ replacement ++ out' ∧ p.Scan replacement rest out' taken' ∧
        ∀ k' ∈ taken', k'.shift k.stop ∈ taken := by
  induction h generalizing k with
  | nil => cases hk
  | @skip c cs out taken h hrest ih =>
    obtain ⟨k, hmem, rfl⟩ := List.mem_map.mp hk
    obtain ⟨front, rest, front', out', taken', rfl, hfront, rfl, hscan, htaken⟩ := ih hmem
    refine ⟨c :: front, rest, c :: front', out', taken', rfl, ?_, rfl, hscan, fun k' hk' => ?_⟩
    · rw [Taken.stop_shift, List.length_cons, hfront, Nat.add_comm]
    · rw [Taken.stop_shift, ← Taken.shift_shift]
      exact List.mem_map_of_mem (htaken k' hk')
  | @hit lead secret rest out taken h hrest ih =>
    rcases List.mem_cons.mp hk with rfl | hk
    · refine ⟨lead ++ secret, rest, lead, out, taken, rfl, List.length_append, rfl, hrest, ?_⟩
      exact fun k' hk' => List.mem_cons_of_mem _ (List.mem_map_of_mem hk')
    · obtain ⟨k, hmem, rfl⟩ := List.mem_map.mp hk
      obtain ⟨front, rest, front', out', taken', rfl, hfront, rfl, hscan, htaken⟩ := ih hmem
      refine ⟨lead ++ secret ++ front, rest, lead ++ replacement ++ front', out', taken', ?_, ?_,
        ?_, hscan, fun k' hk' => List.mem_cons_of_mem _ ?_⟩
      · rw [List.append_assoc _ front]
      · rw [Taken.stop_shift, List.length_append, List.length_append, hfront]
      · simp only [List.append_assoc]
      · rw [Taken.stop_shift, ← Taken.shift_shift]
        exact List.mem_map_of_mem (htaken k' hk')

/-- A secret goes on to the end of what it can take. -/
theorem stop_eq (h : p.Scan replacement cs out taken) (hk : k ∈ taken) {x w z : List Char}
    (hcs : cs = x ++ w ++ z) (hw : ∀ c ∈ w, p.secret c = true) (hlt : x.length < k.stop)
    (hle : k.stop ≤ (x ++ w).length) : k.stop = (x ++ w).length := by
  obtain ⟨before, lead, after, htext, hstart, -, -, hafter⟩ := h.exists_of_mem hk
  have hstop : k.stop = (before ++ lead ++ k.secret).length := by
    rw [Taken.stop, hstart, List.length_append, List.length_append]
  rw [hstop] at hlt hle ⊢
  have hsplit : before ++ lead ++ k.secret ++ after = (x ++ w) ++ z ++ [] := by
    rw [← htext, hcs, List.append_nil]
  obtain ⟨mid, hmid, hrest⟩ := exists_rest_of_length_le hsplit hle
  cases mid with
  | nil => rw [hmid, List.append_nil]
  | cons d mid =>
    -- The character behind the secret would be one that it can take.
    rw [← List.append_nil (_ ++ d :: mid)] at hmid
    obtain ⟨w', -, rfl⟩ := exists_rest_of_length_le hmid (Nat.le_of_lt hlt)
    have hd := hafter d (by rw [hrest]; rfl)
    rw [hw d (by simp)] at hd
    cases hd

/-- What stands behind a secret stays behind the replacement, if it is not touched. -/
theorem keeps_behind (h : p.Scan replacement cs out taken) (hk : k ∈ taken) {u r y : List Char}
    (hcs : cs = u ++ (r ++ y)) (hstop : k.stop = u.length)
    (hfree : ∀ k ∈ taken, ¬ k.Touches u.length r.length) :
    ∃ x' y', out = x' ++ (replacement ++ r) ++ y' := by
  obtain ⟨front, rest, front', out', taken', htext, hfront, rfl, hscan, htaken⟩ :=
    h.exists_behind hk
  obtain ⟨rfl, rfl⟩ := List.append_inj (htext.symm.trans hcs) (hfront.trans hstop)
  obtain ⟨y', rfl⟩ : r <+: out' := by
    refine hscan.prefix_of_le_start rfl fun k' hk' => ?_
    obtain ⟨-, -, -, -, -, -, hne, -⟩ := hscan.exists_of_mem hk'
    have hlt : k'.start < k'.stop := Nat.lt_add_of_pos_right (List.length_pos_iff.mpr hne)
    have hnot := hfree _ (htaken k' hk')
    rw [Taken.Touches, Taken.stop_shift, Taken.start_shift] at hnot
    omega
  exact ⟨front', y', by simp only [List.append_assoc]⟩

/-- **What stands in front of a part that is not touched** stays, or a mark takes its place, if it
can be taken as a whole. -/
theorem keeps_or_marks (h : p.Scan replacement cs out taken) {x w r y : List Char}
    (hcs : cs = x ++ (w ++ r) ++ y) (hw : ∀ c ∈ w, p.secret c = true)
    (hfree : ∀ k ∈ taken, ¬ k.Touches (x ++ w).length r.length) :
    (∃ x' y', out = x' ++ (w ++ r) ++ y') ∨ ∃ x' y', out = x' ++ (replacement ++ r) ++ y' := by
  by_cases htouched : ∃ k ∈ taken, k.Touches x.length (w ++ r).length
  · obtain ⟨k, hk, hlt, hstart⟩ := htouched
    have hle : k.stop ≤ (x ++ w).length := by
      by_contra hcross
      refine hfree k hk ⟨Nat.not_le.mp hcross, ?_⟩
      simp only [List.length_append] at hstart ⊢
      omega
    have hsplit : cs = x ++ w ++ (r ++ y) := by
      rw [hcs]
      simp only [List.append_assoc]
    exact .inr (h.keeps_behind hk hsplit (h.stop_eq hk hsplit hw hlt hle) hfree)
  · exact .inl (h.keeps hcs fun k hk htouch => htouched ⟨k, hk, htouch⟩)

end Pattern.Scan

end Scan

/-! ## Shielded words -/

/-- The marks around a quoted text. -/
def isQuote : Char → Bool := oneOf ['"', '\'']

theorem isQuote_cases {c : Char} (h : isQuote c = true) : c = '"' ∨ c = '\'' := by
  simpa [isQuote, oneOf] using h

/-- What stands in front of the blank that divides a quoted value from its key: the end of a quoted
key with the colon behind it, or the end of a mark. -/
inductive Divider : List Char → Prop
  | key {q : Char} (h : isQuote q = true) : Divider [q, ':']
  | mark : Divider [']']

/-- **A word is shielded** by a quotation mark, behind a blank and a quoted key, or what is left of
it. -/
def Shielded (s cs : List Char) : Prop :=
  ∃ x w q y, cs = x ++ (w ++ ' ' :: q :: s) ++ y ∧ Divider w ∧ isQuote q = true

theorem Divider.subset {w : List Char} (h : Divider w) : w ⊆ ['"', '\'', ':', ']'] := by
  cases h with
  | key h => rcases isQuote_cases h with rfl | rfl <;> decide
  | mark => decide

/-- A lead of a setting has a name in front of its sign, which does not end with a quotation mark,
and no character of the secret behind it. -/
theorem exists_of_fitsLead_setting {lead : List Char} (hlead : setting.FitsLead lead) :
    ∃ front c d back, lead = front ++ [c] ++ d :: back ∧ isQuote c = false ∧ divides d = true ∧
      ∀ e ∈ back, setting.secret e = false := by
  obtain ⟨pieces, hmem, hfits⟩ := hlead
  obtain ⟨accepts, name, back, rfl, hname, hback⟩ := exists_of_mem_leads_setting hmem
  obtain ⟨cs, ds, rfl, hcs, hds⟩ := hfits.exists_append
  have hne : cs ≠ [] := by
    cases hcs with
    | cons hpiece _ =>
      cases hpiece with
      | one => exact List.cons_ne_nil _ _
  obtain ⟨front, c, rfl⟩ := (List.eq_nil_or_concat' cs).resolve_left hne
  cases hds with
  | cons hpiece hrest =>
    cases hpiece with
    | @one _ d hd =>
      have hquote : Excludes isQuote (.one accepts :: name) := by
        refine hname.mono fun c hc => ?_
        rcases isQuote_cases hc with rfl | rfl <;> rfl
      have hlast := hquote _ hcs c (List.mem_append_right front List.mem_cons_self)
      exact ⟨front, c, d, _, rfl, hlast, hd, hback _ hrest⟩

/-- **The name of a setting does not lead to a shielded word.** -/
theorem not_leadsTo_setting {w : List Char} {q : Char} (hw : Divider w) (hq : isQuote q = true)
    (x : List Char) : ¬ setting.LeadsTo (x ++ w ++ [' ', q]) := by
  rintro ⟨lead, hlead, z, heq⟩
  obtain ⟨front, c, d, back, rfl, hc, hd, hback⟩ := exists_of_fitsLead_setting hlead
  have hsign : d ∉ [' ', q] := by
    have hnot : d ≠ ' ' ∧ d ≠ q := by
      rcases divides_cases hd with rfl | rfl <;> rcases isQuote_cases hq with rfl | rfl <;> decide
    simp [hnot]
  have hlast {e : Char} (he : setting.secret e = true) : e ∉ back := by
    intro hmem
    rw [hback e hmem] at he
    cases he
  have hlead : (z ++ front ++ [c]) ++ d :: back = x ++ w ++ [' ', q] := by
    rw [← heq]
    simp only [List.append_assoc]
  cases hw with
  | @key q' hq' =>
    -- The sign is the colon, behind a quotation mark.
    have hsplit : (x ++ [q']) ++ ':' :: [' ', q] = (z ++ front ++ [c]) ++ d :: back := by
      rw [hlead]
      simp
    obtain ⟨hname, -⟩ := eq_of_append_cons_eq hsplit (hlast rfl) hsign
    obtain ⟨-, hq⟩ := List.append_inj' hname rfl
    cases hq
    rw [hq'] at hc
    cases hc
  | mark =>
    have hsplit : x ++ ']' :: [' ', q] = (z ++ front ++ [c]) ++ d :: back := by
      rw [hlead]
      simp
    obtain ⟨-, rfl⟩ := eq_of_append_cons_eq hsplit (hlast rfl) hsign
    cases hd

section Shielded

variable {p : Pattern} {s cs : List Char} (hs : ∀ c ∈ s, c.isAlphanum = true)
include hs

/-- **The first two patterns keep a word shielded.** -/
theorem Shielded.replace (hp : p ∈ [gatewayKey, parameter]) (h : Shielded s cs) :
    Shielded s (p.replace mark.toList cs) := by
  have hfacts : [gatewayKey, parameter].all fun p => !p.secret ' ' &&
      ['"', '\'', ':', ']'].all p.secret && p.leads.all fun pieces => pieces.all fun piece =>
        [' ', '"', '\''].all fun c => !piece.accepts c := by
    decide
  have hfacts := List.all_eq_true.mp hfacts p hp
  simp only [Bool.and_eq_true] at hfacts
  obtain ⟨⟨hspace, hclass⟩, hleads⟩ := hfacts
  obtain ⟨guard, hguard⟩ : ∃ guard, Guarded p guard :=
    exists_guarded (List.mem_append_left [setting, credentials] hp)
  obtain ⟨x, w, q, y, rfl, hw, hq⟩ := h
  have hscan := p.scan mark.toList (x ++ (w ++ ' ' :: q :: s) ++ y)
  have hsplit : x ++ (w ++ ' ' :: q :: s) ++ y = x ++ w ++ (' ' :: q :: s) ++ y := by simp
  -- No lead has the blank or the quotation mark, so that none ends in what shields the word.
  have hother : ∀ d ∈ ' ' :: q :: s, d.isAlphanum = true ∨ ∀ lead, p.FitsLead lead → d ∉ lead := by
    intro d hd
    rcases List.mem_cons.mp hd with rfl | hd
    · exact .inr fun _ hlead => hlead.not_mem hleads rfl
    rcases List.mem_cons.mp hd with rfl | hd
    · have hquote : oneOf [' ', '"', '\''] d = true := by
        rcases isQuote_cases hq with rfl | rfl <;> rfl
      exact .inr fun _ hlead => hlead.not_mem hleads hquote
    · exact .inl (hs d hd)
  have hfree : ∀ k ∈ p.taken (x ++ (w ++ ' ' :: q :: s) ++ y),
      ¬ k.Touches (x ++ w).length (' ' :: q :: s).length := by
    intro k hk
    refine hscan.not_touches hk hsplit ((Bool.not_eq_true' _).mp hspace) fun r hr => ?_
    exact hguard.not_leadsTo (List.cons_ne_nil _ _)
      (fun d hd => hother d ((List.cons_prefix_cons.mpr ⟨rfl, hr⟩).subset hd)) (x ++ w)
  -- What is left of the key can be taken, but only as a whole.
  have hsecret : ∀ c ∈ w, p.secret c = true := fun c hc =>
    List.all_eq_true.mp hclass c (hw.subset hc)
  rcases hscan.keeps_or_marks rfl hsecret hfree with ⟨x', y', hout⟩ | ⟨x', y', hout⟩
  · exact ⟨x', w, q, y', hout, hw, hq⟩
  · refine ⟨x' ++ "[REDACTED".toList, [']'], q, y', ?_, .mark, hq⟩
    have hmark : mark.toList = "[REDACTED".toList ++ [']'] := by decide
    rw [hout, hmark]
    simp

/-- A word that is quoted stays with its quotation mark, if the pattern does not lead to it. -/
theorem keeps_of_quote {guard : Char → Bool} (hp : Guarded p guard) {x y : List Char} {q : Char}
    (hq : p.secret q = false) (hlead : ¬ p.LeadsTo (x ++ [q])) (hcs : cs = x ++ (q :: s) ++ y) :
    ∃ x' y', p.replace mark.toList cs = x' ++ (q :: s) ++ y' := by
  have hscan := p.scan mark.toList cs
  refine hscan.keeps hcs fun k hk => hscan.not_touches hk hcs hq fun r hr => ?_
  cases r with
  | nil => exact hlead
  | cons d r =>
    have hsplit : x ++ q :: d :: r = x ++ [q] ++ d :: r := by simp
    rw [hsplit]
    exact hp.not_leadsTo (List.cons_ne_nil _ _) (fun e he => .inl (hs e (hr.subset he))) _

/-- **A shielded word survives.** -/
theorem Shielded.infix_redactChars (h : Shielded s cs) : s <:+: redactChars mark.toList cs := by
  have hgateway : Shielded s (gatewayKey.replace mark.toList cs) := h.replace hs List.mem_cons_self
  have hparameter :
      Shielded s (parameter.replace mark.toList (gatewayKey.replace mark.toList cs)) :=
    hgateway.replace hs (List.mem_cons_of_mem _ List.mem_cons_self)
  obtain ⟨x, w, q, y, htext, hw, hq⟩ := hparameter
  have hsetting : setting.secret q = false := by
    rcases isQuote_cases hq with rfl | rfl <;> rfl
  have hcredentials : credentials.secret q = false := by
    rcases isQuote_cases hq with rfl | rfl <;> rfl
  have hquote : credentials.leads.all fun pieces => pieces.all fun piece =>
      ['"', '\''].all fun c => !piece.accepts c := by
    decide
  have hsplit : x ++ (w ++ ' ' :: q :: s) ++ y = (x ++ w ++ [' ']) ++ (q :: s) ++ y := by simp
  have hname : ¬ setting.LeadsTo ((x ++ w ++ [' ']) ++ [q]) := by
    simpa using not_leadsTo_setting hw hq x
  obtain ⟨x', y', hkept⟩ := keeps_of_quote hs guarded_setting hsetting hname (htext.trans hsplit)
  have hscheme : ¬ credentials.LeadsTo (x' ++ [q]) := by
    refine guarded_credentials.not_leadsTo (List.cons_ne_nil _ _) (fun d hd => ?_) x'
    cases List.mem_singleton.mp hd
    exact .inr fun _ hlead => hlead.not_mem hquote hq
  obtain ⟨x'', y'', hkept⟩ := keeps_of_quote hs guarded_credentials hcredentials hscheme hkept
  refine ⟨x'' ++ [q], y'', ?_⟩
  show _ = credentials.replace mark.toList _
  rw [hkept]
  simp

end Shielded

end HatTree.Log.Secret
