import HatTree.Proofs.Log.Scan

/-!
# Secrets that survive a redaction

The patterns are applied one after another, each to what the one before leaves. No pattern makes a
word of letters and digits that is longer than a mark: its occurrences are those left and those
taken. So a secret of this kind that occurs once survives exactly if no pattern takes it.

A secret that a pattern finds in the text survives only if a part of its lead is taken for a secret,
by a pattern applied before or by the pattern itself, so that the lead no longer fits. The scheme of
authorization behind the name of a setting is such a part. The lead of a parameter cannot be lost in
this way, since what is taken of it extends over the key.

## Main definitions

* `passes`: the patterns, each with the text that it is applied to
* `takenBy`: the secrets that patterns take one after another

## Main results

* `occurrences_eq_add`: the occurrences of a long word are those left and those taken
* `infix_redactChars_iff`: when a word that occurs once survives
* `exists_pass_of_fitsLead`: what happens to a secret and its lead
* `exists_endsIn_of_infix`: a secret survives only if a part of its lead is taken
* `not_infix_of_parameter`: a key among parameters does not survive
* `survival_of_found`: when a secret that is found in a text survives
-/

namespace HatTree.Log

open Secret

/-! ## The passes of a redaction -/

/-- **The passes of a redaction**: each pattern with the text that it is applied to. -/
def passes : List Pattern → List Char → List (Pattern × List Char)
  | [], _ => []
  | p :: ps, cs => (p, cs) :: passes ps (p.replace mark.toList cs)

/-- The secrets that patterns take, one pattern after another. -/
def takenBy (ps : List Pattern) (cs : List Char) : List Taken :=
  (passes ps cs).flatMap fun pass => pass.1.taken pass.2

theorem takenBy_cons (p : Pattern) (ps : List Pattern) (cs : List Char) :
    takenBy (p :: ps) cs = p.taken cs ++ takenBy ps (p.replace mark.toList cs) := rfl

theorem mem_passes_append {ps qs : List Pattern} {cs : List Char} {pass : Pattern × List Char}
    (h : pass ∈ passes ps cs) : pass ∈ passes (ps ++ qs) cs := by
  induction ps generalizing cs with
  | nil => cases h
  | cons p ps ih =>
    rcases List.mem_cons.mp h with rfl | h
    · exact List.mem_cons_self
    · exact List.mem_cons_of_mem _ (ih h)

theorem fst_mem_of_mem_passes {ps : List Pattern} {cs : List Char} {pass : Pattern × List Char}
    (h : pass ∈ passes ps cs) : pass.1 ∈ ps := by
  induction ps generalizing cs with
  | nil => cases h
  | cons p ps ih =>
    rcases List.mem_cons.mp h with rfl | h
    · exact List.mem_cons_self
    · exact List.mem_cons_of_mem _ (ih h)

section Word

variable {s : List Char} (hs : ∀ c ∈ s, c.isAlphanum = true) (hlong : 8 < s.length)
include hs hlong

/-- **The occurrences of a long word** are those left and those taken. -/
theorem occurrences_eq_add {ps : List Pattern} (hps : ∀ p ∈ ps, ∃ guard, Guarded p guard)
    (cs : List Char) :
    occurrences s cs = occurrences s (ps.foldl (fun cs p => p.replace mark.toList cs) cs) +
      ((takenBy ps cs).map fun k => occurrences s k.secret).sum := by
  induction ps generalizing cs with
  | nil => rfl
  | cons p ps ih =>
    obtain ⟨guard, hp⟩ := hps p List.mem_cons_self
    have hpass := (p.scan mark.toList cs).occurrences_eq hp hs hlong []
    have hrest := ih (fun q hq => hps q (List.mem_cons_of_mem _ hq)) (p.replace mark.toList cs)
    rw [List.nil_append, List.nil_append] at hpass
    rw [takenBy_cons, List.map_append, List.sum_append, List.foldl_cons, hpass, hrest]
    omega

/-- A redaction makes no long word. -/
theorem infix_of_infix_redactChars {cs : List Char} (h : s <:+: redactChars mark.toList cs) :
    s <:+: cs := by
  have hne : s ≠ [] := List.ne_nil_of_length_pos (by omega)
  have hsum := occurrences_eq_add hs hlong (fun p hp => exists_guarded hp) cs
  rw [← occurrences_pos_iff hne, redactChars] at h
  rw [← occurrences_pos_iff hne, hsum]
  exact Nat.add_pos_left h _

/-- **A long word that occurs once survives** exactly if no pattern takes it. -/
theorem infix_redactChars_iff {cs : List Char} (honce : occurrences s cs = 1) :
    s <:+: redactChars mark.toList cs ↔ ∀ k ∈ takenBy patterns cs, ¬ s <:+: k.secret := by
  have hne : s ≠ [] := List.ne_nil_of_length_pos (by omega)
  have hsum := occurrences_eq_add hs hlong (fun p hp => exists_guarded hp) cs
  rw [honce] at hsum
  have htaken : ((takenBy patterns cs).map fun k => occurrences s k.secret).sum = 0 ↔
      ∀ k ∈ takenBy patterns cs, ¬ s <:+: k.secret := by
    rw [List.sum_eq_zero_iff_forall_eq_nat, List.forall_mem_map]
    refine forall₂_congr fun k _ => ?_
    rw [← occurrences_pos_iff hne, Nat.not_lt, Nat.le_zero]
  rw [← htaken, ← occurrences_pos_iff hne, redactChars]
  omega

/-- **What happens to a long word behind a lead** that fits a pattern: some pattern, up to that one,
takes the word, or a part of the lead only. -/
theorem exists_pass_of_fitsLead {earlier : List Pattern} {p : Pattern}
    (hearlier : ∀ q ∈ earlier, ∃ guard, Guarded q guard) (hp : ∃ guard, Guarded p guard)
    {lead : List Char} (hlead : p.FitsLead lead) {cs x y : List Char}
    (hcs : cs = x ++ (lead ++ s) ++ y) :
    ∃ pass ∈ passes (earlier ++ [p]) cs, ∃ x y, pass.2 = x ++ (lead ++ s) ++ y ∧
      ∃ k ∈ pass.1.taken pass.2, s <:+: k.secret ∨ k.EndsIn x.length lead := by
  induction earlier generalizing cs x y with
  | nil =>
    obtain ⟨guard, hp⟩ := hp
    have hscan := p.scan mark.toList cs
    obtain ⟨k, hk, htouch⟩ := hscan.exists_touching hp hcs hlead hs hlong
    exact ⟨(p, cs), List.mem_cons_self, x, y, hcs, k, hk, hscan.infix_or_endsIn hp hk hcs hs htouch⟩
  | cons q earlier ih =>
    obtain ⟨guard, hq⟩ := hearlier q List.mem_cons_self
    have hscan := q.scan mark.toList cs
    by_cases htouched : ∃ k ∈ q.taken cs, k.Touches x.length (lead ++ s).length
    · obtain ⟨k, hk, htouch⟩ := htouched
      exact ⟨(q, cs), List.mem_cons_self, x, y, hcs, k, hk,
        hscan.infix_or_endsIn hq hk hcs hs htouch⟩
    · -- Neither the lead nor the word is touched, and the next pattern finds both.
      have hfree : ∀ k ∈ q.taken cs, ¬ k.Touches x.length (lead ++ s).length :=
        fun k hk htouch => htouched ⟨k, hk, htouch⟩
      obtain ⟨x', y', hnext⟩ := hscan.keeps hcs hfree
      obtain ⟨pass, hpass, hfound⟩ := ih (fun q hq => hearlier q (List.mem_cons_of_mem _ hq)) hnext
      exact ⟨pass, List.mem_cons_of_mem _ hpass, hfound⟩

/-- **A long word behind a lead survives** only if a pattern, up to the one that the lead fits,
takes a part of the lead. -/
theorem exists_endsIn_of_infix {earlier later : List Pattern} {p : Pattern}
    (hp : patterns = earlier ++ p :: later) {lead : List Char} (hlead : p.FitsLead lead)
    {cs x y : List Char} (hcs : cs = x ++ (lead ++ s) ++ y) (honce : occurrences s cs = 1)
    (hsurvives : s <:+: redactChars mark.toList cs) :
    ∃ pass ∈ passes (earlier ++ [p]) cs, ∃ x y, pass.2 = x ++ (lead ++ s) ++ y ∧
      ∃ k ∈ pass.1.taken pass.2, k.EndsIn x.length lead := by
  have hguarded : ∀ q ∈ patterns, ∃ guard, Guarded q guard := fun q hq => exists_guarded hq
  have hearlier : ∀ q ∈ earlier, ∃ guard, Guarded q guard := fun q hq =>
    hguarded q (hp ▸ List.mem_append_left _ hq)
  have hhere : ∃ guard, Guarded p guard :=
    hguarded p (hp ▸ List.mem_append_right _ List.mem_cons_self)
  obtain ⟨pass, hpass, x, y, htext, k, hk, hcases⟩ :=
    exists_pass_of_fitsLead hs hlong hearlier hhere hlead hcs
  have hmem : k ∈ takenBy patterns cs := by
    refine List.mem_flatMap.mpr ⟨pass, ?_, hk⟩
    rw [hp, List.append_cons]
    exact mem_passes_append hpass
  have hnot := (infix_redactChars_iff hs hlong honce).mp hsurvives k hmem
  exact ⟨pass, hpass, x, y, htext, k, hk, hcases.resolve_left hnot⟩

end Word

/-! ## Parameters -/

/-- What ends the secrets of the first two patterns, of either or of one. -/
def separates (c : Char) : Bool := Text.isBlank c || oneOf ['/', '&'] c

theorem separates_cases {c : Char} (h : separates c = true) :
    Text.isBlank c = true ∨ c = '/' ∨ c = '&' := by
  simpa [separates, oneOf] using h

theorem excludes_separates_word {s : String} (hs : s.toList.any separates = false) :
    Excludes separates (word s) := by
  refine excludes_word (fun c hc => ?_) hs
  rcases separates_cases hc with hc | rfl | rfl
  · exact foldCase_of_isBlank hc
  · decide
  · decide

theorem excludes_separates_joint {pieces : List Piece} (h : Excludes separates pieces) :
    Excludes separates (joint :: pieces) := by
  refine .cons (fun c hc => ?_) h
  have hunder : c ≠ '_' := by
    rintro rfl
    cases hc
  have hhyphen : c ≠ '-' := by
    rintro rfl
    cases hc
  simp [joint, Piece.accepts, oneOf, hunder, hhyphen]

/-- What a lead of a parameter has behind its first character belongs to secrets of the first two
patterns. -/
theorem secret_of_mem_tail {q : Pattern} (hq : q ∈ [gatewayKey, parameter]) {lead : List Char}
    (hlead : parameter.FitsLead lead) : ∀ c ∈ lead.tail, q.secret c = true := by
  obtain ⟨pieces, hmem, hfits⟩ := hlead
  obtain ⟨name, hname, rfl⟩ := List.mem_map.mp hmem
  have hkey : Excludes separates (word "key") := excludes_separates_word rfl
  have hexcludes : Excludes separates (name ++ word "=") := by
    refine .append ?_ (excludes_separates_word rfl)
    simp only [List.mem_cons, List.not_mem_nil, or_false] at hname
    rcases hname with rfl | rfl | rfl
    · exact (excludes_separates_word rfl).append (excludes_separates_joint hkey)
    · exact hkey
    · exact excludes_separates_word rfl
  cases hfits with
  | cons hpiece hrest =>
    cases hpiece with
    | one =>
      intro c hc
      obtain ⟨hblank, hsign⟩ := Bool.or_eq_false_iff.mp (hexcludes _ hrest c hc)
      have hne : c ≠ '/' ∧ c ≠ '&' := by simpa [oneOf] using hsign
      simp only [List.mem_cons, List.not_mem_nil, or_false] at hq
      rcases hq with rfl | rfl
      · simp [gatewayKey, hblank, hne.1]
      · simp [parameter, hblank, hne.2]

/-- **No part of a lead of a parameter is taken alone** by the first two patterns. -/
theorem not_endsIn_parameter {q : Pattern} (hq : q ∈ [gatewayKey, parameter]) {lead s : List Char}
    (hlead : parameter.FitsLead lead) (hs : ∀ c ∈ s, q.secret c = true) (hne : s ≠ [])
    {cs x y : List Char} (hcs : cs = x ++ (lead ++ s) ++ y) {k : Taken} (hk : k ∈ q.taken cs) :
    ¬ k.EndsIn x.length lead := by
  rintro ⟨hstop, hend⟩
  obtain ⟨before, lead', after, htext, hstart, -, -, hafter⟩ := (q.scan [] cs).exists_of_mem hk
  have hlength : k.stop = (before ++ lead' ++ k.secret).length := by
    rw [Taken.stop, hstart, List.length_append, List.length_append]
  have htail := secret_of_mem_tail hq hlead
  cases lead with
  | nil =>
    rw [List.length_nil] at hend
    omega
  | cons d lead =>
    -- What follows the secret stands behind the first character of the lead.
    have hfirst : (x ++ [d]) ++ (lead ++ s ++ y) =
        (before ++ lead' ++ k.secret) ++ [] ++ after := by
      rw [List.append_nil, ← htext, hcs]
      simp
    obtain ⟨mid, hmid, hrest⟩ := exists_rest_of_length_le hfirst (by
      rw [← hlength, List.length_append, List.length_singleton]
      omega)
    rw [List.append_nil] at hrest
    obtain ⟨back, rfl, rfl⟩ := exists_rest_of_length_le hrest.symm (by
      rw [hlength, hmid, List.length_append, List.length_append, List.length_singleton,
        List.length_cons] at hend
      omega)
    obtain ⟨c, cs', hback⟩ := List.exists_cons_of_ne_nil (l := back ++ s) (by simp [hne])
    have hother : q.secret c = false := hafter c (by rw [hback]; rfl)
    have hmem : c ∈ back ++ s := by rw [hback]; exact List.mem_cons_self
    rcases List.mem_append.mp hmem with hc | hc
    · rw [htail c (List.mem_append_right _ hc)] at hother
      cases hother
    · rw [hs c hc] at hother
      cases hother

/-- **A key among parameters does not survive.** -/
theorem not_infix_of_parameter {lead s : List Char} (hlead : parameter.FitsLead lead)
    (hs : ∀ c ∈ s, c.isAlphanum = true) (hlong : 8 < s.length) {cs x y : List Char}
    (hcs : cs = x ++ (lead ++ s) ++ y) (honce : occurrences s cs = 1) :
    ¬ s <:+: redactChars mark.toList cs := by
  intro hsurvives
  have hp : patterns = [gatewayKey] ++ parameter :: [setting, credentials] := rfl
  obtain ⟨pass, hpass, x, y, htext, k, hk, hpart⟩ :=
    exists_endsIn_of_infix hs hlong hp hlead hcs honce hsurvives
  have hfirst : pass.1 ∈ [gatewayKey, parameter] := fst_mem_of_mem_passes hpass
  obtain ⟨guard, hguard⟩ : ∃ guard, Guarded pass.1 guard :=
    exists_guarded (List.mem_append_left [setting, credentials] hfirst)
  have hne : s ≠ [] := List.ne_nil_of_length_pos (by omega)
  exact not_endsIn_parameter hfirst hlead (fun c hc => hguard.secret c (hs c hc)) hne htext hk hpart

/-! ## Secrets that are found -/

/-- **When a secret survives.** A secret of letters and digits that is longer than a mark, that
occurs once in a text and that a pattern finds there, survives the redaction of the text exactly if
no pattern takes it. It survives only if a pattern, up to that one, takes a part of its lead for a
secret; and a key among parameters never survives. -/
theorem survival_of_found {text : String} {p : Pattern} {earlier later : List Pattern}
    {before lead secret after : List Char} (hp : patterns = earlier ++ p :: later)
    (htext : text.toList = before ++ (lead ++ secret ++ after))
    (hfound : p.find? (lead ++ secret ++ after) = some ⟨lead, secret, after⟩)
    (hs : ∀ c ∈ secret, c.isAlphanum = true) (hlong : 8 < secret.length)
    (honce : occurrences secret text.toList = 1) :
    (secret <:+: (redact text).toList ↔
        ∀ k ∈ takenBy patterns text.toList, ¬ secret <:+: k.secret) ∧
      (secret <:+: (redact text).toList →
        ∃ pass ∈ passes (earlier ++ [p]) text.toList, ∃ x y, pass.2 = x ++ (lead ++ secret) ++ y ∧
          ∃ k ∈ pass.1.taken pass.2, k.EndsIn x.length lead) ∧
      (p = parameter → ¬ secret <:+: (redact text).toList) := by
  have hredact : (redact text).toList = redactChars mark.toList text.toList :=
    String.toList_ofList
  have hlead := (Pattern.find?_eq_some hfound).1
  have hcs : text.toList = before ++ (lead ++ secret) ++ after := by
    rw [htext]
    simp
  rw [hredact]
  refine ⟨infix_redactChars_iff hs hlong honce,
    exists_endsIn_of_infix hs hlong hp hlead hcs honce, ?_⟩
  rintro rfl
  exact not_infix_of_parameter hlead hs hlong hcs honce

/-- The scheme of authorization behind the name of a setting is taken for the value of the setting,
so that the credentials survive. -/
theorem survival_of_token_bearer :
    credentials.find? ("Bearer ".toList ++ "abcdef123456".toList ++ []) =
        some ⟨"Bearer ".toList, "abcdef123456".toList, []⟩ ∧
      occurrences "abcdef123456".toList "token: Bearer abcdef123456".toList = 1 ∧
      redact "token: Bearer abcdef123456" = "token: [REDACTED] abcdef123456" ∧
      ∃ pass ∈ passes patterns "token: Bearer abcdef123456".toList, ∃ x y,
        pass.2 = x ++ ("Bearer ".toList ++ "abcdef123456".toList) ++ y ∧
          ∃ k ∈ pass.1.taken pass.2, k.EndsIn x.length "Bearer ".toList := by
  have hfound : credentials.find? ("Bearer ".toList ++ "abcdef123456".toList ++ []) =
      some ⟨"Bearer ".toList, "abcdef123456".toList, []⟩ := by decide +kernel
  have honce : occurrences "abcdef123456".toList "token: Bearer abcdef123456".toList = 1 := by
    decide +kernel
  have hredact : redact "token: Bearer abcdef123456" = "token: [REDACTED] abcdef123456" := by
    decide +kernel
  have hp : patterns = [gatewayKey, parameter, setting] ++ credentials :: [] := rfl
  have htext : "token: Bearer abcdef123456".toList =
      "token: ".toList ++ ("Bearer ".toList ++ "abcdef123456".toList ++ []) := by decide +kernel
  have hsurvives : "abcdef123456".toList <:+: (redact "token: Bearer abcdef123456").toList := by
    rw [hredact]
    decide +kernel
  have hs : ∀ c ∈ "abcdef123456".toList, c.isAlphanum = true := List.all_eq_true.mp rfl
  have hlong : 8 < "abcdef123456".toList.length := by decide
  obtain ⟨-, hpart, -⟩ := survival_of_found hp htext hfound hs hlong honce
  exact ⟨hfound, honce, hredact, hpart hsurvives⟩

end HatTree.Log
