import HatTree.Proofs.Log.Origin

/-!
# Texts in which only marks are left to find

Behind each lead that fits in a redacted text stands a mark. A pattern leaves no other secret
behind: a lead that it does not put a mark behind would have been found. A later pattern does not
disturb this. It takes a mark as a whole or not at all, and what it puts in stands behind a lead of
its own. So a second redaction finds marks only, and puts marks in their place.

## Main definitions

* `Pattern.Settled`: a pattern finds nothing but marks in a text
* `Pattern.Tidy`, `Pattern.Respects`: what a pattern has to be for a text to be settled, and to stay
  so

## Main results

* `Pattern.Tidy.settled_replace`, `Pattern.Settled.replace`: a pattern settles a text, and a later
  pattern keeps it settled
* `Pattern.Settled.replace_eq_self`: in a settled text nothing is replaced
* `tidy_of_mem_patterns`, `pairwise_respects`: the patterns are such patterns
* `redact_settles`: a redacted text is settled, and a second redaction does not change it
-/

namespace HatTree.Log

namespace Secret

open HatTree.Text

/-- **A pattern is settled in a text** when a mark stands behind each lead, as far as the secret
goes. -/
def Pattern.Settled (p : Pattern) (cs : List Char) : Prop :=
  ∀ (before lead : List Char) (c : Char) (after : List Char), cs = before ++ lead ++ c :: after →
    p.FitsLead lead → p.secret c = true → (c :: after).takeWhile p.secret = mark.toList

/-! ## Settling a text -/

/-- **What a pattern has to be for a text to be settled**: its leads keep off marks, no lead with a
character of the secret behind it is a part of a lead, and a mark is taken as a whole. -/
structure Pattern.Tidy (p : Pattern) : Prop where
  offMarks : ∀ lead, p.FitsLead lead → OffMarks lead
  apart : ∀ lead lead' c, p.FitsLead lead → p.FitsLead lead' → p.secret c = true →
    ¬ lead' ++ [c] <:+: lead
  whole : p.secret '[' = true → ∀ c ∈ mark.toList, p.secret c = true

/-- **A pattern respects an earlier one**: its secrets are part of secrets of the earlier one, or no
lead of it ends where a lead of the earlier one does. -/
def Pattern.Respects (q p : Pattern) : Prop :=
  (∀ c, q.secret c = true → p.secret c = true) ∨
    ∃ sign, (∀ lead, p.FitsLead lead → lead.getLast? = some sign) ∧
      ∀ lead, q.FitsLead lead → sign ∉ lead

section Settled

variable {p q : Pattern} {cs out z : List Char} {taken : List Taken}

/-- **A pattern settles a text.** -/
theorem Pattern.Tidy.settled_replace (hp : p.Tidy) (cs : List Char) :
    p.Settled (p.replace mark.toList cs) := by
  intro before lead c after hout hlead hc
  obtain ⟨u, hu⟩ := (p.scan mark.toList cs).exists_origin hout (hp.offMarks lead hlead)
  have hfound {z : List Char} : p.find? (lead ++ c :: z) ≠ none :=
    Option.isSome_iff_ne_none.mp (Pattern.isSome_find? hlead hc)
  cases hu with
  | skipped _ hfind _ => exact absurd hfind hfound
  | inLead _ hlead' _ hstart =>
    rcases hstart with hfind | hinfix
    · exact absurd hfind hfound
    · exact absurd hinfix (hp.apart _ _ _ hlead' hlead hc)
  | atMark _ _ _ _ _ hafter hy hrest =>
    have hopen : c = '[' := (List.cons.inj hy).1
    rw [hopen] at hc
    rw [hy, takeWhile_eq_iff]
    exact ⟨_, rfl, hp.whole hc, by rwa [hrest.head?_eq hp.offMarks]⟩

/-- **A later pattern keeps a text settled.** -/
theorem Pattern.Settled.replace (h : p.Settled cs) (hp : p.Tidy) (hq : q.Tidy)
    (hrespects : q.Respects p) : p.Settled (q.replace mark.toList cs) := by
  intro before lead c after hout hlead hc
  have hoff := hp.offMarks lead hlead
  obtain ⟨u, hu⟩ := (q.scan mark.toList cs).exists_origin hout hoff
  cases hu with
  | skipped hcs _ hrest =>
    -- The mark behind the lead stays as a whole.
    obtain ⟨z, hz, hmark, hhead⟩ := takeWhile_eq_iff.mp (h _ _ _ _ hcs hlead hc)
    rw [hz] at hrest
    obtain ⟨out, taken, hout', hrest'⟩ := hrest.exists_of_mark hq.offMarks
    rw [hout', takeWhile_eq_iff]
    exact ⟨_, rfl, hmark, by rwa [hrest'.head?_eq hq.offMarks]⟩
  | inLead hcs hlead' hmem _ =>
    obtain ⟨z, hz, -, -⟩ := takeWhile_eq_iff.mp (h _ _ _ _ hcs hlead hc)
    have hopen : c = '[' := (List.cons.inj hz).1
    rw [hopen] at hmem
    exact absurd hmem (hq.offMarks _ hlead').open_not_mem
  | @atMark lead' secret rest out taken hcs hlead' hend hne hsecret hafter hy hrest =>
    rcases hrespects with hsubset | ⟨sign, hlast, hnot⟩
    · -- The secret that was taken is the mark behind the lead.
      obtain ⟨d, more, hcons⟩ := List.exists_cons_of_ne_nil hne
      have hd := hsecret d (hcons ▸ List.mem_cons_self)
      have hrun := h u lead d (more ++ rest) (by rw [hcs, hcons]; rfl) hlead (hsubset d hd)
      rw [← List.cons_append, ← hcons] at hrun
      obtain ⟨z, hz, hmark, hhead⟩ := takeWhile_eq_iff.mp hrun
      have hopen : d = '[' := (List.cons.inj (hcons ▸ hz)).1
      have hwhole : secret = mark.toList := by
        rw [← takeWhile_eq_iff.mpr ⟨rest, rfl, hsecret, hafter⟩, takeWhile_eq_iff]
        refine ⟨z, hz, hq.whole (hopen ▸ hd), fun e he => ?_⟩
        cases hother : q.secret e with
        | false => rfl
        | true => rw [← hhead e he, hsubset e hother]
      rw [hwhole, List.append_cancel_left_eq] at hz
      rw [hy, takeWhile_eq_iff]
      exact ⟨out, rfl, hmark, by rwa [hrest.head?_eq hq.offMarks, hz]⟩
    · obtain ⟨front, hfront⟩ := hend
      have hoff' := hq.offMarks _ hlead'
      have hsign : lead'.getLast? = some sign := by
        rw [← hlast lead hlead, ← List.getLast?_append_of_ne_nil u hoff.ne_nil, ← hfront,
          List.getLast?_append_of_ne_nil front hoff'.ne_nil]
      exact absurd (List.mem_of_getLast? hsign) (hnot _ hlead')

/-- **What a settled pattern finds is a mark.** -/
theorem Pattern.Settled.secret_eq {before : List Char} (h : p.Settled (before ++ cs))
    {found : Found} (hfound : p.find? cs = some found) : found.secret = mark.toList := by
  obtain ⟨hlead, hne, hsecret, hafter⟩ := Pattern.find?_eq_some hfound
  have hcs := Pattern.find?_spec hfound
  obtain ⟨c, more, hcons⟩ := List.exists_cons_of_ne_nil hne
  have hrun := h before found.lead c (more ++ found.rest) (by rw [← hcs, hcons]; simp) hlead
    (hsecret c (hcons ▸ List.mem_cons_self))
  rw [← List.cons_append, ← hcons] at hrun
  rw [← hrun]
  exact (takeWhile_eq_iff.mpr ⟨found.rest, rfl, hsecret, hafter⟩).symm

theorem Pattern.Settled.of_append {front : List Char} (h : p.Settled (front ++ cs)) :
    p.Settled cs := by
  rintro before lead c after rfl
  exact h (front ++ before) lead c after (by simp)

/-- **In a settled text nothing is replaced**: each mark gives way to a mark. -/
theorem Pattern.Settled.replace_eq_self (h : p.Settled cs) : p.replace mark.toList cs = cs := by
  have hscan := p.scan mark.toList cs
  generalize p.replace mark.toList cs = out, p.taken cs = taken at hscan
  induction hscan with
  | nil => rfl
  | @skip c cs _ _ _ _ ih =>
    have hrest : p.Settled ([c] ++ cs) := h
    rw [ih hrest.of_append]
  | @hit lead secret rest out taken hfind hrest ih =>
    have hwhole : p.Settled ([] ++ (lead ++ secret ++ rest)) := h
    have hmark : secret = mark.toList := hwhole.secret_eq hfind
    rw [ih h.of_append, hmark]

/-- Later patterns keep a text settled. -/
theorem Pattern.Settled.foldl (hp : p.Tidy) {ps : List Pattern} (hps : ∀ q ∈ ps, q.Tidy)
    (hrespects : ∀ q ∈ ps, q.Respects p) (h : p.Settled cs) :
    p.Settled (ps.foldl (fun cs q => q.replace mark.toList cs) cs) := by
  induction ps generalizing cs with
  | nil => exact h
  | cons q ps ih =>
    obtain ⟨hq, hps⟩ := List.forall_mem_cons.mp hps
    obtain ⟨hqp, hrespects⟩ := List.forall_mem_cons.mp hrespects
    exact ih hps hrespects (h.replace hp hq hqp)

/-- **Patterns settle a text**, one after another, if each respects those before it. -/
theorem settled_foldl {ps : List Pattern} (hps : ∀ q ∈ ps, q.Tidy)
    (hpairwise : ps.Pairwise fun p q => q.Respects p) (cs : List Char) :
    ∀ p ∈ ps, p.Settled (ps.foldl (fun cs q => q.replace mark.toList cs) cs) := by
  induction ps generalizing cs with
  | nil => exact fun p hp => (by cases hp)
  | cons q ps ih =>
    obtain ⟨hq, hrest⟩ := List.forall_mem_cons.mp hps
    obtain ⟨hqrest, hpairwise⟩ := List.pairwise_cons.mp hpairwise
    intro p hp
    rw [List.foldl_cons]
    rcases List.mem_cons.mp hp with rfl | hp
    · exact (hq.settled_replace cs).foldl hq hrest hqrest
    · exact ih hrest hpairwise (q.replace mark.toList cs) p hp

theorem foldl_of_settled {ps : List Pattern} (h : ∀ p ∈ ps, p.Settled cs) :
    ps.foldl (fun cs p => p.replace mark.toList cs) cs = cs := by
  induction ps with
  | nil => rfl
  | cons p ps ih =>
    obtain ⟨hp, hps⟩ := List.forall_mem_cons.mp h
    rw [List.foldl_cons, hp.replace_eq_self, ih hps]

end Settled

/-! ## The patterns -/

/-- No character of the secret stands behind the part that guards a lead, as it would if a lead went
on behind another one. -/
theorem Parted.apart {p : Pattern} {guard : Char → Bool} (h : Parted p guard)
    {lead lead' : List Char} {c : Char} (hlead : p.FitsLead lead) (hlead' : p.FitsLead lead')
    (hc : p.secret c = true) :
    ¬ lead' ++ [c] <:+: lead := by
  rintro ⟨x, w, heq⟩
  obtain ⟨front, d, back, rfl, hfront, -, -, hback⟩ := h.exists_of_fitsLead hlead
  obtain ⟨front', d', back', rfl, -, hd', -, -⟩ := h.exists_of_fitsLead hlead'
  have hsplit : (x ++ front') ++ d' :: (back' ++ c :: w) = front ++ d :: back := by
    rw [← heq]
    simp
  have hsuffix := suffix_of_guard hsplit hfront hd'
  rw [hback c (hsuffix.subset (by simp))] at hc
  cases hc

theorem apart_gatewayKey {lead lead' : List Char} {c : Char} (hlead : gatewayKey.FitsLead lead)
    (hlead' : gatewayKey.FitsLead lead') : ¬ lead' ++ [c] <:+: lead := by
  rintro ⟨x, w, heq⟩
  obtain ⟨front, back, rfl, hfront, hback⟩ := exists_of_fitsLead_gatewayKey hlead
  obtain ⟨front', back', rfl, -, hback'⟩ := exists_of_fitsLead_gatewayKey hlead'
  have hsplit : (x ++ front') ++ '/' :: (back' ++ c :: w) = front ++ '/' :: back := by
    rw [← heq]
    simp
  have hsuffix := suffix_of_guard hsplit hfront rfl
  -- What stands behind the first slash has the same length in all leads.
  have hlength := congrArg List.length (hback.trans hback'.symm)
  have hle := hsuffix.length_le
  rw [List.length_map, List.length_map] at hlength
  rw [List.length_append, List.length_cons] at hle
  omega

/-- **The patterns are tidy.** -/
theorem tidy_of_mem_patterns {p : Pattern} (h : p ∈ patterns) : p.Tidy := by
  have hbracket : patterns.all fun p => p.leads.all fun pieces => pieces.all fun piece =>
      ['[', ']'].all fun c => !piece.accepts c := rfl
  have hwhole : patterns.all fun p => !p.secret '[' || mark.toList.all p.secret := rfl
  obtain ⟨guard, hguard⟩ := exists_guarded h
  refine ⟨fun lead hlead => ?_, fun lead lead' c hlead hlead' hc => ?_, fun hopen => ?_⟩
  · exact ⟨hlead.excludes (List.all_eq_true.mp hbracket p h), hguard.ends lead hlead⟩
  · simp only [patterns, List.mem_cons, List.not_mem_nil, or_false] at h
    rcases h with rfl | rfl | rfl | rfl
    · exact apart_gatewayKey hlead hlead'
    · exact parted_parameter.apart hlead hlead' hc
    · exact parted_setting.apart hlead hlead' hc
    · exact parted_credentials.apart hlead hlead' hc
  · have hall := List.all_eq_true.mp hwhole p h
    rw [hopen] at hall
    exact List.all_eq_true.mp hall

/-- A pattern whose leads have no slash respects the addresses of gateways. -/
theorem respects_gatewayKey {q : Pattern}
    (h : q.leads.all fun pieces => pieces.all fun piece => ['/'].all fun c => !piece.accepts c) :
    q.Respects gatewayKey := by
  refine .inr ⟨'/', fun lead hlead => ?_, fun lead hlead hmem => ?_⟩
  · obtain ⟨front, rfl⟩ := exists_concat_of_fitsLead_gatewayKey hlead
    exact List.getLast?_concat
  · exact hlead.not_mem h rfl hmem

theorem secret_setting_iff {c : Char} : setting.secret c = true ↔
    (c ≠ '"' ∧ c ≠ '\'' ∧ c ≠ '&') ∧ isBlank c = false := by
  simp [setting, oneOf]

theorem secret_setting_of_credentials {c : Char} (h : credentials.secret c = true) :
    setting.secret c = true := by
  have hother (d : Char) (hd : credentials.secret d = false) : c ≠ d := by
    rintro rfl
    rw [h] at hd
    cases hd
  refine secret_setting_iff.mpr ⟨⟨hother _ rfl, hother _ rfl, hother _ rfl⟩, ?_⟩
  cases hblank : isBlank c with
  | false => rfl
  | true => rw [← h, secret_credentials_of_isBlank hblank]

theorem secret_parameter_of_setting {c : Char} (h : setting.secret c = true) :
    parameter.secret c = true := by
  obtain ⟨⟨-, -, hand⟩, hblank⟩ := secret_setting_iff.mp h
  simp [parameter, hand, hblank]

/-- **Each pattern respects those before it.** -/
theorem pairwise_respects : patterns.Pairwise fun p q => q.Respects p := by
  have hsetting : setting.Respects parameter := .inl fun _ => secret_parameter_of_setting
  have hcredentials : credentials.Respects setting := .inl fun _ => secret_setting_of_credentials
  have hparameter : credentials.Respects parameter :=
    .inl fun _ h => secret_parameter_of_setting (secret_setting_of_credentials h)
  simp only [patterns, List.pairwise_cons, List.forall_mem_cons, List.not_mem_nil, false_imp_iff,
    implies_true, List.Pairwise.nil, and_true]
  exact ⟨⟨respects_gatewayKey rfl, respects_gatewayKey rfl, respects_gatewayKey rfl⟩,
    ⟨hsetting, hparameter⟩, hcredentials⟩

end Secret

open Secret

/-- **A redacted text is settled.** Whatever the first three patterns find in it, at any place, is a
mark, and no credentials are found. So a second redaction does not change it. -/
theorem redact_settles (text : String) :
    (∀ p ∈ [gatewayKey, parameter, setting], ∀ before after found,
        (redact text).toList = before ++ after → p.find? after = some found →
          found.secret = mark.toList) ∧
      (∀ before after, (redact text).toList = before ++ after → credentials.find? after = none) ∧
      redact (redact text) = redact text := by
  have hredact : (redact text).toList = redactChars mark.toList text.toList :=
    String.toList_ofList
  have hsettled : ∀ p ∈ patterns, p.Settled (redact text).toList := by
    rw [hredact]
    exact settled_foldl (fun _ => tidy_of_mem_patterns) pairwise_respects text.toList
  refine ⟨fun p hp before after found htext hfound => ?_, fun before after htext => ?_, ?_⟩
  · have hhere := hsettled p (List.mem_append_left [credentials] hp)
    rw [htext] at hhere
    exact hhere.secret_eq hfound
  · have hcredentials := hsettled credentials (by simp [patterns])
    rw [htext] at hcredentials
    cases hfind : credentials.find? after with
    | none => rfl
    | some found =>
      -- The first character of a mark is no character of credentials.
      have hopen := (Pattern.find?_eq_some hfind).2.2.1 '['
      rw [hcredentials.secret_eq hfind] at hopen
      have hsecret : credentials.secret '[' = true := hopen (by decide)
      cases hsecret
  · rw [redact, redactChars, foldl_of_settled hsettled, String.ofList_toList]

end HatTree.Log
