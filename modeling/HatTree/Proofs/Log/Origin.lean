import HatTree.Proofs.Log.Scan

/-!
# Where a part of a scanned text comes from

A lead holds no bracket and does not end with a letter or a digit, so that no lead starts in a mark
or goes across one. A lead in the text that a scan leaves therefore stands in the text that was
scanned, where nothing was found at its start, or it ends in front of a mark. A mark that a scan
meets stays.

## Main definitions

* `OffMarks`: texts that keep off marks, such as leads
* `Pattern.Origin`: where a part of a scanned text comes from

## Main results

* `OffMarks.append_ne`: what keeps off marks does not start in a mark
* `Pattern.Scan.exists_origin`: each part of a scanned text has an origin
* `Pattern.Scan.exists_of_mark`: a mark that a scan meets stays
-/

namespace HatTree.Log.Secret

open HatTree.Text

/-! ## Marks -/

/-- **Texts that keep off marks**: they hold no bracket, and do not end with a letter or a digit. -/
structure OffMarks (l : List Char) : Prop where
  bracket : ∀ c ∈ l, oneOf ['[', ']'] c = false
  ends : ∃ front c, l = front ++ [c] ∧ c.isAlphanum = false

theorem mem_mark_cases {c : Char} (h : c ∈ mark.toList) :
    oneOf ['[', ']'] c = true ∨ c.isAlphanum = true := by
  have hall : mark.toList.all fun c => oneOf ['[', ']'] c || c.isAlphanum := rfl
  exact Bool.or_eq_true_iff.mp (List.all_eq_true.mp hall c h)

namespace OffMarks

variable {l : List Char}

theorem open_not_mem (h : OffMarks l) : '[' ∉ l := fun hmem => by cases h.bracket _ hmem

theorem close_not_mem (h : OffMarks l) : ']' ∉ l := fun hmem => by cases h.bracket _ hmem

theorem ne_nil (h : OffMarks l) : l ≠ [] := by
  obtain ⟨front, c, rfl, -⟩ := h.ends
  simp

/-- **What keeps off marks does not start in a mark.** -/
theorem append_ne (h : OffMarks l) {m r z : List Char} (hm : m <:+ mark.toList) (hne : m ≠ []) :
    l ++ r ≠ m ++ z := by
  intro heq
  obtain ⟨m', rfl⟩ : ∃ m', m = m' ++ [']'] := by
    refine ⟨m.dropLast, ?_⟩
    have hlast : m.getLast hne = mark.toList.getLast (by decide) := hm.getLast hne
    rw [show ']' = mark.toList.getLast (by decide) from rfl, ← hlast, List.dropLast_concat_getLast]
  have hsplit : [] ++ l ++ r = m' ++ ']' :: z := by simpa using heq
  rcases eq_append_cons_cases h.close_not_mem hsplit with ⟨x', hx, -⟩ | ⟨y', -, rfl⟩
  · cases m' <;> cases hx
  · obtain ⟨front, c, rfl, hc⟩ := h.ends
    have hmem : c ∈ mark.toList := hm.subset (by simp)
    rcases mem_mark_cases hmem with hbracket | halphanum
    · rw [h.bracket c (by simp)] at hbracket
      cases hbracket
    · rw [hc] at halphanum
      cases halphanum

end OffMarks

/-- The longest run of a class at the front of a text: what follows it is not of the class. -/
theorem takeWhile_eq_iff {accepts : Char → Bool} {cs run : List Char} :
    cs.takeWhile accepts = run ↔ ∃ rest, cs = run ++ rest ∧ (∀ c ∈ run, accepts c = true) ∧
      ∀ c ∈ rest.head?, accepts c = false := by
  constructor
  · rintro rfl
    refine ⟨cs.dropWhile accepts, List.takeWhile_append_dropWhile.symm,
      List.all_eq_true.mp List.all_takeWhile, fun c hc => ?_⟩
    have hhead := List.head?_dropWhile_not accepts cs
    rw [Option.mem_def.mp hc] at hhead
    exact hhead
  · rintro ⟨rest, rfl, hrun, hrest⟩
    rw [List.takeWhile_append_of_pos hrun]
    cases rest with
    | nil => simp
    | cons c rest => rw [List.takeWhile_cons_of_neg (by simp [hrest c rfl]), List.append_nil]

/-! ## Where a part of a scanned text comes from -/

/-- **Where a part of a scanned text comes from**, with the character behind it. The part stands in
the text, and so does the character, which was skipped or is one of a lead, or the character is the
first of a mark. -/
inductive Pattern.Origin (q : Pattern) (cs u l : List Char) (c : Char) (y : List Char) : Prop
  | skipped {z : List Char} {taken : List Taken} (hcs : cs = u ++ l ++ c :: z)
      (hfind : q.find? (l ++ c :: z) = none)
      (hrest : q.Scan mark.toList (c :: z) (c :: y) taken) : Origin q cs u l c y
  | inLead {z lead : List Char} (hcs : cs = u ++ l ++ c :: z) (hlead : q.FitsLead lead)
      (hc : c ∈ lead) (hstart : q.find? (l ++ c :: z) = none ∨ l ++ [c] <:+: lead) :
      Origin q cs u l c y
  | atMark {lead secret rest out : List Char} {taken : List Taken}
      (hcs : cs = u ++ l ++ (secret ++ rest)) (hlead : q.FitsLead lead) (hend : lead <:+ u ++ l)
      (hne : secret ≠ []) (hsecret : ∀ c ∈ secret, q.secret c = true)
      (hafter : ∀ c ∈ rest.head?, q.secret c = false) (hy : c :: y = mark.toList ++ out)
      (hrest : q.Scan mark.toList rest out taken) : Origin q cs u l c y

section Origin

variable {q : Pattern} {cs out l u y z : List Char} {c : Char} {taken : List Taken}

theorem Pattern.Origin.append (h : q.Origin cs u l c y) (front : List Char) :
    q.Origin (front ++ cs) (front ++ u) l c y := by
  cases h with
  | skipped hcs hfind hrest => exact .skipped (by simp [hcs]) hfind hrest
  | inLead hcs hlead hc hstart => exact .inLead (by simp [hcs]) hlead hc hstart
  | atMark hcs hlead hend hne hsecret hafter hy hrest =>
    refine .atMark (by simp [hcs]) hlead ?_ hne hsecret hafter hy hrest
    rw [List.append_assoc]
    exact hend.trans (List.suffix_append _ _)

/-- What starts in a lead in front of a secret ends in it, or at the mark. -/
theorem origin_of_lead {lead secret rest x w : List Char}
    (h : q.find? (lead ++ secret ++ rest) = some ⟨lead, secret, rest⟩)
    (hrest : q.Scan mark.toList rest out taken) (hlead : lead = x ++ w)
    (hout : w ++ (mark.toList ++ out) = l ++ c :: y) (hl : '[' ∉ l) :
    q.Origin (lead ++ secret ++ rest) x l c y := by
  obtain ⟨hfits, hne, hsecret, hafter⟩ := Pattern.find?_eq_some h
  have hmark (hw : w = l) (hy : c :: y = mark.toList ++ out) :
      q.Origin (lead ++ secret ++ rest) x l c y := by
    rw [hw] at hlead
    exact .atMark (by rw [← hlead, List.append_assoc]) hfits (hlead ▸ List.suffix_rfl) hne hsecret
      hafter hy hrest
  rcases List.append_eq_append_iff.mp hout with ⟨more, rfl, hmore⟩ | ⟨more, rfl, hmore⟩
  · cases more with
    | nil => exact hmark (List.append_nil _).symm hmore.symm
    | cons d more =>
      have hopen : '[' = d := (List.cons.inj hmore).1
      exact absurd (hopen ▸ List.mem_append_right w List.mem_cons_self) hl
  · cases more with
    | nil => exact hmark (List.append_nil _) hmore
    | cons d more =>
      obtain ⟨rfl, -⟩ := List.cons.inj hmore
      have hinfix : l ++ [c] <:+: lead := ⟨x, more, by simp [hlead]⟩
      have hcs : lead ++ secret ++ rest = x ++ l ++ c :: (more ++ secret ++ rest) := by simp [hlead]
      exact .inLead hcs hfits (by simp [hlead]) (.inr hinfix)

/-- What starts a scanned text comes from its start. -/
theorem Pattern.Scan.origin_of_start (h : q.Scan mark.toList cs out taken)
    (hout : out = l ++ c :: y) (hl : '[' ∉ l) : q.Origin cs [] l c y := by
  induction h generalizing l with
  | nil => cases l <;> cases hout
  | @skip d cs out taken h hrest ih =>
    cases l with
    | nil =>
      cases hout
      exact .skipped rfl h (.skip h hrest)
    | cons e l =>
      obtain ⟨rfl, htail⟩ := List.cons.inj hout
      cases ih htail (List.not_mem_of_not_mem_cons hl) with
      | skipped hcs _ hrest =>
        refine .skipped (congrArg (d :: ·) hcs) ?_ hrest
        rw [hcs] at h
        exact h
      | inLead hcs hlead hc _ =>
        refine .inLead (congrArg (d :: ·) hcs) hlead hc (.inl ?_)
        rw [hcs] at h
        exact h
      | atMark hcs hlead hend hne hsecret hafter hy hrest =>
        exact .atMark (congrArg (d :: ·) hcs) hlead (hend.trans (List.suffix_cons _ _)) hne hsecret
          hafter hy hrest
  | @hit lead secret rest out taken h hrest ih =>
    exact origin_of_lead h hrest rfl (by simpa using hout) hl

/-- **Each part of a scanned text has an origin**, if it keeps off marks. -/
theorem Pattern.Scan.exists_origin (h : q.Scan mark.toList cs out taken) {x : List Char}
    (hout : out = x ++ l ++ c :: y) (hl : OffMarks l) : ∃ u, q.Origin cs u l c y := by
  induction h generalizing x with
  | nil => simp at hout
  | @skip d cs out taken h hrest ih =>
    cases x with
    | nil => exact ⟨[], (Scan.skip h hrest).origin_of_start hout hl.open_not_mem⟩
    | cons e x =>
      obtain ⟨rfl, htail⟩ := List.cons.inj hout
      obtain ⟨u, hu⟩ := ih htail
      exact ⟨d :: u, hu.append [d]⟩
  | @hit lead secret rest out taken h hrest ih =>
    have hbehind {x : List Char} (hout : out = x ++ l ++ c :: y) :
        ∃ u, q.Origin (lead ++ secret ++ rest) u l c y := by
      obtain ⟨u, hu⟩ := ih hout
      exact ⟨_, hu.append (lead ++ secret)⟩
    rw [List.append_assoc, List.append_assoc] at hout
    rcases List.append_eq_append_iff.mp hout with ⟨more, rfl, hmore⟩ | ⟨w, hlead, hw⟩
    · rcases List.append_eq_append_iff.mp hmore with ⟨x, rfl, hx⟩ | ⟨m, hm, hrest'⟩
      · exact hbehind (x := x) (by rw [hx, List.append_assoc])
      · -- The part cannot start in the mark, but right behind it.
        cases m with
        | nil => exact hbehind (x := []) hrest'.symm
        | cons d m => exact absurd hrest' (hl.append_ne ⟨more, hm.symm⟩ (List.cons_ne_nil _ _))
    · exact ⟨x, origin_of_lead h hrest hlead hw.symm hl.open_not_mem⟩

theorem Pattern.Scan.head?_eq (h : q.Scan mark.toList cs out taken)
    (hq : ∀ lead, q.FitsLead lead → OffMarks lead) : out.head? = cs.head? := by
  cases h with
  | nil => rfl
  | skip h hrest => rfl
  | @hit lead secret rest out taken h hrest =>
    obtain ⟨d, lead, rfl⟩ :=
      List.exists_cons_of_ne_nil (hq lead (Pattern.find?_eq_some h).1).ne_nil
    rfl

/-- **A mark that a scan meets stays**, and the scan goes on behind it. -/
theorem Pattern.Scan.exists_of_mark (h : q.Scan mark.toList (mark.toList ++ z) out taken)
    (hq : ∀ lead, q.FitsLead lead → OffMarks lead) :
    ∃ out' taken', out = mark.toList ++ out' ∧ q.Scan mark.toList z out' taken' := by
  have hrest : ∀ m, m <:+ mark.toList → ∀ out taken, q.Scan mark.toList (m ++ z) out taken →
      ∃ out' taken', out = m ++ out' ∧ q.Scan mark.toList z out' taken' := by
    intro m
    induction m with
    | nil => exact fun _ out taken h => ⟨out, taken, rfl, h⟩
    | cons d m ih =>
      intro hm out taken h
      generalize hcs : d :: m ++ z = cs at h
      cases h with
      | nil => cases hcs
      | skip h hrest =>
        cases hcs
        obtain ⟨out', taken', rfl, hout'⟩ := ih ((List.suffix_cons _ _).trans hm) _ _ hrest
        exact ⟨out', taken', rfl, hout'⟩
      | @hit lead secret rest out taken h hrest =>
        rw [List.append_assoc] at hcs
        have hlead := hq lead (Pattern.find?_eq_some h).1
        exact absurd hcs.symm (hlead.append_ne hm (List.cons_ne_nil _ _))
  exact hrest _ List.suffix_rfl _ _ h

end Origin

end HatTree.Log.Secret
