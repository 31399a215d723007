import HatTree.Proofs.Log.Guard
import HatTree.Proofs.Log.Occurrences
import Mathlib.Algebra.GroupWithZero.Nat

/-!
# What a pattern takes out of a text

A pattern scans a text from left to right. Where it finds a secret, it takes it and goes on behind
it, otherwise it skips one character. What it takes is set off by the lead in front, which does not
end with a letter or a digit, and by what follows, which is no character of the secret. So a word of
letters and digits is taken as a whole or not touched at all, and what is neither taken nor touched
stays.

## Main definitions

* `Taken`, `Pattern.taken`: the secrets that a pattern takes out of a text, each with its start
* `Taken.Touches`, `Taken.EndsIn`: secrets that touch a part of the text, or reach into a lead
* `Pattern.Scan`: the scan of a text

## Main results

* `Pattern.scan`: replacing is a scan
* `Scan.occurrences_eq`: the occurrences of a word are those left and those taken
* `Scan.keeps`: a part of the text that is not touched stays
* `Scan.infix_or_endsIn`: what touches a word of letters and digits, or the lead in front of it
* `Scan.exists_touching`: where a lead fits in front of a long word, the pattern touches either
-/

namespace HatTree.Log.Secret

/-! ## The secrets that are taken -/

/-- A secret taken out of a text, with the place at which it starts. -/
structure Taken where
  start : Nat
  secret : List Char
  deriving DecidableEq, Repr

namespace Taken

/-- The place behind a secret. -/
def stop (k : Taken) : Nat := k.start + k.secret.length

/-- A secret in a text that starts further to the left. -/
def shift (n : Nat) (k : Taken) : Taken := ⟨n + k.start, k.secret⟩

@[simp] theorem start_shift (n : Nat) (k : Taken) : (k.shift n).start = n + k.start := rfl

@[simp] theorem secret_shift (n : Nat) (k : Taken) : (k.shift n).secret = k.secret := rfl

@[simp] theorem stop_shift (n : Nat) (k : Taken) : (k.shift n).stop = n + k.stop :=
  Nat.add_assoc _ _ _

theorem shift_zero (k : Taken) : k.shift 0 = k := by
  rw [shift, Nat.zero_add]

theorem shift_shift (n m : Nat) (k : Taken) : (k.shift n).shift m = k.shift (m + n) := by
  rw [shift, shift, shift, Nat.add_assoc]

/-- A secret that touches the part of a text with a given start and length. -/
def Touches (k : Taken) (start length : Nat) : Prop := start < k.stop ∧ k.start < start + length

theorem touches_shift {n start length : Nat} {k : Taken} :
    (k.shift n).Touches (n + start) length ↔ k.Touches start length := by
  rw [Touches, Touches, stop_shift, start_shift]
  omega

/-- A secret that reaches into a lead, but not beyond it. -/
def EndsIn (k : Taken) (start : Nat) (lead : List Char) : Prop :=
  start < k.stop ∧ k.stop ≤ start + lead.length

end Taken

/-- The secrets taken out of a text without its first `skip` characters. -/
def Pattern.takenFrom (p : Pattern) : Nat → List Char → List Taken
  | _, [] => []
  | skip + 1, _ :: cs => (p.takenFrom skip cs).map (.shift 1)
  | 0, c :: cs =>
    match p.find? (c :: cs) with
    | some found =>
      ⟨found.lead.length, found.secret⟩ ::
        (p.takenFrom (found.lead.length + found.secret.length - 1) cs).map (.shift 1)
    | none => (p.takenFrom 0 cs).map (.shift 1)

/-- **The secrets that a pattern takes out of a text**, from left to right. -/
def Pattern.taken (p : Pattern) (cs : List Char) : List Taken := p.takenFrom 0 cs

variable {p : Pattern}

theorem Pattern.takenFrom_eq_drop (p : Pattern) (skip : Nat) (cs : List Char) :
    p.takenFrom skip cs = (p.taken (cs.drop skip)).map (.shift skip) := by
  induction skip generalizing cs with
  | zero =>
    rw [List.map_congr_left fun k _ => k.shift_zero, List.map_id', List.drop_zero]
    rfl
  | succ skip ih =>
    cases cs with
    | nil => rfl
    | cons c cs =>
      rw [Pattern.takenFrom, ih, List.map_map, List.drop_succ_cons, Nat.add_comm skip]
      exact List.map_congr_left fun k _ => k.shift_shift skip 1

theorem Pattern.taken_none {c : Char} {cs : List Char} (h : p.find? (c :: cs) = none) :
    p.taken (c :: cs) = (p.taken cs).map (.shift 1) := by
  rw [Pattern.taken, Pattern.takenFrom, h]
  rfl

theorem Pattern.taken_found {lead secret rest : List Char} (hs : secret ≠ [])
    (h : p.find? (lead ++ secret ++ rest) = some ⟨lead, secret, rest⟩) :
    p.taken (lead ++ secret ++ rest) =
      ⟨lead.length, secret⟩ :: (p.taken rest).map (.shift (lead.length + secret.length)) := by
  have hpos := List.length_pos_iff.mpr hs
  generalize htext : lead ++ secret ++ rest = text at h ⊢
  cases text with
  | nil => simp [hs] at htext
  | cons c cs =>
    have hdrop : cs.drop (lead.length + secret.length - 1) = rest := by
      have hrest : (c :: cs).drop (lead.length + secret.length) = rest := by
        rw [← htext, ← List.length_append, List.drop_left]
      rw [← hrest]
      obtain ⟨n, hn⟩ : ∃ n, lead.length + secret.length = n + 1 :=
        ⟨lead.length + secret.length - 1, by omega⟩
      rw [hn, List.drop_succ_cons, Nat.add_sub_cancel]
    rw [Pattern.taken, Pattern.takenFrom, h]
    simp only [List.cons.injEq, true_and]
    rw [Pattern.takenFrom_eq_drop, hdrop, List.map_map]
    refine List.map_congr_left fun k _ => (k.shift_shift _ 1).trans ?_
    congr 1
    omega

/-! ## Scans -/

/-- **The scan of a text**, with the text that it leaves and the secrets that it takes. -/
inductive Pattern.Scan (p : Pattern) (replacement : List Char) :
    List Char → List Char → List Taken → Prop
  | nil : Scan p replacement [] [] []
  | skip {c : Char} {cs out : List Char} {taken : List Taken} (h : p.find? (c :: cs) = none)
      (hrest : Scan p replacement cs out taken) :
      Scan p replacement (c :: cs) (c :: out) (taken.map (.shift 1))
  | hit {lead secret rest out : List Char} {taken : List Taken}
      (h : p.find? (lead ++ secret ++ rest) = some ⟨lead, secret, rest⟩)
      (hrest : Scan p replacement rest out taken) :
      Scan p replacement (lead ++ secret ++ rest) (lead ++ replacement ++ out)
        (⟨lead.length, secret⟩ :: taken.map (.shift (lead.length + secret.length)))

/-- **Replacing is a scan.** -/
theorem Pattern.scan (p : Pattern) (replacement cs : List Char) :
    p.Scan replacement cs (p.replace replacement cs) (p.taken cs) := by
  induction hn : cs.length using Nat.strongRecOn generalizing cs with
  | ind n ih =>
    cases cs with
    | nil => exact .nil
    | cons c cs =>
      cases h : p.find? (c :: cs) with
      | none =>
        rw [Pattern.replace_none h, Pattern.taken_none h]
        exact .skip h (ih cs.length (by simp [← hn]) cs rfl)
      | some found =>
        obtain ⟨lead, secret, rest⟩ := found
        have hs : secret ≠ [] := (Pattern.find?_eq_some h).2.1
        have htext : lead ++ secret ++ rest = c :: cs := Pattern.find?_spec h
        rw [Pattern.replace_found h hs]
        rw [← htext] at h hn ⊢
        rw [Pattern.taken_found hs h]
        refine .hit h (ih rest.length ?_ rest rfl)
        have hpos := List.length_pos_iff.mpr hs
        simp only [List.length_append] at hn
        omega

namespace Pattern.Scan

variable {guard : Char → Bool} {replacement cs out : List Char} {taken : List Taken} {k : Taken}

/-- **A secret that is taken** stands behind a lead that fits, and in front of what is no character
of it. -/
theorem exists_of_mem (h : p.Scan replacement cs out taken) (hk : k ∈ taken) :
    ∃ before lead after, cs = before ++ lead ++ k.secret ++ after ∧
      k.start = before.length + lead.length ∧ p.FitsLead lead ∧ k.secret ≠ [] ∧
        ∀ c ∈ after.head?, p.secret c = false := by
  induction h generalizing k with
  | nil => cases hk
  | @skip c cs out taken h hrest ih =>
    obtain ⟨k, hmem, rfl⟩ := List.mem_map.mp hk
    obtain ⟨before, lead, after, hcs, hstart, hfacts⟩ := ih hmem
    refine ⟨c :: before, lead, after, congrArg (c :: ·) hcs, ?_, hfacts⟩
    rw [Taken.start_shift, hstart, List.length_cons]
    omega
  | @hit lead secret rest out taken h hrest ih =>
    rcases List.mem_cons.mp hk with rfl | hk
    · obtain ⟨hlead, hs, -, hafter⟩ := Pattern.find?_eq_some h
      exact ⟨[], lead, rest, rfl, (Nat.zero_add _).symm, hlead, hs, hafter⟩
    · obtain ⟨k, hmem, rfl⟩ := List.mem_map.mp hk
      obtain ⟨before, lead', after, rfl, hstart, hfacts⟩ := ih hmem
      refine ⟨lead ++ secret ++ before, lead', after, by simp, ?_, hfacts⟩
      rw [Taken.start_shift, hstart]
      simp only [List.length_append]
      omega

/-- **A word of letters and digits that is touched is taken** with the secret that touches it. -/
theorem infix_of_touched (h : p.Scan replacement cs out taken) (hp : Guarded p guard)
    (hk : k ∈ taken) {x s y : List Char} (hcs : cs = x ++ s ++ y)
    (hs : ∀ c ∈ s, c.isAlphanum = true) (htouch : k.Touches x.length s.length) :
    s <:+: k.secret := by
  obtain ⟨hstop, hstart⟩ := htouch
  obtain ⟨before, lead, after, htext, hlength, hlead, -, hafter⟩ := h.exists_of_mem hk
  obtain ⟨front, c, rfl, hc⟩ := hp.ends lead hlead
  have hmem : c ∉ s := not_mem_of_isAlphanum hs hc
  have hsplit : x ++ s ++ y = (before ++ front) ++ c :: (k.secret ++ after) := by
    rw [← hcs, htext]
    simp
  rcases eq_append_cons_cases hmem hsplit with ⟨x', rfl, htail⟩ | ⟨y', -, hfront⟩
  · -- The secret starts in front of the word, and ends behind it.
    cases after with
    | nil => exact ⟨x', y, by rw [← htail, List.append_nil]⟩
    | cons d after =>
      have hd : d ∉ s := hp.not_mem hs (hafter d rfl)
      rcases eq_append_cons_cases hd htail.symm with ⟨x'', rfl, -⟩ | ⟨y', -, hsecret⟩
      · simp only [Taken.stop, hlength, List.length_append, List.length_cons, List.length_nil]
          at hstop
        omega
      · exact ⟨x', y', hsecret.symm⟩
  · have hfront := congrArg List.length hfront
    simp only [hlength, List.length_append, List.length_cons, List.length_nil] at hstart hfront
    omega

/-- What touches a lead or the word behind it takes the word, or else a part of the lead. -/
theorem infix_or_endsIn (h : p.Scan replacement cs out taken) (hp : Guarded p guard)
    (hk : k ∈ taken) {x lead s y : List Char} (hcs : cs = x ++ (lead ++ s) ++ y)
    (hs : ∀ c ∈ s, c.isAlphanum = true) (htouch : k.Touches x.length (lead ++ s).length) :
    s <:+: k.secret ∨ k.EndsIn x.length lead := by
  obtain ⟨hstop, hstart⟩ := htouch
  by_cases hend : k.stop ≤ x.length + lead.length
  · exact .inr ⟨hstop, hend⟩
  · rw [← List.append_assoc] at hcs
    rw [List.length_append, ← Nat.add_assoc, ← List.length_append] at hstart
    rw [← List.length_append, Nat.not_le] at hend
    exact .inl (h.infix_of_touched hp hk hcs hs ⟨hend, hstart⟩)

theorem prefix_of_le_start (h : p.Scan replacement cs out taken) {r y : List Char}
    (hcs : cs = r ++ y) (hfree : ∀ k ∈ taken, r.length ≤ k.start) : r <+: out := by
  induction h generalizing r with
  | nil =>
    obtain ⟨rfl, -⟩ := List.append_eq_nil_iff.mp hcs.symm
    exact List.nil_prefix
  | @skip c cs out taken h hrest ih =>
    cases r with
    | nil => exact List.nil_prefix
    | cons d r =>
      obtain ⟨rfl, htail⟩ := List.cons.inj hcs
      refine List.cons_prefix_cons.mpr ⟨rfl, ih htail fun k hk => ?_⟩
      have hstart := hfree _ (List.mem_map_of_mem hk)
      rw [Taken.start_shift, List.length_cons] at hstart
      omega
  | @hit lead secret rest out taken h hrest ih =>
    have hlead : r <+: lead := by
      refine List.prefix_of_prefix_length_le ⟨y, hcs.symm⟩ ?_ (hfree _ List.mem_cons_self)
      rw [List.append_assoc]
      exact List.prefix_append _ _
    rw [List.append_assoc]
    exact hlead.trans (List.prefix_append _ _)

/-- **What no secret touches stays.** -/
theorem keeps (h : p.Scan replacement cs out taken) {x r y : List Char} (hcs : cs = x ++ r ++ y)
    (hfree : ∀ k ∈ taken, ¬ k.Touches x.length r.length) : ∃ x' y', out = x' ++ r ++ y' := by
  induction h generalizing x with
  | nil =>
    obtain ⟨hr, rfl⟩ := List.append_eq_nil_iff.mp hcs.symm
    exact ⟨x, [], hcs⟩
  | @skip c cs out taken h hrest ih =>
    cases x with
    | nil =>
      -- The part starts here, so that no secret stops before it.
      have hprefix : r <+: c :: out := by
        refine (Scan.skip h hrest).prefix_of_le_start hcs fun k hk => ?_
        obtain ⟨-, -, -, -, -, -, hs, -⟩ := (Scan.skip h hrest).exists_of_mem hk
        have hpos := List.length_pos_iff.mpr hs
        have hnot := hfree k hk
        rw [Taken.Touches, Taken.stop, List.length_nil] at hnot
        omega
      obtain ⟨y', hy'⟩ := hprefix
      exact ⟨[], y', hy'.symm⟩
    | cons d x =>
      obtain ⟨rfl, htail⟩ := List.cons.inj hcs
      obtain ⟨x', y', rfl⟩ := ih htail fun k hk htouch => by
        refine hfree _ (List.mem_map_of_mem hk) ?_
        rw [List.length_cons, Nat.add_comm]
        exact Taken.touches_shift.mpr htouch
      exact ⟨c :: x', y', rfl⟩
  | @hit lead secret rest out taken h hrest ih =>
    by_cases hstop : lead.length + secret.length ≤ x.length
    · obtain ⟨x, rfl, hrest'⟩ := exists_rest_of_length_le hcs (by rwa [List.length_append])
      obtain ⟨x', y', rfl⟩ := ih hrest' fun k hk htouch => by
        refine hfree _ (List.mem_cons_of_mem _ (List.mem_map_of_mem hk)) ?_
        rw [List.length_append, List.length_append]
        exact Taken.touches_shift.mpr htouch
      exact ⟨lead ++ replacement ++ x', y', by simp⟩
    · -- The secret starts behind the part, which its lead covers.
      have hstart : x.length + r.length ≤ lead.length := by
        by_contra hstart
        exact hfree _ List.mem_cons_self ⟨Nat.not_le.mp hstop, Nat.not_le.mp hstart⟩
      rw [List.append_assoc] at hcs
      obtain ⟨z, rfl⟩ := exists_cover_of_length_le hcs hstart
      exact ⟨x, z ++ replacement ++ out, by simp⟩

/-- **Where a lead fits in front of a long word** of letters and digits, a secret touches either. -/
theorem exists_touching (h : p.Scan replacement cs out taken) (hp : Guarded p guard)
    {x lead s y : List Char} (hcs : cs = x ++ (lead ++ s) ++ y) (hlead : p.FitsLead lead)
    (hs : ∀ c ∈ s, c.isAlphanum = true) (hlong : 8 < s.length) :
    ∃ k ∈ taken, k.Touches x.length (lead ++ s).length := by
  induction h generalizing x with
  | nil =>
    obtain ⟨hleft, -⟩ := List.append_eq_nil_iff.mp hcs.symm
    have hlength := congrArg List.length hleft
    simp only [List.length_append, List.length_nil] at hlength
    omega
  | @skip c cs out taken h hrest ih =>
    cases x with
    | nil =>
      -- The lead fits here, so that nothing is skipped.
      cases s with
      | nil => cases hlong
      | cons d s =>
        have hsome : (p.find? (lead ++ d :: (s ++ y))).isSome :=
          Pattern.isSome_find? hlead (hp.secret d (hs d List.mem_cons_self))
        have hcs : c :: cs = lead ++ d :: (s ++ y) := by
          rw [hcs]
          simp
        rw [← hcs, h] at hsome
        cases hsome
    | cons d x =>
      obtain ⟨rfl, htail⟩ := List.cons.inj hcs
      obtain ⟨k, hk, htouch⟩ := ih htail
      refine ⟨_, List.mem_map_of_mem hk, ?_⟩
      rw [List.length_cons, Nat.add_comm]
      exact Taken.touches_shift.mpr htouch
  | @hit lead' secret rest out taken h hrest ih =>
    by_cases hstop : x.length < lead'.length + secret.length
    · -- The secret is the one, unless its lead covers the word.
      refine ⟨_, List.mem_cons_self, hstop, ?_⟩
      by_contra hcover
      rw [List.append_assoc] at hcs
      obtain ⟨z, rfl⟩ := exists_cover_of_length_le hcs (Nat.not_lt.mp hcover)
      have hlead' := (Pattern.find?_eq_some h).1
      have hshort := hp.length_le hlead (by simpa using hlead') hs
      omega
    · obtain ⟨x, rfl, hrest'⟩ := exists_rest_of_length_le hcs (by rw [List.length_append]; omega)
      obtain ⟨k, hk, htouch⟩ := ih hrest'
      refine ⟨_, List.mem_cons_of_mem _ (List.mem_map_of_mem hk), ?_⟩
      rw [List.length_append, List.length_append]
      exact Taken.touches_shift.mpr htouch

/-- **The occurrences of a long word of letters and digits** are those left and those taken. -/
theorem occurrences_eq (h : p.Scan mark.toList cs out taken) (hp : Guarded p guard) {s : List Char}
    (hs : ∀ c ∈ s, c.isAlphanum = true) (hlong : 8 < s.length) (before : List Char) :
    occurrences s (before ++ cs) =
      occurrences s (before ++ out) + (taken.map fun k => occurrences s k.secret).sum := by
  have hne : s ≠ [] := List.ne_nil_of_length_pos (by omega)
  generalize hmark : mark.toList = replacement at h
  induction h generalizing before with
  | nil => rfl
  | @skip c cs out taken h hrest ih =>
    have hbefore := ih (before ++ [c])
    rw [List.append_assoc, List.append_assoc, List.singleton_append,
      List.singleton_append] at hbefore
    rw [hbefore, List.map_map]
    rfl
  | @hit lead secret rest out taken h hrest ih =>
    obtain ⟨hlead, -, -, hafter⟩ := Pattern.find?_eq_some h
    obtain ⟨front, c, rfl, hc⟩ := hp.ends lead hlead
    have hlast : c ∉ s := not_mem_of_isAlphanum hs hc
    have hhead : ∀ d ∈ rest.head?, d ∉ s := fun d hd => hp.not_mem hs (hafter d hd)
    have hafter := ih []
    rw [List.nil_append, List.nil_append] at hafter
    calc occurrences s (before ++ (front ++ [c] ++ secret ++ rest))
        = occurrences s (before ++ front ++ [c] ++ (secret ++ rest)) := by simp
      _ = occurrences s (before ++ front ++ [c]) + (occurrences s secret + occurrences s rest) := by
        rw [occurrences_concat_append hne hlast, occurrences_append hne hhead]
      _ = occurrences s (before ++ front ++ [c]) + occurrences s out +
          (occurrences s secret + (taken.map fun k => occurrences s k.secret).sum) := by
        rw [hafter]
        omega
      _ = occurrences s (before ++ (front ++ [c] ++ replacement ++ out)) +
          (occurrences s secret + (taken.map fun k => occurrences s k.secret).sum) := by
        rw [← occurrences_mark hs hlong, hmark]
        simp
      _ = _ := by
        rw [List.map_cons, List.map_map, List.sum_cons]
        rfl

end Pattern.Scan

end HatTree.Log.Secret
