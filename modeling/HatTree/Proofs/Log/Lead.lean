import HatTree.Log.Secret

/-!
# What leads up to a secret

A part of a lead is taken as long as it can be, and given back character by character while the rest
does not fit. So a secret is found exactly where some lead fits in front of one of its characters,
although not every lead that fits is the one that is taken.

## Main definitions

* `LeadFits`: what fits the parts of a lead
* `Pattern.FitsLead`: what fits a lead of a pattern

## Main results

* `Pattern.find?_eq_some`, `Pattern.isSome_find?`: secrets are found behind leads that fit
-/

namespace HatTree.Log.Secret

/-! ## Fitting a lead -/

/-- What fits a part of a lead. -/
inductive Piece.Fits : Piece → List Char → Prop
  | one {accepts : Char → Bool} {c : Char} (h : accepts c = true) : Fits (.one accepts) [c]
  | absent {accepts : Char → Bool} : Fits (.optional accepts) []
  | optional {accepts : Char → Bool} {c : Char} (h : accepts c = true) :
      Fits (.optional accepts) [c]
  | many {accepts : Char → Bool} {cs : List Char} (h : ∀ c ∈ cs, accepts c = true) :
      Fits (.many accepts) cs

/-- **What fits a lead**: its parts, one after the other. -/
inductive LeadFits : List Piece → List Char → Prop
  | nil : LeadFits [] []
  | cons {piece : Piece} {pieces : List Piece} {cs ds : List Char} (h : piece.Fits cs)
      (hrest : LeadFits pieces ds) : LeadFits (piece :: pieces) (cs ++ ds)

section Split

variable {accepts : Char → Bool} {fits : List Char → Option (List Char × List Char)}
  {cs ds lead rest : List Char}

theorem splitRun_eq_some (h : splitRun accepts fits cs = some (lead, rest)) :
    ∃ run more below, lead = run ++ more ∧ cs = run ++ below ∧
      (∀ c ∈ run, accepts c = true) ∧ fits below = some (more, rest) := by
  induction cs generalizing lead with
  | nil => exact ⟨[], lead, [], rfl, rfl, fun _ hc => (by cases hc), h⟩
  | cons c cs ih =>
    have hstop (h : fits (c :: cs) = some (lead, rest)) : ∃ run more below, lead = run ++ more ∧
        c :: cs = run ++ below ∧ (∀ c ∈ run, accepts c = true) ∧ fits below = some (more, rest) :=
      ⟨[], lead, c :: cs, rfl, rfl, fun _ hc => (by cases hc), h⟩
    rw [splitRun] at h
    split at h
    next hc =>
      split at h
      next found hfound =>
        cases h
        obtain ⟨run, more, below, hlead, rfl, hrun, hfits⟩ := ih hfound
        refine ⟨c :: run, more, below, congrArg (c :: ·) hlead, rfl, ?_, hfits⟩
        rintro d (_ | ⟨_, hd⟩)
        · exact hc
        · exact hrun d hd
      next => exact hstop h
    next => exact hstop h

theorem splitOne_eq_some (h : splitOne accepts fits cs = some (lead, rest)) :
    ∃ c more below, lead = c :: more ∧ cs = c :: below ∧ accepts c = true ∧
      fits below = some (more, rest) := by
  cases cs with
  | nil => cases h
  | cons c cs =>
    rw [splitOne] at h
    split at h
    next hc =>
      obtain ⟨⟨more, rest'⟩, hmore, hfound⟩ := Option.map_eq_some_iff.mp h
      cases hfound
      exact ⟨c, more, cs, rfl, rfl, hc, hmore⟩
    next => cases h

/-- **What is split off for a part fits it**, and the rest fits behind it. -/
theorem Piece.split_eq_some {piece : Piece} (h : piece.split fits cs = some (lead, rest)) :
    ∃ front more below, lead = front ++ more ∧ cs = front ++ below ∧ piece.Fits front ∧
      fits below = some (more, rest) := by
  cases piece with
  | one accepts =>
    obtain ⟨c, more, below, rfl, rfl, hc, hfits⟩ := splitOne_eq_some h
    exact ⟨[c], more, below, rfl, rfl, .one hc, hfits⟩
  | optional accepts =>
    rw [Piece.split] at h
    split at h
    next found hfound =>
      cases h
      obtain ⟨c, more, below, hlead, rfl, hc, hfits⟩ := splitOne_eq_some hfound
      exact ⟨[c], more, below, hlead, rfl, .optional hc, hfits⟩
    next => exact ⟨[], lead, cs, rfl, rfl, .absent, h⟩
  | many accepts =>
    obtain ⟨run, more, below, hlead, hcs, hrun, hfits⟩ := splitRun_eq_some h
    exact ⟨run, more, below, hlead, hcs, .many hrun, hfits⟩

/-- What stops earlier is tried as well. -/
theorem isSome_splitRun (hcs : ∀ c ∈ cs, accepts c = true) (h : (fits ds).isSome) :
    (splitRun accepts fits (cs ++ ds)).isSome := by
  induction cs with
  | nil =>
    cases ds with
    | nil => exact h
    | cons d ds =>
      rw [List.nil_append, splitRun]
      split
      next =>
        split
        next => rfl
        next => exact h
      next => exact h
  | cons c cs ih =>
    have hrest := ih fun d hd => hcs d (List.mem_cons_of_mem _ hd)
    obtain ⟨found, hfound⟩ := Option.isSome_iff_exists.mp hrest
    rw [List.cons_append, splitRun, if_pos (hcs c List.mem_cons_self), hfound]
    rfl

theorem isSome_splitOne {c : Char} (hc : accepts c = true) (h : (fits ds).isSome) :
    (splitOne accepts fits (c :: ds)).isSome := by
  rw [splitOne, if_pos hc, Option.isSome_map]
  exact h

/-- **Where a part fits**, something is split off for it. -/
theorem Piece.isSome_split {piece : Piece} (hcs : piece.Fits cs) (h : (fits ds).isSome) :
    (piece.split fits (cs ++ ds)).isSome := by
  cases hcs with
  | one hc => exact isSome_splitOne hc h
  | absent =>
    rw [List.nil_append, Piece.split]
    split
    next => rfl
    next => exact h
  | optional hc =>
    obtain ⟨found, hfound⟩ := Option.isSome_iff_exists.mp (isSome_splitOne hc h)
    rw [List.singleton_append, Piece.split, hfound]
    rfl
  | many hrun => exact isSome_splitRun hrun h

end Split

section Lead

variable {secret : Char → Bool} {pieces : List Piece} {cs lead rest : List Char}

theorem leadFits_of_splitLead (h : splitLead secret pieces cs = some (lead, rest)) :
    LeadFits pieces lead ∧ ∃ c ds, rest = c :: ds ∧ secret c = true := by
  induction pieces generalizing cs lead with
  | nil =>
    cases cs with
    | nil => cases h
    | cons c cs =>
      rw [splitLead] at h
      split at h
      next hc =>
        cases h
        exact ⟨.nil, c, cs, rfl, hc⟩
      next => cases h
  | cons piece pieces ih =>
    obtain ⟨front, more, below, rfl, -, hfront, hmore⟩ := Piece.split_eq_some h
    obtain ⟨hrest, hsecret⟩ := ih hmore
    exact ⟨.cons hfront hrest, hsecret⟩

theorem isSome_splitLead (h : LeadFits pieces lead) {c : Char} (hc : secret c = true) :
    (splitLead secret pieces (lead ++ c :: cs)).isSome := by
  induction h with
  | nil =>
    rw [List.nil_append, splitLead, if_pos hc]
    rfl
  | cons hfront _ ih =>
    rw [List.append_assoc]
    exact Piece.isSome_split hfront ih

/-- **What fits a lead of a pattern.** -/
def Pattern.FitsLead (p : Pattern) (lead : List Char) : Prop :=
  ∃ pieces ∈ p.leads, LeadFits pieces lead

variable {p : Pattern}

/-- **What is found**: a lead that fits, and behind it the longest run of characters of the
secret. -/
theorem Pattern.find?_eq_some {found : Found} (h : p.find? cs = some found) :
    p.FitsLead found.lead ∧ found.secret ≠ [] ∧ (∀ c ∈ found.secret, p.secret c = true) ∧
      ∀ c ∈ found.rest.head?, p.secret c = false := by
  obtain ⟨⟨lead, rest⟩, hlead, rfl⟩ := Option.map_eq_some_iff.mp h
  obtain ⟨pieces, hmem, hsplit⟩ := List.exists_of_findSome?_eq_some hlead
  obtain ⟨hfits, c, ds, rfl, hc⟩ := leadFits_of_splitLead hsplit
  refine ⟨⟨pieces, hmem, hfits⟩, ?_, fun d hd => List.all_eq_true.mp List.all_takeWhile d hd, ?_⟩
  · show (c :: ds).takeWhile p.secret ≠ []
    rw [List.takeWhile_cons_of_pos hc]
    exact List.cons_ne_nil _ _
  · intro d hd
    have hhead := List.head?_dropWhile_not p.secret (c :: ds)
    rw [Option.mem_def.mp hd] at hhead
    exact hhead

/-- **Where a lead fits** in front of a character of the secret, a secret is found. -/
theorem Pattern.isSome_find? (h : p.FitsLead lead) {c : Char} (hc : p.secret c = true) :
    (p.find? (lead ++ c :: cs)).isSome := by
  obtain ⟨pieces, hmem, hfits⟩ := h
  rw [Pattern.find?, Option.isSome_map, List.findSome?_isSome_iff]
  exact ⟨pieces, hmem, isSome_splitLead hfits hc⟩

end Lead

end HatTree.Log.Secret
