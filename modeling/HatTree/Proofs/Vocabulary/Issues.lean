import HatTree.Proofs.Vocabulary.Language
import Mathlib.Data.List.Nodup

/-!
# One issue for each violation

The issues about a projection are found under its fields and about other keys. Since the keys of a
projection are distinct, no two of them are at one place, so that each violation is reported once.

## Main definitions

* `IsKeyed`: entries whose keys are distinct texts

## Main results

* `nodup_places`: no two issues are at one place
* `language_of_check`: the check accepts what fits, and reports each violation once
-/

namespace HatTree

/-- **Entries whose keys are distinct texts.** -/
structure IsKeyed (given : List (Value × Value)) : Prop where
  /-- The keys are texts. -/
  texts : HasTextKeys given
  /-- No key occurs twice. -/
  distinct : (given.map (·.1)).Nodup

namespace Vocabulary

variable {t : ObjectType} {given : List (Value × Value)}

theorem map_place_under (step : Step) (issues : List Issue) :
    (issues.map (Issue.under step)).map Issue.place =
      (issues.map Issue.place).map (step :: ·) := by
  rw [List.map_map, List.map_map]
  rfl

/-- What is found under a field has its place below that field. -/
theorem head?_place_of_mem_under {found : List (String × List Issue)} {name : String}
    {issue : Issue}
    (h : issue ∈ (found.filter fun (key, _) => key == name).flatMap
      fun (_, issues) => issues.map (Issue.under (.key name))) :
    issue.place.head? = some (.key name) := by
  obtain ⟨e, -, hissue⟩ := List.mem_flatMap.mp h
  obtain ⟨i, -, rfl⟩ := List.mem_map.mp hissue
  rfl

/-- Issues found under distinct fields, at distinct places under each, are at distinct places. -/
theorem nodup_places_under {found : List (String × List Issue)} {names : List String}
    (hnames : names.Nodup) (hfound : (found.map (·.1)).Nodup)
    (hissues : ∀ name issues, (name, issues) ∈ found → (issues.map Issue.place).Nodup) :
    ((names.flatMap fun name => (found.filter fun (key, _) => key == name).flatMap
      fun (_, issues) => issues.map (Issue.under (.key name))).map Issue.place).Nodup := by
  rw [List.map_flatMap, List.nodup_flatMap]
  constructor
  · intro name _
    rw [List.map_flatMap, List.nodup_flatMap]
    constructor
    · rintro ⟨key, issues⟩ hmem
      rw [map_place_under]
      exact (hissues key issues (List.mem_of_mem_filter hmem)).map fun _ _ h => (List.cons.inj h).2
    · -- There is at most one entry for a name.
      refine (List.pairwise_map.mp (hfound.sublist (List.filter_sublist.map _))).imp_of_mem ?_
      rintro ⟨key, _⟩ ⟨key', _⟩ hmem hmem' hne
      rw [List.mem_filter, beq_iff_eq] at hmem hmem'
      exact absurd (hmem.2.trans hmem'.2.symm) hne
  · refine hnames.imp fun {name name'} hne place hplace hplace' => hne ?_
    obtain ⟨issue, hissue, rfl⟩ := List.mem_map.mp hplace
    obtain ⟨issue', hissue', heq⟩ := List.mem_map.mp hplace'
    have hhead := head?_place_of_mem_under hissue'
    rw [heq, head?_place_of_mem_under hissue] at hhead
    cases hhead
    rfl

/-- The fields under which issues are found are keys of the projection. -/
theorem map_fst_keyIssues_sublist (m : Model) (given : List (Value × Value)) :
    ((keyIssues m given).map fun (name, _) => Value.text name).Sublist (given.map (·.1)) := by
  induction given with
  | nil => exact .slnil
  | cons e rest ih =>
    obtain ⟨k, v⟩ := e
    cases k with
    | text name =>
      rw [keyIssues]
      split
      · exact ih.cons_cons _
      · exact ih.cons _
    | _ => exact ih.cons _

/-- What is kept of a list, each member with a mark of its own, has some of the marks. -/
theorem map_filterMap_sublist_map {α β γ : Type} {f : α → Option β} {mark : β → γ} {g : α → γ}
    (hmark : ∀ x y, f x = some y → mark y = g x) (xs : List α) :
    ((xs.filterMap f).map mark).Sublist (xs.map g) := by
  induction xs with
  | nil => exact .slnil
  | cons x xs ih =>
    rw [List.filterMap_cons]
    split
    next => exact ih.cons _
    next y hy =>
      rw [List.map_cons, List.map_cons, hmark x y hy]
      exact ih.cons_cons _

/-- Every unexpected key is reported at its own place. -/
theorem map_place_unknownKeys_sublist (known : List String) (given : List (Value × Value)) :
    ((Reading.unknownKeys known given).map Issue.place).Sublist
      ((given.map (·.1)).map fun k => [Step.ofKey k]) := by
  rw [List.map_map]
  refine map_filterMap_sublist_map (fun e issue hissue => ?_) given
  dsimp only at hissue
  split at hissue
  next =>
    split at hissue
    next => cases hissue
    next =>
      cases hissue
      rfl
  next =>
    cases hissue
    rfl

/-- Unexpected keys that are distinct texts are reported at distinct places. -/
theorem nodup_places_unknownKeys (h : IsKeyed given) (known : List String) :
    ((Reading.unknownKeys known given).map Issue.place).Nodup := by
  refine List.Nodup.sublist (map_place_unknownKeys_sublist known given) ?_
  refine h.distinct.map_on fun k hk k' hk' heq => ?_
  obtain ⟨⟨k, v⟩, hmem, rfl⟩ := List.mem_map.mp hk
  obtain ⟨⟨k', v'⟩, hmem', rfl⟩ := List.mem_map.mp hk'
  obtain ⟨name, rfl⟩ := h.texts k v hmem
  obtain ⟨name', rfl⟩ := h.texts k' v' hmem'
  cases heq
  rfl

/-- The issues about the value of a field are at distinct places, if those about the projection that
it is are. -/
theorem nodup_places_valueIssues {e : Expected} {v : Value}
    (he : (Model.of t).expected? name = some e)
    (hinner : ∀ next inner, t.target? name = some next → v = .dict inner →
      ((arrange (.of next) (keyIssues (.of next) inner) inner).map Issue.place).Nodup) :
    ((valueIssues e v).map Issue.place).Nodup := by
  rcases Model.expected?_of_eq_some he with ⟨-, rfl⟩ | ⟨next, hnext, rfl⟩
  · cases v <;> simp [valueIssues]
  · cases v with
    | dict inner => exact hinner next inner hnext rfl
    | _ => simp [valueIssues]

/-- **No two issues about a projection are at one place.** -/
theorem nodup_places (h : Throughout IsKeyed t given) :
    ((arrange (.of t) (keyIssues (.of t) given) given).map Issue.place).Nodup := by
  induction h with
  | @intro t given here _ ih =>
    have hnames : (Model.of t).fieldNames.Nodup := by cases t <;> decide
    have hfound : ((keyIssues (.of t) given).map (·.1)).Nodup := by
      refine List.Nodup.of_map Value.text ?_
      rw [List.map_map]
      exact here.distinct.sublist (map_fst_keyIssues_sublist _ given)
    have hbelow : ∀ name issues, (name, issues) ∈ keyIssues (.of t) given →
        (issues.map Issue.place).Nodup := by
      intro name issues hmem
      obtain ⟨v, e, hv, he, rfl⟩ := mem_keyIssues.mp hmem
      refine nodup_places_valueIssues he fun next inner hnext heq => ?_
      subst heq
      exact ih name inner next hv hnext
    rw [arrange, List.map_append]
    refine (nodup_places_under hnames hfound hbelow).append (nodup_places_unknownKeys here _) ?_
    -- What is found under a field lies below its name, which is no unexpected key.
    intro place hplace hplace'
    obtain ⟨issue, hissue, rfl⟩ := List.mem_map.mp hplace
    obtain ⟨issue', hissue', heq⟩ := List.mem_map.mp hplace'
    obtain ⟨name, hname, hissue⟩ := List.mem_flatMap.mp hissue
    obtain ⟨name', v, -, hname', rfl⟩ := (mem_unknownKeys here.texts).mp hissue'
    have hhead := head?_place_of_mem_under hissue
    rw [← heq] at hhead
    cases hhead
    exact hname' hname

/-- **The check and the schema describe one language.** A projection passes the check of a type if
and only if it fits the type. Otherwise the failure has one issue for each violation and no other,
each at the place of the violation. -/
theorem language_of_check (t : ObjectType) (given : List (Value × Value))
    (hkeyed : Throughout IsKeyed t given) :
    (check t (.dict given) = .ok () ↔ Fits t given) ∧
      ∀ fault, check t (.dict given) = .error fault →
        (report fault).family = .library .inputValidation ∧
          ∃ issues, (report fault).issues = some issues ∧ (issues.map Issue.place).Nodup ∧
            ∀ issue, issue ∈ issues ↔ Violation t given issue := by
  have htexts := hkeyed.imp fun _ h => h.texts
  refine ⟨check_eq_ok_iff_fits, fun fault hfault => ?_⟩
  rw [check, issues] at hfault
  split at hfault
  next => cases hfault
  next =>
    cases hfault
    exact ⟨rfl, _, rfl, nodup_places hkeyed, fun issue => mem_arrange_iff_violation htexts⟩

/-- A hat with a scalar that is a number, and with a tree of which something unknown is selected. -/
theorem language_of_check_two_violations :
    Throughout IsKeyed .hat
        [(.text "tree", .dict [(.text "size", .bool true)]), (.text "status", .int 3)] ∧
      ¬ Fits .hat [(.text "tree", .dict [(.text "size", .bool true)]), (.text "status", .int 3)] ∧
      Violation .hat [(.text "tree", .dict [(.text "size", .bool true)]), (.text "status", .int 3)]
        ⟨.extraForbidden, [.key "tree", .key "size"]⟩ := by
  have hinner : Throughout IsKeyed .tree [(.text "size", .bool true)] := by
    refine .intro ⟨fun k v hmem => ?_, by simp⟩ fun name inner next hmem _ => ?_
    · simp only [List.mem_singleton, Prod.mk.injEq] at hmem
      exact ⟨"size", hmem.1⟩
    · simp at hmem
  have hkeyed : Throughout IsKeyed .hat
      [(.text "tree", .dict [(.text "size", .bool true)]), (.text "status", .int 3)] := by
    refine .intro ⟨fun k v hmem => ?_, by simp⟩ fun name inner next hmem hnext => ?_
    · simp only [List.mem_cons, List.not_mem_nil, or_false, Prod.mk.injEq] at hmem
      rcases hmem with ⟨hk, -⟩ | ⟨hk, -⟩
      · exact ⟨"tree", hk⟩
      · exact ⟨"status", hk⟩
    · obtain ⟨rfl, rfl⟩ : name = "tree" ∧ inner = [(.text "size", .bool true)] := by
        simpa using hmem
      cases hnext
      exact hinner
  obtain ⟨hiff, herror⟩ := language_of_check .hat _ hkeyed
  obtain ⟨-, issues, hissues, -, hmem⟩ := herror _ rfl
  refine ⟨hkeyed, fun hfits => ?_, (hmem _).mp ?_⟩
  · exact nomatch hiff.mpr hfits
  · cases hissues
    decide

end Vocabulary

end HatTree
