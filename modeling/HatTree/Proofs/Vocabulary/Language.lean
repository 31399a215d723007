import HatTree.Proofs.Vocabulary

/-!
# The language of the vocabulary

The check of a projection and the tables of the schema describe one language. A projection passes if
and only if it fits its type: every key is a field, a scalar maps to a truth value, a relation to a
projection that fits its target, and any field may map to nothing. Otherwise the issues are what
keeps it from fitting.

## Main definitions

* `Throughout`: a condition on a projection and on those below its relations
* `Fits`: projections that fit a type
* `Violation`: what keeps a projection from fitting, and where

## Main results

* `fits_iff`: a projection fits when there is no violation
* `mem_arrange_iff_violation`: the issues are the violations
* `check_eq_ok_iff_fits`: a projection passes the check of its type when it fits
-/

namespace HatTree

/-- **A condition on the entries of a projection** from a type, and on those of every projection
below its relations. -/
inductive Throughout (P : List (Value × Value) → Prop) :
    ObjectType → List (Value × Value) → Prop
  | intro {t : ObjectType} {given : List (Value × Value)} (here : P given)
      (below : ∀ name inner next, (.text name, .dict inner) ∈ given →
        t.target? name = some next → Throughout P next inner) : Throughout P t given

theorem Throughout.imp {P Q : List (Value × Value) → Prop} (hPQ : ∀ given, P given → Q given)
    {t : ObjectType} {given : List (Value × Value)} (h : Throughout P t given) :
    Throughout Q t given := by
  induction h with
  | intro here _ ih => exact .intro (hPQ _ here) ih

/-- Entries whose keys are texts. -/
def HasTextKeys (given : List (Value × Value)) : Prop :=
  ∀ k v, (k, v) ∈ given → ∃ name, k = .text name

namespace Vocabulary

/-- **A projection that fits a type**: every key is the name of a field, a scalar maps to a truth
value or to nothing, and a relation to nothing or to a projection that fits its target. -/
inductive Fits : ObjectType → List (Value × Value) → Prop
  | intro {t : ObjectType} {given : List (Value × Value)}
      (keys : ∀ k v, (k, v) ∈ given → ∃ name, k = .text name ∧
        (name ∈ t.scalars ∨ ∃ next, t.target? name = some next))
      (scalars : ∀ name v, (.text name, v) ∈ given → name ∈ t.scalars →
        v = .null ∨ ∃ b, v = .bool b)
      (relations : ∀ name v next, (.text name, v) ∈ given → t.target? name = some next →
        v = .null ∨ ∃ inner, v = .dict inner)
      (below : ∀ name inner next, (.text name, .dict inner) ∈ given →
        t.target? name = some next → Fits next inner) : Fits t given

/-- **What keeps a projection from fitting a type**, and where: an unknown key, a scalar that maps
to something other than a truth value, a relation that maps to something other than a projection,
each here or below a relation. -/
inductive Violation : ObjectType → List (Value × Value) → Issue → Prop
  /-- A key is no field. -/
  | unknown {t : ObjectType} {given : List (Value × Value)} {name : String} {v : Value}
      (hmem : (.text name, v) ∈ given) (hscalar : name ∉ t.scalars)
      (hrelation : t.target? name = none) :
      Violation t given ⟨.extraForbidden, [.key name]⟩
  /-- A scalar maps to something other than a truth value. -/
  | scalar {t : ObjectType} {given : List (Value × Value)} {name : String} {v : Value}
      (hmem : (.text name, v) ∈ given) (hname : name ∈ t.scalars) (hnull : v ≠ .null)
      (hbool : ∀ b, v ≠ .bool b) : Violation t given ⟨.boolType, [.key name]⟩
  /-- A relation maps to something other than a projection. -/
  | relation {t next : ObjectType} {given : List (Value × Value)} {name : String} {v : Value}
      (hmem : (.text name, v) ∈ given) (hnext : t.target? name = some next) (hnull : v ≠ .null)
      (hdict : ∀ inner, v ≠ .dict inner) :
      Violation t given ⟨.modelType (Model.of next).name, [.key name]⟩
  /-- The projection below a relation does not fit. -/
  | beneath {t next : ObjectType} {given inner : List (Value × Value)} {name : String}
      {issue : Issue} (hmem : (.text name, .dict inner) ∈ given)
      (hnext : t.target? name = some next) (h : Violation next inner issue) :
      Violation t given (issue.under (.key name))

variable {t : ObjectType} {given : List (Value × Value)}

/-- **A projection fits when there is no violation.** -/
theorem fits_iff (h : Throughout HasTextKeys t given) :
    Fits t given ↔ ∀ issue, ¬ Violation t given issue := by
  constructor
  · intro hfits issue hviolation
    induction hviolation with
    | unknown hmem hscalar hrelation =>
      cases hfits with
      | intro keys _ _ _ =>
        obtain ⟨name, hk, hname⟩ := keys _ _ hmem
        cases hk
        rcases hname with hs | ⟨next, hnext⟩
        · exact hscalar hs
        · rw [hrelation] at hnext
          cases hnext
    | scalar hmem hname hnull hbool =>
      cases hfits with
      | intro _ scalars _ _ =>
        rcases scalars _ _ hmem hname with rfl | ⟨b, rfl⟩
        · exact hnull rfl
        · exact hbool b rfl
    | relation hmem hnext hnull hdict =>
      cases hfits with
      | intro _ _ relations _ =>
        rcases relations _ _ _ hmem hnext with rfl | ⟨inner, rfl⟩
        · exact hnull rfl
        · exact hdict inner rfl
    | beneath hmem hnext _ ih =>
      cases h with
      | intro _ texts =>
        cases hfits with
        | intro _ _ _ below => exact ih (texts _ _ _ hmem hnext) (below _ _ _ hmem hnext)
  · intro hnone
    induction h with
    | @intro t given texts _ ih =>
      refine .intro (fun k v hmem => ?_) (fun name v hmem hname => ?_)
        (fun name v next hmem hnext => ?_) (fun name inner next hmem hnext => ?_)
      · obtain ⟨name, rfl⟩ := texts k v hmem
        refine ⟨name, rfl, ?_⟩
        by_contra hname
        push Not at hname
        exact hnone _ (.unknown hmem hname.1 (Option.eq_none_iff_forall_ne_some.mpr hname.2))
      · by_contra hv
        push Not at hv
        exact hnone _ (.scalar hmem hname hv.1 hv.2)
      · by_contra hv
        push Not at hv
        exact hnone _ (.relation hmem hnext hv.1 hv.2)
      · exact ih name inner next hmem hnext fun issue hissue =>
          hnone _ (.beneath hmem hnext hissue)

/-! ## Issues and violations -/

section Issues

variable {m : Model} {issue : Issue}

/-- What stands under a scalar has an issue when it is something other than a truth value. -/
theorem mem_valueIssues_truth {v : Value} :
    issue ∈ valueIssues .truth v ↔
      v ≠ .null ∧ (∀ b, v ≠ .bool b) ∧ issue = .here .boolType := by
  cases v <;> simp [valueIssues, Expected.mismatch]

/-- What stands under a relation has the issues of the projection that it is, or one if it is
something else. -/
theorem mem_valueIssues_nested {v : Value} :
    issue ∈ valueIssues (.nested m) v ↔
      (∃ inner, v = .dict inner ∧ issue ∈ arrange m (keyIssues m inner) inner) ∨
        v ≠ .null ∧ (∀ inner, v ≠ .dict inner) ∧ issue = .here (.modelType m.name) := by
  cases v <;> simp [valueIssues, Expected.mismatch]

/-- The issues of a projection are those found under its fields, and those about other keys. -/
theorem mem_arrange {found : List (String × List Issue)} :
    issue ∈ arrange m found given ↔
      (∃ name ∈ m.fieldNames, ∃ issues, (name, issues) ∈ found ∧
        ∃ i ∈ issues, i.under (.key name) = issue) ∨
        issue ∈ Reading.unknownKeys m.fieldNames given := by
  rw [arrange, List.mem_append, List.mem_flatMap]
  refine or_congr_left (exists_congr fun name => and_congr_right fun _ => ?_)
  rw [List.mem_flatMap]
  constructor
  · rintro ⟨⟨key, issues⟩, hmem, hissue⟩
    rw [List.mem_filter, beq_iff_eq] at hmem
    obtain ⟨hmem, rfl⟩ := hmem
    exact ⟨issues, hmem, List.mem_map.mp hissue⟩
  · rintro ⟨issues, hmem, hissue⟩
    exact ⟨(name, issues), List.mem_filter.mpr ⟨hmem, beq_self_eq_true name⟩,
      List.mem_map.mpr hissue⟩

/-- Among text keys, those are unexpected that are not known. -/
theorem mem_unknownKeys (h : HasTextKeys given) {known : List String} :
    issue ∈ Reading.unknownKeys known given ↔
      ∃ name v, (.text name, v) ∈ given ∧ name ∉ known ∧
        issue = ⟨.extraForbidden, [.key name]⟩ := by
  rw [Reading.unknownKeys, List.mem_filterMap]
  constructor
  · rintro ⟨⟨k, v⟩, hmem, hissue⟩
    obtain ⟨name, rfl⟩ := h k v hmem
    rw [Option.ite_none_left_eq_some, List.contains_iff_mem] at hissue
    exact ⟨name, v, hmem, hissue.1, (Option.some.inj hissue.2).symm⟩
  · rintro ⟨name, v, hmem, hname, rfl⟩
    refine ⟨(.text name, v), hmem, ?_⟩
    rw [Option.ite_none_left_eq_some, List.contains_iff_mem]
    exact ⟨hname, rfl⟩

end Issues

/-- **The issues about a projection are its violations.** -/
theorem mem_arrange_iff_violation (h : Throughout HasTextKeys t given) {issue : Issue} :
    issue ∈ arrange (.of t) (keyIssues (.of t) given) given ↔ Violation t given issue := by
  -- The induction is on the projections below relations, so that only one level is looked at.
  induction h generalizing issue with
  | @intro t given texts _ ih =>
    rw [mem_arrange, mem_unknownKeys texts, Model.fieldNames_of]
    constructor
    · rintro (⟨name, -, found, hfound, i, hi, rfl⟩ | ⟨name, v, hmem, hname, rfl⟩)
      · obtain ⟨v, e, hmem, he, rfl⟩ := mem_keyIssues.mp hfound
        rcases Model.expected?_of_eq_some he with ⟨hname, rfl⟩ | ⟨next, hnext, rfl⟩
        · obtain ⟨hnull, hbool, rfl⟩ := mem_valueIssues_truth.mp hi
          exact .scalar hmem hname hnull hbool
        · rcases mem_valueIssues_nested.mp hi with ⟨inner, rfl, hi⟩ | ⟨hnull, hdict, rfl⟩
          · exact .beneath hmem hnext ((ih name inner next hmem hnext).mp hi)
          · exact .relation hmem hnext hnull hdict
      · rw [ObjectType.mem_fields_iff, not_or, Bool.not_eq_true, Option.isSome_eq_false_iff,
          Option.isNone_iff_eq_none] at hname
        exact .unknown hmem hname.1 hname.2
    · intro hviolation
      -- A violation under a field is an issue about what stands there.
      have hfield : ∀ {name v e i}, (.text name, v) ∈ given →
          (Model.of t).expected? name = some e → i ∈ valueIssues e v →
          ∃ name' ∈ t.fields, ∃ issues, (name', issues) ∈ keyIssues (.of t) given ∧
            ∃ i' ∈ issues, i'.under (.key name') = i.under (.key name) := by
        intro name v e i hmem he hi
        exact ⟨name, Model.mem_fields_of_expected? he, _, mem_keyIssues.mpr ⟨v, e, hmem, he, rfl⟩,
          i, hi, rfl⟩
      cases hviolation with
      | unknown hmem hscalar hrelation =>
        refine .inr ⟨_, _, hmem, ?_, rfl⟩
        rw [ObjectType.mem_fields_iff, hrelation]
        simpa using hscalar
      | scalar hmem hname hnull hbool =>
        exact .inl (hfield hmem (Model.expected?_of_mem_scalars hname)
          (mem_valueIssues_truth.mpr ⟨hnull, hbool, rfl⟩))
      | relation hmem hnext hnull hdict =>
        exact .inl (hfield hmem (Model.expected?_of_target? hnext)
          (mem_valueIssues_nested.mpr (.inr ⟨hnull, hdict, rfl⟩)))
      | beneath hmem hnext hbelow =>
        exact .inl (hfield hmem (Model.expected?_of_target? hnext)
          (mem_valueIssues_nested.mpr (.inl ⟨_, rfl, (ih _ _ _ hmem hnext).mpr hbelow⟩)))

theorem check_eq_ok_iff :
    check t (.dict given) = .ok () ↔ arrange (.of t) (keyIssues (.of t) given) given = [] := by
  rw [check, issues]
  split
  next h => simp [h]
  next h => simpa using h

theorem exists_dict_of_check {projection : Value} (h : check t projection = .ok ()) :
    ∃ given, projection = .dict given := by
  cases projection with
  | dict given => exact ⟨given, rfl⟩
  | _ => cases h

/-- A projection without issues has text keys, and so have those below its relations. -/
theorem hasTextKeys_of_arrange_eq_nil (t : ObjectType) (given : List (Value × Value))
    (h : arrange (.of t) (keyIssues (.of t) given) given = []) :
    Throughout HasTextKeys t given := by
  refine .intro (fun k v hmem => ?_) fun name inner next hmem hnext => ?_
  · obtain ⟨name, -, hk⟩ := (arrange_eq_nil h).2 k v hmem
    exact ⟨name, hk⟩
  · obtain ⟨name', e, hk, he, hissues⟩ := valueIssues_eq_nil h _ _ hmem
    cases hk
    rw [Model.expected?_of_target? hnext] at he
    cases he
    have hlt : sizeOf inner < sizeOf given := by
      have := List.sizeOf_lt_of_mem hmem
      simp only [Prod.mk.sizeOf_spec, Value.dict.sizeOf_spec] at this
      omega
    exact hasTextKeys_of_arrange_eq_nil next inner hissues
termination_by sizeOf given

/-- A projection that fits has text keys, and so have those below its relations. -/
theorem Fits.hasTextKeys (h : Fits t given) : Throughout HasTextKeys t given := by
  induction h with
  | intro keys _ _ _ ih =>
    refine .intro (fun k v hmem => ?_) ih
    obtain ⟨name, hk, -⟩ := keys k v hmem
    exact ⟨name, hk⟩

/-- **A projection passes the check of its type when it fits the type.** -/
theorem check_eq_ok_iff_fits : check t (.dict given) = .ok () ↔ Fits t given := by
  have hiff : Throughout HasTextKeys t given →
      (arrange (.of t) (keyIssues (.of t) given) given = [] ↔ Fits t given) := by
    intro htexts
    rw [fits_iff htexts, List.eq_nil_iff_forall_not_mem]
    exact forall_congr' fun issue => not_congr (mem_arrange_iff_violation htexts)
  -- Either side says that the keys are texts.
  rw [check_eq_ok_iff]
  exact ⟨fun h => (hiff (hasTextKeys_of_arrange_eq_nil t given h)).mp h,
    fun h => (hiff h.hasTextKeys).mpr h⟩

end Vocabulary

end HatTree
