import HatTree.Projection
import HatTree.Proofs.Reading
import HatTree.Proofs.Selection.Field
import HatTree.Vocabulary

/-!
# What the vocabulary lets through

The models of projections and the tables of the schema list the same fields, and follow a relation
to the same type. A projection that passes the check of its type therefore names fields of the type
only, at every depth: under the name of a scalar stands a truth value, under the name of a relation
a projection from the type that it points at. The fields that it selects belong to the schema.

## Main definitions

* `Belongs`, `AllBelong`: fields that belong to a type

## Main results

* `Model.fields_of`: the model of a type lists the fields of the schema
* `arrange_eq_nil`: without issues every key is a field, and nothing is wrong under it
* `allBelong_of_check`: the fields of a checked projection belong to its type
-/

namespace HatTree

theorem ObjectType.mem_fields_iff {t : ObjectType} {name : String} :
    name ∈ t.fields ↔ name ∈ t.scalars ∨ (t.target? name).isSome = true := by
  rw [fields, List.mem_append, ← hasRelation_eq_isSome, hasRelation, List.contains_iff_mem]

mutual

/-- **A field that belongs to a type**: one of its scalars, or one of its relations with fields that
belong to the type it points at. -/
inductive Belongs : ObjectType → Field → Prop
  /-- A scalar of the type. -/
  | scalar {t : ObjectType} {name : String} (hname : name ∈ t.scalars) : Belongs t (.scalar name)
  /-- A relation of the type. -/
  | relation {t next : ObjectType} {name : String} {fields : List Field}
      (hnext : t.target? name = some next) (hfields : AllBelong next fields) :
      Belongs t (.relation name fields)

/-- **Fields that all belong to a type.** -/
inductive AllBelong : ObjectType → List Field → Prop
  /-- No fields. -/
  | nil {t : ObjectType} : AllBelong t []
  /-- One more field. -/
  | cons {t : ObjectType} {f : Field} {fs : List Field} (hf : Belongs t f) (hfs : AllBelong t fs) :
      AllBelong t (f :: fs)

end

/-! ## Entries of a projection -/

namespace Projection

/-- An entry comes from a truth value, or from a projection of its own. -/
theorem normalizeField_eq_ok {name v : Value} {e : Entry}
    (h : normalizeField name v = .ok (some e)) :
    (v = .bool true ∧ e = .scalar name) ∨
      ∃ inner fields, v = .dict inner ∧ normalize inner = .ok fields ∧
        e = .relation name fields := by
  cases v with
  | bool b =>
    cases b with
    | true =>
      cases h
      exact .inl ⟨rfl, rfl⟩
    | false => cases h
  | dict inner =>
    obtain ⟨fields, hinner, hfields⟩ := bind_eq_ok.mp h
    cases hfields
    exact .inr ⟨inner, fields, rfl, hinner, rfl⟩
  | _ => cases h

/-- The first key of a projection has an entry of its own, or none. -/
theorem normalize_cons_eq_ok {name v : Value} {rest : List (Value × Value)} {es : List Entry}
    (h : normalize ((name, v) :: rest) = .ok es) :
    normalize rest = .ok es ∨
      ∃ e es', es = e :: es' ∧ normalizeField name v = .ok (some e) ∧ normalize rest = .ok es' := by
  obtain ⟨entry, hentry, h⟩ := bind_eq_ok.mp h
  obtain ⟨es', hrest, h⟩ := bind_eq_ok.mp h
  cases h
  cases entry with
  | none => exact .inl hrest
  | some e => exact .inr ⟨e, es', rfl, hentry, hrest⟩

end Projection

/-! ## Models and the schema -/

theorem ObjectType.target?_eq_none_of_mem_scalars {t : ObjectType} {name : String}
    (hname : name ∈ t.scalars) : t.target? name = none := by
  have hall : ∀ name ∈ t.scalars, t.target? name = none := by cases t <;> decide
  exact hall name hname

namespace Vocabulary

namespace Model

/-- **The model of a type lists the fields of the schema**: its scalars, then its relations, each
with the model of the type it points at. -/
theorem fields_of (t : ObjectType) :
    (of t).fields = t.scalars.map (fun name => (name, .truth)) ++
      t.relations.map fun (name, next) => (name, .nested (of next)) := by
  cases t <;> rfl

theorem fieldNames_of (t : ObjectType) : (of t).fieldNames = t.fields := by
  cases t <;> rfl

variable {t next : ObjectType} {name : String}

/-- Names that all take the same are looked up by whether they occur. -/
theorem lookup_map_const {names : List String} {e : Expected} :
    (names.map fun name => (name, e)).lookup name = if name ∈ names then some e else none := by
  induction names with
  | nil => rfl
  | cons x xs ih =>
    rw [List.map_cons, List.lookup_cons, ih]
    by_cases h : name = x
    · simp [h]
    · simp [h, beq_eq_false_iff_ne.mpr h]

/-- Names that each take something of their own are looked up by what they stand for. -/
theorem lookup_map_snd {α β : Type} (f : α → β) (es : List (String × α)) :
    (es.map fun (name, x) => (name, f x)).lookup name = (es.lookup name).map f := by
  induction es with
  | nil => rfl
  | cons x xs ih =>
    rw [List.map_cons, List.lookup_cons, List.lookup_cons, ih]
    cases name == x.1 <;> rfl

/-- **What the model of a type takes under a name**: a truth value under a scalar, a projection of
its target under a relation. -/
theorem expected?_of (t : ObjectType) (name : String) :
    (of t).expected? name = if name ∈ t.scalars then some .truth
      else (t.target? name).map fun next => .nested (of next) := by
  rw [expected?, fields_of, List.lookup_append, lookup_map_const,
    lookup_map_snd fun next => Expected.nested (of next), ObjectType.target?]
  split <;> rfl

theorem expected?_of_mem_scalars (hname : name ∈ t.scalars) :
    (of t).expected? name = some .truth := by
  rw [expected?_of, if_pos hname]

theorem expected?_of_target? (hnext : t.target? name = some next) :
    (of t).expected? name = some (.nested (of next)) := by
  have hname : name ∉ t.scalars := fun h => by
    rw [ObjectType.target?_eq_none_of_mem_scalars h] at hnext
    cases hnext
  rw [expected?_of, if_neg hname, hnext]
  rfl

/-- What a model takes under a name says whether that is a scalar or a relation. -/
theorem expected?_of_eq_some {e : Expected} (he : (of t).expected? name = some e) :
    (name ∈ t.scalars ∧ e = .truth) ∨
      ∃ next, t.target? name = some next ∧ e = .nested (of next) := by
  rw [expected?_of] at he
  split at he
  next hname => exact .inl ⟨hname, (Option.some.inj he).symm⟩
  next =>
    obtain ⟨next, hnext, rfl⟩ := Option.map_eq_some_iff.mp he
    exact .inr ⟨next, hnext, rfl⟩

theorem exists_expected?_of (hname : name ∈ t.fields) : ∃ e, (of t).expected? name = some e := by
  rcases ObjectType.mem_fields_iff.mp hname with hs | hr
  · exact ⟨_, expected?_of_mem_scalars hs⟩
  · obtain ⟨next, hnext⟩ := Option.isSome_iff_exists.mp hr
    exact ⟨_, expected?_of_target? hnext⟩

/-- A model takes nothing under other names. -/
theorem mem_fields_of_expected? {e : Expected} (he : (of t).expected? name = some e) :
    name ∈ t.fields := by
  rcases expected?_of_eq_some he with ⟨hs, -⟩ | ⟨next, hnext, -⟩
  · exact ObjectType.mem_fields_iff.mpr (.inl hs)
  · exact ObjectType.mem_fields_iff.mpr (.inr (by rw [hnext]; rfl))

end Model

/-! ## Projections without issues -/

variable {t : ObjectType} {m : Model} {name : String}

/-- **Every key is an expected text** when there is no issue about keys. -/
theorem exists_of_unknownKeys_eq_nil {known : List String} {given : List (Value × Value)}
    (h : Reading.unknownKeys known given = []) {k v : Value} (hmem : (k, v) ∈ given) :
    ∃ name ∈ known, k = .text name := by
  have hnone := List.filterMap_eq_nil_iff.mp h _ hmem
  dsimp only at hnone
  split at hnone
  next name =>
    split at hnone
    next hknown => exact ⟨name, List.contains_iff_mem.mp hknown, rfl⟩
    next => cases hnone
  next => cases hnone

/-- **Without issues every key is a field**, and nothing is wrong under a field. -/
theorem arrange_eq_nil {found : List (String × List Issue)} {given : List (Value × Value)}
    (h : arrange m found given = []) :
    (∀ name ∈ m.fieldNames, ∀ issues, (name, issues) ∈ found → issues = []) ∧
      ∀ k v, (k, v) ∈ given → ∃ name ∈ m.fieldNames, k = .text name := by
  rw [arrange, List.append_eq_nil_iff] at h
  obtain ⟨hfound, hkeys⟩ := h
  refine ⟨fun name hname issues hmem => ?_, fun k v => exists_of_unknownKeys_eq_nil hkeys⟩
  have hunder := List.flatMap_eq_nil_iff.mp hfound name hname
  have hissues := List.flatMap_eq_nil_iff.mp hunder (name, issues)
    (List.mem_filter.mpr ⟨hmem, beq_self_eq_true name⟩)
  exact List.map_eq_nil_iff.mp hissues

/-- **The issues found under the fields of a projection** are those about what stands under each. -/
theorem mem_keyIssues {given : List (Value × Value)} {found : List Issue} :
    (name, found) ∈ keyIssues m given ↔
      ∃ v e, (.text name, v) ∈ given ∧ m.expected? name = some e ∧ found = valueIssues e v := by
  induction given with
  | nil => simp [keyIssues]
  | cons x rest ih =>
    obtain ⟨k, v⟩ := x
    cases k with
    | text name' =>
      rw [keyIssues]
      cases he : m.expected? name' with
      | none =>
        -- A key that is no field has no issues of its own.
        simp only [ih, List.mem_cons, Prod.mk.injEq, Value.text.injEq]
        constructor
        · rintro ⟨v', e, hmem, he', rfl⟩
          exact ⟨v', e, .inr hmem, he', rfl⟩
        · rintro ⟨v', e, ⟨rfl, -⟩ | hmem, he', rfl⟩
          · rw [he] at he'
            cases he'
          · exact ⟨v', e, hmem, he', rfl⟩
      | some e =>
        simp only [List.mem_cons, ih, Prod.mk.injEq, Value.text.injEq]
        constructor
        · rintro (⟨rfl, rfl⟩ | ⟨v', e', hmem, he', rfl⟩)
          · exact ⟨v, e, .inl ⟨rfl, rfl⟩, he, rfl⟩
          · exact ⟨v', e', .inr hmem, he', rfl⟩
        · rintro ⟨v', e', ⟨rfl, rfl⟩ | hmem, he', rfl⟩
          · rw [he] at he'
            cases he'
            exact .inl ⟨rfl, rfl⟩
          · exact .inr ⟨v', e', hmem, he', rfl⟩
    | _ => simp [keyIssues, ih]

/-- **Under every key of a projection without issues stands what its field takes.** -/
theorem valueIssues_eq_nil {given : List (Value × Value)}
    (h : arrange (.of t) (keyIssues (.of t) given) given = []) :
    ∀ k v, (k, v) ∈ given →
      ∃ name e, k = .text name ∧ (Model.of t).expected? name = some e ∧ valueIssues e v = [] := by
  intro k v hmem
  obtain ⟨hfound, hkeys⟩ := arrange_eq_nil h
  obtain ⟨name, hname, rfl⟩ := hkeys k v hmem
  obtain ⟨e, he⟩ := Model.exists_expected?_of (t := t) (Model.fieldNames_of t ▸ hname)
  exact ⟨name, e, rfl, he, hfound name hname _ (mem_keyIssues.mpr ⟨v, e, hmem, he, rfl⟩)⟩

/-! ## The fields of a checked projection -/

mutual

/-- A field that is selected without issues belongs to the type. -/
theorem belongs_of_valueIssues (t : ObjectType) {name : String} {e : Expected}
    (he : (Model.of t).expected? name = some e) :
    ∀ (v : Value) {f : Field}, valueIssues e v = [] →
      Projection.normalizeField (.text name) v = .ok (some f.entry) → Belongs t f
  | .bool true, .scalar _ => fun h hentry => by
    cases hentry
    -- Only a scalar takes a truth value.
    rcases Model.expected?_of_eq_some he with ⟨hname, -⟩ | ⟨next, -, rfl⟩
    · exact .scalar hname
    · cases h
  | .dict inner, .relation name' fields => fun h hentry => by
    obtain ⟨es, hinner, hes⟩ := bind_eq_ok.mp hentry
    cases hes
    -- Under a relation, the issues are those of the projection from the type it points at.
    rcases Model.expected?_of_eq_some he with ⟨-, rfl⟩ | ⟨next, hnext, rfl⟩
    · cases h
    · rw [valueIssues] at h
      exact .relation hnext (allBelong_of_keyIssues next inner (valueIssues_eq_nil h) hinner)
  | .dict inner, .scalar _ => fun _ hentry => by
    obtain ⟨es, -, hes⟩ := bind_eq_ok.mp hentry
    cases hes
  | .bool true, .relation .. | .bool false, _ | .null, _ | .int _, _ | .float _, _ | .text _, _
  | .bytes _, _ | .list _, _ | .tuple _, _ | .scalarField _, _ | .relationField .., _
  | .selectionNode .., _ | .ring, _ => fun _ hentry => by cases hentry

/-- **Fields that are selected without issues belong to the type.** -/
theorem allBelong_of_keyIssues (t : ObjectType) :
    ∀ (given : List (Value × Value)) {fs : List Field},
      (∀ k v, (k, v) ∈ given →
        ∃ name e, k = .text name ∧ (Model.of t).expected? name = some e ∧ valueIssues e v = []) →
      Projection.normalize given = .ok (Field.entries fs) → AllBelong t fs
  | [], fs => fun _ hentries => by
    cases fs with
    | nil => exact .nil
    | cons f fs => cases hentries
  | (k, v) :: rest, fs => fun hall hentries => by
    have hrest := fun k v hmem => hall k v (List.mem_cons_of_mem _ hmem)
    rcases Projection.normalize_cons_eq_ok hentries with hes | ⟨e, es, heq, hentry, hes⟩
    · -- A field that maps to false is left out.
      exact allBelong_of_keyIssues t rest hrest hes
    · cases fs with
      | nil => cases heq
      | cons f fs =>
        cases heq
        obtain ⟨name, e, rfl, he, hv⟩ := hall k v List.mem_cons_self
        exact .cons (belongs_of_valueIssues t he v hv hentry)
          (allBelong_of_keyIssues t rest hrest hes)

end

/-- **The fields of a checked projection belong to its type.** -/
theorem allBelong_of_check {given : List (Value × Value)} {fs : List Field}
    (hcheck : check t (.dict given) = .ok ())
    (hentries : Projection.normalize given = .ok (Field.entries fs)) : AllBelong t fs := by
  rw [check] at hcheck
  split at hcheck
  next h => exact allBelong_of_keyIssues t given (valueIssues_eq_nil h) hentries
  next => cases hcheck

end Vocabulary

end HatTree
