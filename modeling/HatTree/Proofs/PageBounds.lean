import HatTree.PageBounds
import HatTree.Proofs.Ordered
import HatTree.Proofs.Reading

/-!
# Bounds as they are given

The bounds that pass the check are those of the raw table: the bound of a relation is what stands
under its name in the dictionary under the name of its type, and it is above zero.

## Main definitions

* `givenTable`: the dictionary that a raw table gives for a type
* `givenBound`: the bound that it gives for a relation
* `Filters.resolved`: the bound of a relation, with the page size where none is given

## Main results

* `bound?_eq_givenBound`: checked bounds are the given ones
* `givenBound_pos`: bounds that pass the check are above zero
-/

namespace HatTree

namespace PageBounds

/-- **The dictionary that a raw table gives for a type**: it stands under the name of the type, that
of claims hatters also under another spelling. -/
def givenTable (entries : List (Value × Value)) (t : ObjectType) : List (Value × Value) :=
  match (Value.lookup t.label entries).or
      (if t = .claimsHatter then Value.lookup "claims_hatter" entries else none) with
  | some (.dict given) => given
  | _ => []

/-- The bound that an entry gives for a relation. -/
def boundUnder (relation : String) (e : Value × Value) : Option Int :=
  match Reading.text e.1, e.2 with
  | .ok name, .int n => if name = relation then some n else none
  | _, _ => none

@[simp] theorem boundUnder_text (relation name : String) (n : Int) :
    boundUnder relation (.text name, .int n) = if name = relation then some n else none := rfl

/-- **The bound that a raw table gives for a relation of a type**: the last one under its name. -/
def givenBound (filters : Value) (t : ObjectType) (relation : String) : Option Int :=
  match filters with
  | .dict entries => (givenTable entries t).reverse.findSome? (boundUnder relation)
  | _ => none

/-- The key under which the bounds of a type are read. -/
def tableKey (entries : List (Value × Value)) : ObjectType → String
  | .claimsHatter => claimsHatterKey entries
  | t => t.label

theorem lookup_tableKey (entries : List (Value × Value)) (t : ObjectType) :
    Value.lookup (tableKey entries t) entries =
      (Value.lookup t.label entries).or
        (if t = .claimsHatter then Value.lookup "claims_hatter" entries else none) := by
  cases t with
  | claimsHatter =>
    rw [tableKey, claimsHatterKey, ObjectType.label, if_pos rfl]
    -- The name of the type goes before its other spelling.
    cases h : Value.lookup "claimsHatter" entries with
    | some v => rw [Option.isSome_some, if_pos rfl, h, Option.some_or]
    | none =>
      rw [Option.isSome_none, if_neg (by simp), Option.none_or]
      cases h' : Value.lookup "claims_hatter" entries with
      | some v => rw [Option.isSome_some, if_pos rfl, h']
      | none => rw [Option.isSome_none, if_neg (by simp), h]
  | _ => simp [tableKey]

theorem readField_of_read {entries : List (Value × Value)} {b : PageBounds}
    (h : read (.dict entries) = .ok b) (t : ObjectType) :
    readField entries (tableKey entries t) = .ok (b.table t) := by
  rw [read, Checked.guarded_eq_ok] at h
  obtain ⟨-, h⟩ := h
  obtain ⟨hat, hhat, h⟩ := bind_eq_ok.mp h
  obtain ⟨tree, htree, h⟩ := bind_eq_ok.mp h
  obtain ⟨wearer, hwearer, h⟩ := bind_eq_ok.mp h
  obtain ⟨event, hevent, h⟩ := bind_eq_ok.mp h
  obtain ⟨claimsHatter, hclaims, h⟩ := bind_eq_ok.mp h
  cases h
  cases t with
  | hat => exact hhat
  | tree => exact htree
  | wearer => exact hwearer
  | event => exact hevent
  | claimsHatter => exact hclaims

/-- An entry that is read as a bound of a relation. -/
def IsReadAs (e : Value × Value) (r : String × Int) : Prop :=
  Reading.text e.1 = .ok r.1 ∧ e.2 = .int r.2 ∧ 0 < r.2

/-- The table read for a type has the entries of the dictionary given for it. -/
theorem table_of_read {entries : List (Value × Value)} {b : PageBounds}
    (h : read (.dict entries) = .ok b) (t : ObjectType) :
    ∃ es, b.table t = Ordered.putAll [] es ∧
      List.Forall₂ IsReadAs (givenTable entries t) es := by
  have hkey := lookup_tableKey entries t
  rcases Reading.field_eq_ok (readField_of_read h t) with ⟨hnone, htable⟩ | ⟨v, hsome, hread⟩
  · refine ⟨[], htable, ?_⟩
    rw [givenTable, ← hkey, hnone]
    exact .nil
  · obtain ⟨given, es, rfl, hes, htable⟩ := Reading.table_eq_ok hread
    refine ⟨es, htable, ?_⟩
    rw [givenTable, ← hkey, hsome]
    exact (Reading.entries_eq_ok hes).imp fun e r ⟨hk, hv⟩ =>
      ⟨hk, Reading.positive_strictInt_eq_ok.mp hv⟩

/-- Looking a relation up among the entries read is looking for its bound among those given. -/
theorem lookup_eq_findSome? {given : List (Value × Value)} {es : List (String × Int)}
    (h : List.Forall₂ IsReadAs given es) (relation : String) :
    es.lookup relation = given.findSome? (boundUnder relation) := by
  induction h with
  | nil => rfl
  | @cons e r given es he _ ih =>
    obtain ⟨hk, hv, -⟩ := he
    -- On its own entry a bound is found by name, as a look-up does.
    have hunder : boundUnder relation e = if r.1 = relation then some r.2 else none := by
      rw [boundUnder, hk, hv]
    rw [List.lookup_cons, List.findSome?_cons, hunder, ih]
    by_cases hr : r.1 = relation
    · rw [if_pos hr, beq_iff_eq.mpr hr.symm]
    · have hne : (relation == r.1) = false := beq_eq_false_iff_ne.mpr (Ne.symm hr)
      rw [if_neg hr, hne]

theorem pos_of_boundUnder {given : List (Value × Value)} {es : List (String × Int)}
    (h : List.Forall₂ IsReadAs given es) {e : Value × Value} (he : e ∈ given) {relation : String}
    {n : Int} (hn : boundUnder relation e = some n) : 1 ≤ n := by
  induction h with
  | nil => cases he
  | @cons e' r given es he' _ ih =>
    rcases List.mem_cons.mp he with rfl | he
    · obtain ⟨hk, hv, hpos⟩ := he'
      rw [boundUnder, hk, hv] at hn
      by_cases hr : r.1 = relation
      · simp only [if_pos hr, Option.some.injEq] at hn
        exact hn ▸ hpos
      · simp only [if_neg hr, reduceCtorEq] at hn
    · exact ih he

/-- **Checked bounds are the given ones.** -/
theorem bound?_eq_givenBound {filters : Value} {b : PageBounds} (h : read filters = .ok b)
    (t : ObjectType) (relation : String) :
    b.bound? t relation = givenBound filters t relation := by
  cases filters with
  | dict entries =>
    obtain ⟨es, htable, hes⟩ := table_of_read h t
    -- A name may be given in bytes and as a text; the later of the two stands.
    rw [bound?, htable, Ordered.lookup_putAll, List.lookup_nil, Option.or_none, givenBound]
    exact lookup_eq_findSome? (List.forall₂_reverse_iff.mpr hes) relation
  | _ => cases h

/-- **Bounds that pass the check are above zero.** -/
theorem givenBound_pos {filters : Value} {b : PageBounds} (h : read filters = .ok b)
    {t : ObjectType} {relation : String} {n : Int} (hn : givenBound filters t relation = some n) :
    1 ≤ n := by
  cases filters with
  | dict entries =>
    obtain ⟨es, -, hes⟩ := table_of_read h t
    obtain ⟨e, he, hen⟩ := List.exists_of_findSome?_eq_some hn
    rw [List.mem_reverse] at he
    exact pos_of_boundUnder hes he hen
  | _ => cases h

end PageBounds

/-! ## Bounds as callers give them -/

/-- **The bound that a caller gives for a relation of a type**, if any. -/
def Filters.givenBound : Filters → ObjectType → String → Option Int
  | .absent, _, _ => none
  | .raw v, t, relation => PageBounds.givenBound v t relation
  | .ready b, t, relation => b.bound? t relation

/-- **The bound of a relation**: the given one, or the page size. -/
def Filters.resolved (filters : Filters) (size : Int) (t : ObjectType) (relation : String) : Int :=
  (filters.givenBound t relation).getD size

theorem Filters.bounds_raw_eq_ok {v : Value} {bounds : Option PageBounds}
    (h : (Filters.raw v).bounds = .ok bounds) :
    ∃ b, PageBounds.read v = .ok b ∧ bounds = some b := by
  rw [Filters.bounds] at h
  cases hread : PageBounds.read v with
  | error issues =>
    rw [hread] at h
    cases h
  | ok b =>
    rw [hread] at h
    cases h
    exact ⟨b, rfl, rfl⟩

/-- Bounds that pass the check are those that the caller gives. -/
theorem Filters.bind_bound?_eq_givenBound {filters : Filters} {bounds : Option PageBounds}
    (h : filters.bounds = .ok bounds) (t : ObjectType) (relation : String) :
    (bounds.bind fun b => b.bound? t relation) = filters.givenBound t relation := by
  cases filters with
  | raw v =>
    obtain ⟨b, hread, rfl⟩ := Filters.bounds_raw_eq_ok h
    exact PageBounds.bound?_eq_givenBound hread t relation
  | _ =>
    cases h
    rfl

/-- **Bounds given as a value** pass the check when there are none, or when the raw table does. -/
theorem Filters.bounds_ofValue_eq_ok {v : Value} {bounds : Option PageBounds}
    (h : (Filters.ofValue v).bounds = .ok bounds) :
    (v = .null ∧ bounds = none) ∨ ∃ b, PageBounds.read v = .ok b ∧ bounds = some b := by
  cases v with
  | null =>
    cases h
    exact .inl ⟨rfl, rfl⟩
  | _ => exact .inr (Filters.bounds_raw_eq_ok h)

end HatTree
