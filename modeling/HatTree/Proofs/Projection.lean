import HatTree.Proofs.Ordered
import HatTree.Proofs.Vocabulary.Issues

/-!
# Projections and their entries

Normalizing a projection loses nothing but the fields that map to false. Whether it succeeds is
decided by the values that are reached through nested dictionaries: the first one that is neither a
truth value nor a dictionary is at fault. In the other direction, a projection can be rebuilt from
fields with distinct names, and has them as its entries.

## Main definitions

* `reached`: the entries reached in a projection, each before those below it
* `IsConfig`: projections whose keys are distinct texts, at every depth
* `dropFalse`: a projection without the fields that map to false
* `rebuilt`: the projection that fields stand for

## Main results

* `mem_reached_iff`: what is reached stands here or below a dictionary
* `normalize_eq_error`: the first offending value is the fault
* `normalize_rebuilt`: the fields that a projection was rebuilt from are its entries
* `exists_fields_of_normalize`: what is rebuilt from the entries is the projection without false
* `normalize_exact`: when a projection has entries, and what they keep of it
-/

namespace HatTree

/-- The name of a field. -/
def Field.name : Field → String
  | .scalar name => name
  | .relation name _ => name

/-- **Fields with distinct names**, here and below every relation. -/
inductive DistinctNames : List Field → Prop
  | intro {fs : List Field} (here : (fs.map Field.name).Nodup)
      (below : ∀ name fields, .relation name fields ∈ fs → DistinctNames fields) : DistinctNames fs

namespace Projection

/-- **A projection as callers write it**: its keys are distinct texts, here and in every dictionary
below. -/
inductive IsConfig : List (Value × Value) → Prop
  | intro {given : List (Value × Value)} (here : IsKeyed given)
      (below : ∀ k inner, (k, .dict inner) ∈ given → IsConfig inner) : IsConfig given

/-! ## The values reached -/

mutual

/-- The entries reached below a value. -/
def reachedBelow : Value → List (Value × Value)
  | .dict inner => reached inner
  | _ => []

/-- **The entries reached in a projection** through nested dictionaries, each before those below
it. -/
def reached : List (Value × Value) → List (Value × Value)
  | [] => []
  | (k, v) :: rest => (k, v) :: (reachedBelow v ++ reached rest)

end

/-- Whether a value is neither a truth value nor a projection. -/
def isOffending : Value → Bool
  | .bool _ | .dict _ => false
  | _ => true

theorem isOffending_eq_false_iff {v : Value} :
    isOffending v = false ↔ (∃ b, v = .bool b) ∨ ∃ inner, v = .dict inner := by
  cases v <;> simp [isOffending]

/-- **The first entry reached whose value is offending.** -/
def firstOffending? (given : List (Value × Value)) : Option (Value × Value) :=
  (reached given).find? fun e => isOffending e.2

mutual

theorem exists_normalizeField_eq_ok (name : Value) : ∀ v : Value, isOffending v = false →
    (reachedBelow v).find? (fun e => isOffending e.2) = none →
    ∃ entry, normalizeField name v = .ok entry
  | .bool true | .bool false => fun _ _ => ⟨_, rfl⟩
  | .dict inner => fun _ hnone => by
    obtain ⟨fields, hinner⟩ := exists_normalize_eq_ok inner hnone
    exact ⟨some (.relation name fields), bind_eq_ok.mpr ⟨fields, hinner, rfl⟩⟩
  | .null | .int _ | .float _ | .text _ | .bytes _ | .list _ | .tuple _ | .scalarField _
  | .relationField .. | .selectionNode .. | .ring => fun hv => by cases hv

/-- **Without an offending value a projection has entries.** -/
theorem exists_normalize_eq_ok : ∀ given : List (Value × Value), firstOffending? given = none →
    ∃ es, normalize given = .ok es
  | [] => fun _ => ⟨[], rfl⟩
  | (name, v) :: rest => fun hnone => by
    simp only [firstOffending?, reached, List.find?_eq_none, List.forall_mem_cons,
      List.forall_mem_append, Bool.not_eq_true] at hnone
    obtain ⟨hv, hbelow, hrest⟩ := hnone
    obtain ⟨entry, hentry⟩ := exists_normalizeField_eq_ok name v hv
      (List.find?_eq_none.mpr (by simpa using hbelow))
    obtain ⟨es, hes⟩ := exists_normalize_eq_ok rest (List.find?_eq_none.mpr (by simpa using hrest))
    exact ⟨entry.toList ++ es, bind_eq_ok.mpr ⟨entry, hentry, bind_eq_ok.mpr ⟨es, hes, rfl⟩⟩⟩

end

mutual

theorem normalizeField_eq_error (name : Value) : ∀ (v : Value) {k w : Value},
    ((name, v) :: reachedBelow v).find? (fun e => isOffending e.2) = some (k, w) →
    normalizeField name v = .error (.value k w.typeName)
  | .bool _, _, _ => fun h => by simp [isOffending, reachedBelow] at h
  | .dict inner, _, _ => fun h => by
    -- A dictionary is not offending itself, so that the value lies below it.
    rw [List.find?_cons] at h
    exact bind_eq_error.mpr (.inl (normalize_eq_error inner h))
  | .null, _, _ | .int _, _, _ | .float _, _, _ | .text _, _, _ | .bytes _, _, _ | .list _, _, _
  | .tuple _, _, _ | .scalarField _, _, _ | .relationField .., _, _ | .selectionNode .., _, _
  | .ring, _, _ => fun h => by
    cases h
    rfl

/-- **A projection with an offending value has no entries**, and the first one is the fault. -/
theorem normalize_eq_error : ∀ (given : List (Value × Value)) {k w : Value},
    firstOffending? given = some (k, w) → normalize given = .error (.value k w.typeName)
  | [], _, _ => fun h => by cases h
  | (name, v) :: rest, _, _ => fun h => by
    rw [firstOffending?, reached, ← List.cons_append, List.find?_append] at h
    cases hv : ((name, v) :: reachedBelow v).find? (fun e => isOffending e.2) with
    | some e =>
      rw [hv, Option.some_or] at h
      cases h
      exact bind_eq_error.mpr (.inl (normalizeField_eq_error name v hv))
    | none =>
      -- The first field has its entry, so that the fault lies in a later one.
      rw [hv, Option.none_or] at h
      rw [List.find?_eq_none, List.forall_mem_cons, Bool.not_eq_true] at hv
      obtain ⟨entry, hentry⟩ :=
        exists_normalizeField_eq_ok name v hv.1 (List.find?_eq_none.mpr hv.2)
      exact bind_eq_error.mpr
        (.inr ⟨entry, hentry, bind_eq_error.mpr (.inl (normalize_eq_error rest h))⟩)

end

theorem exists_normalize_eq_ok_iff {given : List (Value × Value)} :
    (∃ es, normalize given = .ok es) ↔ firstOffending? given = none := by
  constructor
  · rintro ⟨es, hes⟩
    by_contra hsome
    obtain ⟨⟨k, w⟩, hfirst⟩ := Option.ne_none_iff_exists'.mp hsome
    rw [normalize_eq_error given hfirst] at hes
    cases hes
  · exact exists_normalize_eq_ok given

theorem fault_of_normalize {given : List (Value × Value)} {fault : ProjectionFault}
    (h : normalize given = .error fault) :
    ∃ k v, firstOffending? given = some (k, v) ∧ fault = .value k v.typeName := by
  cases hfirst : firstOffending? given with
  | none =>
    obtain ⟨es, hes⟩ := exists_normalize_eq_ok given hfirst
    rw [hes] at h
    cases h
  | some e =>
    obtain ⟨k, v⟩ := e
    rw [normalize_eq_error given hfirst] at h
    cases h
    exact ⟨k, v, rfl, rfl⟩

/-- **An entry is reached** where it stands, or below one of the dictionaries. -/
theorem mem_reached_iff {given : List (Value × Value)} {e : Value × Value} :
    e ∈ reached given ↔
      e ∈ given ∨ ∃ k inner, (k, .dict inner) ∈ given ∧ e ∈ reached inner := by
  induction given with
  | nil => simp [reached]
  | cons x rest ih =>
    obtain ⟨k, v⟩ := x
    rw [reached, List.mem_cons, List.mem_append, ih, List.mem_cons]
    constructor
    · rintro (heq | hbelow | hrest | ⟨k', inner, hmem, hinner⟩)
      · exact .inl (.inl heq)
      · cases v with
        | dict inner => exact .inr ⟨k, inner, List.mem_cons_self, hbelow⟩
        | _ => cases hbelow
      · exact .inl (.inr hrest)
      · exact .inr ⟨k', inner, List.mem_cons_of_mem _ hmem, hinner⟩
    · rintro ((heq | hrest) | ⟨k', inner, hmem, hinner⟩)
      · exact .inl heq
      · exact .inr (.inr (.inl hrest))
      · rcases List.mem_cons.mp hmem with heq | hmem
        · cases heq
          exact .inr (.inl hinner)
        · exact .inr (.inr (.inr ⟨k', inner, hmem, hinner⟩))

theorem IsConfig.text_of_mem_reached {given : List (Value × Value)} (h : IsConfig given)
    {k v : Value} (hmem : (k, v) ∈ reached given) : ∃ name, k = .text name := by
  induction h with
  | intro here _ ih =>
    rcases mem_reached_iff.mp hmem with hhere | ⟨k', inner, hin, hbelow⟩
    · exact here.texts k v hhere
    · exact ih k' inner hin hbelow

/-! ## Rebuilding a projection -/

mutual

/-- A value without the fields that map to false. -/
def dropFalseBelow : Value → Value
  | .dict inner => .dict (dropFalse inner)
  | v => v

/-- **A projection without the fields that map to false**, at every depth. -/
def dropFalse : List (Value × Value) → List (Value × Value)
  | [] => []
  | (_, .bool false) :: rest => dropFalse rest
  | (k, v) :: rest => (k, dropFalseBelow v) :: dropFalse rest

end

/-- A table of texts as a dictionary: the last value put under a key counts. -/
def dictOf (table : List (String × Value)) : List (Value × Value) :=
  (Ordered.putAll [] table).map fun (name, v) => (.text name, v)

mutual

/-- What a field puts into a projection: a scalar maps to true, a relation to the projection that
its fields stand for. -/
def rebuiltField : Field → String × Value
  | .scalar name => (name, .bool true)
  | .relation name fields => (name, .dict (dictOf (rebuiltTable fields)))

/-- What fields put into a projection, in their order. -/
def rebuiltTable : List Field → List (String × Value)
  | [] => []
  | f :: fs => rebuiltField f :: rebuiltTable fs

end

/-- **The projection that fields stand for.** -/
def rebuilt (fs : List Field) : List (Value × Value) := dictOf (rebuiltTable fs)

theorem map_fst_rebuiltTable (fs : List Field) :
    (rebuiltTable fs).map (·.1) = fs.map Field.name := by
  induction fs with
  | nil => rfl
  | cons f fs ih =>
    rw [rebuiltTable, List.map_cons, List.map_cons, ih]
    cases f <;> rfl

/-- Under distinct names, every field has its own place. -/
theorem rebuilt_of_nodup {fs : List Field} (h : (fs.map Field.name).Nodup) :
    rebuilt fs = (rebuiltTable fs).map fun (name, v) => (.text name, v) := by
  rw [← map_fst_rebuiltTable] at h
  have htable : Ordered.putAll [] (rebuiltTable fs) = [] ++ rebuiltTable fs :=
    Ordered.putAll_of_nodup h
  rw [rebuilt, dictOf, htable, List.nil_append]

/-- **The fields that a projection was rebuilt from are its entries.** -/
theorem normalize_rebuilt {fs : List Field} (h : DistinctNames fs) :
    normalize (rebuilt fs) = .ok (Field.entries fs) := by
  induction h with
  | @intro fs here below ih =>
    rw [rebuilt_of_nodup here]
    clear here below
    -- The fields of every relation are settled, so that the entries are read one by one.
    induction fs with
    | nil => rfl
    | cons f fs ihfs =>
      have hfield : normalizeField (.text (rebuiltField f).1) (rebuiltField f).2 =
          .ok (some f.entry) := by
        cases f with
        | scalar name => rfl
        | relation name fields =>
          exact bind_eq_ok.mpr ⟨_, ih name fields List.mem_cons_self, rfl⟩
      have hrest := ihfs fun name fields hmem => ih name fields (List.mem_cons_of_mem _ hmem)
      exact bind_eq_ok.mpr ⟨_, hfield, bind_eq_ok.mpr ⟨_, hrest, rfl⟩⟩

theorem keys_dropFalse_sublist (given : List (Value × Value)) :
    ((dropFalse given).map (·.1)).Sublist (given.map (·.1)) := by
  induction given with
  | nil => exact .slnil
  | cons e rest ih =>
    rw [dropFalse.eq_def]
    split
    next heq => cases heq
    next heq =>
      cases heq
      exact .cons _ ih
    next heq =>
      cases heq
      exact .cons_cons _ ih

/-- The fields of a projection at one level, when those of the projections below are known. -/
theorem exists_fields_of_below {given : List (Value × Value)} (texts : HasTextKeys given)
    (hbelow : ∀ k inner, (k, .dict inner) ∈ given → ∀ {es : List Entry}, normalize inner = .ok es →
      ∃ fs, es = Field.entries fs ∧ DistinctNames fs ∧ rebuilt fs = dropFalse inner)
    {es : List Entry} (hes : normalize given = .ok es) :
    ∃ fs, es = Field.entries fs ∧
      (∀ name fields, .relation name fields ∈ fs → DistinctNames fields) ∧
      (rebuiltTable fs).map (fun (name, v) => (.text name, v)) = dropFalse given := by
  induction given generalizing es with
  | nil =>
    cases hes
    exact ⟨[], rfl, by simp, rfl⟩
  | cons e rest ih =>
    obtain ⟨k, v⟩ := e
    obtain ⟨name, rfl⟩ := texts k v List.mem_cons_self
    obtain ⟨entry, hentry, hes⟩ := bind_eq_ok.mp hes
    obtain ⟨es', hrest, hes⟩ := bind_eq_ok.mp hes
    cases hes
    obtain ⟨fs, rfl, hfs, htable⟩ := ih (fun k v hmem => texts k v (List.mem_cons_of_mem _ hmem))
      (fun k inner hmem => hbelow k inner (List.mem_cons_of_mem _ hmem)) hrest
    cases v with
    | bool b =>
      cases b with
      | true =>
        cases hentry
        refine ⟨.scalar name :: fs, rfl, ?_, ?_⟩
        · simpa using hfs
        · rw [rebuiltTable, List.map_cons, htable]
          rfl
      | false =>
        cases hentry
        exact ⟨fs, rfl, hfs, htable⟩
    | dict inner =>
      obtain ⟨fields, hinner, hentry⟩ := bind_eq_ok.mp hentry
      cases hentry
      obtain ⟨gs, rfl, hgs, hrebuilt⟩ := hbelow _ inner List.mem_cons_self hinner
      refine ⟨.relation name gs :: fs, rfl, ?_, ?_⟩
      · intro name' fields hmem
        rcases List.mem_cons.mp hmem with heq | hmem
        · cases heq
          exact hgs
        · exact hfs name' fields hmem
      · rw [rebuiltTable, List.map_cons, htable, dropFalse, dropFalseBelow, ← hrebuilt]
        · rfl
        · simp
    | _ => cases hentry

/-- **What is rebuilt from the entries of a projection is the projection without the fields that map
to false.** -/
theorem exists_fields_of_normalize {given : List (Value × Value)} (h : IsConfig given) :
    ∀ {es : List Entry}, normalize given = .ok es →
      ∃ fs, es = Field.entries fs ∧ DistinctNames fs ∧ rebuilt fs = dropFalse given := by
  induction h with
  | @intro given here _ ih =>
    intro es hes
    obtain ⟨fs, rfl, hbelow, htable⟩ := exists_fields_of_below here.texts ih hes
    -- The names are keys of the projection, and those are distinct.
    have hnames : (fs.map Field.name).Nodup := by
      have hkeys := here.distinct.sublist (keys_dropFalse_sublist given)
      rw [← htable, List.map_map] at hkeys
      rw [← map_fst_rebuiltTable]
      refine List.Nodup.of_map Value.text ?_
      rwa [List.map_map]
    exact ⟨fs, rfl, .intro hnames hbelow, (rebuilt_of_nodup hnames).trans htable⟩

/-- A projection below which nothing is nested. -/
theorem IsConfig.flat {given : List (Value × Value)} (here : IsKeyed given)
    (flat : ∀ k inner, (k, .dict inner) ∉ given) : IsConfig given :=
  .intro here fun k inner hmem => absurd hmem (flat k inner)

/-- **Normalization is exact.** A projection has entries if and only if every value reached in it is
a truth value or a projection, and otherwise the first other value is at fault. What is rebuilt from
the entries is the projection without the fields that map to false; and fields with distinct names
are the entries of the projection that is rebuilt from them. -/
theorem normalize_exact :
    (∀ given, IsConfig given →
      ((∃ es, normalize given = .ok es) ↔
        ∀ e ∈ reached given, (∃ b, e.2 = .bool b) ∨ ∃ inner, e.2 = .dict inner) ∧
      (∀ fault, normalize given = .error fault →
        ∃ name v, firstOffending? given = some (.text name, v) ∧
          fault = .value (.text name) v.typeName ∧
          (report fault).family = .library .inputValidation ∧
          (report fault).details = [("field", .text name)]) ∧
      ∀ es, normalize given = .ok es →
        ∃ fs, es = Field.entries fs ∧ DistinctNames fs ∧ rebuilt fs = dropFalse given) ∧
    ∀ fs, DistinctNames fs → normalize (rebuilt fs) = .ok (Field.entries fs) := by
  refine ⟨fun given h => ⟨?_, ?_, fun es => exists_fields_of_normalize h⟩,
    fun fs => normalize_rebuilt⟩
  · rw [exists_normalize_eq_ok_iff, firstOffending?, List.find?_eq_none]
    refine forall₂_congr fun e _ => ?_
    rw [Bool.not_eq_true, isOffending_eq_false_iff]
  · intro fault hfault
    obtain ⟨k, v, hfirst, rfl⟩ := fault_of_normalize hfault
    obtain ⟨name, rfl⟩ := h.text_of_mem_reached (List.mem_of_find?_eq_some hfirst)
    exact ⟨name, v, hfirst, rfl, rfl, rfl⟩

/-- A field that maps to false is dropped below a relation as well, and the number one below a
relation is at fault before what comes after the relation. -/
theorem normalize_exact_nested :
    (∃ fs, normalize [(.text "prettyId", .bool true), (.text "details", .bool false),
          (.text "admin", .dict [(.text "status", .bool false), (.text "id", .bool true)])] =
        .ok (Field.entries fs) ∧
      rebuilt fs = [(.text "prettyId", .bool true),
        (.text "admin", .dict [(.text "id", .bool true)])]) ∧
    (∃ fault, normalize [(.text "details", .bool false),
          (.text "admin", .dict [(.text "id", .int 1)]), (.text "wearers", .null)] =
        .error fault ∧
      (report fault).family = .library .inputValidation ∧
      (report fault).details = [("field", .text "id")]) ∧
    normalize (rebuilt [.scalar "prettyId", .relation "admin" [.scalar "id"]]) =
      .ok (Field.entries [.scalar "prettyId", .relation "admin" [.scalar "id"]]) := by
  have hgood : IsConfig [(.text "prettyId", .bool true), (.text "details", .bool false),
      (.text "admin", .dict [(.text "status", .bool false), (.text "id", .bool true)])] := by
    refine .intro ⟨by grind [HasTextKeys], by simp⟩ fun k inner hmem => ?_
    obtain ⟨-, rfl⟩ : k = .text "admin" ∧ inner = _ := by simpa using hmem
    exact .flat ⟨by grind [HasTextKeys], by simp⟩ (by simp)
  have hbad : IsConfig [(.text "details", .bool false),
      (.text "admin", .dict [(.text "id", .int 1)]), (.text "wearers", .null)] := by
    refine .intro ⟨by grind [HasTextKeys], by simp⟩ fun k inner hmem => ?_
    obtain ⟨-, rfl⟩ : k = .text "admin" ∧ inner = _ := by simpa using hmem
    exact .flat ⟨by grind [HasTextKeys], by simp⟩ (by simp)
  have hnames : DistinctNames [.scalar "prettyId", .relation "admin" [.scalar "id"]] := by
    refine .intro (by simp [Field.name]) fun name fields hmem => ?_
    obtain ⟨-, rfl⟩ : name = "admin" ∧ fields = _ := by simpa using hmem
    exact .intro (by simp [Field.name]) (by simp)
  refine ⟨?_, ?_, normalize_exact.2 _ hnames⟩
  · obtain ⟨fs, hes, -, hfs⟩ := (normalize_exact.1 _ hgood).2.2 _ rfl
    exact ⟨fs, congrArg Except.ok hes, hfs⟩
  · obtain ⟨name, v, hfirst, -, hfamily, hdetails⟩ := (normalize_exact.1 _ hbad).2.1 _ rfl
    cases hfirst
    exact ⟨_, rfl, hfamily, hdetails⟩

end Projection

end HatTree
