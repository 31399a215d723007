import HatTree.Proofs.Vocabulary.Language

/-!
# What a projection that fits selects

A projection that fits a type selects fields of the type. They are read off by normalization, which
refuses the first field that maps to nothing; once such fields are left out, it reads the others.

## Main definitions

* `Projection.dropNull`: a projection without the fields that map to nothing, at every depth
* `Projection.firstNull?`: the first field that maps to nothing
* `Projection.Selects`: what normalization makes of a projection

## Main results

* `Fits.exists_selects`: a projection that fits a type selects fields of the type
* `hasRelation_of_allBelong`: fields of a type meet its relations only
-/

namespace HatTree

namespace Projection

mutual

/-- What stands under a field, without fields that map to nothing. -/
def dropNullBelow : Value → Value
  | .dict given => .dict (dropNull given)
  | v => v

/-- **A projection without the fields that map to nothing**, at every depth. -/
def dropNull : List (Value × Value) → List (Value × Value)
  | [] => []
  | (_, .null) :: rest => dropNull rest
  | (k, v) :: rest => (k, dropNullBelow v) :: dropNull rest

end

mutual

/-- The first field that maps to nothing in what stands under a field. -/
def firstNullBelow? : Value → Option Value
  | .dict given => firstNull? given
  | _ => none

/-- **The first field that maps to nothing**, those below a field before the fields after it. -/
def firstNull? : List (Value × Value) → Option Value
  | [] => none
  | (k, .null) :: _ => some k
  | (_, v) :: rest => (firstNullBelow? v).or (firstNull? rest)

end

/-- A result, unless a field maps to nothing: then that is the fault. -/
def unlessNull {α : Type} (x : α) : Option Value → Except ProjectionFault α
  | none => .ok x
  | some field => .error (.value field "NoneType")

/-- **What normalization makes of a projection that selects fields of a type.** -/
structure Selects (t : ObjectType) (given : List (Value × Value)) (fs : List Field) : Prop where
  /-- The fields belong to the type. -/
  belong : AllBelong t fs
  /-- Without the fields that map to nothing, the fields are read. -/
  dropped : normalize (dropNull given) = .ok (Field.entries fs)
  /-- They are read from the projection itself, up to a field that maps to nothing. -/
  whole : normalize given = unlessNull (Field.entries fs) (firstNull? given)

variable {t next : ObjectType} {rest inner given : List (Value × Value)} {fs : List Field}
  {k : Value} {name : String}

@[simp] theorem firstNull?_cons_bool (b : Bool) :
    firstNull? ((k, .bool b) :: rest) = firstNull? rest := by
  rw [firstNull?, firstNullBelow?, Option.none_or] <;> simp

@[simp] theorem firstNull?_cons_dict :
    firstNull? ((k, .dict inner) :: rest) = (firstNull? inner).or (firstNull? rest) := by
  rw [firstNull?, firstNullBelow?]
  simp

namespace Selects

theorem nil : Selects t [] [] := ⟨.nil, rfl, rfl⟩

theorem cons_null (h : Selects t rest fs) : Selects t ((k, .null) :: rest) fs :=
  ⟨h.belong, h.dropped, rfl⟩

theorem cons_false (h : Selects t rest fs) : Selects t ((k, .bool false) :: rest) fs := by
  refine ⟨h.belong, ?_, ?_⟩
  · show (normalize (dropNull rest) >>= _) = _
    rw [h.dropped]
    rfl
  · show (normalize rest >>= _) = _
    rw [h.whole, firstNull?_cons_bool]
    cases firstNull? rest <;> rfl

theorem cons_true (hname : name ∈ t.scalars) (h : Selects t rest fs) :
    Selects t ((.text name, .bool true) :: rest) (.scalar name :: fs) := by
  refine ⟨.cons (.scalar hname) h.belong, ?_, ?_⟩
  · show (normalize (dropNull rest) >>= _) = _
    rw [h.dropped]
    rfl
  · show (normalize rest >>= _) = _
    rw [h.whole, firstNull?_cons_bool]
    cases firstNull? rest <;> rfl

theorem cons_dict {below : List Field} (hnext : t.target? name = some next)
    (hinner : Selects next inner below) (h : Selects t rest fs) :
    Selects t ((.text name, .dict inner) :: rest) (.relation name below :: fs) := by
  refine ⟨.cons (.relation hnext hinner.belong) h.belong, ?_, ?_⟩
  · show ((normalize (dropNull inner) >>= _) >>= _) = _
    rw [hinner.dropped]
    show (normalize (dropNull rest) >>= _) = _
    rw [h.dropped]
    rfl
  · show ((normalize inner >>= _) >>= _) = _
    rw [hinner.whole, firstNull?_cons_dict]
    cases firstNull? inner with
    | some field => rfl
    | none =>
      -- Nothing is missing below the relation, so that the fields after it are read.
      show (normalize rest >>= _) = _
      rw [h.whole, Option.none_or]
      cases firstNull? rest <;> rfl

end Selects

/-- A projection selects fields when under each scalar stands a truth value and under each relation
a projection that selects fields, unless nothing stands there. -/
theorem exists_selects_of_entries
    (hentries : ∀ k v, (k, v) ∈ given → ∃ name, k = .text name ∧
      (v = .null ∨ (name ∈ t.scalars ∧ ∃ b, v = .bool b) ∨
        ∃ next inner below, t.target? name = some next ∧ v = .dict inner ∧
          Selects next inner below)) :
    ∃ fs, Selects t given fs := by
  induction given with
  | nil => exact ⟨[], .nil⟩
  | cons e rest ih =>
    obtain ⟨k, v⟩ := e
    obtain ⟨fs, hfs⟩ := ih fun k v hmem => hentries k v (List.mem_cons_of_mem _ hmem)
    obtain ⟨name, rfl, rfl | ⟨hname, b, rfl⟩ | ⟨next, inner, below, hnext, rfl, hinner⟩⟩ :=
      hentries k v List.mem_cons_self
    · exact ⟨fs, hfs.cons_null⟩
    · cases b with
      | false => exact ⟨fs, hfs.cons_false⟩
      | true => exact ⟨_, hfs.cons_true hname⟩
    · exact ⟨_, .cons_dict hnext hinner hfs⟩

end Projection

/-- **A projection that fits a type selects fields of the type.** -/
theorem Vocabulary.Fits.exists_selects {t : ObjectType} {given : List (Value × Value)}
    (h : Fits t given) : ∃ fs, Projection.Selects t given fs := by
  induction h with
  | intro keys scalars relations _ ih =>
    refine Projection.exists_selects_of_entries fun k v hmem => ?_
    obtain ⟨name, rfl, hname⟩ := keys k v hmem
    refine ⟨name, rfl, ?_⟩
    rcases hname with hname | ⟨next, hnext⟩
    · rcases scalars name v hmem hname with hnull | hbool
      · exact .inl hnull
      · exact .inr (.inl ⟨hname, hbool⟩)
    · rcases relations name v next hmem hnext with hnull | ⟨inner, rfl⟩
      · exact .inl hnull
      · obtain ⟨below, hbelow⟩ := ih name inner next hmem hnext
        exact .inr (.inr ⟨next, inner, below, hnext, rfl, hbelow⟩)

/-! ## Relations met in fields of a type -/

namespace Selection

mutual

theorem hasRelation_of_belongs {t : ObjectType} : ∀ {f : Field}, Belongs t f →
    ∀ x ∈ fieldRelations t f, x.1.hasRelation x.2 = true
  | _, .scalar _ => fun x hx => by simp [fieldRelations] at hx
  | _, .relation hnext hfields => fun x hx => by
    rw [fieldRelations, hnext, List.mem_cons] at hx
    rcases hx with rfl | hx
    · rw [ObjectType.hasRelation_eq_isSome, hnext]
      rfl
    · exact hasRelation_of_allBelong hfields x hx

/-- **Fields of a type meet relations that exist.** -/
theorem hasRelation_of_allBelong {t : ObjectType} : ∀ {fs : List Field}, AllBelong t fs →
    ∀ x ∈ relationsOf t fs, x.1.hasRelation x.2 = true
  | _, .nil => fun x hx => by simp [relationsOf] at hx
  | _, .cons hf hfs => fun x hx => by
    rw [relationsOf, List.mem_append] at hx
    rcases hx with hx | hx
    · exact hasRelation_of_belongs hf x hx
    · exact hasRelation_of_allBelong hfs x hx

end

end Selection

end HatTree
