import HatTree.Selection

/-!
# Fields and the selections they stand for

What a caller selects is a tree of named fields. Resolving it follows the schema from relation to
relation; the relations that are met on the way, each with the type it starts from, decide whether
there is a selection, and what it looks like. Each of them has to exist, and its bound must not be
too long to be written.

## Main definitions

* `Field`: a selected field whose names are texts
* `relationsOf`: the relations met from a type, in the order in which they are met
* `firstRefused?`, `refusal`: the first relation met that cannot be selected, and its fault
* `NodesFor`, `IsSelection`: the nodes that fields stand for

## Main results

* `nodesOf_eq_error`: the first relation that cannot be selected is the fault
* `exists_nodesOf_eq_ok`: without one, the fields have their nodes
-/

namespace HatTree

/-- **A selected field**: a scalar, or a relation with the fields selected of what it points at. -/
inductive Field where
  /-- A scalar field. -/
  | scalar (name : String)
  /-- A relation. -/
  | relation (name : String) (fields : List Field)

mutual

/-- A field as an entry. -/
def Field.entry : Field → Entry
  | .scalar name => .scalar (.text name)
  | .relation name fields => .relation (.text name) (Field.entries fields)

/-- Fields as entries. -/
def Field.entries : List Field → List Entry
  | [] => []
  | f :: fs => f.entry :: Field.entries fs

end

/-- Whether a type has a relation of a name. -/
def ObjectType.hasRelation (t : ObjectType) (relation : String) : Bool :=
  (t.relations.map (·.1)).contains relation

theorem ObjectType.hasRelation_eq_isSome (t : ObjectType) (relation : String) :
    t.hasRelation relation = (t.target? relation).isSome := by
  rw [hasRelation, target?]
  induction t.relations with
  | nil => rfl
  | cons e rest ih =>
    rw [List.map_cons, List.contains_cons, List.lookup_cons, ih]
    cases relation == e.1 <;> rfl

theorem ObjectType.isEventList_iff {t : ObjectType} {relation : String} :
    t.isEventList relation = true ↔ (t = .hat ∨ t = .tree) ∧ relation = "events" := by
  simp [isEventList]

namespace Selection

mutual

/-- The relations met in a field from a type, each with the type it starts from. -/
def fieldRelations (t : ObjectType) : Field → List (ObjectType × String)
  | .scalar _ => []
  | .relation name fields =>
    (t, name) :: match t.target? name with
      | some next => relationsOf next fields
      | none => []

/-- **The relations met in fields from a type**: those of each field before those of the next, and
each relation before those below it. -/
def relationsOf (t : ObjectType) : List Field → List (ObjectType × String)
  | [] => []
  | f :: fs => fieldRelations t f ++ relationsOf t fs

end

/-- **Whether a relation met can be selected**: the type it starts from has it, and its bound can be
written. -/
def isSelectable (bound : ObjectType → String → Int) (x : ObjectType × String) : Bool :=
  x.1.hasRelation x.2 && Numeral.isWritable (bound x.1 x.2)

/-- **The first relation met that cannot be selected.** -/
def firstRefused? (bound : ObjectType → String → Int) (t : ObjectType) (fs : List Field) :
    Option (ObjectType × String) :=
  (relationsOf t fs).find? fun x => !isSelectable bound x

/-- The fault of a relation that cannot be selected: it is unknown, or its bound is too long. -/
def refusal (x : ObjectType × String) : Fault :=
  if x.1.hasRelation x.2 then .bound x.1 x.2 {} else .relation ⟨x.1, .text x.2⟩

/-! ## The nodes of fields -/

mutual

/-- A node of texts as a node. -/
def unspellNode : Node String → Node Value
  | .mk name arguments children => .mk (.text name) arguments (unspell children)

/-- Nodes of texts as nodes. -/
def unspell : List (Node String) → List (Node Value)
  | [] => []
  | n :: ns => unspellNode n :: unspell ns

end

/-- The arguments of a relation with a bound: two types order their events. -/
def argumentsOf (bound : ObjectType → String → Int) (t : ObjectType) (relation : String) :
    List (String × String) :=
  (if (t = .hat ∨ t = .tree) ∧ relation = "events" then
    [("orderBy", "timestamp"), ("orderDirection", "desc")] else []) ++
    [("first", Numeral.decimal (bound t relation))]

mutual

/-- **The node of a field of a type**: a scalar is a leaf; a relation has its arguments, and below
it the id and the nodes of its fields. -/
inductive NodeFor (bound : ObjectType → String → Int) : ObjectType → Field → Node String → Prop
  /-- The node of a scalar. -/
  | scalar {t : ObjectType} {name : String} : NodeFor bound t (.scalar name) (.leaf name)
  /-- The node of a relation. -/
  | relation {t next : ObjectType} {name : String} {fields : List Field}
      {children : List (Node String)} (hnext : t.target? name = some next)
      (hchildren : NodesFor bound next fields children) :
      NodeFor bound t (.relation name fields)
        (.mk name (argumentsOf bound t name) (.leaf idField :: children))

/-- **The nodes of fields of a type**, one for each in their order. -/
inductive NodesFor (bound : ObjectType → String → Int) :
    ObjectType → List Field → List (Node String) → Prop
  /-- No nodes. -/
  | nil {t : ObjectType} : NodesFor bound t [] []
  /-- One more node. -/
  | cons {t : ObjectType} {f : Field} {fs : List Field} {n : Node String}
      {ns : List (Node String)} (hn : NodeFor bound t f n) (hns : NodesFor bound t fs ns) :
      NodesFor bound t (f :: fs) (n :: ns)

end

/-- **A selection of fields**: the id, then the nodes of the fields. -/
def IsSelection (bound : ObjectType → String → Int) (t : ObjectType) (fs : List Field)
    (nodes : List (Node String)) : Prop :=
  ∃ ns, nodes = .leaf idField :: ns ∧ NodesFor bound t fs ns

mutual

/-- The field that a node selects: its name, and what its children select without the id. -/
def fieldOf : Node String → Field
  | .mk name _ [] => .scalar name
  | .mk name _ (_ :: children) => .relation name (fieldsOf children)

/-- The fields that nodes select. -/
def fieldsOf : List (Node String) → List Field
  | [] => []
  | n :: ns => fieldOf n :: fieldsOf ns

end

/-! ## Resolving fields -/

section Resolve

variable (p : Paging)

theorem resolve_text (t : ObjectType) (name : String) :
    resolve t (.text name) = match t.target? name with
      | some next => .ok (name, next)
      | none => .error (.relation ⟨t, .text name⟩) := rfl

/-- The arguments of a relation are those for the bounds of the paging, if its bound can be
written. -/
theorem arguments_eq (t : ObjectType) (relation : String) :
    p.arguments t relation =
      if Numeral.isWritable (p.bound t relation) then .ok (argumentsOf p.bound t relation)
      else .error {} := by
  rw [Paging.arguments, argumentsOf, Numeral.write]
  simp only [ObjectType.isEventList_iff]
  split <;> rfl

theorem eq_argumentsOf_of_eq_ok {t : ObjectType} {relation : String}
    {arguments : List (String × String)} (h : p.arguments t relation = .ok arguments) :
    arguments = argumentsOf p.bound t relation := by
  rw [arguments_eq] at h
  split at h
  · exact (Except.ok.inj h).symm
  · cases h

/-- **A selectable relation** exists, and has its arguments. -/
theorem exists_of_isSelectable {t : ObjectType} {name : String}
    (h : isSelectable p.bound (t, name) = true) :
    ∃ next, t.target? name = some next ∧ resolve t (.text name) = .ok (name, next) ∧
      p.arguments t name = .ok (argumentsOf p.bound t name) := by
  rw [isSelectable, Bool.and_eq_true, ObjectType.hasRelation_eq_isSome] at h
  obtain ⟨hname, hbound⟩ := h
  obtain ⟨next, hnext⟩ := Option.isSome_iff_exists.mp hname
  exact ⟨next, hnext, by rw [resolve_text, hnext], by rw [arguments_eq, if_pos hbound]⟩

/-- **A relation that is not selectable** is refused before anything below it is looked at. -/
theorem nodeOf_relation_eq_error {t : ObjectType} {name : String} {fields : List Entry}
    (h : isSelectable p.bound (t, name) = false) :
    nodeOf p t (.relation (.text name) fields) = .error (refusal (t, name)) := by
  rw [nodeOf, resolve_text, refusal, ObjectType.hasRelation_eq_isSome]
  rw [isSelectable, ObjectType.hasRelation_eq_isSome] at h
  cases hnext : t.target? name with
  | none => rfl
  | some next =>
    rw [hnext, Option.isSome_some, Bool.true_and] at h
    rw [Option.isSome_some, if_pos rfl]
    show ((p.arguments t name).mapError _ >>= _) = _
    rw [arguments_eq, h]
    rfl

mutual

theorem exists_nodeOf_eq_ok (t : ObjectType) : ∀ f : Field,
    (∀ x ∈ fieldRelations t f, isSelectable p.bound x = true) →
    ∃ n, nodeOf p t f.entry = .ok (unspellNode n) ∧ NodeFor p.bound t f n
  | .scalar name => fun _ => ⟨.leaf name, rfl, .scalar⟩
  | .relation name fields => fun hall => by
    have hname : isSelectable p.bound (t, name) = true := hall (t, name) (by simp [fieldRelations])
    obtain ⟨next, hnext, hresolve, harguments⟩ := exists_of_isSelectable p hname
    have hbelow : ∀ x ∈ relationsOf next fields, isSelectable p.bound x = true := fun x hx =>
      hall x (by simp [fieldRelations, hnext, hx])
    obtain ⟨children, hchildren, hshape⟩ := exists_nodesOf_eq_ok next fields hbelow
    refine ⟨_, ?_, .relation hnext hshape⟩
    rw [Field.entry, nodeOf, hresolve]
    show ((p.arguments t name).mapError _ >>= _) = _
    rw [harguments]
    show (nodesOf p next (Field.entries fields) >>= _) = _
    rw [hchildren]
    rfl

/-- **Fields in which every relation can be selected have their nodes.** -/
theorem exists_nodesOf_eq_ok (t : ObjectType) : ∀ fs : List Field,
    (∀ x ∈ relationsOf t fs, isSelectable p.bound x = true) →
    ∃ ns, nodesOf p t (Field.entries fs) = .ok (unspell ns) ∧ NodesFor p.bound t fs ns
  | [] => fun _ => ⟨[], rfl, .nil⟩
  | f :: fs => fun hall => by
    obtain ⟨n, hn, hshape⟩ := exists_nodeOf_eq_ok t f fun x hx =>
      hall x (by simp [relationsOf, hx])
    obtain ⟨ns, hns, hshapes⟩ := exists_nodesOf_eq_ok t fs fun x hx =>
      hall x (by simp [relationsOf, hx])
    refine ⟨n :: ns, ?_, .cons hshape hshapes⟩
    rw [Field.entries, nodesOf, hn, hns]
    rfl

end

/-- None of some relations is the first that cannot be selected exactly when all of them can. -/
theorem find?_not_isSelectable_eq_none_iff {bound : ObjectType → String → Int}
    {xs : List (ObjectType × String)} :
    (xs.find? fun x => !isSelectable bound x) = none ↔
      ∀ x ∈ xs, x.1.hasRelation x.2 = true ∧ Numeral.isWritable (bound x.1 x.2) = true := by
  rw [List.find?_eq_none]
  simp [isSelectable]

mutual

theorem nodeOf_eq_error (t : ObjectType) : ∀ (f : Field) {x : ObjectType × String},
    ((fieldRelations t f).find? fun x => !isSelectable p.bound x) = some x →
    nodeOf p t f.entry = .error (refusal x)
  | .scalar name, x => fun h => by simp [fieldRelations] at h
  | .relation name fields, x => fun h => by
    rw [fieldRelations, List.find?_cons] at h
    cases hname : isSelectable p.bound (t, name) with
    | false =>
      -- The relation itself is the first one met.
      rw [hname] at h
      cases h
      exact nodeOf_relation_eq_error p hname
    | true =>
      -- The relation can be selected, so that the first other one lies below it.
      obtain ⟨next, hnext, hresolve, harguments⟩ := exists_of_isSelectable p hname
      rw [hname, hnext] at h
      rw [Field.entry, nodeOf, hresolve]
      show ((p.arguments t name).mapError _ >>= _) = _
      rw [harguments]
      show (nodesOf p next (Field.entries fields) >>= _) = _
      rw [nodesOf_eq_error next fields h]
      rfl

/-- **Fields with a relation that cannot be selected have no nodes**, and the first such relation is
the fault. -/
theorem nodesOf_eq_error (t : ObjectType) : ∀ (fs : List Field) {x : ObjectType × String},
    ((relationsOf t fs).find? fun x => !isSelectable p.bound x) = some x →
    nodesOf p t (Field.entries fs) = .error (refusal x)
  | [], x => fun h => by simp [relationsOf] at h
  | f :: fs, x => fun h => by
    rw [relationsOf, List.find?_append] at h
    rw [Field.entries, nodesOf]
    cases hf : (fieldRelations t f).find? fun x => !isSelectable p.bound x with
    | some y =>
      rw [hf, Option.some_or] at h
      cases h
      rw [nodeOf_eq_error t f hf]
      rfl
    | none =>
      -- The field has its node, so that the fault lies in a later one.
      rw [hf, Option.none_or] at h
      have hall : ∀ x ∈ fieldRelations t f, isSelectable p.bound x = true := by
        simpa using hf
      obtain ⟨n, hn, -⟩ := exists_nodeOf_eq_ok p t f hall
      rw [hn]
      show (nodesOf p t (Field.entries fs) >>= _) = _
      rw [nodesOf_eq_error t fs h]
      rfl

end

variable {t : ObjectType} {fs : List Field}

/-- **Fields without a relation that cannot be selected have a selection.** -/
theorem exists_build_eq_ok (h : firstRefused? p.bound t fs = none) :
    ∃ nodes, build p t (Field.entries fs) = .ok (unspell nodes) ∧
      IsSelection p.bound t fs nodes := by
  have hall : ∀ x ∈ relationsOf t fs, isSelectable p.bound x = true := by
    simpa [firstRefused?] using h
  obtain ⟨ns, hns, hshape⟩ := exists_nodesOf_eq_ok p t fs hall
  refine ⟨.leaf idField :: ns, ?_, ns, rfl, hshape⟩
  rw [build, hns]
  rfl

/-- **Fields with a relation that cannot be selected have no selection**, and the first such
relation is the fault. -/
theorem build_eq_error {x : ObjectType × String} (h : firstRefused? p.bound t fs = some x) :
    build p t (Field.entries fs) = .error (refusal x) := by
  rw [build, nodesOf_eq_error p t fs h]
  rfl

end Resolve

/-! ## What nodes select -/

mutual

theorem fieldOf_eq {bound : ObjectType → String → Int} {t : ObjectType} :
    ∀ {f : Field} {n : Node String}, NodeFor bound t f n → fieldOf n = f
  | _, _, .scalar => rfl
  | _, _, .relation _ hchildren => by rw [fieldOf, fieldsOf_eq hchildren]

/-- **The nodes of fields select them**: without ids and arguments, the fields remain. -/
theorem fieldsOf_eq {bound : ObjectType → String → Int} {t : ObjectType} :
    ∀ {fs : List Field} {ns : List (Node String)}, NodesFor bound t fs ns → fieldsOf ns = fs
  | _, _, .nil => rfl
  | _, _, .cons hn hns => by rw [fieldsOf, fieldOf_eq hn, fieldsOf_eq hns]

end

end Selection

end HatTree
