import HatTree.Proofs.Compile
import HatTree.Proofs.Numeral
import HatTree.Proofs.PageBounds.Accepted
import HatTree.Proofs.Projection

/-!
# Which fault a compilation ends with

A projection compiles under six conditions, which are looked at in a fixed order. The fault is that
of the first one that does not hold, whatever becomes of the later ones. Since the entries that
normalization gives are all that is looked at of a projection, compiling them instead makes no
difference.

## Main definitions

* `Projection.IsDictionary`: dictionaries, at every depth
* `Selection.Resolves`: entries whose relations can be selected
* `Selection.IsRefusal`: the faults of relations that cannot
* `Condition`: what has to hold for a text, in order

## Main results

* `exists_build_eq_ok_iff`: entries have a selection when their relations can be selected
* `exists_spell_eq_ok_iff`: a selection has a text when all names are texts
* `run_of_conditions`: there is a text under the conditions, else the fault of the first that fails
-/

namespace HatTree

/-! ## Entries -/

/-- **Entries that a dictionary can give**: nothing but fields, and names that can be keys. -/
inductive IsRegular : List Entry → Prop
  /-- No entries. -/
  | nil : IsRegular []
  /-- One more scalar field. -/
  | scalar {name : Value} {es : List Entry} (hes : IsRegular es) : IsRegular (.scalar name :: es)
  /-- One more relation. -/
  | relation {name : Value} {fields es : List Entry} (hname : name.unhashable? = none)
      (hfields : IsRegular fields) (hes : IsRegular es) : IsRegular (.relation name fields :: es)

namespace Projection

/-- **A dictionary**: its keys can be keys, here and in every dictionary below. -/
inductive IsDictionary : List (Value × Value) → Prop
  | intro {given : List (Value × Value)}
      (hashable : ∀ k v, (k, v) ∈ given → k.unhashable? = none)
      (below : ∀ k inner, (k, .dict inner) ∈ given → IsDictionary inner) : IsDictionary given

/-- A dictionary whose dictionaries give regular entries gives such entries. -/
theorem isRegular_of_below {given : List (Value × Value)}
    (hashable : ∀ k v, (k, v) ∈ given → k.unhashable? = none)
    (hbelow : ∀ k inner, (k, .dict inner) ∈ given → ∀ {es}, normalize inner = .ok es → IsRegular es)
    {es : List Entry} (h : normalize given = .ok es) : IsRegular es := by
  induction given generalizing es with
  | nil =>
    cases h
    exact .nil
  | cons e rest ih =>
    obtain ⟨k, v⟩ := e
    have hrest := fun {es} => @ih (fun k v hmem => hashable k v (List.mem_cons_of_mem _ hmem))
      (fun k inner hmem => hbelow k inner (List.mem_cons_of_mem _ hmem)) es
    rcases normalize_cons_eq_ok h with hes | ⟨e, es', rfl, hentry, hes⟩
    · exact hrest hes
    · rcases normalizeField_eq_ok hentry with ⟨rfl, rfl⟩ | ⟨inner, fields, rfl, hinner, rfl⟩
      · exact .scalar (hrest hes)
      · exact .relation (hashable k _ List.mem_cons_self)
          (hbelow k inner List.mem_cons_self hinner) (hrest hes)

theorem isRegular_of_normalize {given : List (Value × Value)} (h : IsDictionary given) :
    ∀ {es : List Entry}, normalize given = .ok es → IsRegular es := by
  induction h with
  | intro hashable _ ih => exact isRegular_of_below hashable ih

/-- Regular entries are read back from the values that they are given as. -/
theorem entriesOf_entryValues {es : List Entry} (h : IsRegular es) :
    entriesOf (entryValues es) = es := by
  induction h with
  | nil => rfl
  | scalar _ ih => rw [entryValues, entriesOf, entryValue, entryOf, ih]
  | relation _ _ _ ihfields ih =>
    rw [entryValues, entriesOf, entryValue, entryOf, ihfields, ih]

end Projection

/-! ## Selections of entries -/

namespace Selection

/-- **Entries whose relations can all be selected**: each exists at the type at which it is met, and
its bound can be written. -/
inductive Resolves (bound : ObjectType → String → Int) : ObjectType → List Entry → Prop
  /-- No entries. -/
  | nil {t : ObjectType} : Resolves bound t []
  /-- One more scalar field. -/
  | scalar {t : ObjectType} {name : Value} {es : List Entry} (hes : Resolves bound t es) :
      Resolves bound t (.scalar name :: es)
  /-- One more relation. -/
  | relation {t next : ObjectType} {name : String} {fields es : List Entry}
      (hnext : t.target? name = some next) (hbound : Numeral.isWritable (bound t name) = true)
      (hfields : Resolves bound next fields) (hes : Resolves bound t es) :
      Resolves bound t (.relation (.text name) fields :: es)

/-- **The fault of a relation that cannot be selected**: it does not exist, or its bound is too
long. -/
inductive IsRefusal (bound : ObjectType → String → Int) : Fault → Prop
  /-- The relation does not exist. -/
  | unknown {owner : ObjectType} {name : Value}
      (hname : ∀ relation, name = .text relation → owner.target? relation = none) :
      IsRefusal bound (.relation ⟨owner, name⟩)
  /-- The bound of the relation is too long. -/
  | overlong {owner next : ObjectType} {relation : String}
      (hnext : owner.target? relation = some next)
      (hbound : Numeral.isWritable (bound owner relation) = false) :
      IsRefusal bound (.bound owner relation {})

variable {p : Paging} {t : ObjectType} {es : List Entry}

theorem arguments_eq_ok_iff {relation : String} {arguments : List (String × String)} :
    (p.arguments t relation).mapError (Fault.bound t relation) = .ok arguments ↔
      Numeral.isWritable (p.bound t relation) = true ∧
        arguments = argumentsOf p.bound t relation := by
  rw [arguments_eq, mapError_eq_ok]
  cases Numeral.isWritable (p.bound t relation) <;> simp [eq_comm]

theorem exists_nodesOf_of_resolves (h : Resolves p.bound t es) :
    ∃ ns, nodesOf p t es = .ok ns := by
  induction h with
  | nil => exact ⟨[], rfl⟩
  | scalar _ ih =>
    obtain ⟨ns, hns⟩ := ih
    exact ⟨_, bind_eq_ok.mpr ⟨_, rfl, bind_eq_ok.mpr ⟨ns, hns, rfl⟩⟩⟩
  | @relation t next name fields es hnext hbound _ _ ihfields ih =>
    obtain ⟨below, hbelow⟩ := ihfields
    obtain ⟨ns, hns⟩ := ih
    have hresolve : resolve t (.text name) = .ok (name, next) := by rw [resolve_text, hnext]
    have hnode : nodeOf p t (.relation (.text name) fields) =
        .ok (.mk (.text name) (argumentsOf p.bound t name) (idNode :: below)) :=
      bind_eq_ok.mpr ⟨_, hresolve, bind_eq_ok.mpr ⟨_, arguments_eq_ok_iff.mpr ⟨hbound, rfl⟩,
        bind_eq_ok.mpr ⟨below, hbelow, rfl⟩⟩⟩
    exact ⟨_, bind_eq_ok.mpr ⟨_, hnode, bind_eq_ok.mpr ⟨ns, hns, rfl⟩⟩⟩

theorem resolves_of_nodesOf (t : ObjectType) : ∀ (es : List Entry) {ns : List (Node Value)},
    nodesOf p t es = .ok ns → Resolves p.bound t es
  | [], _ => fun _ => .nil
  | .scalar name :: es, _ => fun h => by
    obtain ⟨node, -, h⟩ := bind_eq_ok.mp h
    obtain ⟨ns, hns, -⟩ := bind_eq_ok.mp h
    exact .scalar (resolves_of_nodesOf t es hns)
  | .relation name fields :: es, _ => fun h => by
    obtain ⟨node, hnode, h⟩ := bind_eq_ok.mp h
    obtain ⟨ns, hns, -⟩ := bind_eq_ok.mp h
    obtain ⟨⟨relation, next⟩, hresolve, hnode⟩ := bind_eq_ok.mp hnode
    obtain ⟨arguments, harguments, hnode⟩ := bind_eq_ok.mp hnode
    obtain ⟨below, hbelow, -⟩ := bind_eq_ok.mp hnode
    obtain ⟨rfl, hnext⟩ := resolve_eq_ok hresolve
    exact .relation hnext (arguments_eq_ok_iff.mp harguments).1
      (resolves_of_nodesOf next fields hbelow) (resolves_of_nodesOf t es hns)
  | .stray v :: es, _ => fun h => by cases h

/-- **Entries have a selection when their relations can be selected.** -/
theorem exists_build_eq_ok_iff : (∃ nodes, build p t es = .ok nodes) ↔ Resolves p.bound t es := by
  constructor
  · rintro ⟨nodes, h⟩
    obtain ⟨ns, hns, -⟩ := bind_eq_ok.mp h
    exact resolves_of_nodesOf t es hns
  · intro h
    obtain ⟨ns, hns⟩ := exists_nodesOf_of_resolves h
    exact ⟨_, bind_eq_ok.mpr ⟨ns, hns, rfl⟩⟩

/-- A name that is refused is that of no relation, unless it cannot be a key. -/
theorem resolve_eq_error {name : Value} {fault : Fault} (h : resolve t name = .error fault)
    (hname : name.unhashable? = none) :
    fault = .relation ⟨t, name⟩ ∧
      ∀ relation, name = .text relation → t.target? relation = none := by
  cases name with
  | text relation =>
    rw [resolve_text] at h
    cases hnext : t.target? relation with
    | some next =>
      rw [hnext] at h
      cases h
    | none =>
      rw [hnext] at h
      cases h
      refine ⟨rfl, fun relation' heq => ?_⟩
      cases heq
      exact hnext
  | _ =>
    rw [resolve, hname] at h
    · cases h
      refine ⟨rfl, fun relation heq => ?_⟩
      cases heq
    · intro relation heq
      cases heq

theorem isRefusal_of_nodesOf (hes : IsRegular es) {fault : Fault}
    (h : nodesOf p t es = .error fault) : IsRefusal p.bound fault := by
  induction hes generalizing t with
  | nil => cases h
  | scalar _ ih =>
    rcases bind_eq_error.mp h with h | ⟨node, -, h⟩
    · cases h
    · rcases bind_eq_error.mp h with h | ⟨ns, -, h⟩
      · exact ih h
      · cases h
  | relation hname _ _ ihfields ih =>
    rcases bind_eq_error.mp h with h | ⟨node, -, h⟩
    · rcases bind_eq_error.mp h with h | ⟨⟨relation, next⟩, hresolve, h⟩
      · obtain ⟨rfl, hunknown⟩ := resolve_eq_error h hname
        exact .unknown hunknown
      · obtain ⟨-, hnext⟩ := resolve_eq_ok hresolve
        rcases bind_eq_error.mp h with h | ⟨arguments, -, h⟩
        · -- The relation exists, so that its bound is at fault.
          obtain ⟨_, harguments, rfl⟩ := mapError_eq_error.mp h
          refine .overlong hnext (Bool.eq_false_iff.mpr fun hbound => ?_)
          rw [arguments_eq, if_pos hbound] at harguments
          cases harguments
        · rcases bind_eq_error.mp h with h | ⟨below, -, h⟩
          · exact ihfields h
          · cases h
    · rcases bind_eq_error.mp h with h | ⟨ns, -, h⟩
      · exact ih h
      · cases h

/-- **Regular entries without a selection have a relation that cannot be selected**, and that is the
fault. -/
theorem isRefusal_of_build (hes : IsRegular es) {fault : Fault} (h : build p t es = .error fault) :
    IsRefusal p.bound fault := by
  rcases bind_eq_error.mp h with h | ⟨ns, -, h⟩
  · exact isRefusal_of_nodesOf hes h
  · cases h

/-! ## Texts of selections -/

theorem fault_of_nameAll {fault : Fault} : ∀ {position : Nat} {nodes : List (Node Value)}
    {inner : List (List (Node String))}, nameAll position nodes inner = .error fault →
    ∃ place typeName, fault = .nameType place typeName
  | position, .mk name arguments below :: nodes, children :: inner => fun h => by
    cases name with
    | text name =>
      rcases bind_eq_error.mp h with h | ⟨named, -, h⟩
      · exact fault_of_nameAll h
      · cases h
    | _ =>
      cases h
      exact ⟨_, _, rfl⟩
  | _, [], _ => fun h => by cases h
  | _, _ :: _, [] => fun h => by cases h

mutual

theorem fault_of_spellBelow {fault : Fault} : ∀ node : Node Value,
    spellBelow node = .error fault → ∃ place typeName, fault = .nameType place typeName
  | .mk _ _ children => fun h => by
    rcases bind_eq_error.mp h with h | ⟨inner, -, h⟩
    · exact fault_of_spellEach children h
    · exact fault_of_nameAll h

theorem fault_of_spellEach {fault : Fault} : ∀ nodes : List (Node Value),
    spellEach nodes = .error fault → ∃ place typeName, fault = .nameType place typeName
  | [] => fun h => by cases h
  | node :: nodes => fun h => by
    rcases bind_eq_error.mp h with h | ⟨children, -, h⟩
    · exact fault_of_spellBelow node h
    · rcases bind_eq_error.mp h with h | ⟨others, -, h⟩
      · exact fault_of_spellEach nodes h
      · cases h

end

/-- **A selection without a text has a name that is no text**, and that is the fault. -/
theorem fault_of_spell {nodes : List (Node Value)} {fault : Fault}
    (h : spell nodes = .error fault) : ∃ place typeName, fault = .nameType place typeName := by
  rcases bind_eq_error.mp h with h | ⟨inner, -, h⟩
  · exact fault_of_spellEach nodes h
  · exact fault_of_nameAll h

/-- **The selection of entries has a text when all names are texts.** -/
theorem exists_spell_eq_ok_iff {nodes : List (Node Value)} (hbuild : build p t es = .ok nodes) :
    (∃ spelt, spell nodes = .ok spelt) ↔ ∃ fs, es = Field.entries fs := by
  constructor
  · rintro ⟨spelt, hspell⟩
    obtain ⟨fs, hfs, -⟩ := exists_fields_of_build p hbuild hspell
    exact ⟨fs, hfs⟩
  · rintro ⟨fs, rfl⟩
    cases hfirst : firstRefused? p.bound t fs with
    | some x =>
      rw [build_eq_error p hfirst] at hbuild
      cases hbuild
    | none =>
      obtain ⟨named, hnamed, -⟩ := exists_build_eq_ok p hfirst
      rw [hnamed] at hbuild
      cases hbuild
      exact ⟨named, spell_unspell named⟩

end Selection

/-! ## The conditions -/

namespace Compile

/-- **What has to hold for a projection to compile.** -/
inductive Condition where
  /-- The type is known. -/
  | type
  /-- The page size is an integer above zero. -/
  | size
  /-- The projection can be normalized. -/
  | projection
  /-- The bounds pass the check. -/
  | bounds
  /-- Every relation exists, and its bound can be written. -/
  | relations
  /-- Every selected name is a text. -/
  | names

namespace Condition

/-- The conditions, in the order in which they are looked at. -/
def all : List Condition := [type, size, projection, bounds, relations, names]

theorem mem_all (c : Condition) : c ∈ all := by
  cases c <;> simp [all]

/-- The family of the fault when a condition does not hold, as far as the fault can be written. -/
def family : Condition → Family
  | relations => .library .unknownRelation
  | names => .wrongType
  | _ => .library .inputValidation

variable (object : Value) (given : List (Value × Value)) (filters size : Value)

/-- **Whether a condition holds** of the name of a type, a projection, bounds and a page size. -/
def Holds : Condition → Prop
  | type => ∃ t : ObjectType, object = .text t.label
  | .size => ∃ n, size = .int n ∧ 1 ≤ n
  | projection => ∃ es, Projection.normalize given = .ok es
  | bounds => PageBounds.Accepts filters
  | relations => ∀ (t : ObjectType) (n : Int) (es : List Entry), object = .text t.label →
      size = .int n → Projection.normalize given = .ok es →
        Selection.Resolves ((Filters.ofValue filters).resolved n) t es
  | names => ∀ es, Projection.normalize given = .ok es → ∃ fs, es = Field.entries fs

/-- **The fault that a condition ends with** when it does not hold. -/
def Raises : Condition → Fault → Prop
  | type, fault => fault = .type object
  | .size, fault => fault = .pageSize size
  | projection, fault => ∃ f, Projection.normalize given = .error f ∧ fault = .projection f
  | bounds, fault => ∃ f, (Filters.ofValue filters).bounds = .error f ∧ fault = .bounds f
  | relations, fault => ∃ n f, size = .int n ∧ fault = .selection f ∧
      Selection.IsRefusal ((Filters.ofValue filters).resolved n) f
  | names, fault => ∃ place typeName, fault = .selection (.nameType place typeName)

variable {object given filters size}

theorem holds_relations_iff {t : ObjectType} {n : Int} {es : List Entry}
    (hes : Projection.normalize given = .ok es) :
    Holds (.text t.label) given filters (.int n) relations ↔
      Selection.Resolves ((Filters.ofValue filters).resolved n) t es := by
  constructor
  · intro h
    exact h t n es rfl rfl hes
  · intro h t' n' es' ht hn hes'
    cases hes.symm.trans hes'
    cases hn
    -- Types are told apart by their names.
    have ht : t = t' := Except.ok.inj ((typeOf_label t).symm.trans (typeOf_eq_ok.mpr ht))
    exact ht ▸ h

theorem holds_names_iff {es : List Entry} (hes : Projection.normalize given = .ok es) :
    Holds object given filters size names ↔ ∃ fs, es = Field.entries fs := by
  constructor
  · intro h
    exact h es hes
  · intro h es' hes'
    cases hes.symm.trans hes'
    exact h

end Condition

/-- **Whether a fault can be written**: the values that its message shows can. -/
def Fault.isWritable : Fault → Bool
  | .type name => name.isWritable
  | .pageSize size => size.isWritable
  | .projection (.value field _) => field.isWritable
  | .selection (.relation fault) => fault.relation.isWritable
  | .selection (.bound ..) => false
  | _ => true

/-- **The family of the fault that a condition ends with.** -/
theorem Condition.family_of_raises {object size : Value} {given : List (Value × Value)}
    {filters : Value} {fault : Fault} {c : Condition}
    (h : c.Raises object given filters size fault) :
    (report fault).family = if fault.isWritable then c.family else .badValue := by
  cases c with
  | type =>
    cases h
    exact Report.family_ofWriting
  | size =>
    cases h
    exact Report.family_ofWriting
  | projection =>
    obtain ⟨f, hf, rfl⟩ := h
    obtain ⟨k, v, -, rfl⟩ := Projection.fault_of_normalize hf
    exact Report.family_ofWriting
  | bounds =>
    obtain ⟨f, -, rfl⟩ := h
    rfl
  | relations =>
    obtain ⟨n, f, -, rfl, hrefusal⟩ := h
    cases hrefusal with
    | unknown _ => exact Report.family_ofWriting
    | overlong _ _ => rfl
  | names =>
    obtain ⟨place, typeName, rfl⟩ := h
    rfl

/-! ## Looking at the conditions in order -/

/-- **A result that conditions decide in their order**: it is a success when all of them hold, and
otherwise the fault of the first that does not. -/
inductive Decided {α : Type} (holds : Condition → Prop) (raises : Condition → Fault → Prop) :
    List Condition → Except Fault α → Prop
  /-- No condition is left. -/
  | done (x : α) : Decided holds raises [] (.ok x)
  /-- The next condition does not hold. -/
  | failed {c : Condition} {cs : List Condition} {fault : Fault} (hc : ¬ holds c)
      (hfault : raises c fault) : Decided holds raises (c :: cs) (.error fault)
  /-- The next condition holds. -/
  | passed {c : Condition} {cs : List Condition} {r : Except Fault α} (hc : holds c)
      (h : Decided holds raises cs r) : Decided holds raises (c :: cs) r

namespace Decided

variable {α β : Type} {holds : Condition → Prop} {raises : Condition → Fault → Prop}
  {cs : List Condition}

/-- A step that succeeds when its condition holds comes before the conditions of what follows. -/
theorem bind {c : Condition} {step : Except Fault α} {next : α → Except Fault β}
    (hok : (∃ x, step = .ok x) ↔ holds c) (hfault : ∀ fault, step = .error fault → raises c fault)
    (hnext : ∀ x, step = .ok x → Decided holds raises cs (next x)) :
    Decided holds raises (c :: cs) (step >>= next) := by
  cases step with
  | error fault =>
    refine .failed (fun hc => ?_) (hfault fault rfl)
    obtain ⟨x, hx⟩ := hok.mpr hc
    cases hx
  | ok x => exact .passed (hok.mp ⟨x, rfl⟩) (hnext x rfl)

/-- The same for a step whose faults are faults of a part. -/
theorem bind_mapError {c : Condition} {ε : Type} {step : Except ε α} {part : ε → Fault}
    {next : α → Except Fault β} (hok : (∃ x, step = .ok x) ↔ holds c)
    (hfault : ∀ fault, step = .error fault → raises c (part fault))
    (hnext : ∀ x, step = .ok x → Decided holds raises cs (next x)) :
    Decided holds raises (c :: cs) (step.mapError part >>= next) := by
  refine .bind (by simpa only [mapError_eq_ok] using hok) (fun fault h => ?_)
    fun x hx => hnext x (mapError_eq_ok.mp hx)
  obtain ⟨fault', hstep, rfl⟩ := mapError_eq_error.mp h
  exact hfault fault' hstep

theorem map {r : Except Fault α} (h : Decided holds raises cs r) (f : α → β) :
    Decided holds raises cs (r >>= fun x => pure (f x)) := by
  induction h with
  | done x => exact .done (f x)
  | failed hc hfault => exact .failed hc hfault
  | passed hc _ ih => exact .passed hc ih

theorem exists_eq_ok_iff {r : Except Fault α} (h : Decided holds raises cs r) :
    (∃ x, r = .ok x) ↔ ∀ c ∈ cs, holds c := by
  induction h with
  | done x => simp
  | failed hc _ => simp [hc]
  | passed hc _ ih => simp [ih, hc]

/-- **The fault is that of the first condition that does not hold.** -/
theorem exists_first_of_error {r : Except Fault α} (h : Decided holds raises cs r) {fault : Fault}
    (hr : r = .error fault) :
    ∃ before c after, cs = before ++ c :: after ∧ (∀ b ∈ before, holds b) ∧ ¬ holds c ∧
      raises c fault := by
  induction h with
  | done x => cases hr
  | failed hc hfault =>
    cases hr
    exact ⟨[], _, _, rfl, by simp, hc, hfault⟩
  | passed hc _ ih =>
    obtain ⟨before, c, after, rfl, hbefore, hfirst⟩ := ih hr
    exact ⟨_ :: before, c, after, rfl, List.forall_mem_cons.mpr ⟨hc, hbefore⟩, hfirst⟩

end Decided

section Run

variable {object size : Value} {given : List (Value × Value)} {filters : Value}

/-- The last four conditions decide about the selection. -/
theorem decided_selection (hgiven : Projection.IsDictionary given)
    (hfilters : PageBounds.IsGiven filters) (t : ObjectType) (n : Int) :
    Decided (Condition.Holds (.text t.label) given filters (.int n))
      (Condition.Raises (.text t.label) given filters (.int n))
      [.projection, .bounds, .relations, .names]
      (selection t (.dict given) (.ofValue filters) n) := by
  -- The projection and the bounds are looked at on their own.
  refine .bind_mapError Iff.rfl (fun f hf => ⟨f, hf, rfl⟩) fun es hes => ?_
  refine .bind_mapError (PageBounds.exists_bounds_eq_ok_iff hfilters) (fun f hf => ⟨f, hf, rfl⟩)
    fun bounds hb => ?_
  have hbound := Paging.bound_eq_resolved hb n
  -- The relations and the names are those of the entries that the projection has given.
  refine .bind_mapError ?_ (fun f hf => ?_) fun nodes hnodes => ?_
  · rw [Selection.exists_build_eq_ok_iff, hbound, Condition.holds_relations_iff hes]
  · have hregular := Projection.isRegular_of_normalize hgiven hes
    exact ⟨n, f, rfl, rfl, hbound ▸ Selection.isRefusal_of_build hregular hf⟩
  refine .bind_mapError
    ((Selection.exists_spell_eq_ok_iff hnodes).trans (Condition.holds_names_iff hes).symm)
    (fun f hf => ?_) fun spelt _ => .done _
  obtain ⟨place, typeName, rfl⟩ := Selection.fault_of_spell hf
  exact ⟨place, typeName, rfl⟩

/-- **The conditions decide about a compilation**, in their order. -/
theorem decided_run (hgiven : Projection.IsDictionary given)
    (hfilters : PageBounds.IsGiven filters) :
    Decided (Condition.Holds object given filters size)
      (Condition.Raises object given filters size) Condition.all
      (run object (.dict given) (.ofValue filters) size) := by
  refine .bind (exists_congr fun t => typeOf_eq_ok) (fun fault => typeOf_eq_error) fun t ht => ?_
  obtain rfl := typeOf_eq_ok.mp ht
  refine .bind (exists_congr fun n => pageSizeOf_eq_ok) (fun fault => pageSizeOf_eq_error)
    fun n hn => ?_
  obtain ⟨rfl, -⟩ := pageSizeOf_eq_ok.mp hn
  exact (decided_selection hgiven hfilters t n).map _

/-- **When a projection compiles, and with which fault it ends otherwise.** There is a text if and
only if all conditions hold: the type is known, the page size is an integer above zero, the
projection can be normalized, the bounds are accepted, every relation exists and has a bound that
can be written, and every selected name is a text. Otherwise the fault is that of the first
condition that does not hold; it is of the family of that condition, unless a value that its message
shows cannot be written. The entries of the projection, given in its place, have the same
outcome. -/
theorem run_of_conditions (object : Value) (given : List (Value × Value)) (filters size : Value)
    (hgiven : Projection.IsDictionary given) (hfilters : PageBounds.IsGiven filters) :
    ((∃ text note, run object (.dict given) (.ofValue filters) size = .ok (text, note)) ↔
        ∀ c : Condition, c.Holds object given filters size) ∧
      (∀ fault, run object (.dict given) (.ofValue filters) size = .error fault →
        ∃ before c after, Condition.all = before ++ c :: after ∧
          (∀ b ∈ before, b.Holds object given filters size) ∧
          ¬ c.Holds object given filters size ∧ c.Raises object given filters size fault ∧
          (report fault).family = if fault.isWritable then c.family else .badValue) ∧
      ∀ es, Projection.normalize given = .ok es →
        run object (.tuple (Projection.entryValues es)) (.ofValue filters) size =
          run object (.dict given) (.ofValue filters) size := by
  have hdecided := @decided_run object size given filters hgiven hfilters
  refine ⟨?_, fun fault h => ?_, fun es hes => ?_⟩
  · rw [← Prod.exists', hdecided.exists_eq_ok_iff]
    simp only [Condition.mem_all, true_implies]
  · obtain ⟨before, c, after, hall, hbefore, hc, hraises⟩ := hdecided.exists_first_of_error h
    exact ⟨before, c, after, hall, hbefore, hc, hraises, Condition.family_of_raises hraises⟩
  · have hentries : Projection.entries (.tuple (Projection.entryValues es)) =
        Projection.entries (.dict given) := by
      show .ok (Projection.entriesOf (Projection.entryValues es)) = Projection.normalize given
      rw [Projection.entriesOf_entryValues (Projection.isRegular_of_normalize hgiven hes), hes]
    exact run_eq_of_entries_eq hentries _ _ _

/-- A hat with its status and the events of its admin has a text, so that all conditions hold; the
name one makes no difference, since it is not selected. If it is, it is at fault, since it is no
text. A type that is too long a number is at fault without the family of its condition. -/
theorem run_of_conditions_admin_events :
    ((∃ note, run (.text "hat") (.dict [(.text "status", .bool true), (.int 1, .bool false),
        (.text "admin", .dict [(.text "events", .dict [])])])
      (.ofValue (.dict [(.text "hat", .dict [(.text "events", .int 3)])])) (.int 10) =
        .ok ("id, status, admin(first: 10) \x7b id, " ++
          "events(orderBy: timestamp, orderDirection: desc, first: 3) \x7b id \x7d \x7d", note)) ∧
      ∀ c : Condition, c.Holds (.text "hat")
        [(.text "status", .bool true), (.int 1, .bool false),
          (.text "admin", .dict [(.text "events", .dict [])])]
        (.dict [(.text "hat", .dict [(.text "events", .int 3)])]) (.int 10)) ∧
      (run (.text "hat") (.dict [(.int 1, .bool true)]) (.ofValue .null) (.int 1000) =
          .error (.selection (.nameType 1 "int")) ∧
        ∃ c : Condition, ¬ c.Holds (.text "hat") [(.int 1, .bool true)] .null (.int 1000)) ∧
      ∃ fault, run (.int (10 ^ Numeral.maxDigits : Nat)) (.dict []) (.ofValue .null) (.int 1000) =
          .error fault ∧ (report fault).family = .badValue := by
  have hadmin : Projection.IsDictionary [(.text "events", .dict [])] :=
    .intro (by simp [Value.unhashable?]) fun k inner hmem => by
      obtain ⟨-, rfl⟩ : k = .text "events" ∧ inner = [] := by simpa using hmem
      exact .intro (by simp) (by simp)
  have hgiven : Projection.IsDictionary [(.text "status", .bool true), (.int 1, .bool false),
      (.text "admin", .dict [(.text "events", .dict [])])] :=
    .intro (by grind [Value.unhashable?]) fun k inner hmem => by
      obtain ⟨-, rfl⟩ : k = .text "admin" ∧ inner = _ := by simpa using hmem
      exact hadmin
  have hfilters : PageBounds.IsGiven (.dict [(.text "hat", .dict [(.text "events", .int 3)])]) := by
    refine .inr ⟨_, rfl, ⟨by grind [HasTextKeys], by simp⟩, ?_, by simp⟩
    intro name given hmem
    obtain ⟨-, rfl⟩ : name = "hat" ∧ given = _ := by simpa using hmem
    grind [HasTextKeys]
  have hname : Projection.IsDictionary [(.int 1, .bool true)] :=
    .intro (by simp [Value.unhashable?]) (by simp)
  have hnone : PageBounds.IsGiven .null := .inl rfl
  refine ⟨⟨⟨_, rfl⟩, (run_of_conditions _ _ _ _ hgiven hfilters).1.mp ⟨_, _, rfl⟩⟩, ⟨rfl, ?_⟩, ?_⟩
  · obtain ⟨-, hfault, -⟩ := run_of_conditions (.text "hat") _ _ (.int 1000) hname hnone
    obtain ⟨-, c, -, -, -, hc, -⟩ := hfault _ rfl
    exact ⟨c, hc⟩
  · have hrun (n : Int) : run (.int n) (.dict []) (.ofValue .null) (.int 1000) =
        .error (.type (.int n)) := rfl
    obtain ⟨-, hfault, -⟩ := run_of_conditions (.int (10 ^ Numeral.maxDigits : Nat)) [] _
      (.int 1000) (.intro (by simp) (by simp)) hnone
    obtain ⟨-, c, -, -, -, -, -, hfamily⟩ := hfault _ (hrun _)
    refine ⟨_, hrun _, ?_⟩
    rw [hfamily, Fault.isWritable, Value.isWritable, Numeral.isWritable_pow]
    rfl

end Run

end Compile

end HatTree
