import HatTree.Compile
import HatTree.Proofs.Selection.Grammar
import HatTree.Proofs.Selection.Resolution
import HatTree.Proofs.Selection.Spelling

/-!
# What compiled texts say

Fields compile to the text of their selection, unless one of the relations met cannot be selected. A
projection that passes the check of its type compiles to a sentence of that type: nothing that a
caller writes reaches the text, apart from names of the schema and bounds above zero.

## Main definitions

* `IsOutcome`: what compiling fields comes to

## Main results

* `selection_eq_ok`: the stages of a successful compilation
* `isOutcome_run`: what becomes of a projection that selects fields
* `sentence_of_run`: a checked projection compiles to a sentence
-/

namespace HatTree.Compile

variable {t : ObjectType}

/-- **The stages of a successful compilation.** -/
theorem selection_eq_ok {projection : Value} {filters : Filters} {size : Int} {text : String}
    (h : selection t projection filters size = .ok text) :
    ∃ entries bounds nodes spelt, Projection.entries projection = .ok entries ∧
      filters.bounds = .ok bounds ∧ Selection.build ⟨bounds, size⟩ t entries = .ok nodes ∧
      Selection.spell nodes = .ok spelt ∧ text = Selection.render spelt := by
  obtain ⟨entries, hentries, h⟩ := bind_eq_ok.mp h
  obtain ⟨bounds, hbounds, h⟩ := bind_eq_ok.mp h
  obtain ⟨nodes, hnodes, h⟩ := bind_eq_ok.mp h
  obtain ⟨spelt, hspelt, h⟩ := bind_eq_ok.mp h
  cases h
  exact ⟨entries, bounds, nodes, spelt, mapError_eq_ok.mp hentries, mapError_eq_ok.mp hbounds,
    mapError_eq_ok.mp hnodes, mapError_eq_ok.mp hspelt, rfl⟩

theorem typeOf_label (t : ObjectType) : typeOf (.text t.label) = .ok t := by
  cases t <;> rfl

theorem typeOf_eq_ok {object : Value} : typeOf object = .ok t ↔ object = .text t.label := by
  constructor
  · intro h
    cases object with
    | text name =>
      rw [typeOf] at h
      cases hname : ObjectType.ofLabel? name with
      | none =>
        rw [hname] at h
        cases h
      | some t' =>
        rw [hname] at h
        cases h
        have hlabel := List.find?_some hname
        rw [eq_of_beq hlabel]
    | _ => cases h
  · rintro rfl
    exact typeOf_label t

theorem typeOf_eq_error {object : Value} {fault : Fault} (h : typeOf object = .error fault) :
    fault = .type object := by
  cases object with
  | text name =>
    rw [typeOf] at h
    split at h
    · cases h
    · cases h
      rfl
  | _ =>
    cases h
    rfl

theorem run_label {filters : Filters} {n : Int} (hn : 1 ≤ n) (projection : Value) :
    run (.text t.label) projection filters (.int n) =
      (selection t projection filters n).map fun text => (text, .compiled t.indexName text) := by
  rw [run, typeOf_label, pageSizeOf, if_pos hn]
  show (selection t projection filters n >>= _) = _
  cases selection t projection filters n <;> rfl

theorem pageSizeOf_eq_ok {size : Value} {n : Int} :
    pageSizeOf size = .ok n ↔ size = .int n ∧ 1 ≤ n := by
  constructor
  · intro h
    cases size with
    | int m =>
      rw [pageSizeOf] at h
      split at h
      next hm =>
        cases h
        exact ⟨rfl, hm⟩
      next => cases h
    | _ => cases h
  · rintro ⟨rfl, hn⟩
    rw [pageSizeOf, if_pos hn]

theorem pageSizeOf_eq_error {size : Value} {fault : Fault} (h : pageSizeOf size = .error fault) :
    fault = .pageSize size := by
  cases size with
  | int m =>
    rw [pageSizeOf] at h
    split at h
    · cases h
    · cases h
      rfl
  | _ =>
    cases h
    rfl

theorem run_label_eq_ok {projection size : Value} {filters : Filters} {text : String} {note : Note}
    (h : run (.text t.label) projection filters size = .ok (text, note)) :
    ∃ n, 1 ≤ n ∧ selection t projection filters n = .ok text := by
  obtain ⟨t', ht, h⟩ := bind_eq_ok.mp h
  rw [typeOf_label] at ht
  cases ht
  obtain ⟨n, hn, h⟩ := bind_eq_ok.mp h
  obtain ⟨text', htext, h⟩ := bind_eq_ok.mp h
  cases h
  exact ⟨n, (pageSizeOf_eq_ok.mp hn).2, htext⟩

/-- Of a projection, nothing but its entries is looked at. -/
theorem run_eq_of_entries_eq {projection projection' : Value}
    (h : Projection.entries projection = Projection.entries projection') (object : Value)
    (filters : Filters) (size : Value) :
    run object projection filters size = run object projection' filters size := by
  simp only [run, selection, h]

/-! ## Compiling fields -/

section Outcome

variable {bound : ObjectType → String → Int} {fs : List Field}

/-- **What compiling fields comes to**: the text of their selection, or the fault of the first
relation that cannot be selected. -/
inductive IsOutcome (bound : ObjectType → String → Int) (t : ObjectType) (fs : List Field) :
    Except Fault (String × Note) → Prop
  /-- Every relation can be selected. -/
  | text {nodes : List (Node String)} (hnone : Selection.firstRefused? bound t fs = none)
      (hshape : Selection.IsSelection bound t fs nodes) :
      IsOutcome bound t fs
        (.ok (Selection.render nodes, .compiled t.indexName (Selection.render nodes)))
  /-- A relation cannot be selected. -/
  | refused {x : ObjectType × String} (hfirst : Selection.firstRefused? bound t fs = some x) :
      IsOutcome bound t fs (.error (.selection (Selection.refusal x)))

/-- **What becomes of a projection that selects fields**, however they are written, is decided by
the resolved bounds. -/
theorem isOutcome_run {projection : Value} {filters : Filters} {bounds : Option PageBounds}
    {n : Int} (hentries : Projection.entries projection = .ok (Field.entries fs))
    (hb : filters.bounds = .ok bounds) (hn : 1 ≤ n) :
    IsOutcome (filters.resolved n) t fs (run (.text t.label) projection filters (.int n)) := by
  rw [run_label hn, selection, hentries, hb, ← Paging.bound_eq_resolved hb n]
  show IsOutcome _ _ _
    (((Selection.build ⟨bounds, n⟩ t (Field.entries fs)).mapError .selection >>= _).map _)
  cases hfirst : Selection.firstRefused? (⟨bounds, n⟩ : Paging).bound t fs with
  | none =>
    obtain ⟨nodes, hnodes, hshape⟩ := Selection.exists_build_eq_ok ⟨bounds, n⟩ hfirst
    rw [hnodes]
    show IsOutcome _ _ _ (((Selection.spell (Selection.unspell nodes)).mapError _ >>= _).map _)
    rw [Selection.spell_unspell]
    exact .text hfirst hshape
  | some x =>
    rw [Selection.build_eq_error ⟨bounds, n⟩ hfirst]
    exact .refused hfirst

/-- **Fields whose relations exist have a text** when the bounds of all of them can be written. -/
theorem IsOutcome.exists_eq_ok_iff {r : Except Fault (String × Note)}
    (h : IsOutcome bound t fs r)
    (hrelations : ∀ x ∈ Selection.relationsOf t fs, x.1.hasRelation x.2 = true) :
    (∃ outcome, r = .ok outcome) ↔
      ∀ x ∈ Selection.relationsOf t fs, Numeral.isWritable (bound x.1 x.2) = true := by
  cases h with
  | text hnone _ =>
    have hall := Selection.find?_not_isSelectable_eq_none_iff.mp hnone
    exact ⟨fun _ x hx => (hall x hx).2, fun _ => ⟨_, rfl⟩⟩
  | refused hfirst =>
    constructor
    · rintro ⟨outcome, h⟩
      cases h
    · intro hwritable
      have hnone := Selection.find?_not_isSelectable_eq_none_iff.mpr fun x hx =>
        ⟨hrelations x hx, hwritable x hx⟩
      exact nomatch hfirst.symm.trans hnone

/-- **Fields whose relations exist, without a text**, meet a relation whose bound is too long, and
that is the fault. -/
theorem IsOutcome.fault_of_error {fault : Fault} (h : IsOutcome bound t fs (.error fault))
    (hrelations : ∀ x ∈ Selection.relationsOf t fs, x.1.hasRelation x.2 = true) :
    ∃ x ∈ Selection.relationsOf t fs, Numeral.isWritable (bound x.1 x.2) = false ∧
      fault = .selection (.bound x.1 x.2 {}) := by
  cases h with
  | @refused x hfirst =>
    have hmem := List.mem_of_find?_eq_some hfirst
    have hrefused := List.find?_some hfirst
    refine ⟨x, hmem, ?_, ?_⟩
    · simpa [Selection.isSelectable, hrelations x hmem] using hrefused
    · rw [Selection.refusal, if_pos (hrelations x hmem)]

end Outcome

/-! ## Compiled texts as sentences -/

/-- **Every bound of a relation is above zero.** -/
theorem one_le_bound {filters : Value} {bounds : Option PageBounds} {n : Int}
    (hb : (Filters.ofValue filters).bounds = .ok bounds) (hn : 1 ≤ n) (t : ObjectType)
    (relation : String) : 1 ≤ (⟨bounds, n⟩ : Paging).bound t relation := by
  rcases Filters.bounds_ofValue_eq_ok hb with ⟨rfl, rfl⟩ | ⟨b, hread, rfl⟩
  · exact hn
  · show 1 ≤ (b.bound? t relation).getD n
    cases hbound : b.bound? t relation with
    | none => exact hn
    | some m =>
      rw [PageBounds.bound?_eq_givenBound hread] at hbound
      exact PageBounds.givenBound_pos hread hbound

/-- **A projection that passes the check of its type compiles to a sentence of the type.** Every
part of that sentence is a mark, a number above zero, or the name of a field. -/
theorem sentence_of_run (t : ObjectType) (given : List (Value × Value)) (filters size : Value)
    {text : String} {note : Note} (hcheck : Vocabulary.check t (.dict given) = .ok ())
    (hrun : run (.text t.label) (.dict given) (Filters.ofValue filters) size = .ok (text, note)) :
    Selection.Sentence t text ∧
      ∃ parts, text = String.join parts ∧ ∀ x ∈ parts, Selection.IsPart x := by
  obtain ⟨n, hn, hselection⟩ := run_label_eq_ok hrun
  obtain ⟨entries, bounds, nodes, spelt, hentries, hbounds, hbuild, hspell, rfl⟩ :=
    selection_eq_ok hselection
  -- A selection that has a text is that of fields, which the check knows by name.
  obtain ⟨fs, rfl, hshape⟩ := Selection.exists_fields_of_build _ hbuild hspell
  have hbelong : AllBelong t fs := Vocabulary.allBelong_of_check hcheck hentries
  have hsentence := Selection.sentence_render (one_le_bound hbounds hn) hshape hbelong
  exact ⟨hsentence, hsentence.isComposed⟩

/-- A hat with its status and the events of its admin, which are bound by a raw table. -/
theorem sentence_of_run_admin_events :
    Vocabulary.check .hat (.dict [(.text "status", .bool true),
        (.text "admin", .dict [(.text "events", .dict [])])]) = .ok () ∧
      Selection.Sentence .hat ("id, status, admin(first: 10) \x7b id, " ++
        "events(orderBy: timestamp, orderDirection: desc, first: 3) \x7b id \x7d \x7d") := by
  have hcheck : Vocabulary.check .hat (.dict [(.text "status", .bool true),
      (.text "admin", .dict [(.text "events", .dict [])])]) = .ok () := rfl
  obtain ⟨note, hrun⟩ : ∃ note, run (.text "hat")
      (.dict [(.text "status", .bool true), (.text "admin", .dict [(.text "events", .dict [])])])
      (Filters.ofValue (.dict [(.text "hat", .dict [(.text "events", .int 3)])])) (.int 10) =
        .ok ("id, status, admin(first: 10) \x7b id, " ++
          "events(orderBy: timestamp, orderDirection: desc, first: 3) \x7b id \x7d \x7d", note) :=
    ⟨_, rfl⟩
  exact ⟨hcheck, (sentence_of_run .hat _ _ _ hcheck hrun).1⟩

end HatTree.Compile
