import HatTree.Proofs.Document
import HatTree.Proofs.Lookup.Stages

/-!
# Documents that are sent

Whatever is selected, the document of a request that is sent has nested brackets, and uses the
variables that it declares, which are those that are sent with it. The templates of the operations
are such documents; the texts of selections, however deep, have nested brackets of their own and no
variables.

## Main results

* `isInert_render`: a selection of fields of the schema is inert
* `isInert_of_compilesTo`: so is what a checked projection compiles to
* `isClosed_document`: the document of each request is closed
* `isClosed_of_sent`: every document that is sent is closed
-/

namespace HatTree

open Document (IsInert IsClosed Declares Uses braced)

namespace Selection

/-! ## Selections -/

theorem isInert_of_mem_fields {t : ObjectType} {name : String} (hname : name ∈ t.fields) :
    IsInert name := by
  have hwords : ∀ name ∈ t.fields, IsWord name := by cases t <;> decide +kernel
  exact Document.isInert_of_isNameChar (hwords name hname).2

theorem isInert_repr (n : Nat) : IsInert (Nat.repr n) :=
  Document.isInert_of_isNameChar fun c hc => by
    simp [isNameChar, Char.isAlphanum, Numeral.isDigit_of_mem_repr hc]

theorem isInert_decimal (n : Int) : IsInert (Numeral.decimal n) := by
  have hminus : IsInert "-" := by decide
  cases n with
  | ofNat n => exact isInert_repr n
  | negSucc n => exact hminus.append (isInert_repr _)

variable {bound : ObjectType → String → Int}

theorem isInert_argumentText (t : ObjectType) (relation : String) :
    IsInert (argumentText (argumentsOf bound t relation)) := by
  have hparentheses : IsInert ("(" ++ ")") := by decide
  have horder : IsInert (if t.isEventList relation then orderText else "") := by
    split <;> decide
  have hfirst : IsInert "first: " := by decide
  rw [argumentText_eq]
  exact hparentheses.insert (horder.append (hfirst.append (isInert_decimal _)))

mutual

theorem isInert_renderNode {t : ObjectType} : ∀ {f : Field} {n : Node String},
    NodeFor bound t f n → Belongs t f → IsInert (renderNode n)
  | _, _, .scalar, .scalar hname => by
    rw [Node.leaf, renderNode]
    simpa [argumentText] using isInert_of_mem_fields (ObjectType.mem_fields_iff.mpr (.inl hname))
  | _, _, .relation hnext hchildren, .relation hnext' hfields => by
    rw [hnext] at hnext'
    cases hnext'
    have hname := isInert_of_mem_fields (ObjectType.mem_fields_iff.mpr (.inr (by rw [hnext]; rfl)))
    have hid : IsInert idField := by decide
    have hcomma : IsInert ", " := by decide
    have hbraces : IsInert (" \x7b " ++ " \x7d") := by decide
    have hbelow := IsInert.intercalate hcomma _ hid (isInert_renderAll hchildren hfields)
    rw [renderNode, List.isEmpty_cons, if_neg Bool.false_ne_true]
    exact (hname.append (isInert_argumentText t _)).append (hbraces.insert hbelow)

theorem isInert_renderAll {t : ObjectType} : ∀ {fs : List Field} {ns : List (Node String)},
    NodesFor bound t fs ns → AllBelong t fs → ∀ s ∈ renderAll ns, IsInert s
  | _, _, .nil, _ => fun _ hs => by cases hs
  | _, _, .cons hn hns, .cons hf hfs => fun s hs => by
    rcases List.mem_cons.mp hs with rfl | hs
    · exact isInert_renderNode hn hf
    · exact isInert_renderAll hns hfs s hs

end

/-- **Selections are inert**, however deep. -/
theorem isInert_render {t : ObjectType} {fs : List Field} {nodes : List (Node String)}
    (hshape : IsSelection bound t fs nodes) (hbelong : AllBelong t fs) :
    IsInert (render nodes) := by
  obtain ⟨children, rfl, hchildren⟩ := hshape
  have hcomma : IsInert ", " := by decide
  have hid : IsInert idField := by decide
  exact IsInert.intercalate hcomma _ hid (isInert_renderAll hchildren hbelong)

end Selection

namespace Lookup

/-! ## Documents -/

variable {endpoints : Endpoints} {filters : Filters}

/-- **A checked projection compiles to an inert text.** -/
theorem isInert_of_compilesTo {x : ObjectType × Value} {text : String}
    (hcheck : Vocabulary.check x.1 x.2 = .ok ()) (htext : CompilesTo endpoints filters x text) :
    IsInert text := by
  obtain ⟨note, hrun⟩ := htext
  obtain ⟨given, hgiven⟩ := Vocabulary.exists_dict_of_check hcheck
  obtain ⟨n, -, hselection⟩ := Compile.run_label_eq_ok hrun
  obtain ⟨entries, bounds, nodes, spelt, hentries, -, hbuild, hspell, rfl⟩ :=
    Compile.selection_eq_ok hselection
  obtain ⟨fs, rfl, hshape⟩ := Selection.exists_fields_of_build _ hbuild hspell
  rw [hgiven] at hcheck hentries
  exact Selection.isInert_render hshape (Vocabulary.allBelong_of_check hcheck hentries)

/-- **The signature of a request** declares the variables that are sent with it. -/
theorem declares_document (r : Request) (texts : List String) :
    Declares (r.document texts).operation (r.document texts).parameters
      (r.bindings.map (·.1)) := by
  cases r with
  | hat => exact (by decide +kernel : Declares "getHat" [("id", "ID!")] ["id"])
  | hats => exact (by decide +kernel : Declares "getHatsByIds" [("ids", "[ID!]!")] ["ids"])
  | tree => exact (by decide +kernel : Declares "getTree" [("id", "ID!")] ["id"])
  | trees => exact (by decide +kernel : Declares "getTreesById" [("ids", "[ID!]!")] ["ids"])
  | treePage =>
    exact (by decide +kernel : Declares "getPaginatedTrees"
      [("skip", "Int!"), ("first", "Int!")] ["skip", "first"])
  | wearer => exact (by decide +kernel : Declares "getCurrentHatsForWearer" [("id", "ID!")] ["id"])
  | wearerPage =>
    exact (by decide +kernel : Declares "getPaginatedWearersForHat"
      [("hatId", "ID!"), ("first", "Int!"), ("skip", "Int!")] ["hatId", "first", "skip"])
  | search => exact (by decide +kernel : Declares "search" [("search", "String!")] ["search"])

variable {texts : List String}

/-- A selection that is missing is an empty text. -/
theorem isInert_getD (h : ∀ s ∈ texts, IsInert s) (i : Nat) : IsInert (texts.getD i "") := by
  rw [List.getD_eq_getElem?_getD]
  cases hi : texts[i]? with
  | none =>
    show IsInert ""
    decide
  | some s => exact h s (List.mem_of_getElem? hi)

/-- The body of a search names its one variable before each selection, and twice before that of
hats. -/
theorem uses_search {ofTrees ofHats ofWearers : String} (htrees : Uses ofTrees [])
    (hhats : Uses ofHats []) (hwearers : Uses ofWearers []) :
    Uses (Document.search ofTrees ofHats ofWearers).body
      ["search", "search", "search", "search"] := by
  have trees : Uses ("trees(where: " ++ braced "id: $search" ++ ") ") ["search"] := by
    decide +kernel
  have hats : Uses (" hats(where: " ++
      braced ("or: [" ++ braced "id: $search" ++ ", " ++ braced "prettyId: $search" ++ "]") ++
      ") ") ["search", "search"] := by
    decide +kernel
  have wearers : Uses (" wearers(where: " ++ braced "id: $search" ++ ") ") ["search"] := by
    decide +kernel
  have hblank {part fields : String} (h : part.toList.head? = some ' ') :
      (part ++ braced fields).toList.head? = some ' ' := by
    rw [String.toList_append, List.head?_append, h]
    rfl
  have hbody := ((trees.append_braced htrees).append_blank (hats.append_braced hhats)
    (hblank rfl)).append_blank (wearers.append_braced hwearers) (hblank rfl)
  simpa only [Document.search, String.append_assoc, List.append_nil, List.cons_append,
    List.nil_append] using hbody

/-- **The body of a request** uses the variables that are sent with it. -/
theorem exists_uses_body (r : Request) (h : ∀ s ∈ texts, IsInert s) :
    ∃ used, Uses (r.document texts).body used ∧ ∀ v, v ∈ used ↔ v ∈ r.bindings.map (·.1) := by
  have hfields (i : Nat) : Uses (texts.getD i "") [] := (isInert_getD h i).uses
  have hfirst : Uses (texts.headD "") [] := by
    rw [List.headD_eq_head?_getD, List.head?_eq_getElem?, ← List.getD_eq_getElem?_getD]
    exact hfields 0
  cases r with
  | hat =>
    have hat : Uses "hat(id: $id) " ["id"] := by decide
    exact ⟨_, hat.append_braced hfirst, fun _ => Iff.rfl⟩
  | hats =>
    have hats : Uses ("hats(where: " ++ braced "id_in: $ids" ++ ") ") ["ids"] := by decide +kernel
    exact ⟨_, hats.append_braced hfirst, fun _ => Iff.rfl⟩
  | tree =>
    have tree : Uses "tree(id: $id) " ["id"] := by decide
    exact ⟨_, tree.append_braced hfirst, fun _ => Iff.rfl⟩
  | trees =>
    have trees : Uses ("trees(where: " ++ braced "id_in: $ids" ++ ") ") ["ids"] := by decide +kernel
    exact ⟨_, trees.append_braced hfirst, fun _ => Iff.rfl⟩
  | treePage =>
    have trees : Uses "trees(skip: $skip, first: $first) " ["skip", "first"] := by decide +kernel
    exact ⟨_, trees.append_braced hfirst, fun _ => Iff.rfl⟩
  | wearer =>
    have wearer : Uses "wearer(id: $id) " ["id"] := by decide
    exact ⟨_, wearer.append_braced hfirst, fun _ => Iff.rfl⟩
  | wearerPage =>
    have hat : Uses "hat(id: $hatId) " ["hatId"] := by decide
    have wearers : Uses "wearers(skip: $skip, first: $first) " ["skip", "first"] := by
      decide +kernel
    -- The page is declared in another order than it is asked for.
    exact ⟨_, hat.append_braced (wearers.append_braced hfirst),
      fun _ => (List.Perm.cons _ (.swap ..)).mem_iff⟩
  | search =>
    refine ⟨_, uses_search hfirst (hfields 1) (hfields 2), fun v => ?_⟩
    show v ∈ List.replicate 4 "search" ↔ v ∈ ["search"]
    simp

/-- **The document of a request is closed** around inert selections. -/
theorem isClosed_document (r : Request) (h : ∀ s ∈ texts, IsInert s) :
    IsClosed (r.document texts).text (r.bindings.map (·.1)) := by
  obtain ⟨used, hbody, hused⟩ := exists_uses_body r h
  exact Document.isClosed_text (declares_document r texts) hbody hused

/-! ## What is sent -/

variable {chain : Value} {request : Request}

theorem isInert_of_forall₂ {xs : List (ObjectType × Value)}
    (hcheck : ∀ x ∈ xs, Vocabulary.check x.1 x.2 = .ok ())
    (htexts : List.Forall₂ (CompilesTo endpoints filters) xs texts) : ∀ s ∈ texts, IsInert s := by
  induction htexts with
  | nil => exact fun _ hs => by cases hs
  | cons htext _ ih =>
    intro s hs
    rcases List.mem_cons.mp hs with rfl | hs
    · exact isInert_of_compilesTo (hcheck _ List.mem_cons_self) htext
    · exact ih (fun x hx => hcheck x (List.mem_cons_of_mem _ hx)) s hs

/-- When no stage of a request fails, its projections have passed the check. -/
theorem check_of_stages {x : ObjectType × Value} (hx : x ∈ request.projections)
    (hnone : request.stages.findSome? (Stage.fault? endpoints filters chain) = none) :
    Vocabulary.check x.1 x.2 = .ok () := by
  have hstage : Stage.vocabulary x.1 x.2 ∈ request.stages :=
    List.mem_append_left _ (List.mem_flatMap.mpr ⟨x, hx, List.mem_cons_self⟩)
  have hfault := List.findSome?_eq_none_iff.mp hnone _ hstage
  rw [Stage.fault?] at hfault
  cases hcheck : Vocabulary.check x.1 x.2 with
  | ok u => rfl
  | error f =>
    rw [hcheck] at hfault
    cases hfault

/-- **Every document that is sent is closed**: its brackets are nested, and the variables that it
uses are those that it declares, which are those that are sent with it. -/
theorem isClosed_of_sent (endpoints : Endpoints) (executor : Sent → Except Report Value)
    (chain : Value) (filters : Filters) (request : Request) {sent : Sent}
    (h : sent ∈ (run endpoints executor chain filters request).calls) :
    IsClosed sent.query (sent.bindings.map (·.1)) := by
  cases hstages : request.stages.findSome? (Stage.fault? endpoints filters chain) with
  | some fault =>
    rw [(run_of_fault executor hstages).1] at h
    cases h
  | none =>
    obtain ⟨sent', hsent, hcalls, -⟩ := run_of_stages executor hstages
    rw [hcalls, List.mem_singleton] at h
    subst h
    obtain ⟨texts, htexts, hquery⟩ := hsent.query
    rw [hquery, hsent.bindings]
    exact isClosed_document request
      (isInert_of_forall₂ (fun x hx => check_of_stages hx hstages) htexts)

/-- The wearers of a hat and the hats that each of them has: the document is sent, and closed. -/
theorem isClosed_of_sent_nested_wearers :
    let request := Request.hat 1 (.dict
      [(.text "wearers", .dict [(.text "currentHats", .dict [(.text "status", .bool true)])])])
    ∃ sent ∈ (run .standard (fun _ => .ok .null) (.int 10) .absent request).calls,
      sent.query =
        "query getHat($id: ID!) \x7b hat(id: $id) \x7b id, wearers(first: 1000) \x7b id, " ++
          "currentHats(first: 1000) \x7b id, status \x7d \x7d \x7d \x7d" ∧
      IsClosed sent.query ["id"] := by
  intro request
  refine ⟨_, List.mem_cons_self, rfl, ?_⟩
  exact isClosed_of_sent .standard (fun _ => .ok .null) (.int 10) .absent request List.mem_cons_self

end Lookup

end HatTree
