import HatTree.Proofs.Reading
import HatTree.Proofs.Selection.Field
import HatTree.Selection.Text

/-!
# Selections that have a text

Only nodes whose names are texts have a text. A selection that has one is therefore the selection of
fields, and its entries are those fields.

## Main results

* `eq_unspell_of_spell`: what is spelt are nodes of texts
* `spell_unspell`: nodes of texts are spelt as themselves
* `exists_fields_of_nodesOf`: nodes of texts are the nodes of fields
-/

namespace HatTree.Selection

/-! ## Spelling -/

/-- Nodes are those of texts when they are named over children that are. -/
theorem eq_unspell_of_nameAll {nodes : List (Node Value)} {inner : List (List (Node String))}
    (hinner : List.Forall₂ (fun node children => node.children = unspell children) nodes inner)
    {position : Nat} {spelt : List (Node String)} (h : nameAll position nodes inner = .ok spelt) :
    nodes = unspell spelt := by
  -- The children are spelt already, so that the induction runs over siblings only.
  induction hinner generalizing position spelt with
  | nil =>
    cases h
    rfl
  | @cons node children nodes inner hnode _ ih =>
    obtain ⟨name, arguments, below⟩ := node
    cases name with
    | text name =>
      obtain ⟨named, hnamed, hspelt⟩ := bind_eq_ok.mp h
      cases hspelt
      obtain rfl : below = unspell children := hnode
      rw [ih hnamed]
      rfl
    | _ => cases h

mutual

/-- The children of a node that are spelt are those of the node. -/
theorem children_of_spellBelow : ∀ (node : Node Value) {children : List (Node String)},
    spellBelow node = .ok children → node.children = unspell children
  | .mk _ _ below => fun h => by
    obtain ⟨inner, hinner, hnamed⟩ := bind_eq_ok.mp h
    exact eq_unspell_of_nameAll (children_of_spellEach below hinner) hnamed

/-- The children of each node that are spelt are those of the node. -/
theorem children_of_spellEach : ∀ (nodes : List (Node Value)) {inner : List (List (Node String))},
    spellEach nodes = .ok inner →
    List.Forall₂ (fun node children => node.children = unspell children) nodes inner
  | [] => fun h => by
    cases h
    exact .nil
  | node :: nodes => fun h => by
    obtain ⟨children, hchildren, h⟩ := bind_eq_ok.mp h
    obtain ⟨others, hothers, h⟩ := bind_eq_ok.mp h
    cases h
    exact .cons (children_of_spellBelow node hchildren) (children_of_spellEach nodes hothers)

end

/-- **What is spelt are nodes of texts.** -/
theorem eq_unspell_of_spell {nodes : List (Node Value)} {spelt : List (Node String)}
    (h : spell nodes = .ok spelt) : nodes = unspell spelt := by
  obtain ⟨inner, hinner, hnamed⟩ := bind_eq_ok.mp h
  exact eq_unspell_of_nameAll (children_of_spellEach nodes hinner) hnamed

theorem nameAll_unspell (position : Nat) : ∀ ns : List (Node String),
    nameAll position (unspell ns) (ns.map Node.children) = .ok ns
  | [] => rfl
  | .mk name arguments children :: ns => by
    show (nameAll (position + 1) (unspell ns) (ns.map Node.children) >>= _) = _
    rw [nameAll_unspell (position + 1) ns]
    rfl

mutual

theorem spellBelow_unspellNode : ∀ n : Node String, spellBelow (unspellNode n) = .ok n.children
  | .mk name arguments children => by
    show (spellEach (unspell children) >>= _) = _
    rw [spellEach_unspell children]
    exact nameAll_unspell 0 children

theorem spellEach_unspell : ∀ ns : List (Node String),
    spellEach (unspell ns) = .ok (ns.map Node.children)
  | [] => rfl
  | n :: ns => by
    show (spellBelow (unspellNode n) >>= _) = _
    rw [spellBelow_unspellNode n]
    show (spellEach (unspell ns) >>= _) = _
    rw [spellEach_unspell ns]
    rfl

end

/-- **Nodes of texts are spelt** as themselves. -/
theorem spell_unspell (ns : List (Node String)) : spell (unspell ns) = .ok ns := by
  show (spellEach (unspell ns) >>= _) = _
  rw [spellEach_unspell]
  exact nameAll_unspell 0 ns

/-! ## Nodes of texts -/

theorem unspell_eq_nil {ns : List (Node String)} (h : unspell ns = []) : ns = [] := by
  cases ns with
  | nil => rfl
  | cons n ns => cases h

/-- A node of texts that is a leaf is the leaf of its name. -/
theorem unspellNode_eq_leaf {n : Node String} {name : Value} (h : unspellNode n = .leaf name) :
    ∃ s, name = .text s ∧ n = .leaf s := by
  obtain ⟨s, arguments, children⟩ := n
  injection h with hname harguments hchildren
  obtain rfl := harguments
  obtain rfl := unspell_eq_nil hchildren
  exact ⟨s, hname.symm, rfl⟩

/-- Nodes of texts that start with the id start with it as a text. -/
theorem unspell_eq_idNode_cons {ns : List (Node String)} {nodes : List (Node Value)}
    (h : unspell ns = idNode :: nodes) :
    ∃ rest, ns = .leaf idField :: rest ∧ unspell rest = nodes := by
  cases ns with
  | nil => cases h
  | cons n rest =>
    injection h with hn hrest
    obtain ⟨s, hs, rfl⟩ := unspellNode_eq_leaf hn
    cases hs
    exact ⟨rest, rfl, hrest⟩

/-- A name that stands for a relation is a text. -/
theorem resolve_eq_ok {t next : ObjectType} {name : Value} {relation : String}
    (h : resolve t name = .ok (relation, next)) :
    name = .text relation ∧ t.target? relation = some next := by
  cases name with
  | text s =>
    rw [resolve_text] at h
    cases hnext : t.target? s with
    | none =>
      rw [hnext] at h
      cases h
    | some next' =>
      rw [hnext] at h
      cases h
      exact ⟨rfl, hnext⟩
  | _ =>
    -- What is no text is refused, for one cause or another.
    rw [resolve] at h
    · split at h <;> cases h
    · intro s hs
      cases hs

variable (p : Paging)

mutual

/-- A node of texts is the node of a field, and the entry it comes from is that field. -/
theorem exists_field_of_nodeOf (t : ObjectType) : ∀ (e : Entry) {n : Node String},
    nodeOf p t e = .ok (unspellNode n) → ∃ f, e = Field.entry f ∧ NodeFor p.bound t f n
  | .scalar name, n => fun h => by
    obtain ⟨s, rfl, rfl⟩ := unspellNode_eq_leaf (Except.ok.inj h).symm
    exact ⟨.scalar s, rfl, .scalar⟩
  | .relation name fields, n => fun h => by
    obtain ⟨⟨relation, next⟩, hresolve, h⟩ := bind_eq_ok.mp h
    obtain ⟨given, hgiven, h⟩ := bind_eq_ok.mp h
    obtain ⟨children, hchildren, h⟩ := bind_eq_ok.mp h
    obtain ⟨rfl, hnext⟩ := resolve_eq_ok hresolve
    obtain rfl := eq_argumentsOf_of_eq_ok p (mapError_eq_ok.mp hgiven)
    obtain ⟨s, arguments, below⟩ := n
    injection Except.ok.inj h with hname harguments hbelow
    cases hname
    -- The id, which no entry stands for, comes before the nodes of the entries below.
    obtain ⟨rest, rfl, rfl⟩ := unspell_eq_idNode_cons hbelow.symm
    obtain ⟨fs, rfl, hfs⟩ := exists_fields_of_nodesOf next fields hchildren
    rw [← harguments]
    exact ⟨.relation relation fs, rfl, .relation hnext hfs⟩
  | .stray v, n => fun h => by cases h

/-- **Nodes of texts are the nodes of fields**, and the entries they come from are those fields. -/
theorem exists_fields_of_nodesOf (t : ObjectType) : ∀ (es : List Entry) {ns : List (Node String)},
    nodesOf p t es = .ok (unspell ns) → ∃ fs, es = Field.entries fs ∧ NodesFor p.bound t fs ns
  | [], ns => fun h => by
    obtain rfl := unspell_eq_nil (Except.ok.inj h).symm
    exact ⟨[], rfl, .nil⟩
  | e :: es, ns => fun h => by
    obtain ⟨node, hnode, h⟩ := bind_eq_ok.mp h
    obtain ⟨nodes, hnodes, h⟩ := bind_eq_ok.mp h
    cases ns with
    | nil => cases h
    | cons n ns =>
      cases h
      obtain ⟨f, rfl, hf⟩ := exists_field_of_nodeOf t e hnode
      obtain ⟨fs, rfl, hfs⟩ := exists_fields_of_nodesOf t es hnodes
      exact ⟨f :: fs, rfl, .cons hf hfs⟩

end

/-- **A selection that has a text is that of fields.** -/
theorem exists_fields_of_build {t : ObjectType} {es : List Entry} {nodes : List (Node Value)}
    {spelt : List (Node String)} (hbuild : build p t es = .ok nodes)
    (hspell : spell nodes = .ok spelt) :
    ∃ fs, es = Field.entries fs ∧ IsSelection p.bound t fs spelt := by
  obtain ⟨ns, hns, h⟩ := bind_eq_ok.mp hbuild
  cases h
  obtain ⟨rest, rfl, rfl⟩ := unspell_eq_idNode_cons (eq_unspell_of_spell hspell).symm
  obtain ⟨fs, rfl, hfs⟩ := exists_fields_of_nodesOf p t es hns
  exact ⟨fs, rfl, rest, rfl, hfs⟩

end HatTree.Selection
