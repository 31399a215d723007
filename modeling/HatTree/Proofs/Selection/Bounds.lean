import HatTree.Proofs.Selection.Grammar

/-!
# What page bounds change in a text

The texts of one list of fields under two bounds differ in the bounds alone: everything before a
bound is fixed by the fields, and a bound ends where its parenthesis closes. So the texts are equal
exactly when the bounds agree on every relation met in the fields, and what is bound elsewhere does
not matter.

The names of the fields need not be words here, unlike for reading a selection back: both texts are
of the same fields, so that a name that looks like a bracket looks so in both.

## Main results

* `eq_of_nodesFor`: bounds that agree on the relations met give the same nodes
* `agreeOn_of_restText_append`: texts that are equal have equal bounds, whatever follows them
* `render_eq_iff`: the texts of a selection under two bounds
-/

namespace HatTree

namespace Numeral

theorem decimal_injective : Function.Injective decimal := by
  have hrepr {n m : Nat} (h : Nat.repr n = Nat.repr m) : n = m := by
    rw [← value_repr n, h, value_repr]
  -- A sign stands before the digits of negative integers only.
  have hsign (n m : Nat) : "-" ++ Nat.repr (n + 1) ≠ Nat.repr m := by
    intro h
    have hmem : '-' ∈ (Nat.repr m).toList := by
      rw [← h]
      simp
    cases isDigit_of_mem_repr hmem
  intro x y h
  cases x with
  | ofNat n =>
    cases y with
    | ofNat m => exact congrArg Int.ofNat (hrepr h)
    | negSucc m => exact absurd h.symm (hsign m n)
  | negSucc n =>
    cases y with
    | ofNat m => exact absurd h (hsign n m)
    | negSucc m =>
      have hsucc := hrepr ((String.append_right_inj _).mp h)
      exact congrArg Int.negSucc (Nat.succ.inj hsucc)

theorem close_not_mem_decimal (x : Int) : ')' ∉ (decimal x).toList := by
  intro h
  cases x with
  | ofNat n => cases isDigit_of_mem_repr h
  | negSucc n =>
    rw [decimal, String.toList_append, List.mem_append] at h
    rcases h with h | h
    · simp at h
    · cases isDigit_of_mem_repr h

/-- **A number ends where its parenthesis closes.** -/
theorem decimal_append_close {x y : Int} {r r' : String}
    (h : decimal x ++ (")" ++ r) = decimal y ++ (")" ++ r')) : x = y ∧ r = r' := by
  -- What is taken up to the parenthesis is the number.
  have htake (z : Int) (s : String) :
      (decimal z ++ (")" ++ s)).toList.takeWhile (· ≠ ')') = (decimal z).toList := by
    rw [String.toList_append, String.toList_append, List.takeWhile_append_of_pos]
    · simp
    · intro c hc
      exact decide_eq_true fun hclose => close_not_mem_decimal z (hclose ▸ hc)
  have hdecimal : decimal x = decimal y := by
    rw [← String.toList_inj, ← htake x r, h, htake y r']
  rw [hdecimal, String.append_right_inj, String.append_right_inj] at h
  exact ⟨decimal_injective hdecimal, h⟩

end Numeral

namespace Selection

/-- Two bounds that agree on relations. -/
def AgreeOn (bound bound' : ObjectType → String → Int) (xs : List (ObjectType × String)) : Prop :=
  ∀ x ∈ xs, bound x.1 x.2 = bound' x.1 x.2

variable {bound bound' : ObjectType → String → Int} {t : ObjectType}

/-! ## Bounds that agree -/

mutual

theorem eq_of_nodeFor {t : ObjectType} : ∀ {f : Field} {n n' : Node String},
    NodeFor bound t f n → NodeFor bound' t f n' → AgreeOn bound bound' (fieldRelations t f) →
    n = n'
  | _, _, _, .scalar, .scalar => fun _ => rfl
  | .relation name fields, _, _, .relation hnext hchildren, .relation hnext' hchildren' =>
    fun hagree => by
      rw [hnext] at hnext'
      cases hnext'
      have hhere : bound t name = bound' t name :=
        hagree (t, name) (by simp [fieldRelations])
      have hchildren := eq_of_nodesFor hchildren hchildren' fun x hx =>
        hagree x (by simp [fieldRelations, hnext, hx])
      rw [argumentsOf, argumentsOf, hhere, hchildren]

/-- **Fields have the same nodes under bounds that agree** on the relations met in them. -/
theorem eq_of_nodesFor {t : ObjectType} : ∀ {fs : List Field} {ns ns' : List (Node String)},
    NodesFor bound t fs ns → NodesFor bound' t fs ns' →
    AgreeOn bound bound' (relationsOf t fs) → ns = ns'
  | _, _, _, .nil, .nil => fun _ => rfl
  | f :: fs, _, _, .cons hn hns, .cons hn' hns' => fun hagree => by
    have hf : AgreeOn bound bound' (fieldRelations t f) := fun x hx =>
      hagree x (by simp [relationsOf, hx])
    have hfs : AgreeOn bound bound' (relationsOf t fs) := fun x hx =>
      hagree x (by simp [relationsOf, hx])
    rw [eq_of_nodeFor hn hn' hf, eq_of_nodesFor hns hns' hfs]

end

/-! ## Texts that are equal -/

/-- The text of nodes that follow another. -/
def restText : List (Node String) → String
  | [] => ""
  | n :: ns => ", " ++ renderNode n ++ restText ns

theorem intercalate_renderAll (s : String) (ns : List (Node String)) :
    ", ".intercalate (s :: renderAll ns) = s ++ restText ns := by
  induction ns generalizing s with
  | nil => simp [renderAll, restText]
  | cons n ns ih =>
    rw [renderAll, String.intercalate_cons_cons, ih, restText]
    simp only [String.append_assoc]

theorem renderNode_leaf (name : String) : renderNode (.leaf name) = name := by
  simp [Node.leaf, renderNode, argumentText]

/-- The text of a selection is the id, then the text of what follows it. -/
theorem render_cons (ns : List (Node String)) :
    render (.leaf idField :: ns) = idField ++ restText ns := by
  rw [render, renderAll, intercalate_renderAll, renderNode_leaf]

/-- **The text of a relation**: its bound stands between texts that the fields fix. -/
theorem renderNode_relation (t : ObjectType) (name : String) (children : List (Node String)) :
    renderNode (.mk name (argumentsOf bound t name) (.leaf idField :: children)) =
      name ++ ("(" ++ (if t.isEventList name then orderText else "") ++ "first: ") ++
        (Numeral.decimal (bound t name) ++
          (")" ++ (" \x7b " ++ idField ++ (restText children ++ " \x7d")))) := by
  rw [renderNode, argumentText_eq, List.isEmpty_cons, if_neg Bool.false_ne_true, ← render,
    render_cons]
  simp only [String.append_assoc]

mutual

theorem agreeOn_of_renderNode_append {t : ObjectType} : ∀ {f : Field} {n n' : Node String},
    NodeFor bound t f n → NodeFor bound' t f n' → ∀ {r r' : String},
    renderNode n ++ r = renderNode n' ++ r' → AgreeOn bound bound' (fieldRelations t f) ∧ r = r'
  | .scalar name, _, _, .scalar, .scalar => fun h => by
    refine ⟨fun x hx => ?_, (String.append_right_inj _).mp h⟩
    rw [fieldRelations] at hx
    cases hx
  | .relation name fields, _, _, .relation hnext hchildren, .relation hnext' hchildren' =>
    fun h => by
      rw [hnext] at hnext'
      cases hnext'
      rw [renderNode_relation, renderNode_relation] at h
      -- Up to the bound both texts are the same, and behind it the nodes below begin.
      simp only [String.append_assoc, String.append_right_inj] at h
      obtain ⟨hhere, h⟩ := Numeral.decimal_append_close h
      simp only [String.append_right_inj] at h
      obtain ⟨hbelow, h⟩ := agreeOn_of_restText_append hchildren hchildren' h
      refine ⟨fun x hx => ?_, (String.append_right_inj _).mp h⟩
      rw [fieldRelations, hnext, List.mem_cons] at hx
      rcases hx with rfl | hx
      · exact hhere
      · exact hbelow x hx

/-- **The text of fields, whatever follows it, determines the bounds** of the relations met. -/
theorem agreeOn_of_restText_append {t : ObjectType} : ∀ {fs : List Field}
    {ns ns' : List (Node String)}, NodesFor bound t fs ns → NodesFor bound' t fs ns' →
    ∀ {r r' : String}, restText ns ++ r = restText ns' ++ r' →
    AgreeOn bound bound' (relationsOf t fs) ∧ r = r'
  | _, _, _, .nil, .nil => fun h => by
    refine ⟨fun x hx => ?_, (String.append_right_inj _).mp h⟩
    rw [relationsOf] at hx
    cases hx
  | f :: fs, _, _, .cons hn hns, .cons hn' hns' => fun h => by
    rw [restText, restText] at h
    simp only [String.append_assoc, String.append_right_inj] at h
    obtain ⟨hf, h⟩ := agreeOn_of_renderNode_append hn hn' h
    obtain ⟨hfs, h⟩ := agreeOn_of_restText_append hns hns' h
    refine ⟨fun x hx => ?_, h⟩
    rw [relationsOf, List.mem_append] at hx
    rcases hx with hx | hx
    · exact hf x hx
    · exact hfs x hx

end

end Selection

end HatTree
