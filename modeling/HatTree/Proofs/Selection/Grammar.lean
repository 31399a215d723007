import HatTree.Proofs.Numeral
import HatTree.Proofs.Vocabulary
import HatTree.Selection.Text

/-!
# The language of compiled texts

A compiled text is a sentence: the id, then phrases, which are scalars of the type or relations of
it with arguments and a sentence of the type they point at. The only free part is the bound of a
relation, a numeral above zero. What is made from the nodes of fields that belong to the schema is
such a sentence.

## Main definitions

* `Numeral.IsPositive`: a numeral above zero without leading zeros
* `IsArguments`: the arguments of a relation
* `Sentence`, `Phrase`: the sentences of a type and their phrases
* `IsPart`: what a sentence is put together from

## Main results

* `Sentence.isComposed`: a sentence has no part that the schema does not fix
* `sentence_render`: fields that belong to the schema are rendered as a sentence
-/

namespace HatTree

/-- **A numeral above zero**: decimal digits, the first of which is not zero. -/
def Numeral.IsPositive (s : String) : Prop :=
  ∃ c cs, s.toList = c :: cs ∧ c ≠ '0' ∧ ∀ d ∈ c :: cs, d.isDigit = true

namespace Selection

/-- What stands before the bound of a relation that lists events. -/
def orderText : String := "orderBy: timestamp, orderDirection: desc, "

/-- **The arguments of a relation**: the order, if it lists events, and a bound above zero. -/
def IsArguments (t : ObjectType) (relation a : String) : Prop :=
  ∃ bound, Numeral.IsPositive bound ∧
    a = (if t.isEventList relation then orderText else "") ++ ("first: " ++ bound)

mutual

/-- **A sentence of a type**: the id, then phrases of the type. -/
inductive Sentence : ObjectType → String → Prop
  /-- The id. -/
  | id {t : ObjectType} : Sentence t "id"
  /-- One more phrase. -/
  | phrase {t : ObjectType} {s f : String} (hs : Sentence t s) (hf : Phrase t f) :
      Sentence t (s ++ ", " ++ f)

/-- **A phrase of a type**: one of its scalars, or one of its relations with arguments and a
sentence of the type it points at. -/
inductive Phrase : ObjectType → String → Prop
  /-- A scalar. -/
  | scalar {t : ObjectType} {name : String} (hname : name ∈ t.scalars) : Phrase t name
  /-- A relation. -/
  | relation {t next : ObjectType} {name a s : String} (hnext : t.target? name = some next)
      (ha : IsArguments t name a) (hs : Sentence next s) :
      Phrase t (name ++ ("(" ++ a ++ ")") ++ (" \x7b " ++ s ++ " \x7d"))

end

/-! ## The parts of a sentence -/

/-- The fixed parts of sentences. -/
def marks : List String :=
  ["id", ", ", "(", ")", " \x7b ", " \x7d", orderText, "first: "]

/-- **A part of a sentence**: a mark, a numeral above zero, or the name of a field. -/
def IsPart (s : String) : Prop :=
  s ∈ marks ∨ Numeral.IsPositive s ∨ ∃ t : ObjectType, s ∈ t.fields

/-- A text that consists of parts. -/
def IsComposed (s : String) : Prop := ∃ parts, s = String.join parts ∧ ∀ x ∈ parts, IsPart x

theorem IsPart.isComposed {s : String} (hs : IsPart s) : IsComposed s :=
  ⟨[s], by simp [String.join_cons], by simpa using hs⟩

theorem IsComposed.append {s s' : String} (hs : IsComposed s) (hs' : IsComposed s') :
    IsComposed (s ++ s') := by
  obtain ⟨parts, rfl, hparts⟩ := hs
  obtain ⟨parts', rfl, hparts'⟩ := hs'
  refine ⟨parts ++ parts', String.join_append.symm, fun x hx => ?_⟩
  rcases List.mem_append.mp hx with hx | hx
  · exact hparts x hx
  · exact hparts' x hx

theorem isComposed_mark {s : String} (hs : s ∈ marks) : IsComposed s := IsPart.isComposed (.inl hs)

theorem isComposed_field {t : ObjectType} {name : String} (hname : name ∈ t.fields) :
    IsComposed name := IsPart.isComposed (.inr (.inr ⟨t, hname⟩))

theorem IsArguments.isComposed {t : ObjectType} {relation a : String}
    (ha : IsArguments t relation a) : IsComposed a := by
  obtain ⟨bound, hbound, rfl⟩ := ha
  have hfirst : IsComposed ("first: " ++ bound) :=
    (isComposed_mark (by simp [marks])).append (IsPart.isComposed (.inr (.inl hbound)))
  split
  · exact (isComposed_mark (by simp [marks])).append hfirst
  · rwa [String.empty_append]

mutual

/-- **A sentence consists of parts.** -/
theorem Sentence.isComposed {t : ObjectType} : ∀ {s : String}, Sentence t s → IsComposed s
  | _, .id => isComposed_mark (by simp [marks])
  | _, .phrase hs hf =>
    (hs.isComposed.append (isComposed_mark (by simp [marks]))).append hf.isComposed

theorem Phrase.isComposed {t : ObjectType} : ∀ {s : String}, Phrase t s → IsComposed s
  | _, .scalar hname => isComposed_field (ObjectType.mem_fields_iff.mpr (.inl hname))
  | _, .relation hnext ha hs => by
    have hname := isComposed_field (ObjectType.mem_fields_iff.mpr (.inr (by rw [hnext]; rfl)))
    have hinside := (isComposed_mark (s := "(") (by simp [marks])).append ha.isComposed
    have hbelow := (isComposed_mark (s := " \x7b ") (by simp [marks])).append hs.isComposed
    exact (hname.append (hinside.append (isComposed_mark (by simp [marks])))).append
      (hbelow.append (isComposed_mark (by simp [marks])))

end

/-! ## Rendering -/

/-- Phrases behind a sentence, divided by commas, make a sentence. -/
theorem Sentence.intercalate {t : ObjectType} : ∀ (fs : List String) {s : String}, Sentence t s →
    (∀ f ∈ fs, Phrase t f) → Sentence t (", ".intercalate (s :: fs))
  | [], s => fun hs _ => by rwa [String.intercalate_singleton]
  | f :: fs, s => fun hs hall => by
    -- The text gathers from the left, as a sentence does.
    show Sentence t (", ".intercalate ((s ++ ", " ++ f) :: fs))
    exact Sentence.intercalate fs (.phrase hs (hall f List.mem_cons_self)) fun f' hf' =>
      hall f' (List.mem_cons_of_mem _ hf')

theorem isPositive_decimal {n : Int} (hn : 1 ≤ n) : Numeral.IsPositive (Numeral.decimal n) := by
  obtain ⟨m, rfl⟩ := Int.eq_ofNat_of_zero_le (Int.le_of_lt hn)
  obtain ⟨c, cs, hcs, hc⟩ := Numeral.toDigits_eq_cons (b := 10) (by decide) (n := m) (by omega)
  rw [← Nat.toList_repr] at hcs
  exact ⟨c, cs, hcs, hc, fun d hd => Numeral.isDigit_of_mem_repr (hcs ▸ hd)⟩

variable {bound : ObjectType → String → Int}

/-- **The text of the arguments of a relation**: only the bound is free. -/
theorem argumentText_eq (t : ObjectType) (relation : String) :
    argumentText (argumentsOf bound t relation) =
      "(" ++ ((if t.isEventList relation then orderText else "") ++
        ("first: " ++ Numeral.decimal (bound t relation))) ++ ")" := by
  rw [argumentsOf]
  by_cases h : t.isEventList relation = true
  · rw [if_pos (ObjectType.isEventList_iff.mp h), if_pos h]
    rfl
  · rw [if_neg (mt ObjectType.isEventList_iff.mpr h), if_neg h]
    rfl

theorem argumentText_argumentsOf (hbound : ∀ t relation, 1 ≤ bound t relation) (t : ObjectType)
    (relation : String) :
    ∃ a, IsArguments t relation a ∧
      argumentText (argumentsOf bound t relation) = "(" ++ a ++ ")" :=
  ⟨_, ⟨_, isPositive_decimal (hbound t relation), rfl⟩, argumentText_eq t relation⟩

mutual

theorem phrase_renderNode (hbound : ∀ t relation, 1 ≤ bound t relation) {t : ObjectType} :
    ∀ {f : Field} {n : Node String}, NodeFor bound t f n → Belongs t f → Phrase t (renderNode n)
  | _, _, .scalar, .scalar hname => by
    rw [Node.leaf, renderNode]
    simpa [argumentText] using .scalar hname
  | _, _, .relation hnext hchildren, .relation hnext' hfields => by
    -- The schema and the selection follow a relation to the same type.
    rw [hnext] at hnext'
    cases hnext'
    obtain ⟨a, ha, hargs⟩ := argumentText_argumentsOf hbound t _
    rw [renderNode, hargs, List.isEmpty_cons, if_neg Bool.false_ne_true]
    have hbelow := phrase_renderAll hbound hchildren hfields
    exact .relation hnext ha (Sentence.intercalate _ .id hbelow)

theorem phrase_renderAll (hbound : ∀ t relation, 1 ≤ bound t relation) {t : ObjectType} :
    ∀ {fs : List Field} {ns : List (Node String)}, NodesFor bound t fs ns → AllBelong t fs →
      ∀ s ∈ renderAll ns, Phrase t s
  | _, _, .nil, _ => fun _ hs => by cases hs
  | _, _, .cons hn hns, .cons hf hfs => fun s hs => by
    rcases List.mem_cons.mp hs with rfl | hs
    · exact phrase_renderNode hbound hn hf
    · exact phrase_renderAll hbound hns hfs s hs

end

/-- **A selection of fields that belong to a type is rendered as a sentence of it.** -/
theorem sentence_render (hbound : ∀ t relation, 1 ≤ bound t relation) {t : ObjectType}
    {fs : List Field} {nodes : List (Node String)} (hnodes : IsSelection bound t fs nodes)
    (hfs : AllBelong t fs) : Sentence t (render nodes) := by
  obtain ⟨ns, rfl, hns⟩ := hnodes
  exact Sentence.intercalate _ .id (phrase_renderAll hbound hns hfs)

end Selection

end HatTree
