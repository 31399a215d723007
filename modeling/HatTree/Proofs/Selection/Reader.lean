import HatTree.Proofs.Selection.Spelling

/-!
# Reading a selection back

The text of a selection determines the selection, as long as the names and arguments in it are words
of ASCII letters, digits and low lines. What stands between words only divides them, apart from the
brackets around arguments and around the nodes below a field. A reader that goes through words and
brackets from left to right therefore finds the nodes again.

## Main definitions

* `IsWord`, `IsClean`, `AllClean`: words, and nodes made of words
* `Token`, `tokens`: the words and brackets of a text
* `Reader`, `Reader.step`: the nodes read so far, level by level
* `read`: the selection that a text stands for

## Main results

* `tokens_renderAll`: the words and brackets of a rendered selection are those of its nodes
* `foldlM_nodesTokens`: reading these adds the nodes to the level that is read
* `read_render`: a selection is read back from its text
-/

namespace HatTree.Selection

/-! ## Clean nodes -/

/-- Whether a character is an ASCII letter, a digit or a low line. -/
def isNameChar (c : Char) : Bool := c.isAlphanum || c == '_'

/-- **A word**: a text of such characters that is not empty. -/
def IsWord (s : String) : Prop := s.toList ≠ [] ∧ ∀ c ∈ s.toList, isNameChar c = true

instance (s : String) : Decidable (IsWord s) :=
  decidable_of_iff ((!s.toList.isEmpty && s.toList.all isNameChar) = true) (by simp [IsWord])

mutual

/-- **A node made of words**, at every depth. -/
inductive IsClean : Node String → Prop
  | mk {name : String} {arguments : List (String × String)} {children : List (Node String)}
      (hname : IsWord name) (harguments : ∀ a ∈ arguments, IsWord a.1 ∧ IsWord a.2)
      (hchildren : AllClean children) : IsClean (.mk name arguments children)

/-- **Nodes made of words**, at every depth. -/
inductive AllClean : List (Node String) → Prop
  | nil : AllClean []
  | cons {n : Node String} {ns : List (Node String)} (hn : IsClean n) (hns : AllClean ns) :
      AllClean (n :: ns)

end

/-! ## Words and brackets -/

/-- **A token**: a word, or one of the brackets around arguments and around the nodes below a
field. -/
inductive Token where
  | word (s : String)
  | argumentsOpen
  | argumentsClose
  | childrenOpen
  | childrenClose
  deriving DecidableEq, Repr

/-- The token of a character that is no part of a word, if it is a bracket. -/
def bracket : Char → List Token
  | '(' => [.argumentsOpen]
  | ')' => [.argumentsClose]
  | '\x7b' => [.childrenOpen]
  | '\x7d' => [.childrenClose]
  | _ => []

/-- The token of the characters of a word, if there are any. -/
def wordToken : List Char → List Token
  | [] => []
  | cs => [.word (String.ofList cs)]

/-- The tokens of characters that follow those of a word. -/
def tokensFrom (word : List Char) : List Char → List Token
  | [] => wordToken word
  | c :: cs =>
    if isNameChar c then tokensFrom (word ++ [c]) cs
    else wordToken word ++ bracket c ++ tokensFrom [] cs

/-- **The words and brackets of a text.** -/
def tokens (s : String) : List Token := tokensFrom [] s.toList

@[simp] theorem tokens_empty : tokens "" = [] := rfl

/-- A text that is no part of a word, and is not empty. -/
def IsMark (m : String) : Prop := m.toList ≠ [] ∧ ∀ c ∈ m.toList, isNameChar c = false

instance (m : String) : Decidable (IsMark m) :=
  decidable_of_iff ((!m.toList.isEmpty && m.toList.all fun c => !isNameChar c) = true)
    (by simp [IsMark])

theorem tokensFrom_word {cs : List Char} (h : ∀ c ∈ cs, isNameChar c = true) (word : List Char) :
    tokensFrom word cs = wordToken (word ++ cs) := by
  induction cs generalizing word with
  | nil => rw [tokensFrom, List.append_nil]
  | cons c cs ih =>
    rw [tokensFrom, if_pos (h c List.mem_cons_self), ih fun d hd => h d (List.mem_cons_of_mem _ hd),
      List.append_assoc, List.singleton_append]

theorem tokensFrom_mark {cs : List Char} (h : ∀ c ∈ cs, isNameChar c = false) (ds : List Char) :
    tokensFrom [] (cs ++ ds) = cs.flatMap bracket ++ tokensFrom [] ds := by
  induction cs with
  | nil => rfl
  | cons c cs ih =>
    rw [List.cons_append, tokensFrom, h c List.mem_cons_self, if_neg Bool.false_ne_true,
      ih fun d hd => h d (List.mem_cons_of_mem _ hd), wordToken, List.nil_append,
      List.flatMap_cons, List.append_assoc]

/-- A mark ends the word before it. -/
theorem tokensFrom_append_mark {d : Char} (hd : isNameChar d = false) (ds word cs : List Char) :
    tokensFrom word (cs ++ d :: ds) = tokensFrom word cs ++ tokensFrom [] (d :: ds) := by
  induction cs generalizing word with
  | nil => simp [tokensFrom, hd, wordToken]
  | cons c cs ih =>
    rw [List.cons_append, tokensFrom, tokensFrom]
    split
    · exact ih _
    · rw [ih, List.append_assoc _ _ (tokensFrom [] (d :: ds))]

/-- **A text that is divided by a mark** has the tokens of both parts, and between them the brackets
of the mark. -/
theorem tokens_divided {m : String} (h : IsMark m) (s s' : String) :
    tokens (s ++ m ++ s') = tokens s ++ (m.toList.flatMap bracket ++ tokens s') := by
  rw [tokens, String.toList_append, String.toList_append, List.append_assoc, tokens, tokens,
    ← tokensFrom_mark h.2]
  cases hm : m.toList with
  | nil => exact absurd hm h.1
  | cons d ds => exact tokensFrom_append_mark (h.2 d (by rw [hm]; exact List.mem_cons_self)) _ _ _

/-- A text that stands between two marks behind another has its tokens between their brackets. -/
theorem tokens_enclosed {m m' : String} (h : IsMark m) (h' : IsMark m') (s inside : String) :
    tokens (s ++ (m ++ inside ++ m')) =
      tokens s ++ (m.toList.flatMap bracket ++ (tokens inside ++ m'.toList.flatMap bracket)) := by
  have htext : s ++ (m ++ inside ++ m') = s ++ m ++ (inside ++ m' ++ "") := by
    simp only [String.append_assoc, String.append_empty]
  rw [htext, tokens_divided h, tokens_divided h', tokens_empty, List.append_nil]

theorem tokens_of_isWord {s : String} (h : IsWord s) : tokens s = [.word s] := by
  rw [tokens, tokensFrom_word h.2, List.nil_append]
  cases hs : s.toList with
  | nil => exact absurd hs h.1
  | cons c cs => rw [wordToken, ← hs, String.ofList_toList]; simp

/-- **Texts that are joined by commas** have the tokens of each. -/
theorem tokens_intercalate (ss : List String) :
    tokens (", ".intercalate ss) = ss.flatMap tokens := by
  induction ss with
  | nil => rfl
  | cons s ss ih =>
    cases ss with
    | nil => simp
    | cons s' ss =>
      rw [String.intercalate_cons_cons, tokens_divided (by decide), ih, List.flatMap_cons]
      rfl

/-! ## The tokens of nodes -/

/-- The words of arguments. -/
def argumentWords (arguments : List (String × String)) : List String :=
  arguments.flatMap fun (k, v) => [k, v]

/-- The tokens of arguments. -/
def argumentTokens : List (String × String) → List Token
  | [] => []
  | arguments => .argumentsOpen :: (argumentWords arguments).map .word ++ [.argumentsClose]

mutual

/-- The tokens of a node: its name, its arguments, and those of the nodes below it. -/
def nodeTokens : Node String → List Token
  | .mk name arguments [] => .word name :: argumentTokens arguments
  | .mk name arguments (n :: ns) =>
    .word name :: argumentTokens arguments ++
      (.childrenOpen :: (nodeTokens n ++ nodesTokens ns) ++ [.childrenClose])

/-- The tokens of nodes. -/
def nodesTokens : List (Node String) → List Token
  | [] => []
  | n :: ns => nodeTokens n ++ nodesTokens ns

end

/-- Arguments that are written one by one have the tokens of their words. -/
theorem flatMap_tokens_pairs {write : String × String → String}
    (hwrite : ∀ k v, write (k, v) = k ++ ": " ++ v) {arguments : List (String × String)}
    (h : ∀ a ∈ arguments, IsWord a.1 ∧ IsWord a.2) :
    (arguments.map write).flatMap tokens = (argumentWords arguments).map .word := by
  induction arguments with
  | nil => rfl
  | cons a rest ih =>
    obtain ⟨k, v⟩ := a
    obtain ⟨hk, hv⟩ := h (k, v) List.mem_cons_self
    rw [List.map_cons, List.flatMap_cons, hwrite, tokens_divided (by decide), tokens_of_isWord hk,
      tokens_of_isWord hv, ih fun a ha => h a (List.mem_cons_of_mem _ ha)]
    rfl

/-- **Arguments behind a name** have their tokens. -/
theorem tokens_append_argumentText {name : String} (hname : IsWord name)
    {arguments : List (String × String)} (h : ∀ a ∈ arguments, IsWord a.1 ∧ IsWord a.2) :
    tokens (name ++ argumentText arguments) = .word name :: argumentTokens arguments := by
  cases arguments with
  | nil => rw [argumentText, String.append_empty, tokens_of_isWord hname, argumentTokens]
  | cons a rest =>
    rw [argumentText, tokens_enclosed (by decide) (by decide), tokens_of_isWord hname,
      tokens_intercalate, flatMap_tokens_pairs (fun _ _ => rfl) h, argumentTokens]
    · rfl
    · simp
    · simp

mutual

theorem tokens_renderNode : ∀ {n : Node String}, IsClean n → tokens (renderNode n) = nodeTokens n
  | .mk name arguments [], .mk hname harguments _ => by
    rw [renderNode, List.isEmpty_nil, if_pos rfl, String.append_empty, nodeTokens]
    exact tokens_append_argumentText hname harguments
  | .mk name arguments (n :: ns), .mk hname harguments (.cons hn hns) => by
    rw [renderNode, List.isEmpty_cons, if_neg Bool.false_ne_true,
      tokens_enclosed (by decide) (by decide), tokens_append_argumentText hname harguments,
      tokens_intercalate, renderAll, List.flatMap_cons, tokens_renderNode hn,
      tokens_renderAll hns, nodeTokens]
    rfl

/-- **Clean nodes have their tokens.** -/
theorem tokens_renderAll : ∀ {ns : List (Node String)}, AllClean ns →
    (renderAll ns).flatMap tokens = nodesTokens ns
  | _, .nil => rfl
  | _, .cons hn hns => by
    rw [renderAll, List.flatMap_cons, tokens_renderNode hn, tokens_renderAll hns, nodesTokens]

end

/-! ## Reading -/

/-- **What is read so far.** -/
structure Reader where
  /-- The nodes of the level that is read, the last one first. -/
  level : List (Node String)
  /-- The levels around it, the innermost first; its nodes go below the last node of that. -/
  outer : List (List (Node String))
  /-- The words of arguments that are read for the last node, the last one first. -/
  arguments? : Option (List String)

/-- Words in pairs. -/
def pairs : List String → List (String × String)
  | k :: v :: rest => (k, v) :: pairs rest
  | _ => []

/-- **Reads a word or a bracket.** -/
def Reader.step : Reader → Token → Option Reader
  | ⟨level, outer, none⟩, .word s => some ⟨.leaf s :: level, outer, none⟩
  | ⟨level, outer, some words⟩, .word s => some ⟨level, outer, some (s :: words)⟩
  | ⟨level, outer, none⟩, .argumentsOpen => some ⟨level, outer, some []⟩
  | ⟨.mk name _ children :: level, outer, some words⟩, .argumentsClose =>
    some ⟨.mk name (pairs words.reverse) children :: level, outer, none⟩
  | ⟨level, outer, none⟩, .childrenOpen => some ⟨[], level :: outer, none⟩
  | ⟨children, (.mk name arguments _ :: level) :: outer, none⟩, .childrenClose =>
    some ⟨.mk name arguments children.reverse :: level, outer, none⟩
  | _, _ => none

/-- **The selection that a text stands for**, if it stands for one. -/
def read (s : String) : Option (List (Node String)) :=
  match (tokens s).foldlM Reader.step ⟨[], [], none⟩ with
  | some ⟨level, [], none⟩ => some level.reverse
  | _ => none

theorem pairs_argumentWords (arguments : List (String × String)) :
    pairs (argumentWords arguments) = arguments := by
  induction arguments with
  | nil => rfl
  | cons a rest ih =>
    show a :: pairs (argumentWords rest) = _
    rw [ih]

section Step

variable (level : List (Node String)) (outer : List (List (Node String)))

theorem foldlM_words (ws words : List String) :
    (ws.map Token.word).foldlM Reader.step ⟨level, outer, some words⟩ =
      some ⟨level, outer, some (ws.reverse ++ words)⟩ := by
  induction ws generalizing words with
  | nil => rfl
  | cons w ws ih =>
    rw [List.map_cons, List.foldlM_cons, Reader.step, List.reverse_cons, List.append_assoc]
    exact ih (w :: words)

/-- A name and its arguments are read as a field with nothing below it. -/
theorem foldlM_argumentTokens (name : String) (arguments : List (String × String)) :
    (.word name :: argumentTokens arguments).foldlM Reader.step ⟨level, outer, none⟩ =
      some ⟨.mk name arguments [] :: level, outer, none⟩ := by
  cases arguments with
  | nil => rfl
  | cons a rest =>
    have hwords := foldlM_words (.mk name [] [] :: level) outer (argumentWords (a :: rest)) []
    rw [List.append_nil] at hwords
    show ((argumentWords (a :: rest)).map Token.word ++ [Token.argumentsClose]).foldlM
      Reader.step ⟨.mk name [] [] :: level, outer, some []⟩ = _
    rw [List.foldlM_append, hwords]
    show some (Reader.mk (.mk name (pairs (List.reverse (List.reverse _))) [] :: level) outer none)
      = _
    rw [List.reverse_reverse, pairs_argumentWords]

end Step

mutual

theorem foldlM_nodeTokens (level : List (Node String)) (outer : List (List (Node String))) :
    ∀ n : Node String, (nodeTokens n).foldlM Reader.step ⟨level, outer, none⟩ =
      some ⟨n :: level, outer, none⟩
  | .mk name arguments [] => foldlM_argumentTokens level outer name arguments
  | .mk name arguments (n :: ns) => by
    rw [nodeTokens, List.foldlM_append, foldlM_argumentTokens]
    -- The nodes below are read on a level of their own.
    show ((nodeTokens n ++ nodesTokens ns) ++ [Token.childrenClose]).foldlM Reader.step
      ⟨[], (.mk name arguments [] :: level) :: outer, none⟩ = _
    rw [List.foldlM_append, List.foldlM_append, foldlM_nodeTokens _ _ n]
    show ((nodesTokens ns).foldlM Reader.step
      ⟨[n], (.mk name arguments [] :: level) :: outer, none⟩ >>= _) = _
    rw [foldlM_nodesTokens _ _ ns]
    show some (Reader.mk (.mk name arguments (ns.reverse ++ [n]).reverse :: level) outer none) = _
    rw [List.reverse_append, List.reverse_reverse, List.reverse_singleton, List.singleton_append]

/-- **Nodes are read from their tokens**, and added to the level that is read. -/
theorem foldlM_nodesTokens (level : List (Node String)) (outer : List (List (Node String))) :
    ∀ ns : List (Node String), (nodesTokens ns).foldlM Reader.step ⟨level, outer, none⟩ =
      some ⟨ns.reverse ++ level, outer, none⟩
  | [] => rfl
  | n :: ns => by
    rw [nodesTokens, List.foldlM_append, foldlM_nodeTokens level outer n]
    show (nodesTokens ns).foldlM Reader.step ⟨n :: level, outer, none⟩ = _
    rw [foldlM_nodesTokens (n :: level) outer ns, List.reverse_cons, List.append_assoc,
      List.singleton_append]

end

/-- A clean selection is read back from its text. -/
theorem read_render_of_clean {nodes : List (Node String)} (h : AllClean nodes) :
    read (render nodes) = some nodes := by
  rw [read, render, tokens_intercalate, tokens_renderAll h, foldlM_nodesTokens, List.append_nil]
  dsimp only
  rw [List.reverse_reverse]

/-- **A selection is read back from its text**, however deep and wide it is, if its names and
arguments are words. It has a text, and no other such selection has the same. -/
theorem read_render {nodes : List (Node String)} (h : AllClean nodes) :
    (spell (unspell nodes)).map render = .ok (render nodes) ∧ read (render nodes) = some nodes ∧
      ∀ nodes', AllClean nodes' → render nodes' = render nodes → nodes' = nodes := by
  refine ⟨by rw [spell_unspell]; rfl, read_render_of_clean h, fun nodes' h' heq => ?_⟩
  have hread := read_render_of_clean h'
  rw [heq, read_render_of_clean h] at hread
  exact (Option.some.inj hread).symm

/-- A scalar beside a relation with two arguments and a node below it. -/
theorem read_render_relation :
    AllClean [.leaf "id", .mk "events" [("orderBy", "timestamp"), ("first", "3")] [.leaf "id"]] ∧
      read "id, events(orderBy: timestamp, first: 3) \x7b id \x7d" =
        some [.leaf "id",
          .mk "events" [("orderBy", "timestamp"), ("first", "3")] [.leaf "id"]] := by
  have hid : IsClean (.leaf "id") := .mk (by decide) (by simp) .nil
  have hclean : AllClean
      [.leaf "id", .mk "events" [("orderBy", "timestamp"), ("first", "3")] [.leaf "id"]] :=
    .cons hid (.cons (.mk (by decide) (by decide) (.cons hid .nil)) .nil)
  exact ⟨hclean, (read_render hclean).2.1⟩

end HatTree.Selection
