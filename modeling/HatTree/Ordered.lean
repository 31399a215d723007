/-!
# Ordered tables

A table that keeps the order in which its keys were first put.

## Main definitions

* `Ordered.put`: a table with a value under a key
* `Ordered.putAll`: a table with several values

## Main results

* `lookup_put`: looking up after `put`
* `keys_put`: a key that is present keeps its place, a new one goes to the end
-/

namespace HatTree.Ordered

variable {α β : Type} [BEq α]

/-- **A table with a value under a key**: the key keeps its place, or goes to the end. -/
def put (k : α) (v : β) : List (α × β) → List (α × β)
  | [] => [(k, v)]
  | (k', v') :: rest => if k == k' then (k', v) :: rest else (k', v') :: put k v rest

/-- A table with several values, put one after the other. -/
def putAll (table entries : List (α × β)) : List (α × β) :=
  entries.foldl (fun t (k, v) => put k v t) table

@[simp] theorem putAll_nil (table : List (α × β)) : putAll table [] = table := rfl

theorem putAll_cons (table : List (α × β)) (k : α) (v : β) (rest : List (α × β)) :
    putAll table ((k, v) :: rest) = putAll (put k v table) rest := rfl

variable [LawfulBEq α]

/-- Looking up after `put`. -/
theorem lookup_put (k a : α) (v : β) (table : List (α × β)) :
    (put k v table).lookup a = if a == k then some v else table.lookup a := by
  induction table with
  | nil =>
    rw [put, List.lookup_cons]
    cases a == k <;> rfl
  | cons e rest ih =>
    obtain ⟨k', v'⟩ := e
    rw [put]
    split
    next h =>
      obtain rfl := eq_of_beq h
      rw [List.lookup_cons, List.lookup_cons]
      cases a == k <;> rfl
    next h =>
      rw [List.lookup_cons, List.lookup_cons, ih]
      cases ha : a == k' with
      | false => rfl
      | true =>
        -- What is found there stays, since the other key is put elsewhere.
        have hne : (a == k) = false := by
          rw [eq_of_beq ha, Bool.eq_false_iff, ne_eq, beq_iff_eq]
          exact fun heq => h (beq_iff_eq.mpr heq.symm)
        rw [hne]
        rfl

/-- A key that is present keeps its place, a new one goes to the end. -/
theorem keys_put (k : α) (v : β) (table : List (α × β)) :
    (put k v table).map (·.1) =
      if k ∈ table.map (·.1) then table.map (·.1) else table.map (·.1) ++ [k] := by
  induction table with
  | nil => simp [put]
  | cons e rest ih =>
    obtain ⟨k', v'⟩ := e
    rw [put]
    split
    next h =>
      obtain rfl := eq_of_beq h
      rw [List.map_cons, List.map_cons, if_pos List.mem_cons_self]
    next h =>
      have hne : k ≠ k' := fun heq => h (beq_iff_eq.mpr heq)
      rw [List.map_cons, List.map_cons, ih]
      split
      next hk => rw [if_pos (List.mem_cons_of_mem _ hk)]
      next hk =>
        rw [if_neg fun hmem => hk ((List.mem_cons.mp hmem).resolve_left hne)]
        rfl

end HatTree.Ordered
