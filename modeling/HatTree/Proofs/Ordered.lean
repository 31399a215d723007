import HatTree.Ordered
import Mathlib.Data.List.Induction
import Mathlib.Data.List.Nodup

/-!
# Tables after several entries

What a table holds after several entries have been put into it: the last value under each key, in
the order in which the keys first came. Distinct keys stay distinct, and then a value is found under
a key if and only if the two are an entry.

## Main results

* `lookup_putAll`: the last value put under a key is the one that is found
* `keys_putAll`: the keys come in the order of their first entries
* `putAll_of_nodup`: entries put under new keys keep their order
* `lookup_eq_some_iff`: what is found in a table with distinct keys
-/

namespace HatTree.Ordered

variable {α β : Type} [BEq α] [LawfulBEq α]

/-- **The last value put under a key** is the one that is found. -/
theorem lookup_putAll (a : α) (table entries : List (α × β)) :
    (putAll table entries).lookup a = (entries.reverse.lookup a).or (table.lookup a) := by
  induction entries generalizing table with
  | nil => simp
  | cons e rest ih =>
    obtain ⟨k, v⟩ := e
    rw [putAll_cons, ih, lookup_put, List.reverse_cons, List.lookup_append, List.lookup_cons,
      List.lookup_nil, Option.or_assoc]
    cases a == k <;> rfl

omit [LawfulBEq α] in
theorem putAll_snoc (table entries : List (α × β)) (k : α) (v : β) :
    putAll table (entries ++ [(k, v)]) = put k v (putAll table entries) := by
  simp [putAll]

/-- **The keys come in the order of their first entries.** -/
theorem keys_putAll (entries : List (α × β)) :
    (putAll [] entries).map (·.1) = (entries.map (·.1)).eraseDups := by
  induction entries using List.reverseRecOn with
  | nil => rfl
  | append_singleton entries e ih =>
    obtain ⟨k, v⟩ := e
    rw [putAll_snoc, keys_put, ih, List.map_append, List.map_singleton, List.eraseDups_append]
    by_cases hk : k ∈ entries.map (·.1)
    · simp [List.removeAll, List.mem_eraseDups, hk]
    · simp [List.removeAll, List.mem_eraseDups, List.eraseDups_cons, hk]

/-- Distinct keys stay distinct. -/
theorem nodup_putAll {table : List (α × β)} (h : (table.map (·.1)).Nodup) (entries : List (α × β)) :
    ((putAll table entries).map (·.1)).Nodup := by
  induction entries generalizing table with
  | nil => exact h
  | cons e rest ih =>
    obtain ⟨k, v⟩ := e
    rw [putAll_cons]
    apply ih
    rw [keys_put]
    split
    next => exact h
    next hk => exact List.concat_eq_append ▸ List.Nodup.concat hk h

theorem put_of_notMem {k : α} {table : List (α × β)} (hk : k ∉ table.map (·.1)) (v : β) :
    put k v table = table ++ [(k, v)] := by
  induction table with
  | nil => rfl
  | cons e rest ih =>
    obtain ⟨k', v'⟩ := e
    rw [List.map_cons, List.mem_cons, not_or] at hk
    rw [put, if_neg (by simpa using hk.1), ih hk.2, List.cons_append]

/-- **Entries put under new keys** keep their order. -/
theorem putAll_of_nodup {table entries : List (α × β)}
    (h : ((table ++ entries).map (·.1)).Nodup) : putAll table entries = table ++ entries := by
  induction entries generalizing table with
  | nil => simp
  | cons e rest ih =>
    obtain ⟨k, v⟩ := e
    have hk : k ∉ table.map (·.1) := by
      rw [List.map_append, List.map_cons] at h
      exact fun hmem => (List.nodup_append'.mp h).2.2 hmem List.mem_cons_self
    -- The first entry goes to the end, and is then part of the table.
    rw [← List.singleton_append, ← List.append_assoc] at h
    rw [putAll_cons, put_of_notMem hk, ih h, List.append_assoc, List.singleton_append]

/-- **What is found in a table with distinct keys** is what the table holds. -/
theorem lookup_eq_some_iff {table : List (α × β)} (h : (table.map (·.1)).Nodup) {k : α} {v : β} :
    table.lookup k = some v ↔ (k, v) ∈ table := by
  constructor
  · intro hfound
    obtain ⟨before, behind, rfl, -⟩ := List.lookup_eq_some_iff.mp hfound
    exact List.mem_append_right before List.mem_cons_self
  · intro hmem
    obtain ⟨before, behind, rfl⟩ := List.append_of_mem hmem
    rw [List.map_append, List.map_cons, List.nodup_append] at h
    refine List.lookup_eq_some_iff.mpr ⟨before, behind, rfl, fun e he => ?_⟩
    have hne := h.2.2 e.1 (List.mem_map_of_mem he) k List.mem_cons_self
    simpa using hne.symm

/-- Where keys are distinct, the order of the entries does not matter for what is found. -/
theorem lookup_reverse {table : List (α × β)} (h : (table.map (·.1)).Nodup) (k : α) :
    table.reverse.lookup k = table.lookup k := by
  have hreverse : (table.reverse.map (·.1)).Nodup := by
    rwa [List.map_reverse, List.nodup_reverse]
  refine Option.ext fun v => ?_
  rw [lookup_eq_some_iff hreverse, lookup_eq_some_iff h, List.mem_reverse]

end HatTree.Ordered
