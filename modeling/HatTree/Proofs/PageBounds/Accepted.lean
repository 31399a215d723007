import HatTree.Proofs.PageBounds
import HatTree.Proofs.Vocabulary.Issues

/-!
# Raw tables of bounds that pass the check

A raw table passes the check if and only if every key names a type, and under every key stands a
dictionary of integers above zero. The bounds of claims hatters may stand under two names; a table
that uses both is not considered.

## Main definitions

* `PageBounds.Accepts`: the raw tables with known keys and bounds above zero
* `PageBounds.IsGiven`: the raw tables that are considered

## Main results

* `exists_entries_eq_ok_iff`: a table is read when each of its entries is
* `exists_bounds_eq_ok_iff`: the tables that pass the check are those that are accepted
-/

namespace HatTree

theorem Value.lookup_eq_some_iff {given : List (Value × Value)} (h : IsKeyed given) {name : String}
    {v : Value} : lookup name given = some v ↔ (.text name, v) ∈ given := by
  obtain ⟨texts, distinct⟩ := h
  induction given with
  | nil => simp [lookup]
  | cons e rest ih =>
    obtain ⟨k, v'⟩ := e
    obtain ⟨name', rfl⟩ := texts k v' List.mem_cons_self
    rw [List.map_cons, List.nodup_cons] at distinct
    have hrest := ih (fun k v hmem => texts k v (List.mem_cons_of_mem _ hmem)) distinct.2
    rw [lookup, List.mem_cons]
    by_cases hname : name' = name
    · -- The key stands here, and then nowhere else.
      subst hname
      have hnot : (.text name', v) ∉ rest := fun hmem =>
        distinct.1 (List.mem_map.mpr ⟨_, hmem, rfl⟩)
      simp [hnot, eq_comm]
    · rw [if_neg hname, hrest]
      simp [Ne.symm hname]

namespace Reading

section Table

variable {κ ν : Type} {key : Value → Except Complaint κ} {val : Value → Except Complaint ν}

theorem exists_entry_eq_ok_iff {k v : Value} :
    (∃ r, entry key val k v = .ok r) ↔ (∃ a, key k = .ok a) ∧ ∃ b, val v = .ok b := by
  constructor
  · rintro ⟨r, hr⟩
    exact ⟨⟨r.1, (entry_eq_ok hr).1⟩, r.2, (entry_eq_ok hr).2⟩
  · rintro ⟨⟨a, ha⟩, b, hb⟩
    refine ⟨(a, b), ?_⟩
    rw [entry, ha, hb]
    rfl

/-- **The entries of a table are read when each of them is.** -/
theorem exists_entries_eq_ok_iff {given : List (Value × Value)} :
    (∃ es, entries key val given = .ok es) ↔
      ∀ e ∈ given, (∃ a, key e.1 = .ok a) ∧ ∃ b, val e.2 = .ok b := by
  induction given with
  | nil => simp [entries]
  | cons e rest ih =>
    obtain ⟨k, v⟩ := e
    rw [List.forall_mem_cons, ← ih, ← exists_entry_eq_ok_iff, entries]
    cases entry key val k v with
    | error issues => simp
    | ok r => cases entries key val rest <;> simp

end Table

theorem exists_field_eq_ok_iff {α : Type} {read : Value → Checked α} {fallback : α}
    {given : List (Value × Value)} {name : String} :
    (∃ x, field read fallback given name = .ok x) ↔
      ∀ v, Value.lookup name given = some v → ∃ x, read v = .ok x := by
  rw [field]
  cases Value.lookup name given with
  | none => simp
  | some v => simp [Checked.under_eq_ok]

end Reading

namespace PageBounds

variable {entries : List (Value × Value)}

/-- A dictionary of integers above zero. -/
def IsTable (v : Value) : Prop :=
  ∃ given, v = .dict given ∧
    ∀ relation bound, (.text relation, bound) ∈ given → ∃ n, bound = .int n ∧ 1 ≤ n

/-- The keys under which bounds may stand. -/
def tableNames : List String := ["hat", "tree", "wearer", "event", "claimsHatter", "claims_hatter"]

/-- **The raw tables with known keys and bounds above zero**; there may be none at all. -/
def Accepts (filters : Value) : Prop :=
  filters = .null ∨ ∃ entries, filters = .dict entries ∧
    ∀ name v, (.text name, v) ∈ entries → name ∈ tableNames ∧ IsTable v

/-- **The raw tables that are considered**: dictionaries with texts as keys, on both levels, in
which the bounds of claims hatters stand under one name at most. -/
def IsGiven (filters : Value) : Prop :=
  filters = .null ∨ ∃ entries, filters = .dict entries ∧ IsKeyed entries ∧
    (∀ name given, (.text name, .dict given) ∈ entries → HasTextKeys given) ∧
    ∀ v w, (.text "claimsHatter", v) ∈ entries → (.text "claims_hatter", w) ∉ entries

theorem exists_readTable_eq_ok_iff {v : Value} (h : ∀ given, v = .dict given → HasTextKeys given) :
    (∃ table, readTable v = .ok table) ↔ IsTable v := by
  cases v with
  | dict given =>
    have hmap : (∃ table, readTable (.dict given) = .ok table) ↔
        ∃ es, Reading.entries Reading.text (fun v => Reading.positive (Reading.strictInt v)) given =
          .ok es := by
      rw [readTable, Reading.table]
      cases Reading.entries Reading.text _ given <;> simp [Except.map]
    rw [hmap, Reading.exists_entries_eq_ok_iff]
    constructor
    · intro hall
      refine ⟨given, rfl, fun relation bound hmem => ?_⟩
      obtain ⟨-, n, hn⟩ := hall _ hmem
      exact ⟨n, Reading.positive_strictInt_eq_ok.mp hn⟩
    · rintro ⟨given', heq, hall⟩ ⟨k, v⟩ hmem
      cases heq
      obtain ⟨relation, rfl⟩ := h given rfl k v hmem
      obtain ⟨n, rfl, hn⟩ := hall relation v hmem
      exact ⟨⟨relation, rfl⟩, n, Reading.positive_strictInt_eq_ok.mpr ⟨rfl, hn⟩⟩
  | _ => simp [readTable, Reading.table, IsTable]

/-- **A raw table passes the check** when it has no unexpected key, and the table of every type is
read. -/
theorem exists_read_eq_ok_iff :
    (∃ b, read (.dict entries) = .ok b) ↔
      Reading.unknownKeys (knownKeys entries) entries = [] ∧
        ∀ t, ∃ table, readField entries (tableKey entries t) = .ok table := by
  constructor
  · rintro ⟨b, hb⟩
    refine ⟨?_, fun t => ⟨_, readField_of_read hb t⟩⟩
    rw [read, Checked.guarded_eq_ok] at hb
    exact (List.append_eq_nil_iff.mp hb.1).2
  · rintro ⟨hkeys, htables⟩
    obtain ⟨hat, hhat⟩ := htables .hat
    obtain ⟨tree, htree⟩ := htables .tree
    obtain ⟨wearer, hwearer⟩ := htables .wearer
    obtain ⟨event, hevent⟩ := htables .event
    obtain ⟨claimsHatter, hclaims⟩ := htables .claimsHatter
    refine ⟨⟨hat, tree, wearer, event, claimsHatter⟩, ?_⟩
    simp only [tableKey, ObjectType.label] at hhat htree hwearer hevent hclaims
    rw [read, Checked.guarded_eq_ok, hhat, htree, hwearer, hevent, hclaims, hkeys]
    exact ⟨rfl, rfl⟩

/-- The known keys are those under which the bounds of a type are read. -/
theorem mem_knownKeys_iff {name : String} :
    name ∈ knownKeys entries ↔ ∃ t, name = tableKey entries t := by
  constructor
  · intro h
    simp only [knownKeys, List.mem_cons, List.not_mem_nil, or_false] at h
    rcases h with rfl | rfl | rfl | rfl | rfl
    exacts [⟨.hat, rfl⟩, ⟨.tree, rfl⟩, ⟨.wearer, rfl⟩, ⟨.event, rfl⟩, ⟨.claimsHatter, rfl⟩]
  · rintro ⟨t, rfl⟩
    cases t <;> simp [knownKeys, tableKey, ObjectType.label]

/-- The name under which the bounds of claims hatters stand is the one that is read. -/
theorem claimsHatterKey_of_mem (h : IsKeyed entries)
    (hone : ∀ v w, (.text "claimsHatter", v) ∈ entries → (.text "claims_hatter", w) ∉ entries)
    {name : String} (hname : name = "claimsHatter" ∨ name = "claims_hatter") {v : Value}
    (hmem : (.text name, v) ∈ entries) : claimsHatterKey entries = name := by
  have hv := (Value.lookup_eq_some_iff h).mpr hmem
  rw [claimsHatterKey]
  rcases hname with rfl | rfl
  · rw [hv, Option.isSome_some, if_pos rfl]
  · cases hother : Value.lookup "claimsHatter" entries with
    | none => rw [hv, Option.isSome_none, if_neg (by simp), Option.isSome_some, if_pos rfl]
    | some w => exact absurd hmem (hone w v ((Value.lookup_eq_some_iff h).mp hother))

/-- The keys of a raw table are known when they are among the names. -/
theorem mem_knownKeys_iff_mem_tableNames (h : IsKeyed entries)
    (hone : ∀ v w, (.text "claimsHatter", v) ∈ entries → (.text "claims_hatter", w) ∉ entries)
    {name : String} {v : Value} (hmem : (.text name, v) ∈ entries) :
    name ∈ knownKeys entries ↔ name ∈ tableNames := by
  by_cases hname : name = "claimsHatter" ∨ name = "claims_hatter"
  · have hkey := claimsHatterKey_of_mem h hone hname hmem
    rcases hname with rfl | rfl <;> simp [knownKeys, tableNames, hkey]
  · -- Neither name of claims hatters is the key that is read for them.
    have hkey : name ≠ claimsHatterKey entries := by
      rw [not_or] at hname
      rw [claimsHatterKey]
      split_ifs
      exacts [hname.1, hname.2, hname.1]
    rw [not_or] at hname
    simp [knownKeys, tableNames, hkey, hname.1, hname.2]

/-- **The raw tables that pass the check are those with known keys and bounds above zero.** -/
theorem exists_bounds_eq_ok_iff {filters : Value} (h : IsGiven filters) :
    (∃ bounds, (Filters.ofValue filters).bounds = .ok bounds) ↔ Accepts filters := by
  rcases h with rfl | ⟨entries, rfl, hkeyed, hbelow, hone⟩
  · simp [Filters.ofValue, Filters.bounds, Accepts]
  have hread : (∃ bounds, (Filters.ofValue (.dict entries)).bounds = .ok bounds) ↔
      ∃ b, read (.dict entries) = .ok b := by
    rw [Filters.ofValue, Filters.bounds]
    · cases read (.dict entries) <;> simp [Except.map, Except.mapError]
    · simp
  have hunknown : Reading.unknownKeys (knownKeys entries) entries = [] ↔
      ∀ name v, (.text name, v) ∈ entries → name ∈ tableNames := by
    rw [List.eq_nil_iff_forall_not_mem]
    constructor
    · intro hnone name v hmem
      rw [← mem_knownKeys_iff_mem_tableNames hkeyed hone hmem]
      by_contra hname
      exact hnone _ ((Vocabulary.mem_unknownKeys hkeyed.texts).mpr ⟨name, v, hmem, hname, rfl⟩)
    · intro hall issue hissue
      obtain ⟨name, v, hmem, hname, -⟩ := (Vocabulary.mem_unknownKeys hkeyed.texts).mp hissue
      exact hname ((mem_knownKeys_iff_mem_tableNames hkeyed hone hmem).mpr (hall name v hmem))
  -- Under a key that is read stands a table, if anything does.
  have htable : ∀ t, (∃ table, readField entries (tableKey entries t) = .ok table) ↔
      ∀ v, (.text (tableKey entries t), v) ∈ entries → IsTable v := by
    intro t
    rw [readField, Reading.exists_field_eq_ok_iff]
    refine forall_congr' fun v => ?_
    rw [Value.lookup_eq_some_iff hkeyed]
    refine imp_congr_right fun hmem => exists_readTable_eq_ok_iff ?_
    rintro given rfl
    exact hbelow _ given hmem
  rw [hread, exists_read_eq_ok_iff, hunknown]
  constructor
  · rintro ⟨hnames, htables⟩
    refine .inr ⟨entries, rfl, fun name v hmem => ⟨hnames name v hmem, ?_⟩⟩
    obtain ⟨t, rfl⟩ := mem_knownKeys_iff.mp
      ((mem_knownKeys_iff_mem_tableNames hkeyed hone hmem).mpr (hnames name v hmem))
    exact (htable t).mp (htables t) v hmem
  · rintro (hnull | ⟨entries', heq, hall⟩)
    · cases hnull
    cases heq
    exact ⟨fun name v hmem => (hall name v hmem).1,
      fun t => (htable t).mpr fun v hmem => (hall _ v hmem).2⟩

end PageBounds

end HatTree
