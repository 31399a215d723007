import HatTree.Reading
import Mathlib.Data.List.Forall2

/-!
# What a successful reading says

A check that succeeds has found no issue anywhere. From its result one can therefore go back to the
results of its parts: the entries of a table one by one, and the value under a key of a model.

## Main results

* `bind_eq_ok`: two steps succeed when both do
* `Checked.guarded_eq_ok`: a guarded result stands without issues
* `Reading.entries_eq_ok`: the entries of a table are read one by one
* `Reading.field_eq_ok`: the value under a key is read, or something stands in for it
-/

namespace HatTree

section Steps

variable {ε ε' α β : Type}

theorem bind_eq_ok {r : Except ε α} {f : α → Except ε β} {y : β} :
    (r >>= f) = .ok y ↔ ∃ x, r = .ok x ∧ f x = .ok y := by
  cases r with
  | error e =>
    constructor
    · intro h
      cases h
    · rintro ⟨x, hx, -⟩
      cases hx
  | ok x =>
    constructor
    · intro h
      exact ⟨x, rfl, h⟩
    · rintro ⟨x', hx, h⟩
      cases hx
      exact h

theorem bind_eq_error {r : Except ε α} {f : α → Except ε β} {e : ε} :
    (r >>= f) = .error e ↔ r = .error e ∨ ∃ x, r = .ok x ∧ f x = .error e := by
  cases r with
  | error e' =>
    constructor
    · intro h
      cases h
      exact .inl rfl
    · rintro (h | ⟨x, hx, -⟩)
      · cases h
        rfl
      · cases hx
  | ok x =>
    constructor
    · intro h
      exact .inr ⟨x, rfl, h⟩
    · rintro (h | ⟨x', hx, h⟩)
      · cases h
      · cases hx
        exact h

theorem mapError_eq_ok {r : Except ε α} {f : ε → ε'} {x : α} :
    r.mapError f = .ok x ↔ r = .ok x := by
  cases r with
  | error e => simp [Except.mapError]
  | ok y => simp [Except.mapError]

theorem mapError_eq_error {r : Except ε α} {f : ε → ε'} {e : ε'} :
    r.mapError f = .error e ↔ ∃ e', r = .error e' ∧ f e' = e := by
  cases r with
  | error e' => simp [Except.mapError]
  | ok y => simp [Except.mapError]

theorem map_eq_ok {r : Except ε α} {f : α → β} {y : β} :
    r.map f = .ok y ↔ ∃ x, r = .ok x ∧ f x = y := by
  cases r with
  | error e => simp [Except.map]
  | ok x => simp [Except.map]

theorem exists_map_eq_ok_iff {r : Except ε α} {f : α → β} :
    (∃ y, r.map f = .ok y) ↔ ∃ x, r = .ok x := by
  simp only [map_eq_ok]
  exact ⟨fun ⟨_, x, hx, _⟩ => ⟨x, hx⟩, fun ⟨x, hx⟩ => ⟨_, x, hx, rfl⟩⟩

theorem map_eq_error {r : Except ε α} {f : α → β} {e : ε} :
    r.map f = .error e ↔ r = .error e := by
  cases r with
  | error e' => simp [Except.map]
  | ok y => simp [Except.map]

end Steps

namespace Checked

variable {α : Type}

theorem guarded_eq_ok {found : List Issue} {r : Checked α} {x : α} :
    guarded found r = .ok x ↔ found = [] ∧ r = .ok x := by
  cases found with
  | nil => simp [guarded]
  | cons issue rest => simp [guarded]

theorem under_eq_ok {step : Step} {r : Checked α} {x : α} : r.under step = .ok x ↔ r = .ok x :=
  mapError_eq_ok

end Checked

namespace Reading

theorem checked_eq_ok {α : Type} {r : Except Complaint α} {x : α} :
    checked r = .ok x ↔ r = .ok x :=
  mapError_eq_ok

/-- An integer that is read as positive is above zero, however it is read. -/
theorem positive_eq_ok {r : Except Complaint Int} {n : Int} (h : positive r = .ok n) : 0 < n := by
  obtain ⟨m, -, hm⟩ := bind_eq_ok.mp h
  split at hm
  next hpos =>
    cases hm
    exact hpos
  next => cases hm

theorem positive_ok_eq_ok {m n : Int} : positive (.ok m) = .ok n ↔ 0 < m ∧ n = m := by
  rw [positive, Except.bind]
  by_cases hm : 0 < m
  · rw [if_pos hm]
    constructor
    · intro h
      cases h
      exact ⟨hm, rfl⟩
    · rintro ⟨-, rfl⟩
      rfl
  · rw [if_neg hm]
    constructor
    · intro h
      cases h
    · rintro ⟨h, -⟩
      exact absurd h hm

theorem positive_strictInt_eq_ok {v : Value} {n : Int} :
    positive (strictInt v) = .ok n ↔ v = .int n ∧ 0 < n := by
  cases v with
  | int m =>
    rw [strictInt, positive_ok_eq_ok]
    constructor
    · rintro ⟨hm, rfl⟩
      exact ⟨rfl, hm⟩
    · rintro ⟨h, hn⟩
      cases h
      exact ⟨hn, rfl⟩
  | _ => simp [strictInt, positive, Except.bind]

section Table

variable {κ ν : Type} {key : Value → Except Complaint κ} {val : Value → Except Complaint ν}

theorem entry_eq_ok {k v : Value} {r : κ × ν} (h : entry key val k v = .ok r) :
    key k = .ok r.1 ∧ val v = .ok r.2 := by
  rw [entry, Checked.under_eq_ok, Checked.guarded_eq_ok] at h
  obtain ⟨-, h⟩ := h
  obtain ⟨k', hk, h⟩ := bind_eq_ok.mp h
  obtain ⟨v', hv, h⟩ := bind_eq_ok.mp h
  cases h
  exact ⟨checked_eq_ok.mp (Checked.under_eq_ok.mp hk), checked_eq_ok.mp hv⟩

/-- **The entries of a table are read one by one.** -/
theorem entries_eq_ok {given : List (Value × Value)} {es : List (κ × ν)}
    (h : entries key val given = .ok es) :
    List.Forall₂ (fun e r => key e.1 = .ok r.1 ∧ val e.2 = .ok r.2) given es := by
  induction given generalizing es with
  | nil =>
    cases h
    exact .nil
  | cons e rest ih =>
    obtain ⟨k, v⟩ := e
    -- An issue of one entry or of the others would be an issue of all.
    rw [entries] at h
    cases he : entry key val k v with
    | error issues =>
      rw [he] at h
      cases h
    | ok r =>
      cases hrest : entries key val rest with
      | error issues =>
        rw [he, hrest] at h
        cases h
      | ok rs =>
        rw [he, hrest] at h
        cases h
        exact .cons (entry_eq_ok he) (ih hrest)

/-- A value is read as a table when it is a dictionary whose entries are read. -/
theorem table_eq_ok [BEq κ] {v : Value} {table : List (κ × ν)}
    (h : Reading.table key val v = .ok table) :
    ∃ given es, v = .dict given ∧ entries key val given = .ok es ∧
      table = Ordered.putAll [] es := by
  cases v with
  | dict given =>
    rw [Reading.table] at h
    cases hes : entries key val given with
    | error issues =>
      rw [hes] at h
      cases h
    | ok es =>
      rw [hes] at h
      cases h
      exact ⟨given, es, rfl, hes, rfl⟩
  | _ => cases h

end Table

/-- **The value under a key is read**, or something stands in for it. -/
theorem field_eq_ok {α : Type} {read : Value → Checked α} {fallback x : α}
    {given : List (Value × Value)} {name : String} (h : field read fallback given name = .ok x) :
    (Value.lookup name given = none ∧ x = fallback) ∨
      ∃ v, Value.lookup name given = some v ∧ read v = .ok x := by
  rw [field] at h
  cases hv : Value.lookup name given with
  | none =>
    rw [hv] at h
    cases h
    exact .inl ⟨rfl, rfl⟩
  | some v =>
    rw [hv] at h
    exact .inr ⟨v, rfl, Checked.under_eq_ok.mp h⟩

end Reading

end HatTree
