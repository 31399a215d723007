import HatTree.Proofs.Compile
import HatTree.Proofs.Vocabulary.Selected

/-!
# Compiling checked projections

A projection that passes the check of its type compiles, unless a field maps to nothing or a bound
is too long. The check takes a field that maps to nothing as one that is not selected; compiling
refuses the first of them. Without these fields the projection compiles whenever the bounds of its
relations can be written.

## Main results

* `exists_isOutcome_of_fits`: what becomes of a projection that fits its type
* `run_of_check`: what becomes of a checked projection
-/

namespace HatTree.Compile

open Projection (dropNull firstNull?)
open Selection (relationsOf)

variable {t : ObjectType} {given : List (Value × Value)} {filters : Filters} {n : Int}

/-- **What becomes of a projection that fits its type**: without the fields that map to nothing it
compiles as fields of the type do, and the first of them is the fault if there is one. -/
theorem exists_isOutcome_of_fits (hfits : Vocabulary.Fits t given) {bounds : Option PageBounds}
    (hb : filters.bounds = .ok bounds) (hn : 1 ≤ n) :
    ∃ fs, Projection.normalize (dropNull given) = .ok (Field.entries fs) ∧ AllBelong t fs ∧
      IsOutcome (filters.resolved n) t fs
        (run (.text t.label) (.dict (dropNull given)) filters (.int n)) ∧
      run (.text t.label) (.dict given) filters (.int n) =
        (firstNull? given).elim (run (.text t.label) (.dict (dropNull given)) filters (.int n))
          fun field => .error (.projection (.value field "NoneType")) := by
  obtain ⟨fs, hselects⟩ := hfits.exists_selects
  refine ⟨fs, hselects.dropped, hselects.belong, isOutcome_run hselects.dropped hb hn, ?_⟩
  have hwhole : Projection.entries (.dict given) =
      Projection.unlessNull (Field.entries fs) (firstNull? given) := hselects.whole
  cases hnull : firstNull? given with
  | none =>
    -- Nothing maps to nothing, so that the entries are the same.
    rw [hnull] at hwhole
    have hsame : Projection.entries (.dict given) = Projection.entries (.dict (dropNull given)) :=
      hwhole.trans hselects.dropped.symm
    exact run_eq_of_entries_eq hsame _ _ _
  | some field =>
    rw [run_label hn, selection, hwhole, hnull]
    rfl

/-- A projection that fits its type fails to compile only if a field maps to nothing, or if a bound
is too long. -/
theorem fault_of_fits (hfits : Vocabulary.Fits t given) {bounds : Option PageBounds}
    (hb : filters.bounds = .ok bounds) (hn : 1 ≤ n) {fault : Fault}
    (h : run (.text t.label) (.dict given) filters (.int n) = .error fault) :
    (∃ field, fault = .projection (.value field "NoneType")) ∨
      ∃ owner relation, fault = .selection (.bound owner relation {}) := by
  obtain ⟨fs, -, hbelong, houtcome, hgiven⟩ := exists_isOutcome_of_fits hfits hb hn
  rw [h] at hgiven
  cases hnull : firstNull? given with
  | none =>
    rw [hnull, Option.elim_none] at hgiven
    rw [← hgiven] at houtcome
    obtain ⟨x, -, -, rfl⟩ :=
      houtcome.fault_of_error (Selection.hasRelation_of_allBelong hbelong)
    exact .inr ⟨x.1, x.2, rfl⟩
  | some field =>
    rw [hnull] at hgiven
    cases hgiven
    exact .inl ⟨field, rfl⟩

theorem run_ne_error_pageSize (hn : 1 ≤ n) (projection size : Value) :
    run (.text t.label) projection filters (.int n) ≠ .error (.pageSize size) := by
  intro h
  rw [run_label hn, map_eq_error] at h
  rcases bind_eq_error.mp h with h | ⟨entries, -, h⟩
  · simp [mapError_eq_error] at h
  rcases bind_eq_error.mp h with h | ⟨bounds, -, h⟩
  · simp [mapError_eq_error] at h
  rcases bind_eq_error.mp h with h | ⟨nodes, -, h⟩
  · simp [mapError_eq_error] at h
  rcases bind_eq_error.mp h with h | ⟨spelt, -, h⟩
  · simp [mapError_eq_error] at h
  · cases h

/-- **What becomes of a checked projection.** Without the fields that map to nothing, at every
depth, it selects fields of which every relation exists: it compiles if and only if the bounds of
these relations can be written, and otherwise one that cannot is the fault. The projection itself
has the same outcome, unless there is a field that maps to nothing: then the first one is the
fault. -/
theorem run_of_check (t : ObjectType) (given : List (Value × Value)) (filters : Filters) (n : Int)
    {bounds : Option PageBounds} (hcheck : Vocabulary.check t (.dict given) = .ok ())
    (hb : filters.bounds = .ok bounds) (hn : 1 ≤ n) :
    ∃ fs, Projection.normalize (dropNull given) = .ok (Field.entries fs) ∧
      ((∃ outcome, run (.text t.label) (.dict (dropNull given)) filters (.int n) = .ok outcome) ↔
        ∀ x ∈ relationsOf t fs, Numeral.isWritable (filters.resolved n x.1 x.2) = true) ∧
      (∀ fault, run (.text t.label) (.dict (dropNull given)) filters (.int n) = .error fault →
        ∃ x ∈ relationsOf t fs, Numeral.isWritable (filters.resolved n x.1 x.2) = false ∧
          fault = .selection (.bound x.1 x.2 {})) ∧
      run (.text t.label) (.dict given) filters (.int n) =
        (firstNull? given).elim (run (.text t.label) (.dict (dropNull given)) filters (.int n))
          fun field => .error (.projection (.value field "NoneType")) := by
  have hfits := Vocabulary.check_eq_ok_iff_fits.mp hcheck
  obtain ⟨fs, hdropped, hbelong, houtcome, hgiven⟩ := exists_isOutcome_of_fits hfits hb hn
  have hrelations := Selection.hasRelation_of_allBelong hbelong
  refine ⟨fs, hdropped, houtcome.exists_eq_ok_iff hrelations, fun fault h => ?_, hgiven⟩
  rw [h] at houtcome
  exact houtcome.fault_of_error hrelations

/-- An event whose time is left open: the check passes, and compiling fails. -/
theorem run_of_check_open_timestamp :
    Vocabulary.check .event (.dict [(.text "timestamp", .null)]) = .ok () ∧
      run (.text "event") (.dict []) .absent (.int 1000) = .ok ("id", .compiled "HatsEvent" "id") ∧
      run (.text "event") (.dict [(.text "timestamp", .null)]) .absent (.int 1000) =
        .error (.projection (.value (.text "timestamp") "NoneType")) := by
  obtain ⟨fs, -, -, -, hgiven⟩ :=
    run_of_check .event [(.text "timestamp", .null)] .absent 1000 rfl rfl (by decide)
  exact ⟨rfl, rfl, hgiven⟩

end HatTree.Compile
