import Mathlib.Data.List.Nodup
import Mathlib.Tactic.Common

/-!
# Tables with a unique key

A table is a list of rows and `key` reads the key of a row. When no two rows share a key, the
table is a map: `row key rows k` is the row stored under `k`, and each statement on the table (an
update in place, an insertion of a fresh key, a deletion by key) has a closed form in `row`.
-/

set_option autoImplicit false

namespace SteelProxy.Library.KeyedRows

universe u v

variable {κ : Type u} {ρ : Type v} [DecidableEq κ] {key : ρ → κ} {rows : List ρ} {k a : κ} {r : ρ}

/-- The row stored under a key. -/
def row (key : ρ → κ) (rows : List ρ) (k : κ) : Option ρ := rows.find? fun r => key r = k

theorem key_of_row (h : row key rows k = some r) : key r = k := by
  have hkey := List.find?_some h
  simpa using hkey

theorem mem_of_row (h : row key rows k = some r) : r ∈ rows := List.mem_of_find?_eq_some h

theorem row_eq_none_iff : row key rows k = none ↔ k ∉ rows.map key := by
  simp [row, List.find?_eq_none]

/-- With unique keys, every row is the one stored under its key. -/
theorem row_of_mem (hunique : (rows.map key).Nodup) (h : r ∈ rows) :
    row key rows (key r) = some r := by
  induction rows with
  | nil => cases h
  | cons x rows ih =>
      obtain ⟨hx, hrows⟩ := List.nodup_cons.1 hunique
      rcases List.mem_cons.1 h with rfl | h
      · simp [row]
      · have hne : key x ≠ key r := fun heq => hx (heq ▸ List.mem_map_of_mem h)
        rw [row, List.find?_cons_of_neg (by simpa using hne)]
        exact ih hrows h

theorem row_eq_some_iff (hunique : (rows.map key).Nodup) :
    row key rows k = some r ↔ r ∈ rows ∧ key r = k := by
  constructor
  · intro h
    exact ⟨mem_of_row h, key_of_row h⟩
  · rintro ⟨hr, rfl⟩
    exact row_of_mem hunique hr

/-- The rows selected by a key are the row stored under it, if there is one. -/
theorem filter_key_eq (hunique : (rows.map key).Nodup) (k : κ) :
    (rows.filter fun r => key r = k) = (row key rows k).toList := by
  induction rows with
  | nil => rfl
  | cons x rows ih =>
      obtain ⟨hx, hrows⟩ := List.nodup_cons.1 hunique
      by_cases hk : key x = k
      · -- no later row has the key of the head
        have hrest : (rows.filter fun r => key r = k) = [] := by
          rw [List.filter_eq_nil_iff]
          intro r hr heq
          apply hx
          rw [hk, ← of_decide_eq_true heq]
          exact List.mem_map_of_mem hr
        simp [row, hk, hrest]
      · rw [List.filter_cons_of_neg (by simpa using hk), ih hrows, row, row,
          List.find?_cons_of_neg (by simpa using hk)]

/-! ## Statements -/

/-- An update in place that keeps the keys. -/
theorem row_map {f : ρ → ρ} (hf : ∀ r, key (f r) = key r) :
    row key (rows.map f) k = (row key rows k).map f := by
  have hkeys : (fun r => decide (key r = k)) ∘ f = fun r => decide (key r = k) := by
    funext r
    rw [Function.comp_apply, hf]
  rw [row, row, List.find?_map, hkeys]

/-- An insertion under a fresh key. -/
theorem row_append (hfresh : key r ∉ rows.map key) :
    row key (rows ++ [r]) k = if k = key r then some r else row key rows k := by
  rw [row, List.find?_append]
  by_cases hk : k = key r
  · subst hk
    have hnone : row key rows (key r) = none := row_eq_none_iff.2 hfresh
    rw [row] at hnone
    simp [hnone]
  · simp [row, hk, Ne.symm hk]

/-- A deletion by key. -/
theorem row_filter_ne :
    row key (rows.filter fun r => key r ≠ a) k = if k = a then none else row key rows k := by
  by_cases hk : k = a
  · subst hk
    simp [row]
  · rw [if_neg hk, row, row, List.find?_filter]
    congr 1
    funext r
    by_cases hr : key r = k
    · simp [hr, hk]
    · simp [hr]

end SteelProxy.Library.KeyedRows
