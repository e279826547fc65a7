import Mathlib.Data.List.Induction
import Mathlib.Tactic.Common

/-!
# Stores seen one key at a time

Each operation on a store names a key. If an operation changes what is seen under its own key by
`effect`, and nothing that is seen under another key, then what is seen under a key after a run of
operations is the fold of the effects of the operations that name it (`view_foldl`).
-/

set_option autoImplicit false

namespace SteelProxy.Library.PerKey

universe u v w x

variable {κ : Type u} {ι : Type v} {α : Type w} {σ : Type x} [DecidableEq κ]

/-- What a run of operations makes of the value seen under one key. -/
def onKey (key : ι → κ) (effect : α → ι → α) (k : κ) (a : α) (ops : List ι) : α :=
  ops.foldl (fun a op => if key op = k then effect a op else a) a

theorem onKey_append_one (key : ι → κ) (effect : α → ι → α) (k : κ) (a : α) (ops : List ι)
    (op : ι) :
    onKey key effect k a (ops ++ [op]) =
      if key op = k then effect (onKey key effect k a ops) op else onKey key effect k a ops := by
  simp [onKey]

/-- A store whose operations act on one key at a time is a map from keys to folds. -/
theorem view_foldl {key : ι → κ} {effect : α → ι → α} {step : σ → ι → σ} {view : σ → κ → α}
    (hown : ∀ s op, view (step s op) (key op) = effect (view s (key op)) op)
    (hother : ∀ s op k, k ≠ key op → view (step s op) k = view s k) (s : σ) (ops : List ι)
    (k : κ) : view (ops.foldl step s) k = onKey key effect k (view s k) ops := by
  -- both sides fold from the left, so the last operation is taken off
  induction ops using List.reverseRecOn with
  | nil => rfl
  | append_singleton ops op ih =>
      rw [onKey_append_one, List.foldl_append, List.foldl_cons, List.foldl_nil, ← ih]
      by_cases hk : key op = k
      · subst hk
        rw [if_pos rfl, hown]
      · rw [if_neg hk, hother _ _ _ (Ne.symm hk)]

end SteelProxy.Library.PerKey
