import SteelProxy.Library.KeyedMap

/-!
# Equality-based label selectors

Objects carry labels, and a selector is a set of labels that an object must carry
(`Selects`). Two objects whose labels differ at a key of the selector are told apart
(`not_selects_of_ne`).
-/

set_option autoImplicit false

namespace SteelProxy.Library

/-- The labels of an object, or the labels that a selector asks for. -/
abbrev Labels : Type := KeyedMap String String

namespace Labels

/-- Every label of the selector is one of the object. -/
def Selects (selector labels : Labels) : Prop :=
  ∀ key value, selector.lookup key = some value → labels.lookup key = some value

theorem selects_self (labels : Labels) : Selects labels labels := fun _ _ h => h

/-- A selector does not select labels that differ from it at one of its keys. -/
theorem not_selects_of_ne {selector labels : Labels} {key value value' : String}
    (h : selector.lookup key = some value) (h' : labels.lookup key = some value')
    (hne : value ≠ value') : ¬ Selects selector labels := by
  intro hselects
  rw [hselects key value h, Option.some.injEq] at h'
  exact hne h'

end Labels

end SteelProxy.Library
