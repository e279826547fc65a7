import Mathlib.Algebra.Group.Nat.Defs
import Mathlib.Data.List.Basic
import Mathlib.Tactic.Common

/-!
# String slices of the source language

`trim`, `strip_prefix` and the parser of `u32` on strings, by their documented behaviour.
-/

set_option autoImplicit false

namespace SteelProxy.Library.Text

/-- The Unicode property `White_Space`. -/
def isWhiteSpace (c : Char) : Bool :=
  (9 ≤ c.toNat && c.toNat ≤ 13) || c.toNat = 0x20 || c.toNat = 0x85 || c.toNat = 0xA0 ||
    c.toNat = 0x1680 || (0x2000 ≤ c.toNat && c.toNat ≤ 0x200A) || c.toNat = 0x2028 ||
    c.toNat = 0x2029 || c.toNat = 0x202F || c.toNat = 0x205F || c.toNat = 0x3000

/-- `str::trim`. -/
def trim (s : String) : String :=
  String.ofList (((s.toList.dropWhile isWhiteSpace).reverse.dropWhile isWhiteSpace).reverse)

/-- `str::starts_with`. -/
def startsWith (pre s : String) : Bool := pre.toList.isPrefixOf s.toList

/-- `str::strip_prefix`. -/
def stripPrefix (pre s : String) : Option String :=
  if startsWith pre s then some (String.ofList (s.toList.drop pre.toList.length)) else none

/-- One more decimal digit of a `u32`; `none` on another character or an overflow. -/
def pushDigit (value : Nat) (c : Char) : Option Nat :=
  if c.isDigit then
    let next := value * 10 + (c.toNat - 48)
    if next < 2 ^ 32 then some next else none
  else
    none

/-- `str::parse::<u32>`: an optional `+` and decimal digits. -/
def parseU32 (s : String) : Option UInt32 :=
  let digits := match s.toList with
    | '+' :: rest => rest
    | cs => cs
  if digits.isEmpty then none else (digits.foldlM pushDigit 0).map UInt32.ofNat

theorem isSome_stripPrefix (pre s : String) :
    (stripPrefix pre s).isSome = startsWith pre s := by
  rw [stripPrefix]
  cases startsWith pre s <;> rfl

/-- A text that does not start with `pre` is no extension of `pre`. -/
theorem append_ne {pre s t : String} (h : ¬ pre.toList <+: t.toList) : pre ++ s ≠ t := by
  rintro rfl
  apply h
  rw [String.toList_append]
  exact List.prefix_append _ _

theorem startsWith_append {pre s : String} (h : startsWith pre s = true) (t : String) :
    startsWith pre (s ++ t) = true := by
  rw [startsWith, List.isPrefixOf_iff_prefix] at h ⊢
  rw [String.toList_append]
  exact h.trans (List.prefix_append _ _)

/-- A text with one beginning does not have another one. -/
theorem startsWith_eq_false {pre pre' s : String} (hs : startsWith pre' s = true)
    (h : startsWith pre pre' = false) (h' : startsWith pre' pre = false) :
    startsWith pre s = false := by
  rw [Bool.eq_false_iff]
  intro hpre
  rw [startsWith, List.isPrefixOf_iff_prefix] at hs hpre
  rcases List.prefix_or_prefix_of_prefix hpre hs with hprefix | hprefix
  · rw [startsWith, List.isPrefixOf_iff_prefix.2 hprefix] at h
    cases h
  · rw [startsWith, List.isPrefixOf_iff_prefix.2 hprefix] at h'
    cases h'

/-- Texts with different beginnings are different. -/
theorem ne_of_startsWith {pre pre' s t : String} (hs : startsWith pre s = true)
    (ht : startsWith pre' t = true) (h : startsWith pre pre' = false)
    (h' : startsWith pre' pre = false) : s ≠ t := by
  rintro rfl
  rw [startsWith_eq_false ht h h'] at hs
  cases hs

theorem stripPrefix_append (pre s : String) : stripPrefix pre (pre ++ s) = some s := by
  have hpre : startsWith pre (pre ++ s) = true := by
    rw [startsWith, List.isPrefixOf_iff_prefix, String.toList_append]
    exact List.prefix_append _ _
  rw [stripPrefix, if_pos hpre, String.toList_append, List.drop_left' rfl, String.ofList_toList]

theorem stripPrefix_eq_none {pre s : String} (h : startsWith pre s = false) :
    stripPrefix pre s = none := by
  rw [stripPrefix, h]
  rfl

/-- Nothing is trimmed from a text without white space. -/
theorem trim_eq_self {s : String} (h : ∀ c ∈ s.toList, isWhiteSpace c = false) : trim s = s := by
  have hdrop : ∀ cs : List Char, (∀ c ∈ cs, isWhiteSpace c = false) →
      cs.dropWhile isWhiteSpace = cs := by
    intro cs hcs
    cases cs with
    | nil => rfl
    | cons c cs =>
        rw [List.dropWhile_cons, hcs c List.mem_cons_self]
        rfl
  rw [trim, hdrop s.toList h, hdrop, List.reverse_reverse, String.ofList_toList]
  exact fun c hc => h c (List.mem_reverse.1 hc)

/-! ## Decimal numbers -/

theorem isWhiteSpace_of_isDigit {c : Char} (h : c.isDigit = true) : isWhiteSpace c = false := by
  simp only [Char.isDigit, Bool.and_eq_true, decide_eq_true_eq] at h
  have hlow : 48 ≤ c.toNat := h.1
  have hhigh : c.toNat ≤ 57 := h.2
  simp only [isWhiteSpace, Bool.or_eq_false_iff, Bool.and_eq_false_iff, decide_eq_false_iff_not]
  omega

/-- Digits are pushed onto the value of those before them, if the whole number fits. -/
theorem foldlM_pushDigit {cs : List Char} (hcs : ∀ c ∈ cs, c.isDigit = true) {value : Nat}
    (hvalue : Nat.ofDigitChars 10 cs value < 2 ^ 32) :
    cs.foldlM pushDigit value = some (Nat.ofDigitChars 10 cs value) := by
  induction cs generalizing value with
  | nil => rfl
  | cons c cs ih =>
      rw [Nat.ofDigitChars_cons] at hvalue ⊢
      have hnext : value * 10 + (c.toNat - 48) = 10 * value + (c.toNat - '0'.toNat) := by
        rw [Nat.mul_comm]
        rfl
      -- the value only grows with further digits, so it fits after this one
      have hfits : 10 * value + (c.toNat - '0'.toNat) < 2 ^ 32 := by
        rw [Nat.ofDigitChars_eq_ofDigitChars_zero] at hvalue
        refine Nat.lt_of_le_of_lt (Nat.le_trans ?_ (Nat.le_add_right _ _)) hvalue
        exact Nat.le_mul_of_pos_left _ (Nat.pow_pos (by decide))
      rw [List.foldlM_cons, pushDigit, if_pos (hcs c List.mem_cons_self), hnext]
      simp only [if_pos hfits]
      exact ih (fun d hd => hcs d (List.mem_cons_of_mem _ hd)) hvalue

/-- A text of digits is read as their number, if it fits. -/
theorem parseU32_of_isDigit {s : String} (hne : s.toList ≠ [])
    (hdigits : ∀ c ∈ s.toList, c.isDigit = true) (h : Nat.ofDigitChars 10 s.toList 0 < 2 ^ 32) :
    parseU32 s = some (UInt32.ofNat (Nat.ofDigitChars 10 s.toList 0)) := by
  unfold parseU32
  split
  · rename_i rest heq
    exact absurd (hdigits '+' (by rw [heq]; exact List.mem_cons_self)) (by decide)
  · rw [if_neg (by rwa [List.isEmpty_iff]), foldlM_pushDigit hdigits h, Option.map_some]

/-! ## Separators -/

/-- The texts before and after the first separator. -/
theorem eq_of_append_separator {α : Type} {c : α} {xs ys zs ws : List α} (hxs : c ∉ xs)
    (hys : c ∉ ys) (h : xs ++ c :: zs = ys ++ c :: ws) : xs = ys ∧ zs = ws := by
  induction xs generalizing ys with
  | nil =>
      cases ys with
      | nil =>
          simp only [List.nil_append, List.cons.injEq, true_and] at h
          exact ⟨rfl, h⟩
      | cons y ys =>
          simp only [List.nil_append, List.cons_append, List.cons.injEq] at h
          exact absurd (h.1 ▸ List.mem_cons_self) hys
  | cons x xs ih =>
      cases ys with
      | nil =>
          simp only [List.nil_append, List.cons_append, List.cons.injEq] at h
          exact absurd (h.1 ▸ List.mem_cons_self) hxs
      | cons y ys =>
          simp only [List.cons_append, List.cons.injEq] at h
          obtain ⟨rfl, hrest⟩ := h
          obtain ⟨rfl, rfl⟩ := ih (fun hc => hxs (List.mem_cons_of_mem _ hc))
            (fun hc => hys (List.mem_cons_of_mem _ hc)) hrest
          exact ⟨rfl, rfl⟩

end SteelProxy.Library.Text
