import Mathlib.Data.List.Basic
import Mathlib.Tactic.Common

/-!
# FIFO links with a marked message

A link is the list of the messages under way, the oldest first. `Closing` says that a marked
message can only be the last one, sent by a party that sends nothing after it; `Divided` says that
one marked message divides the link into the messages before it and those after it.
-/

set_option autoImplicit false

namespace SteelProxy.Library.Fifo

universe u

variable {α : Type u} {mark before after : α → Prop} {closed : Bool} {a : α} {l l' : List α}

theorem forall_mem_append_one {P : α → Prop} (h : ∀ x ∈ l, P x) (ha : P a) :
    ∀ x ∈ l ++ [a], P x := by
  intro x hx
  rcases List.mem_append.1 hx with hx | hx
  · exact h x hx
  · rw [List.mem_singleton.1 hx]
    exact ha

/-! ## A message that closes the link -/

/-- Only the last message may be marked, and only if its sender has closed the link. -/
structure Closing (mark : α → Prop) (closed : Bool) (l : List α) : Prop where
  last : l.Pairwise fun x _ => ¬ mark x
  sender : ∀ x ∈ l, mark x → closed = true

/-- An open link takes one more message; a marked one closes it. -/
theorem Closing.append (h : Closing mark false l) (ha : mark a → closed = true) :
    Closing mark closed (l ++ [a]) := by
  -- the sender has not closed the link yet, so no message under way is marked
  have hunmarked : ∀ x ∈ l, ¬ mark x := by
    intro x hx hmark
    exact Bool.false_ne_true (h.sender x hx hmark)
  constructor
  · rw [List.pairwise_append]
    exact ⟨h.last, List.pairwise_singleton _ _, fun x hx _ _ => hunmarked x hx⟩
  · intro x hx hmark
    rcases List.mem_append.1 hx with hx | hx
    · exact absurd hmark (hunmarked x hx)
    · rw [List.mem_singleton.1 hx] at hmark
      exact ha hmark

theorem Closing.sublist (h : Closing mark closed l) (hsub : l'.Sublist l) :
    Closing mark closed l' :=
  ⟨h.last.sublist hsub, fun x hx => h.sender x (hsub.subset hx)⟩

/-- One marked message divides the link: before it unmarked messages of one kind, after it
messages of another kind. -/
def Divided (mark before after : α → Prop) (l : List α) : Prop :=
  ∃ pre a post, l = pre ++ a :: post ∧ (∀ x ∈ pre, before x ∧ ¬ mark x) ∧ before a ∧ mark a ∧
    ∀ x ∈ post, after x

/-- A message is sent after the marked one. -/
theorem Divided.append (h : Divided mark before after l) (ha : after a) :
    Divided mark before after (l ++ [a]) := by
  obtain ⟨pre, b, post, rfl, hpre, hbefore, hmark, hpost⟩ := h
  exact ⟨pre, b, post ++ [a], by simp, hpre, hbefore, hmark, forall_mem_append_one hpost ha⟩

/-- The head of a divided link is the marked message, or stands before it. -/
theorem Divided.head (h : Divided mark before after (a :: l)) :
    before a ∧ ((mark a ∧ ∀ x ∈ l, after x) ∨ (¬ mark a ∧ Divided mark before after l)) := by
  obtain ⟨pre, b, post, heq, hpre, hbefore, hmark, hpost⟩ := h
  cases pre with
  | nil =>
      simp only [List.nil_append, List.cons.injEq] at heq
      obtain ⟨rfl, rfl⟩ := heq
      exact ⟨hbefore, Or.inl ⟨hmark, hpost⟩⟩
  | cons c pre =>
      simp only [List.cons_append, List.cons.injEq] at heq
      obtain ⟨rfl, rfl⟩ := heq
      have hc := hpre a List.mem_cons_self
      refine ⟨hc.1, Or.inr ⟨hc.2, pre, b, post, rfl, ?_, hbefore, hmark, hpost⟩⟩
      intro x hx
      exact hpre x (List.mem_cons_of_mem a hx)

end SteelProxy.Library.Fifo
