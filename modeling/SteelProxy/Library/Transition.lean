import Mathlib.Data.List.Basic
import Mathlib.Logic.Basic
import Mathlib.Tactic.Common

/-!
# Guarded transitions with emitted events

A `System` is a partial step function: in a state, a label is either not enabled or leads to a new
state and emits finitely many events. A run on a list of labels (`System.exec`) collects the
events in order. Properties of all runs are reduced to properties of one step by the rules of
this file: an invariant that relates the state to the events emitted so far (`exec_invariant`),
and a property that asks every event to be justified by the events before it, which holds of a
run exactly when every step meets a condition (`justified_iff_meets`).
-/

set_option autoImplicit false

namespace SteelProxy.Library.Transition

universe u v w x

variable {σ : Type u} {ι : Type v} {ε : Type w}

/-- A guarded transition system over states `σ`, labels `ι` and events `ε`. -/
structure System (σ : Type u) (ι : Type v) (ε : Type w) where
  step : σ → ι → Option (σ × List ε)

namespace System

variable (S : System σ ι ε)

/-- The run on a list of labels: the final state and the events, `none` if a label is not
enabled. -/
def exec : σ → List ι → Option (σ × List ε)
  | s, [] => some (s, [])
  | s, i :: is =>
      match S.step s i with
      | none => none
      | some (s', t) =>
          match exec s' is with
          | none => none
          | some (s'', t') => some (s'', t ++ t')

/-- Every step of the run on a list of labels meets the condition `C` on the state before the
step and its label. -/
def Meets (C : σ → ι → Prop) : σ → List ι → Prop
  | _, [] => True
  | s, i :: is =>
      C s i ∧
        match S.step s i with
        | none => True
        | some (s', _) => Meets C s' is

@[simp]
theorem exec_nil (s : σ) : S.exec s [] = some (s, []) := rfl

theorem exec_cons_iff {s s' : σ} {i : ι} {is : List ι} {t : List ε} :
    S.exec s (i :: is) = some (s', t) ↔
      ∃ m t₁ t₂, S.step s i = some (m, t₁) ∧ S.exec m is = some (s', t₂) ∧ t = t₁ ++ t₂ := by
  constructor
  · intro h
    simp only [exec] at h
    cases hstep : S.step s i with
    | none => simp [hstep] at h
    | some p =>
        rcases p with ⟨m, t₁⟩
        cases hrest : S.exec m is with
        | none => simp [hstep, hrest] at h
        | some q =>
            rcases q with ⟨f, t₂⟩
            simp only [hstep, hrest, Option.some.injEq, Prod.mk.injEq] at h
            obtain ⟨rfl, rfl⟩ := h
            exact ⟨m, t₁, t₂, rfl, hrest, rfl⟩
  · rintro ⟨m, t₁, t₂, hstep, hrest, rfl⟩
    simp only [exec, hstep, hrest]

/-- A step without events does not show in the run. -/
theorem exec_cons_of_silent {s m : σ} {i : ι} (h : S.step s i = some (m, [])) (is : List ι) :
    S.exec s (i :: is) = S.exec m is := by
  simp only [exec, h]
  cases S.exec m is <;> rfl

/-- A run is determined by its events as soon as it exists. -/
theorem exists_exec_of_events {s : σ} {is : List ι} {t : List ε}
    (h : (S.exec s is).map Prod.snd = some t) : ∃ s', S.exec s is = some (s', t) := by
  cases hrun : S.exec s is with
  | none => simp [hrun] at h
  | some p =>
      rcases p with ⟨s', t'⟩
      simp only [hrun, Option.map_some, Option.some.injEq] at h
      exact ⟨s', by rw [← h]⟩

theorem meets_cons_iff {C : σ → ι → Prop} {s s' : σ} {i : ι} {is : List ι} {t : List ε}
    (hstep : S.step s i = some (s', t)) :
    S.Meets C s (i :: is) ↔ C s i ∧ S.Meets C s' is := by
  simp [Meets, hstep]

theorem Meets.mono {S : System σ ι ε} {C D : σ → ι → Prop} (hCD : ∀ s i, C s i → D s i) :
    ∀ {is : List ι} {s : σ}, S.Meets C s is → S.Meets D s is
  | [], _, _ => trivial
  | i :: is, s, h => by
      refine ⟨hCD s i h.1, ?_⟩
      cases hstep : S.step s i with
      | none => trivial
      | some p =>
          have htail := h.2
          rw [hstep] at htail
          exact Meets.mono hCD htail

/-- The same with an invariant that the steps meeting `C` preserve. -/
theorem Meets.mono_of_invariant {S : System σ ι ε} {C D : σ → ι → Prop} {Inv : σ → Prop}
    (hCD : ∀ s i, Inv s → C s i → D s i)
    (hstep : ∀ s i s' t, Inv s → C s i → S.step s i = some (s', t) → Inv s') :
    ∀ {is : List ι} {s : σ}, Inv s → S.Meets C s is → S.Meets D s is
  | [], _, _, _ => trivial
  | i :: is, s, hinv, h => by
      refine ⟨hCD s i hinv h.1, ?_⟩
      cases hs : S.step s i with
      | none => trivial
      | some p =>
          have htail := h.2
          rw [hs] at htail
          exact Meets.mono_of_invariant hCD hstep (hstep s i p.1 p.2 hinv h.1 hs) htail

theorem meets_congr {C D : σ → ι → Prop} (hCD : ∀ s i, C s i ↔ D s i) (s : σ) (is : List ι) :
    S.Meets C s is ↔ S.Meets D s is :=
  ⟨Meets.mono fun s i => (hCD s i).1, Meets.mono fun s i => (hCD s i).2⟩

instance decidableMeets (C : σ → ι → Prop) [∀ s i, Decidable (C s i)] :
    ∀ (s : σ) (is : List ι), Decidable (S.Meets C s is)
  | _, [] => isTrue trivial
  | s, i :: is =>
      match hstep : S.step s i with
      | none => decidable_of_iff (C s i) (by simp [Meets, hstep])
      | some (s', _) =>
          have := decidableMeets C s' is
          decidable_of_iff (C s i ∧ S.Meets C s' is) (by simp [Meets, hstep])

/-- The invariant rule: what one step meeting `C` preserves, every run whose steps meet `C`
preserves. The invariant relates the state to the events emitted so far. -/
theorem exec_invariant {C : σ → ι → Prop} {Inv : σ → List ε → Prop}
    (hstep : ∀ s tr i s' t, Inv s tr → C s i → S.step s i = some (s', t) → Inv s' (tr ++ t))
    {is : List ι} {s s' : σ} {tr t : List ε} (h0 : Inv s tr) (hC : S.Meets C s is)
    (hrun : S.exec s is = some (s', t)) : Inv s' (tr ++ t) := by
  induction is generalizing s tr t with
  | nil =>
      simp only [exec_nil, Option.some.injEq, Prod.mk.injEq] at hrun
      obtain ⟨rfl, rfl⟩ := hrun
      simpa using h0
  | cons i is ih =>
      obtain ⟨m, t₁, t₂, h₁, h₂, rfl⟩ := (S.exec_cons_iff).1 hrun
      obtain ⟨hi, his⟩ := (S.meets_cons_iff h₁).1 hC
      -- the first step carries the invariant from `tr` to `tr ++ t₁`, the rest from there
      rw [← List.append_assoc]
      exact ih (hstep s tr i m t₁ h0 hi h₁) his h₂

/-- The invariant rule for an invariant of the state alone. -/
theorem exec_state_invariant {C : σ → ι → Prop} (Inv : σ → Prop)
    (hstep : ∀ s i s' t, Inv s → C s i → S.step s i = some (s', t) → Inv s')
    {is : List ι} {s s' : σ} {t : List ε} (h0 : Inv s) (hC : S.Meets C s is)
    (hrun : S.exec s is = some (s', t)) : Inv s' := by
  have hinv : ∀ s (tr : List ε) i s' t, Inv s → C s i → S.step s i = some (s', t) → Inv s' :=
    fun s _ i s' t h hi hs => hstep s i s' t h hi hs
  exact @exec_invariant σ ι ε S C (fun s _ => Inv s) hinv is s s' [] t h0 hC hrun

theorem meets_cons {C : σ → ι → Prop} {s : σ} {i : ι} {is : List ι} (hi : C s i)
    (his : ∀ s', S.Meets C s' is) : S.Meets C s (i :: is) := by
  refine ⟨hi, ?_⟩
  cases S.step s i with
  | none => trivial
  | some p => exact his p.1

/-- A condition that the labels meet in every state is met by the run. -/
theorem meets_of_forall {C : σ → ι → Prop} :
    ∀ {is : List ι}, (∀ s, ∀ i ∈ is, C s i) → ∀ s, S.Meets C s is
  | [], _, _ => trivial
  | i :: _, h, s =>
      S.meets_cons (h s i List.mem_cons_self)
        (meets_of_forall fun s' j hj => h s' j (List.mem_cons_of_mem _ hj))

/-! ### Other events of the same runs -/

/-- The runs of the system with the events that `observe` reads off each step. -/
def observed {ε' : Type x} (observe : σ → ι → List ε') : System σ ι ε' :=
  ⟨fun s i => (S.step s i).map fun p => (p.1, observe s i)⟩

theorem step_observed_iff {ε' : Type x} {observe : σ → ι → List ε'} {s s' : σ} {i : ι}
    {t : List ε'} :
    (S.observed observe).step s i = some (s', t) ↔
      (∃ t₀, S.step s i = some (s', t₀)) ∧ t = observe s i := by
  simp only [observed, Option.map_eq_some_iff, Prod.exists, Prod.mk.injEq]
  constructor
  · rintro ⟨m, t₀, hstep, rfl, rfl⟩
    exact ⟨⟨t₀, hstep⟩, rfl⟩
  · rintro ⟨⟨t₀, hstep⟩, rfl⟩
    exact ⟨s', t₀, hstep, rfl, rfl⟩

/-- The runs of the system with what `observe` reads off each step before the events of the
step. -/
def annotated {ε' : Type x} (observe : σ → ι → List ε') (f : ε → ε') : System σ ι ε' :=
  ⟨fun s i => (S.step s i).map fun p => (p.1, observe s i ++ p.2.map f)⟩

section Annotated

variable {ε' : Type x} {observe : σ → ι → List ε'} {f : ε → ε'}

theorem step_annotated_iff {s s' : σ} {i : ι} {t : List ε'} :
    (S.annotated observe f).step s i = some (s', t) ↔
      ∃ t₀, S.step s i = some (s', t₀) ∧ t = observe s i ++ t₀.map f := by
  simp only [annotated, Option.map_eq_some_iff, Prod.exists, Prod.mk.injEq]
  constructor
  · rintro ⟨m, t₀, hstep, rfl, rfl⟩
    exact ⟨t₀, hstep, rfl⟩
  · rintro ⟨t₀, hstep, rfl⟩
    exact ⟨s', t₀, hstep, rfl, rfl⟩

/-- The events of a run are found again in the annotated one. -/
theorem exec_of_annotated {g : ε' → Option ε} (hobserve : ∀ s i, (observe s i).filterMap g = [])
    (hf : ∀ e, g (f e) = some e) {is : List ι} {s s' : σ} {t : List ε'}
    (hrun : (S.annotated observe f).exec s is = some (s', t)) :
    S.exec s is = some (s', t.filterMap g) := by
  induction is generalizing s t with
  | nil =>
      simp only [exec_nil, Option.some.injEq, Prod.mk.injEq] at hrun
      obtain ⟨rfl, rfl⟩ := hrun
      rfl
  | cons i is ih =>
      obtain ⟨m, t₁, t₂, h₁, h₂, rfl⟩ := (exec_cons_iff _).1 hrun
      obtain ⟨t₀, hstep, rfl⟩ := (S.step_annotated_iff).1 h₁
      refine S.exec_cons_iff.2 ⟨m, t₀, _, hstep, ih h₂, ?_⟩
      have hsome : g ∘ f = some := funext hf
      rw [List.filterMap_append, List.filterMap_append, hobserve, List.filterMap_map, hsome,
        List.filterMap_some, List.nil_append]

end Annotated

/-- The invariant rule for an invariant that also relates the labels of the run so far. -/
theorem exec_history {Inv : σ → List ι → List ε → Prop}
    (hstep : ∀ s is tr i s' t, Inv s is tr → S.step s i = some (s', t) →
      Inv s' (is ++ [i]) (tr ++ t))
    {is₀ is : List ι} {s s' : σ} {tr t : List ε} (h0 : Inv s is₀ tr)
    (hrun : S.exec s is = some (s', t)) : Inv s' (is₀ ++ is) (tr ++ t) := by
  induction is generalizing s is₀ tr t with
  | nil =>
      simp only [exec_nil, Option.some.injEq, Prod.mk.injEq] at hrun
      obtain ⟨rfl, rfl⟩ := hrun
      simpa using h0
  | cons i is ih =>
      obtain ⟨m, t₁, t₂, h₁, h₂, rfl⟩ := (S.exec_cons_iff).1 hrun
      have hrest := ih (hstep s is₀ tr i m t₁ h0 h₁) h₂
      rwa [List.append_assoc, List.singleton_append, List.append_assoc] at hrest

end System

/-! ## Events justified by the events before them -/

/-- Every event of the trace satisfies `P` of the events before it. -/
def Justified (P : List ε → ε → Prop) (tr : List ε) : Prop :=
  ∀ pre e post, tr = pre ++ e :: post → P pre e

section Justified

variable {P : List ε → ε → Prop}

@[simp]
theorem justified_nil : Justified P [] := by
  intro pre e post h
  simp at h

theorem justified_cons_iff {e : ε} {t : List ε} :
    Justified P (e :: t) ↔ P [] e ∧ Justified (fun pre => P (e :: pre)) t := by
  constructor
  · intro h
    refine ⟨h [] e t rfl, ?_⟩
    rintro pre x post rfl
    exact h (e :: pre) x post rfl
  · rintro ⟨h0, h⟩ pre x post heq
    cases pre with
    | nil =>
        simp only [List.nil_append, List.cons.injEq] at heq
        obtain ⟨rfl, -⟩ := heq
        exact h0
    | cons y pre =>
        simp only [List.cons_append, List.cons.injEq] at heq
        obtain ⟨rfl, rfl⟩ := heq
        exact h pre x post rfl

theorem justified_singleton_iff {e : ε} : Justified P [e] ↔ P [] e := by
  rw [justified_cons_iff]
  exact and_iff_left justified_nil

theorem justified_append_iff {tr t : List ε} :
    Justified P (tr ++ t) ↔ Justified P tr ∧ Justified (fun pre => P (tr ++ pre)) t := by
  -- `P` is generalized: after the first event the tail is judged by `fun pre => P (e :: pre)`
  induction tr generalizing P with
  | nil => simp
  | cons e tr ih =>
      rw [List.cons_append, justified_cons_iff, justified_cons_iff, ih, and_assoc]
      rfl

theorem justified_map_iff {β : Type x} {f : β → ε} {t : List β} :
    Justified P (t.map f) ↔ Justified (fun pre x => P (pre.map f) (f x)) t := by
  induction t generalizing P with
  | nil => simp
  | cons x t ih =>
      rw [List.map_cons, justified_cons_iff, justified_cons_iff, ih]
      rfl

/-- A property of events that each step decides by a condition on its state and label holds of a
run exactly when every step meets the condition. The invariant need only survive the steps that
meet it: the first one that does not has already decided the run. -/
theorem justified_iff_meets_while (S : System σ ι ε) {C : σ → ι → Prop}
    {Inv : σ → List ε → Prop}
    (hiff : ∀ s tr i s' t, Inv s tr → S.step s i = some (s', t) →
      (Justified (fun pre => P (tr ++ pre)) t ↔ C s i))
    (hinv : ∀ s tr i s' t, Inv s tr → C s i → S.step s i = some (s', t) → Inv s' (tr ++ t))
    {is : List ι} {s s' : σ} {tr t : List ε} (h0 : Inv s tr)
    (hrun : S.exec s is = some (s', t)) :
    Justified (fun pre => P (tr ++ pre)) t ↔ S.Meets C s is := by
  induction is generalizing s tr t with
  | nil =>
      simp only [System.exec_nil, Option.some.injEq, Prod.mk.injEq] at hrun
      obtain ⟨-, rfl⟩ := hrun
      simp [System.Meets]
  | cons i is ih =>
      obtain ⟨m, t₁, t₂, h₁, h₂, rfl⟩ := (S.exec_cons_iff).1 hrun
      -- the step's own events decide `C s i`; the later ones are judged with `t₁` before them
      rw [S.meets_cons_iff h₁, justified_append_iff, hiff s tr i m t₁ h0 h₁]
      apply and_congr_right
      intro hC
      simpa only [List.append_assoc] using ih (hinv s tr i m t₁ h0 hC h₁) h₂

/-- The same for an invariant that every step preserves. -/
theorem justified_iff_meets (S : System σ ι ε) {C : σ → ι → Prop} {Inv : σ → List ε → Prop}
    (hstep : ∀ s tr i s' t, Inv s tr → S.step s i = some (s', t) →
      Inv s' (tr ++ t) ∧ (Justified (fun pre => P (tr ++ pre)) t ↔ C s i))
    {is : List ι} {s s' : σ} {tr t : List ε} (h0 : Inv s tr)
    (hrun : S.exec s is = some (s', t)) :
    Justified (fun pre => P (tr ++ pre)) t ↔ S.Meets C s is :=
  justified_iff_meets_while S (fun s tr i s' t h hs => (hstep s tr i s' t h hs).2)
    (fun s tr i s' t h _ hs => (hstep s tr i s' t h hs).1) h0 hrun

end Justified

/-! ## Opening and closing events -/

/-- Some `A` event of the trace has no `B` event after it. -/
def Open (A B : ε → Prop) (tr : List ε) : Prop :=
  ∃ pre a post, tr = pre ++ a :: post ∧ A a ∧ ∀ b ∈ post, ¬ B b

/-- Between any two `A` events of the trace there is a `B` event. -/
def Separated (A B : ε → Prop) (tr : List ε) : Prop :=
  ∀ pre a mid a' post, tr = pre ++ a :: (mid ++ a' :: post) → A a → A a' → ∃ b ∈ mid, B b

section Open

variable {A B : ε → Prop}

@[simp]
theorem not_open_nil : ¬ Open A B [] := by
  rintro ⟨pre, a, post, h, -, -⟩
  simp at h

theorem open_append_iff {tr t : List ε} :
    Open A B (tr ++ t) ↔ (Open A B tr ∧ ∀ b ∈ t, ¬ B b) ∨ Open A B t := by
  constructor
  · rintro ⟨pre, a, post, heq, ha, hpost⟩
    -- the open event lies in `t`, or in `tr` and then no event of `t` closes it
    rcases List.append_eq_append_iff.1 heq with ⟨rest, hpre, ht⟩ | ⟨rest, htr, hpost'⟩
    · exact Or.inr ⟨rest, a, post, ht, ha, hpost⟩
    · cases rest with
      | nil =>
          simp only [List.nil_append] at hpost'
          exact Or.inr ⟨[], a, post, hpost'.symm, ha, hpost⟩
      | cons x rest =>
          simp only [List.cons_append, List.cons.injEq] at hpost'
          obtain ⟨rfl, rfl⟩ := hpost'
          refine Or.inl ⟨⟨pre, a, rest, htr, ha, ?_⟩, ?_⟩
          · intro b hb
            exact hpost b (List.mem_append_left _ hb)
          · intro b hb
            exact hpost b (List.mem_append_right _ hb)
  · rintro (⟨⟨pre, a, post, rfl, ha, hpost⟩, ht⟩ | ⟨pre, a, post, rfl, ha, hpost⟩)
    · refine ⟨pre, a, post ++ t, by simp, ha, ?_⟩
      intro b hb
      rcases List.mem_append.1 hb with hb | hb
      · exact hpost b hb
      · exact ht b hb
    · exact ⟨tr ++ pre, a, post, by simp, ha, hpost⟩

theorem separated_iff_justified {tr : List ε} :
    Separated A B tr ↔ Justified (fun pre e => A e → ¬ Open A B pre) tr := by
  constructor
  · rintro h pre a' post rfl ha' ⟨pre₀, a, mid, rfl, ha, hmid⟩
    obtain ⟨b, hb, hB⟩ := h pre₀ a mid a' post (by simp) ha ha'
    exact hmid b hb hB
  · intro h pre a mid a' post heq ha ha'
    by_contra hno
    -- with no `B` in `mid`, the first `A` is still open when the second comes
    apply h (pre ++ a :: mid) a' post (by simp [heq]) ha'
    refine ⟨pre, a, mid, rfl, ha, ?_⟩
    intro b hb hB
    exact hno ⟨b, hb, hB⟩

end Open

/-! ## The last value recorded by a trace -/

/-- The value that the last event read by `f` records. -/
def lastOf {β : Type x} (f : ε → Option β) (tr : List ε) : Option β :=
  (tr.filterMap f).getLast?

section LastOf

variable {β : Type x} {f : ε → Option β}

theorem lastOf_append {tr t : List ε} : lastOf f (tr ++ t) = (lastOf f t).or (lastOf f tr) := by
  simp [lastOf, List.filterMap_append, List.getLast?_append]

theorem lastOf_append_one {tr : List ε} {e : ε} :
    lastOf f (tr ++ [e]) = (f e).or (lastOf f tr) := by
  rw [lastOf_append]
  cases h : f e with
  | none => rw [lastOf, List.filterMap_cons_none h]; rfl
  | some b => rw [lastOf, List.filterMap_cons_some h]; rfl

/-- Events that `f` does not read leave the last value unchanged. -/
theorem lastOf_append_of_forall_none {tr t : List ε} (h : ∀ e ∈ t, f e = none) :
    lastOf f (tr ++ t) = lastOf f tr := by
  have ht : t.filterMap f = [] := List.filterMap_eq_nil_iff.2 h
  simp [lastOf, List.filterMap_append, ht]

end LastOf

/-! ## The events after an event -/

/-- The events of the trace after the first one that `p` marks. -/
def eventsAfter (p : ε → Bool) : List ε → List ε
  | [] => []
  | e :: t => if p e = true then t else eventsAfter p t

section EventsAfter

variable {p : ε → Bool} {tr : List ε}

theorem eventsAfter_append_of_forall (h : ∀ e ∈ tr, p e = false) (t : List ε) :
    eventsAfter p (tr ++ t) = eventsAfter p t := by
  induction tr with
  | nil => rfl
  | cons e tr ih =>
      rw [List.cons_append, eventsAfter, h e List.mem_cons_self, if_neg Bool.false_ne_true]
      exact ih fun x hx => h x (List.mem_cons_of_mem _ hx)

theorem eventsAfter_eq_nil (h : ∀ e ∈ tr, p e = false) : eventsAfter p tr = [] := by
  have happend := eventsAfter_append_of_forall h []
  rwa [List.append_nil] at happend

theorem eventsAfter_append_of_exists (h : ∃ e ∈ tr, p e = true) (t : List ε) :
    eventsAfter p (tr ++ t) = eventsAfter p tr ++ t := by
  induction tr with
  | nil => simp at h
  | cons e tr ih =>
      rw [List.cons_append, eventsAfter, eventsAfter]
      by_cases he : p e = true
      · rw [if_pos he, if_pos he]
      · rw [if_neg he, if_neg he]
        obtain ⟨x, hx, hpx⟩ := h
        rcases List.mem_cons.1 hx with rfl | hx
        · exact absurd hpx he
        · exact ih ⟨x, hx, hpx⟩

end EventsAfter

end SteelProxy.Library.Transition
