import SteelProxy.Library.Transition

/-!
# Restrictions, blocks, simulations and potentials

Rules that relate the runs of a guarded transition system to something simpler. The runs whose
steps meet a condition are the runs of a restricted system (`exec_restricted_iff`), and a run of
blocks of labels is a run of labels (`exec_blocks`). A simulation turns every step of one system
into a run of another on a view of the states, and then every run (`Simulates.exec`, or
`exists_exec_of_steps` where the labels of that run do not matter); it may rest on an invariant, and
relate the events of the two. A potential that never grows and falls with every label of some kind
bounds the number of these labels in a run (`countP_le_potential`).
-/

set_option autoImplicit false

namespace SteelProxy.Library.Transition.System

universe u v w u' v' w'

variable {σ : Type u} {ι : Type v} {ε : Type w} {σ' : Type u'} {ι' : Type v'} {ε' : Type w'}

section Append

variable (S : System σ ι ε)

/-- A run splits where its labels split. -/
theorem exec_append_iff {s s' : σ} {is js : List ι} {t : List ε} :
    S.exec s (is ++ js) = some (s', t) ↔
      ∃ m t₁ t₂, S.exec s is = some (m, t₁) ∧ S.exec m js = some (s', t₂) ∧ t = t₁ ++ t₂ := by
  induction is generalizing s t with
  | nil => simp
  | cons i is ih =>
      rw [List.cons_append, exec_cons_iff]
      constructor
      · rintro ⟨k, t₀, t', hstep, hrest, rfl⟩
        obtain ⟨m, t₁, t₂, h₁, h₂, rfl⟩ := ih.1 hrest
        refine ⟨m, t₀ ++ t₁, t₂, ?_, h₂, by rw [List.append_assoc]⟩
        exact S.exec_cons_iff.2 ⟨k, t₀, t₁, hstep, h₁, rfl⟩
      · rintro ⟨m, t₁, t₂, h₁, h₂, rfl⟩
        obtain ⟨k, t₀, t', hstep, hrest, rfl⟩ := S.exec_cons_iff.1 h₁
        exact ⟨k, t₀, t' ++ t₂, hstep, ih.2 ⟨m, t', t₂, hrest, h₂, rfl⟩,
          by rw [List.append_assoc]⟩

theorem exec_singleton_iff {s s' : σ} {i : ι} {t : List ε} :
    S.exec s [i] = some (s', t) ↔ S.step s i = some (s', t) := by
  rw [exec_cons_iff]
  constructor
  · rintro ⟨m, t₁, t₂, hstep, hrest, rfl⟩
    simp only [exec_nil, Option.some.injEq, Prod.mk.injEq] at hrest
    obtain ⟨rfl, rfl⟩ := hrest
    rwa [List.append_nil]
  · intro hstep
    exact ⟨s', t, [], hstep, rfl, (List.append_nil t).symm⟩

/-- The conditions of a run split where its labels split. -/
theorem meets_append_iff {C : σ → ι → Prop} {s m : σ} {is js : List ι} {t : List ε}
    (hrun : S.exec s is = some (m, t)) :
    S.Meets C s (is ++ js) ↔ S.Meets C s is ∧ S.Meets C m js := by
  induction is generalizing s t with
  | nil =>
      simp only [exec_nil, Option.some.injEq, Prod.mk.injEq] at hrun
      obtain ⟨rfl, -⟩ := hrun
      simp [Meets]
  | cons i is ih =>
      obtain ⟨k, t₁, t₂, hstep, hrest, rfl⟩ := S.exec_cons_iff.1 hrun
      rw [List.cons_append, S.meets_cons_iff hstep, S.meets_cons_iff hstep, ih hrest, and_assoc]

end Append

/-! ## Restrictions -/

section Restricted

variable (S : System σ ι ε) (C : σ → ι → Prop)

open Classical in
/-- The system with the steps that meet the condition `C` only. -/
noncomputable def restricted : System σ ι ε :=
  ⟨fun s i => if C s i then S.step s i else none⟩

theorem step_restricted_iff {s s' : σ} {i : ι} {t : List ε} :
    (S.restricted C).step s i = some (s', t) ↔ C s i ∧ S.step s i = some (s', t) := by
  simp [restricted]

/-- The runs of the restricted system are the runs whose steps meet the condition. -/
theorem exec_restricted_iff {s s' : σ} {is : List ι} {t : List ε} :
    (S.restricted C).exec s is = some (s', t) ↔ S.Meets C s is ∧ S.exec s is = some (s', t) := by
  induction is generalizing s t with
  | nil => simp [Meets]
  | cons i is ih =>
      rw [exec_cons_iff, exec_cons_iff]
      constructor
      · rintro ⟨m, t₁, t₂, hstep, hrest, rfl⟩
        obtain ⟨hi, hm⟩ := (S.step_restricted_iff C).1 hstep
        obtain ⟨his, hrun⟩ := ih.1 hrest
        exact ⟨(S.meets_cons_iff hm).2 ⟨hi, his⟩, m, t₁, t₂, hm, hrun, rfl⟩
      · rintro ⟨hmeets, m, t₁, t₂, hstep, hrest, rfl⟩
        obtain ⟨hi, his⟩ := (S.meets_cons_iff hstep).1 hmeets
        exact ⟨m, t₁, t₂, (S.step_restricted_iff C).2 ⟨hi, hstep⟩, ih.2 ⟨his, hrest⟩, rfl⟩

end Restricted

/-! ## Blocks of steps -/

/-- The system that takes a list of labels in one step. -/
def blocks (S : System σ ι ε) : System σ (List ι) ε := ⟨S.exec⟩

/-- The runs in blocks are the runs on the joined blocks. -/
theorem exec_blocks (S : System σ ι ε) (s : σ) (iss : List (List ι)) :
    S.blocks.exec s iss = S.exec s iss.flatten := by
  induction iss generalizing s with
  | nil => rfl
  | cons is iss ih =>
      apply Option.ext
      rintro ⟨s', t⟩
      rw [List.flatten_cons, S.exec_append_iff, S.blocks.exec_cons_iff]
      simp only [ih]
      rfl

/-! ## Simulations -/

/-- Every step of `S` from a state with the invariant `Inv` keeps it, and is a run of `T` on the
view of its states, with the labels given by `project` and with events related by `R`. -/
structure Simulates (S : System σ ι ε) (T : System σ' ι' ε') (Inv : σ → Prop) (view : σ → σ')
    (project : σ → ι → List ι') (R : List ε → List ε' → Prop) : Prop where
  step : ∀ s i s' t, Inv s → S.step s i = some (s', t) →
    Inv s' ∧ ∃ t', T.exec (view s) (project s i) = some (view s', t') ∧ R t t'
  nil : R [] []
  append : ∀ t u t' u', R t t' → R u u' → R (t ++ u) (t' ++ u')

/-- The labels of the simulating run. -/
def projected (S : System σ ι ε) (project : σ → ι → List ι') : σ → List ι → List ι'
  | _, [] => []
  | s, i :: is =>
      match S.step s i with
      | none => []
      | some (s', _) => project s i ++ projected S project s' is

section Simulates

variable {S : System σ ι ε} {T : System σ' ι' ε'} {Inv : σ → Prop} {view : σ → σ'}
  {project : σ → ι → List ι'} {R : List ε → List ε' → Prop}

theorem projected_cons {s s' : σ} {i : ι} {is : List ι} {t : List ε}
    (hstep : S.step s i = some (s', t)) :
    S.projected project s (i :: is) = project s i ++ S.projected project s' is := by
  simp only [projected, hstep]

/-- Every run of `S` from a state with the invariant is a run of `T` on the view of its states. -/
theorem Simulates.exec (h : Simulates S T Inv view project R) {is : List ι} {s s' : σ}
    {t : List ε} (h0 : Inv s) (hrun : S.exec s is = some (s', t)) :
    ∃ t', T.exec (view s) (S.projected project s is) = some (view s', t') ∧ R t t' := by
  induction is generalizing s t with
  | nil =>
      simp only [exec_nil, Option.some.injEq, Prod.mk.injEq] at hrun
      obtain ⟨rfl, rfl⟩ := hrun
      exact ⟨[], rfl, h.nil⟩
  | cons i is ih =>
      obtain ⟨m, t₁, t₂, h₁, h₂, rfl⟩ := S.exec_cons_iff.1 hrun
      obtain ⟨hinv, t', hstep, hevents⟩ := h.step s i m t₁ h0 h₁
      obtain ⟨t'', hrest, hevents'⟩ := ih hinv h₂
      rw [projected_cons h₁]
      exact ⟨t' ++ t'', T.exec_append_iff.2 ⟨view m, t', t'', hstep, hrest, rfl⟩,
        h.append _ _ _ _ hevents hevents'⟩

/-- Conditions on the labels of every simulating run are conditions on the simulating run of a
run. -/
theorem Simulates.meets (h : Simulates S T Inv view project R) {C : σ → ι → Prop}
    {D : σ' → ι' → Prop}
    (hC : ∀ s i s' t, C s i → S.step s i = some (s', t) → T.Meets D (view s) (project s i))
    {is : List ι} {s s' : σ} {t : List ε} (h0 : Inv s) (hmeets : S.Meets C s is)
    (hrun : S.exec s is = some (s', t)) : T.Meets D (view s) (S.projected project s is) := by
  induction is generalizing s t with
  | nil => trivial
  | cons i is ih =>
      obtain ⟨m, t₁, t₂, h₁, h₂, rfl⟩ := S.exec_cons_iff.1 hrun
      obtain ⟨hi, his⟩ := (S.meets_cons_iff h₁).1 hmeets
      obtain ⟨hinv, t', hstep, -⟩ := h.step s i m t₁ h0 h₁
      rw [projected_cons h₁, T.meets_append_iff hstep]
      exact ⟨hC s i m t₁ hi h₁, ih hinv his h₂⟩

end Simulates

/-- Where each step of `S` is some run of `T` on the view of its states, so is each run. -/
theorem exists_exec_of_steps {S : System σ ι ε} {T : System σ' ι' ε'} {Inv : σ → Prop}
    {view : σ → σ'} {R : List ε → List ε' → Prop}
    (hstep : ∀ s i s' t, Inv s → S.step s i = some (s', t) →
      Inv s' ∧ ∃ is' t', T.exec (view s) is' = some (view s', t') ∧ R t t')
    (hnil : R [] []) (happend : ∀ t u t' u', R t t' → R u u' → R (t ++ u) (t' ++ u'))
    {is : List ι} {s s' : σ} {t : List ε} (h0 : Inv s) (hrun : S.exec s is = some (s', t)) :
    ∃ is' t', T.exec (view s) is' = some (view s', t') ∧ R t t' := by
  induction is generalizing s t with
  | nil =>
      simp only [exec_nil, Option.some.injEq, Prod.mk.injEq] at hrun
      obtain ⟨rfl, rfl⟩ := hrun
      exact ⟨[], [], rfl, hnil⟩
  | cons i is ih =>
      obtain ⟨m, t₁, t₂, h₁, h₂, rfl⟩ := S.exec_cons_iff.1 hrun
      obtain ⟨hinv, is₁, t₁', hfirst, hevents⟩ := hstep s i m t₁ h0 h₁
      obtain ⟨is₂, t₂', hrest, hevents'⟩ := ih hinv h₂
      exact ⟨is₁ ++ is₂, t₁' ++ t₂',
        T.exec_append_iff.2 ⟨view m, t₁', t₂', hfirst, hrest, rfl⟩,
        happend _ _ _ _ hevents hevents'⟩

/-! ## Potentials -/

/-- Every counted label of a run lowers the potential, and no other label raises it. -/
theorem countP_le_potential {S : System σ ι ε} {C : σ → ι → Prop} {Inv : σ → Prop}
    (potential : σ → Nat) (counted : ι → Bool)
    (hinv : ∀ s i s' t, Inv s → C s i → S.step s i = some (s', t) → Inv s')
    (hstep : ∀ s i s' t, Inv s → C s i → S.step s i = some (s', t) →
      potential s' + (if counted i then 1 else 0) ≤ potential s)
    {is : List ι} {s s' : σ} {t : List ε} (h0 : Inv s) (hC : S.Meets C s is)
    (hrun : S.exec s is = some (s', t)) : potential s' + is.countP counted ≤ potential s := by
  induction is generalizing s t with
  | nil =>
      simp only [exec_nil, Option.some.injEq, Prod.mk.injEq] at hrun
      obtain ⟨rfl, -⟩ := hrun
      exact Nat.le_refl _
  | cons i is ih =>
      obtain ⟨m, t₁, t₂, h₁, h₂, rfl⟩ := S.exec_cons_iff.1 hrun
      obtain ⟨hi, his⟩ := (S.meets_cons_iff h₁).1 hC
      have hfirst := hstep s i m t₁ h0 hi h₁
      have hrest := ih (hinv s i m t₁ h0 hi h₁) his h₂
      rw [List.countP_cons]
      omega

end SteelProxy.Library.Transition.System
