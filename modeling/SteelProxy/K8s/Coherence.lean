import SteelProxy.K8s.HandlerEffects

/-!
# The snapshot of a tick stays current

A handler writes the state of an instance that it read from the snapshot of the tick, several
awaits earlier. This is sound when nobody else writes that instance meanwhile: only the loop
changes a tracked instance, and `start_pr` only inserts a PR that is not tracked. The second half
needs that a call that passes the check of `has_instance` finds no other call of its PR in flight
(`NoOverlap`). Under this condition `Coherent` holds in every state: the entries of the snapshot
still to be handled are the tracked instances, and the running handler matches the tracked
instance of its PR.
-/

set_option autoImplicit false

namespace SteelProxy.Lifecycle

open SteelProxy.Library SteelProxy.Library.Transition

/-- A call that passes the check of `has_instance` finds no other call of its PR between this
check and its return. -/
def NoOverlap (w : World) : Label → Prop
  | .start id (.call n) =>
      w.calls id = .idle → w.shared.instances.lookup n = none →
        ∀ id', (w.calls id').pending ≠ some n
  | _ => True

/-- Only calls numbered below `k` go on, and one that begins finds none of them in flight for its
PR. -/
def ApartBelow (k : Nat) (w : World) : Label → Prop
  | .start id (.call n) => id < k ∧ ∀ id' < k, (w.calls id').pending ≠ some n
  | .start id _ => id < k
  | _ => True

instance (k : Nat) (w : World) (label : Label) : Decidable (ApartBelow k w label) :=
  match label with
  | .start _ (.call _) => inferInstanceAs (Decidable (_ ∧ _))
  | .start _ .registryLocked => inferInstanceAs (Decidable (_ < _))
  | .start _ (.githubAnswered _) => inferInstanceAs (Decidable (_ < _))
  | .start _ (.buildsQueried _) => inferInstanceAs (Decidable (_ < _))
  | .start _ .buildsResumed => inferInstanceAs (Decidable (_ < _))
  | .start _ (.jenkinsAnswered _ _) => inferInstanceAs (Decidable (_ < _))
  | .tick _ => isTrue trivial
  | .advance _ => isTrue trivial
  | .resume _ => isTrue trivial

theorem noOverlap_of_apart {k : Nat} {w : World} {label : Label}
    (hidle : ∀ id, k ≤ id → w.calls id = .idle) (hapart : ApartBelow k w label) :
    NoOverlap w label := by
  cases label with
  | start id label =>
      cases label with
      | call n =>
          intro _ _ id' hpending
          by_cases hid : id' < k
          · exact hapart.2 id' hid hpending
          · rw [hidle id' (by omega)] at hpending
            cases hpending
      | _ => trivial
  | _ => trivial

theorem idle_step {setup : Setup} {k : Nat} {w w' : World} {label : Label} {t : List Event}
    (hidle : ∀ id, k ≤ id → w.calls id = .idle) (hapart : ApartBelow k w label)
    (hstep : step setup w label = some (w', t)) : ∀ id, k ≤ id → w'.calls id = .idle := by
  intro id hid
  cases label with
  | start id₀ label =>
      obtain ⟨o, -, rfl, -⟩ := step_start_iff.1 hstep
      have hbelow : id₀ < k := by
        cases label with
        | call n => exact hapart.1
        | _ => exact hapart
      have hother : id ≠ id₀ := by omega
      simp only [Function.update_of_ne hother]
      exact hidle id hid
  | tick snapshot =>
      obtain ⟨-, -, rfl, -⟩ := step_tick_iff.1 hstep
      exact hidle id hid
  | advance now =>
      rcases step_advance_iff.1 hstep with ⟨-, rfl, -⟩ | ⟨n, i, rest, -, rfl, -⟩
      · exact hidle id hid
      · exact hidle id hid
  | resume answer =>
      obtain ⟨n, pc, rest, o, -, -, rfl, -⟩ := step_resume_iff.1 hstep
      exact hidle id hid

/-- In a run with finitely many calls, `NoOverlap` is a check of these. -/
theorem noOverlap_of_apartBelow {setup : Setup} {k : Nat} {w : World} {labels : List Label}
    (hidle : ∀ id, k ≤ id → w.calls id = .idle)
    (h : (system setup).Meets (ApartBelow k) w labels) :
    (system setup).Meets NoOverlap w labels :=
  @System.Meets.mono_of_invariant _ _ _ (system setup) (ApartBelow k) NoOverlap
    (fun w => ∀ id, k ≤ id → w.calls id = .idle) (fun _ _ => noOverlap_of_apart)
    (fun _ _ _ _ hidle hapart hstep => idle_step hidle hapart hstep) _ _ hidle h

/-- The entries have distinct PRs and are the tracked instances. -/
def Current (m : Instances) (rest : List (UInt32 × PrInstance)) : Prop :=
  (rest.map Prod.fst).Nodup ∧ ∀ k i, (k, i) ∈ rest → m.lookup k = some i

/-- The loop works on current entries. -/
def LoopCoherent (m : Instances) : LoopState → Prop
  | .waiting => True
  | .next rest => Current m rest
  | .running n pc rest =>
      n ∉ rest.map Prod.fst ∧ Current m rest ∧ ∃ i, m.lookup n = some i ∧ PcMatches i pc
  | .panicked => True

/-- At most one call of a PR is in flight, its PR is not tracked, and the loop works on current
entries. -/
structure Coherent (w : World) : Prop where
  unique : ∀ id id' n, (w.calls id).pending = some n → (w.calls id').pending = some n → id = id'
  untracked : ∀ id n, (w.calls id).pending = some n → w.shared.instances.lookup n = none
  loop : LoopCoherent w.shared.instances w.loop

theorem coherent_of_fresh {w : World} (h : Fresh w) : Coherent w where
  unique := by
    intro id id' n hid
    rw [h.1 id] at hid
    cases hid
  untracked := by
    intro id n hid
    rw [h.1 id] at hid
    cases hid
  loop := by
    rw [h.2]
    trivial

theorem Current.congr {m m' : Instances} {rest : List (UInt32 × PrInstance)}
    (h : Current m rest) (hm : ∀ k i, (k, i) ∈ rest → m'.lookup k = m.lookup k) :
    Current m' rest :=
  ⟨h.1, fun k i hk => (hm k i hk).trans (h.2 k i hk)⟩

theorem Current.tail {m : Instances} {e : UInt32 × PrInstance}
    {rest : List (UInt32 × PrInstance)} (h : Current m (e :: rest)) :
    e.1 ∉ rest.map Prod.fst ∧ Current m rest := by
  obtain ⟨hnodup, hcurrent⟩ := h
  rw [List.map_cons, List.nodup_cons] at hnodup
  exact ⟨hnodup.1, hnodup.2, fun k i hk => hcurrent k i (List.mem_cons_of_mem _ hk)⟩

/-- A snapshot is current when it is taken. -/
theorem current_of_perm {m : Instances} {snapshot : List (UInt32 × PrInstance)}
    (h : snapshot.Perm (K8sManager.getInstancesSnapshot m)) : Current m snapshot := by
  constructor
  · exact (h.map Prod.fst).nodup_iff.2 (KeyedMap.nodup_map_fst_pairs m)
  · intro k i hk
    exact (KeyedMap.mem_pairs_iff m k i).1 (h.mem_iff.1 hk)

/-- Keeping every tracked instance keeps the loop coherent. -/
theorem LoopCoherent.mono {m m' : Instances} {loop : LoopState} (h : LoopCoherent m loop)
    (hm : ∀ k i, m.lookup k = some i → m'.lookup k = some i) : LoopCoherent m' loop := by
  cases loop with
  | waiting => trivial
  | next rest => exact ⟨h.1, fun k i hk => hm k i (h.2 k i hk)⟩
  | running n pc rest =>
      obtain ⟨hn, hrest, i, hi, hpc⟩ := h
      exact ⟨hn, ⟨hrest.1, fun k j hk => hm k j (hrest.2 k j hk)⟩, i, hm n i hi, hpc⟩
  | panicked => trivial

/-! ## Steps of a call -/

/-- What one piece of a call does: it leaves the tracked instances alone, or it inserts its own
PR and returns. -/
theorem stepped_instances {setup : Setup} {sh : Shared} {id : Nat} {call : StartCall}
    {label : StartLabel} {o : StartPr.Outcome}
    (h : StartPr.Stepped setup sh id call label o) :
    o.shared.instances = sh.instances ∨
      ∃ n i, call.pending = some n ∧ o.call = .idle ∧
        o.shared.instances = sh.instances.insert n i := by
  cases h with
  | bailed error => exact Or.inl rfl
  | begun n huntracked => exact Or.inl rfl
  | registryChecked n habsent => exact Or.inl rfl
  | commitReceived n answer commitHash commitHashShort hcommit => exact Or.inl rfl
  | buildsQueried n commitHash commitHashShort => exact Or.inl rfl
  | cached n commitHash commitHashShort => exact Or.inr ⟨n, _, rfl, rfl, rfl⟩
  | missed n commitHash commitHashShort => exact Or.inl rfl
  | queued n commitHash commitHashShort queueUrl answer now =>
      exact Or.inr ⟨n, _, rfl, rfl, rfl⟩

/-- A piece of a call writes nothing but the tracked instances. -/
theorem stepped_shared {setup : Setup} {sh : Shared} {id : Nat} {call : StartCall}
    {label : StartLabel} {o : StartPr.Outcome}
    (h : StartPr.Stepped setup sh id call label o) :
    o.shared = { sh with instances := o.shared.instances } := by
  cases h <;> rfl

/-- A call in flight after a piece was in flight before, or has just passed its checks. -/
theorem stepped_pending {setup : Setup} {sh : Shared} {id : Nat} {call : StartCall}
    {label : StartLabel} {o : StartPr.Outcome}
    (h : StartPr.Stepped setup sh id call label o) {n : UInt32} (hn : o.call.pending = some n) :
    call.pending = some n ∨ (call = .idle ∧ label = .call n ∧ sh.instances.lookup n = none) := by
  cases h with
  | bailed error => cases hn
  | begun m huntracked =>
      cases hn
      exact Or.inr ⟨rfl, rfl, huntracked⟩
  | registryChecked m habsent => exact Or.inl hn
  | commitReceived m answer commitHash commitHashShort hcommit => exact Or.inl hn
  | buildsQueried m commitHash commitHashShort => exact Or.inl hn
  | cached m commitHash commitHashShort => cases hn
  | missed m commitHash commitHashShort => exact Or.inl hn
  | queued m commitHash commitHashShort queueUrl answer now => cases hn

/-- Calls in flight stay unique when one of them moves, unless it moves to the PR of another. -/
theorem unique_update {calls : Nat → StartCall} {id : Nat} {call : StartCall}
    (h : ∀ id id' n, (calls id).pending = some n → (calls id').pending = some n → id = id')
    (hsame : ∀ id' n, call.pending = some n → (calls id').pending = some n → id' = id)
    (id₁ id₂ : Nat) (n : UInt32)
    (h₁ : (Function.update calls id call id₁).pending = some n)
    (h₂ : (Function.update calls id call id₂).pending = some n) : id₁ = id₂ := by
  rw [Function.update_apply] at h₁ h₂
  by_cases e₁ : id₁ = id
  · by_cases e₂ : id₂ = id
    · rw [e₁, e₂]
    · rw [if_pos e₁] at h₁
      rw [if_neg e₂] at h₂
      exact absurd (hsame id₂ n h₁ h₂) e₂
  · by_cases e₂ : id₂ = id
    · rw [if_neg e₁] at h₁
      rw [if_pos e₂] at h₂
      exact absurd (hsame id₁ n h₂ h₁) e₁
    · rw [if_neg e₁] at h₁
      rw [if_neg e₂] at h₂
      exact h id₁ id₂ n h₁ h₂

theorem coherent_start {setup : Setup} {w w' : World} {t : List Event} {id : Nat}
    {label : StartLabel} (h : Coherent w) (hno : NoOverlap w (.start id label))
    (hstep : step setup w (.start id label) = some (w', t)) : Coherent w' := by
  obtain ⟨o, ho, rfl, rfl⟩ := step_start_iff.1 hstep
  have hs := StartPr.stepped_of_step ho
  -- a call in flight with the same PR is the call that moved
  have hsame : ∀ id' n, o.call.pending = some n → (w.calls id').pending = some n → id' = id := by
    intro id' n hn hn'
    rcases stepped_pending hs hn with hpend | ⟨hidle, rfl, hnone⟩
    · exact h.unique id' id n hn' hpend
    · exact absurd hn' (hno hidle hnone id')
  refine ⟨unique_update h.unique hsame, ?_, ?_⟩
  · intro id' n hn
    simp only [Function.update_apply] at hn
    rcases stepped_instances hs with heq | ⟨m, i, hm, hidle, heq⟩
    · simp only [heq]
      by_cases e : id' = id
      · rw [if_pos e] at hn
        rcases stepped_pending hs hn with hpend | ⟨-, -, hnone⟩
        · exact h.untracked id n hpend
        · exact hnone
      · rw [if_neg e] at hn
        exact h.untracked id' n hn
    · by_cases e : id' = id
      · rw [if_pos e, hidle] at hn
        cases hn
      · rw [if_neg e] at hn
        -- the inserted PR was in flight in the call that moved, so in no other
        have hne : n ≠ m := by
          rintro rfl
          exact e (h.unique id' id n hn hm)
        simp only [heq, AList.lookup_insert_ne hne]
        exact h.untracked id' n hn
  · apply h.loop.mono
    intro k i hk
    rcases stepped_instances hs with heq | ⟨m, j, hm, -, heq⟩
    · simp only [heq, hk]
    · -- the PR of a call in flight is not tracked, so the insertion overwrites nothing
      have hne : k ≠ m := by
        rintro rfl
        rw [h.untracked id k hm] at hk
        cases hk
      simp only [heq, AList.lookup_insert_ne hne, hk]

/-! ## Steps of the loop -/

/-- The loop after a piece of the handler of PR `n`. -/
theorem loopCoherent_afterFlow {sh : Shared} {n : UInt32} {o : Outcome}
    {rest : List (UInt32 × PrInstance)} (heff : InstanceEffect sh n o)
    (hawait : AwaitsMatching n o) (hn : n ∉ rest.map Prod.fst)
    (hrest : Current sh.instances rest) :
    LoopCoherent o.shared.instances (afterFlow n rest o.flow) := by
  have hrest' : Current o.shared.instances rest := by
    apply hrest.congr
    intro k i hk
    apply heff.lookup_of_ne
    rintro rfl
    exact hn (List.mem_map.2 ⟨(k, i), hk, rfl⟩)
  cases hflow : o.flow with
  | await pc => exact ⟨hn, hrest', hawait pc hflow⟩
  | done => exact hrest'
  | panicked => trivial

/-- The calls are untouched by a step of the loop, and no PR becomes tracked. -/
theorem coherent_of_loop {w : World} {sh : Shared} {loop : LoopState} (h : Coherent w)
    (hnone : ∀ k, w.shared.instances.lookup k = none → sh.instances.lookup k = none)
    (hloop : LoopCoherent sh.instances loop) : Coherent ⟨sh, w.calls, loop⟩ where
  unique := h.unique
  untracked := fun id n hn => hnone n (h.untracked id n hn)
  loop := hloop

theorem coherent_step {setup : Setup} {w w' : World} {t : List Event} {label : Label}
    (h : Coherent w) (hno : NoOverlap w label) (hstep : step setup w label = some (w', t)) :
    Coherent w' := by
  cases label with
  | start id label => exact coherent_start h hno hstep
  | tick snapshot =>
      obtain ⟨-, hperm, rfl, rfl⟩ := step_tick_iff.1 hstep
      exact coherent_of_loop h (fun k hk => hk) (current_of_perm hperm)
  | advance now =>
      rcases step_advance_iff.1 hstep with ⟨hloop, rfl, rfl⟩ | ⟨n, i, rest, hloop, rfl, rfl⟩
      · exact coherent_of_loop h (fun k hk => hk) trivial
      · have hcur := h.loop
        rw [hloop] at hcur
        have hi : w.shared.instances.lookup n = some i := hcur.2 n i List.mem_cons_self
        obtain ⟨hn, hrest⟩ := hcur.tail
        have hdispatched := dispatched_dispatch setup w.shared n i now
        have heff := instanceEffect_of_dispatched hdispatched
        exact coherent_of_loop h (fun k hk => heff.lookup_eq_none hk)
          (loopCoherent_afterFlow heff (awaitsMatching_of_dispatched hdispatched hi) hn hrest)
  | resume answer =>
      obtain ⟨n, pc, rest, o, hloop, ho, rfl, rfl⟩ := step_resume_iff.1 hstep
      have hcur := h.loop
      rw [hloop] at hcur
      obtain ⟨hn, hrest, i, hi, hpc⟩ := hcur
      have hres := resumed_of_resume ho
      have heff := instanceEffect_of_resumed hres
      exact coherent_of_loop h (fun k hk => heff.lookup_eq_none hk)
        (loopCoherent_afterFlow heff (awaitsMatching_of_resumed hres hi hpc) hn hrest)

/-- The entry that the loop takes next is the tracked instance of its PR. -/
theorem Coherent.lookup_next {w : World} (h : Coherent w) {n : UInt32} {i : PrInstance}
    {rest : List (UInt32 × PrInstance)} (hloop : w.loop = .next ((n, i) :: rest)) :
    w.shared.instances.lookup n = some i := by
  have hcur := h.loop
  rw [hloop] at hcur
  exact hcur.2 n i List.mem_cons_self

/-- The running handler matches the tracked instance of its PR. -/
theorem Coherent.lookup_running {w : World} (h : Coherent w) {n : UInt32} {pc : HandlerPc}
    {rest : List (UInt32 × PrInstance)} (hloop : w.loop = .running n pc rest) :
    ∃ i, w.shared.instances.lookup n = some i ∧ PcMatches i pc := by
  have hcur := h.loop
  rw [hloop] at hcur
  exact hcur.2.2

end SteelProxy.Lifecycle
