import SteelProxy.K8s.Coherence

/-!
# Mutual exclusion of PR starts

`start_pr` checks that its PR is not tracked, awaits the registry, GitHub, the database and
Jenkins, and then inserts the instance. Two calls that both pass the check insert twice
(`overlapping_starts_overwrite`). As long as a call that passes the check finds no other call
of its PR in flight (`NoOverlap`), no insertion overwrites an instance and between two triggered
builds of a PR its instance was removed (`mutualExclusion_of_noOverlap`).
-/

set_option autoImplicit false

namespace SteelProxy.Lifecycle

open SteelProxy.Library SteelProxy.Library.Transition

/-- A build of PR `n` was triggered. -/
def IsTriggered (n : UInt32) : Event → Prop
  | .triggered m _ _ => m = n
  | _ => False

/-- No insertion overwrites a tracked instance, and between any two triggered builds of a PR its
instance was removed from tracking. -/
structure MutualExclusion (tr : List Event) : Prop where
  neverOverwrites : ∀ n old, Event.inserted n old ∈ tr → old = none
  removedBetween : ∀ n, Separated (IsTriggered n) (IsRemoved n) tr

theorem isStart_of_isTriggered {n : UInt32} {e : Event} (h : IsTriggered n e) : IsStart e := by
  cases e with
  | triggered m commitHashShort queueUrl => trivial
  | _ => exact h.elim

theorem mutualExclusion_nil : MutualExclusion [] where
  neverOverwrites := by
    intro n old h
    simp at h
  removedBetween := by
    intro n pre a mid a' post h
    simp at h

/-- Appending events keeps mutual exclusion if an insertion among them finds its PR untracked
and a triggered build finds no build of its PR still open. -/
theorem MutualExclusion.append {tr t : List Event} (h : MutualExclusion tr)
    (hins : ∀ n old, Event.inserted n old ∈ t → old = none)
    (htrig : ∀ n, Justified
      (fun pre e => IsTriggered n e → ¬ Open (IsTriggered n) (IsRemoved n) (tr ++ pre)) t) :
    MutualExclusion (tr ++ t) where
  neverOverwrites := by
    intro n old hmem
    rcases List.mem_append.1 hmem with hmem | hmem
    · exact h.neverOverwrites n old hmem
    · exact hins n old hmem
  removedBetween := by
    intro n
    rw [separated_iff_justified, justified_append_iff]
    exact ⟨separated_iff_justified.1 (h.removedBetween n), htrig n⟩

theorem MutualExclusion.append_of_noStart {tr t : List Event} (h : MutualExclusion tr)
    (ht : ∀ e ∈ t, ¬ IsStart e) : MutualExclusion (tr ++ t) := by
  apply h.append
  · intro n old hmem
    exact absurd trivial (ht _ hmem)
  · rintro n pre e post rfl htrig
    exact absurd (isStart_of_isTriggered htrig) (ht e (by simp))

/-- A trace without started PRs opens nothing. -/
theorem not_open_of_noStart {n : UInt32} {t : List Event} (ht : ∀ e ∈ t, ¬ IsStart e) :
    ¬ Open (IsTriggered n) (IsRemoved n) t := by
  rintro ⟨pre, e, post, rfl, htrig, -⟩
  exact ht e (by simp) (isStart_of_isTriggered htrig)

/-- The invariant of a run: coherence, a build still open belongs to a tracked PR, and mutual
exclusion so far. -/
structure ExclusionInv (w : World) (tr : List Event) : Prop where
  coherent : Coherent w
  openTracked : ∀ n, Open (IsTriggered n) (IsRemoved n) tr →
    ∃ i, w.shared.instances.lookup n = some i
  exclusion : MutualExclusion tr

theorem ExclusionInv.not_open {w : World} {tr : List Event} (h : ExclusionInv w tr) {n : UInt32}
    (hn : w.shared.instances.lookup n = none) : ¬ Open (IsTriggered n) (IsRemoved n) tr := by
  intro hopen
  obtain ⟨i, hi⟩ := h.openTracked n hopen
  rw [hn] at hi
  cases hi

/-- Appending events that start and remove nothing. -/
theorem ExclusionInv.quiet {w w' : World} {tr t : List Event} (h : ExclusionInv w tr)
    (hcoh : Coherent w') (hsame : w'.shared.instances = w.shared.instances)
    (ht : ∀ e ∈ t, ¬ IsStart e) : ExclusionInv w' (tr ++ t) where
  coherent := hcoh
  openTracked := by
    intro n hopen
    rw [hsame]
    rcases open_append_iff.1 hopen with ⟨hopen, -⟩ | hopen
    · exact h.openTracked n hopen
    · exact absurd hopen (not_open_of_noStart ht)
  exclusion := h.exclusion.append_of_noStart ht

/-- Inserting an untracked PR. -/
theorem ExclusionInv.insert {w w' : World} {tr t : List Event} {n : UInt32} {i : PrInstance}
    (h : ExclusionInv w tr) (hcoh : Coherent w')
    (hins : w'.shared.instances = w.shared.instances.insert n i)
    (hexcl : MutualExclusion (tr ++ t))
    (hother : ∀ k, k ≠ n → ¬ Open (IsTriggered k) (IsRemoved k) t) :
    ExclusionInv w' (tr ++ t) where
  coherent := hcoh
  openTracked := by
    intro k hopen
    by_cases hk : k = n
    · subst hk
      exact ⟨i, by rw [hins, AList.lookup_insert]⟩
    · rw [hins, AList.lookup_insert_ne hk]
      rcases open_append_iff.1 hopen with ⟨hopen, -⟩ | hopen
      · exact h.openTracked k hopen
      · exact absurd hopen (hother k hk)
  exclusion := hexcl

theorem exclusionInv_start {setup : Setup} {w w' : World} {tr t : List Event} {id : Nat}
    {label : StartLabel} (h : ExclusionInv w tr) (hno : NoOverlap w (.start id label))
    (hstep : step setup w (.start id label) = some (w', t)) : ExclusionInv w' (tr ++ t) := by
  have hcoh := coherent_step h.coherent hno hstep
  obtain ⟨o, ho, rfl, rfl⟩ := step_start_iff.1 hstep
  -- the PR of a call in flight is not tracked
  have hfree : ∀ n, (w.calls id).pending = some n → w.shared.instances.lookup n = none :=
    fun n hn => h.coherent.untracked id n hn
  have hs := StartPr.stepped_of_step ho
  generalize w.calls id = call at hs hfree
  cases hs with
  | bailed error => exact h.quiet hcoh rfl (by simp [StartPr.bail, IsStart])
  | begun n huntracked => exact h.quiet hcoh rfl (by simp)
  | registryChecked n habsent => exact h.quiet hcoh rfl (by simp [IsStart])
  | commitReceived n answer commitHash commitHashShort hcommit =>
      exact h.quiet hcoh rfl (by simp)
  | buildsQueried n commitHash commitHashShort => exact h.quiet hcoh rfl (by simp)
  | missed n commitHash commitHashShort => exact h.quiet hcoh rfl (by simp [IsStart])
  | cached n commitHash commitHashShort =>
      have hnone := hfree n rfl
      refine h.insert hcoh rfl (h.exclusion.append ?_ ?_) ?_
      · intro m old hmem
        simp only [StartPr.deployCached, List.mem_cons, reduceCtorEq, Event.inserted.injEq,
          List.not_mem_nil, or_false, false_or] at hmem
        rw [hmem.2, hnone]
      · intro m
        simp [StartPr.deployCached, justified_cons_iff, IsTriggered]
      · -- a cached deployment triggers no build
        rintro k - ⟨pre, e, post, heq, htrig, -⟩
        have hmem : e ∈ (StartPr.deployCached w.shared id n commitHash commitHashShort).events := by
          rw [heq]
          simp
        simp only [StartPr.deployCached, List.mem_cons, List.not_mem_nil, or_false] at hmem
        rcases hmem with rfl | rfl | rfl <;> exact htrig
  | queued n commitHash commitHashShort queueUrl answer now =>
      have hnone := hfree n rfl
      refine h.insert hcoh rfl (h.exclusion.append ?_ ?_) ?_
      · intro m old hmem
        simp only [StartPr.trackBuild, List.mem_cons, reduceCtorEq, Event.inserted.injEq,
          List.not_mem_nil, or_false, false_or] at hmem
        rw [hmem.2, hnone]
      · intro m
        simp only [StartPr.trackBuild, justified_cons_iff, IsTriggered, List.append_nil,
          false_implies, justified_nil, and_self, and_true]
        -- the triggered build is the call's own; an open one would belong to a tracked PR
        rintro rfl
        exact h.not_open hnone
      · rintro k hk ⟨pre, e, post, heq, htrig, -⟩
        have hmem : e ∈
            (StartPr.trackBuild w.shared id n commitHash commitHashShort queueUrl now).events := by
          rw [heq]
          simp
        simp only [StartPr.trackBuild, List.mem_cons, List.not_mem_nil, or_false] at hmem
        rcases hmem with rfl | rfl | rfl | rfl
        · exact hk htrig.symm
        · exact htrig
        · exact htrig
        · exact htrig

/-- A piece of a handler: a build still open after it was open before and its PR was not
removed. -/
theorem exclusionInv_handler {w w' : World} {tr : List Event} {n : UInt32} {o : Outcome}
    (h : ExclusionInv w tr) (hcoh : Coherent w') (heff : InstanceEffect w.shared n o)
    (hsh : w'.shared = o.shared) : ExclusionInv w' (tr ++ o.events) where
  coherent := hcoh
  openTracked := by
    intro k hopen
    rcases open_append_iff.1 hopen with ⟨hopen, hkeep⟩ | hopen
    · obtain ⟨i, hi⟩ := h.openTracked k hopen
      cases hk : o.shared.instances.lookup k with
      | some j => exact ⟨j, by rw [hsh, hk]⟩
      | none =>
          -- the removal is among the events, and would have closed the build
          obtain ⟨e, he, hrem⟩ := heff.exists_removed hi hk
          exact absurd hrem (hkeep e he)
    · exact absurd hopen (not_open_of_noStart heff.noStart)
  exclusion := h.exclusion.append_of_noStart heff.noStart

theorem exclusionInv_step {setup : Setup} {w w' : World} {tr t : List Event} {label : Label}
    (h : ExclusionInv w tr) (hno : NoOverlap w label)
    (hstep : step setup w label = some (w', t)) : ExclusionInv w' (tr ++ t) := by
  have hcoh := coherent_step h.coherent hno hstep
  cases label with
  | start id label => exact exclusionInv_start h hno hstep
  | tick snapshot =>
      obtain ⟨-, -, rfl, rfl⟩ := step_tick_iff.1 hstep
      exact h.quiet hcoh rfl (by simp)
  | advance now =>
      rcases step_advance_iff.1 hstep with ⟨-, rfl, rfl⟩ | ⟨n, i, rest, -, rfl, rfl⟩
      · exact h.quiet hcoh rfl (by simp)
      · have hdispatched := dispatched_dispatch setup w.shared n i now
        exact exclusionInv_handler h hcoh (instanceEffect_of_dispatched hdispatched) rfl
  | resume answer =>
      obtain ⟨n, pc, rest, o, -, ho, rfl, rfl⟩ := step_resume_iff.1 hstep
      exact exclusionInv_handler h hcoh (instanceEffect_of_resumed (resumed_of_resume ho)) rfl

/-- In every run in which a call passes the check of `has_instance` only while no other call of
its PR is in flight, starts of one PR exclude each other. -/
theorem mutualExclusion_of_noOverlap (setup : Setup) (w w' : World) (labels : List Label)
    (tr : List Event) (hfresh : Fresh w) (hno : (system setup).Meets NoOverlap w labels)
    (hrun : (system setup).exec w labels = some (w', tr)) : MutualExclusion tr := by
  have h0 : ExclusionInv w [] :=
    ⟨coherent_of_fresh hfresh, fun n hopen => absurd hopen not_open_nil, mutualExclusion_nil⟩
  have hinv := System.exec_invariant (system setup)
    (fun s tr i s' t h hi hs => exclusionInv_step h hi hs) h0 hno hrun
  exact hinv.exclusion

/-- PR 7 as its call inserts it. -/
def queuedSeven : PrInstance := .newBuilding 7 "0123456789abcdef" "0123456" "q/1/" ⟨0⟩

/-- PR 8 as its call inserts it. -/
def queuedEight : PrInstance := .newBuilding 8 "fedcba9876543210" "fedcba9" "q/2/" ⟨0⟩

/-- The builds of PR 7 and PR 8 are triggered by two interleaved calls, and another call of PR 7 is
refused. The build of PR 7 fails, the next tick forgets it, and a third call triggers a build of it
again. -/
def restartedSample : List Label :=
  [.start 0 (.call 7), .start 1 (.call 8)] ++ (sampleChecks 0 7 "0123456789abcdef").tail ++
    (sampleChecks 1 8 "fedcba9876543210").tail ++
    [sampleTrigger 0 "q/1/", sampleTrigger 1 "q/2/", .start 2 (.call 7),
      .tick [(7, queuedSeven), (8, queuedEight)], .advance ⟨0⟩,
      .resume (.queueItem (.ok (some "b/1/"))),
      .resume (.build (.ok ⟨some false, some "FAILURE"⟩)), .advance ⟨0⟩,
      .resume (.queueItem .failed), .advance ⟨0⟩,
      .tick [(7, { queuedSeven with state := .failed "FAILURE" }), (8, queuedEight)],
      .advance ⟨0⟩] ++
    sampleChecks 3 7 "0123456789abcdef" ++ [sampleTrigger 3 "q/3/"]

/-- What happens to the PRs and the calls in this run. -/
def restartedEffects : List Event :=
  [.triggered 7 "0123456" "q/1/", .inserted 7 none, .returned 0 none,
    .triggered 8 "fedcba9" "q/2/", .inserted 8 none, .returned 1 none,
    .returned 2 (some "PR #7 is already being built or running"),
    .removed 7 (some { queuedSeven with state := .failed "FAILURE" }),
    .triggered 7 "0123456" "q/3/", .inserted 7 none, .returned 3 none]

/-- The event tells what happens to a PR or a call. -/
def isEffect : Event → Bool
  | .triggered _ _ _ => true
  | .inserted _ _ => true
  | .removed _ _ => true
  | .returned _ _ => true
  | _ => false

/-- PR 7 is built twice, and was forgotten in between. -/
theorem mutualExclusion_restartedSample :
    ∃ w' tr, (system sampleSetup).exec sampleWorld restartedSample = some (w', tr) ∧
      tr.filter isEffect = restartedEffects ∧ MutualExclusion tr := by
  have heffects : ((system sampleSetup).exec sampleWorld restartedSample).map
      (fun result => result.2.filter isEffect) = some restartedEffects := by decide +kernel
  obtain ⟨⟨w', tr⟩, hrun, htr⟩ := Option.map_eq_some_iff.1 heffects
  have hno : (system sampleSetup).Meets NoOverlap sampleWorld restartedSample :=
    noOverlap_of_apartBelow (k := 4) (fun _ _ => rfl) (by decide +kernel)
  exact ⟨w', tr, hrun, htr, mutualExclusion_of_noOverlap sampleSetup sampleWorld w' _ tr
    fresh_sampleWorld hno hrun⟩

/-- Two calls of PR 7 that are both past the check before either inserts. -/
def overlappingStarts : List Label :=
  [.start 0 (.call 7), .start 1 (.call 7)] ++ (sampleChecks 0 7 "0123456789abcdef").tail ++
    (sampleChecks 1 7 "fedcba9876543210").tail ++
    [sampleTrigger 0 "q/1/", sampleTrigger 1 "q/2/"]

/-- Overlapping calls overwrite the instance of their PR. -/
theorem overlapping_starts_overwrite :
    ¬ ∀ (setup : Setup) (w w' : World) (labels : List Label) (tr : List Event), Fresh w →
      (system setup).exec w labels = some (w', tr) → MutualExclusion tr := by
  intro hall
  have hold : ((system sampleSetup).exec sampleWorld overlappingStarts).map
      (fun p => decide (Event.inserted 7 (some (PrInstance.newBuilding 7 "0123456789abcdef"
        "0123456" "q/1/" ⟨0⟩)) ∈ p.2)) = some true := by rfl
  cases hrun : (system sampleSetup).exec sampleWorld overlappingStarts with
  | none => simp [hrun] at hold
  | some p =>
      rcases p with ⟨w', tr⟩
      simp only [hrun, Option.map_some, Option.some.injEq, decide_eq_true_eq] at hold
      have hexcl := hall sampleSetup sampleWorld w' overlappingStarts tr fresh_sampleWorld hrun
      cases hexcl.neverOverwrites 7 _ hold

end SteelProxy.Lifecycle
