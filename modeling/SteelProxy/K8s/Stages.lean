import SteelProxy.Library.Simulation
import SteelProxy.K8s.Coherence

/-!
# The stages of a PR

What the lifecycle is for, without the data of the states: a PR is started in `Building`, or in
`Deploying` when its image exists, goes on along the arrows of `Stage.Next`, and is forgotten in
`ShuttingDown` or `Failed`. The lifecycle loop with non-overlapping `start_pr` calls refines this
picture: every step moves at most one PR, along one arrow, starts come from calls and all other
moves from the loop (`legal_moves`), and a PR that is not forgotten keeps its commit and never goes
back (`never_goes_back`).
-/

set_option autoImplicit false

namespace SteelProxy

open SteelProxy.Library SteelProxy.Library.Transition

/-! ## The picture -/

/-- What a PR is tracked in, without the data of the state. -/
inductive Stage where
  | building
  | deploying
  | starting
  | ready
  | shuttingDown
  | failed
  deriving DecidableEq, Repr

namespace Stage

/-- The arrows between the stages. -/
inductive Next : Stage → Stage → Prop where
  | built : Next building deploying
  | buildFailed : Next building failed
  | deployed : Next deploying starting
  | deploymentFailed : Next deploying failed
  | started : Next starting ready
  | startTimedOut : Next starting shuttingDown
  | expired : Next ready shuttingDown

/-- The stages in which a PR is started. -/
inductive Initial : Stage → Prop where
  | building : Initial building
  | deploying : Initial deploying

/-- The stages in which a PR is forgotten. -/
inductive Final : Stage → Prop where
  | shuttingDown : Final shuttingDown
  | failed : Final failed

/-- The distance from the start. -/
def rank : Stage → Nat
  | building => 0
  | deploying => 1
  | starting => 2
  | ready => 3
  | shuttingDown => 4
  | failed => 4

theorem Next.rank_lt {s s' : Stage} (h : Next s s') : s.rank < s'.rank := by
  cases h <;> decide

theorem rank_le_of_reflTransGen {s s' : Stage} (h : Relation.ReflTransGen Next s s') :
    s.rank ≤ s'.rank := by
  induction h with
  | refl => exact Nat.le_refl _
  | tail _ hnext ih => exact Nat.le_trans ih (Nat.le_of_lt hnext.rank_lt)

end Stage

/-- A tracked PR: the commit it was started for, and its stage. -/
structure Tracking where
  commitHash : String
  commitHashShort : String
  stage : Stage
  deriving DecidableEq, Repr

namespace Tracking

/-- What one step makes of the tracking of a PR; `byCall` is a step of a `start_pr` call. -/
inductive Move (byCall : Bool) : Option Tracking → Option Tracking → Prop where
  | kept (tracking : Option Tracking) : Move byCall tracking tracking
  | started (tracking : Tracking) (hcall : byCall = true) (hstage : tracking.stage.Initial) :
      Move byCall none (some tracking)
  | advanced (tracking : Tracking) (stage : Stage) (hloop : byCall = false)
      (hnext : tracking.stage.Next stage) :
      Move byCall (some tracking) (some { tracking with stage := stage })
  | forgotten (tracking : Tracking) (hloop : byCall = false) (hstage : tracking.stage.Final) :
      Move byCall (some tracking) none

/-- Of all PRs at most one moves. -/
def OneMoves (byCall : Bool) (before after : UInt32 → Option Tracking) : Prop :=
  ∃ n, (∀ k, k ≠ n → after k = before k) ∧ Move byCall (before n) (after n)

theorem oneMoves_refl (byCall : Bool) (trackings : UInt32 → Option Tracking) :
    OneMoves byCall trackings trackings :=
  ⟨0, fun _ _ => rfl, .kept _⟩

/-- An arrow between trackings of one start. -/
def Onward (before after : Tracking) : Prop :=
  after = { before with stage := after.stage } ∧ before.stage.Next after.stage

theorem onward_reflTransGen {before after : Tracking}
    (h : Relation.ReflTransGen Onward before after) :
    after = { before with stage := after.stage } ∧
      Relation.ReflTransGen Stage.Next before.stage after.stage := by
  induction h with
  | refl => exact ⟨rfl, .refl⟩
  | @tail b c _ hnext ih =>
      obtain ⟨hcommit, hstages⟩ := ih
      refine ⟨?_, hstages.tail hnext.2⟩
      rw [hnext.1, hcommit]

/-- A PR that a step does not forget goes one arrow on, or stays. -/
theorem Move.onward {byCall : Bool} {before : Tracking} {after : Option Tracking}
    (h : Move byCall (some before) after) (hafter : after ≠ none) :
    ∃ tracking, after = some tracking ∧ Relation.ReflTransGen Onward before tracking := by
  cases h with
  | kept => exact ⟨before, rfl, .refl⟩
  | advanced _ stage hloop hnext => exact ⟨_, rfl, .single ⟨rfl, hnext⟩⟩
  | forgotten _ hloop hstage => exact absurd rfl hafter

end Tracking

namespace InstanceState

/-- The stage of a state. -/
def stage : InstanceState → Stage
  | .building _ _ => .building
  | .deploying _ => .deploying
  | .starting _ _ _ _ => .starting
  | .ready _ _ _ _ _ => .ready
  | .shuttingDown _ => .shuttingDown
  | .failed _ => .failed

end InstanceState

namespace PrInstance

/-- What the instance is tracked as. -/
def tracking (i : PrInstance) : Tracking := ⟨i.commitHash, i.commitHashShort, i.state.stage⟩

end PrInstance

/-- The stage of the instance that a handler is suspended for. -/
def HandlerPc.stage : HandlerPc → Stage
  | .buildUrl _ _ => .building
  | .buildStatus _ _ _ => .building
  | .deleteDeployment _ => .deploying
  | .settle _ => .deploying
  | .createDeployment _ => .deploying
  | .deleteService => .deploying
  | .createService => .deploying
  | .checkReady _ _ _ _ _ => .starting
  | .register _ _ _ _ _ => .starting
  | .persist _ _ => .ready
  | .unregister _ => .ready
  | .tearDownDeployment => .shuttingDown
  | .tearDownService => .shuttingDown

/-- The step is one of a `start_pr` call. -/
def Label.byCall : Label → Bool
  | .start _ _ => true
  | _ => false

namespace Lifecycle

/-- What the PRs are tracked as. -/
def trackings (sh : Shared) (n : UInt32) : Option Tracking :=
  (sh.instances.lookup n).map PrInstance.tracking

theorem stage_of_pcMatches {i : PrInstance} {pc : HandlerPc} (h : PcMatches i pc) :
    i.state.stage = pc.stage := by
  cases pc with
  | buildUrl commitHashShort queueUrl => obtain ⟨-, t, hstate⟩ := h; rw [hstate]; rfl
  | buildStatus commitHashShort queueUrl buildUrl => obtain ⟨-, t, hstate⟩ := h; rw [hstate]; rfl
  | deleteDeployment imageTag => rw [show i.state = _ from h]; rfl
  | settle imageTag => rw [show i.state = _ from h]; rfl
  | createDeployment imageTag => rw [show i.state = _ from h]; rfl
  | deleteService => obtain ⟨imageTag, hstate⟩ := h; rw [hstate]; rfl
  | createService => obtain ⟨imageTag, hstate⟩ := h; rw [hstate]; rfl
  | checkReady commitHash commitHashShort deploymentName address port =>
      obtain ⟨-, -, t, hstate⟩ := h
      rw [hstate]
      rfl
  | register commitHash commitHashShort deploymentName address port =>
      obtain ⟨-, -, t, hstate⟩ := h
      rw [hstate]
      rfl
  | persist commitHash commitHashShort =>
      obtain ⟨-, -, deploymentName, address, port, readyAt, shutdownAt, hstate⟩ := h
      rw [hstate]
      rfl
  | unregister deploymentName =>
      obtain ⟨address, port, readyAt, shutdownAt, hstate⟩ := h
      rw [hstate]
      rfl
  | tearDownDeployment => obtain ⟨deploymentName, hstate⟩ := h; rw [hstate]; rfl
  | tearDownService => obtain ⟨deploymentName, hstate⟩ := h; rw [hstate]; rfl

/-! ## Pieces of a handler -/

/-- What a piece of the handler of PR `n` does to an instance in `stage`. -/
inductive StageEffect (sh : Shared) (n : UInt32) (stage : Stage) (o : Outcome) : Prop where
  | kept (hinst : o.shared.instances = sh.instances)
  | advanced (state : InstanceState)
      (hinst : o.shared.instances = K8sManager.updateInstanceState sh.instances n state)
      (hnext : stage.Next state.stage)
  | forgotten (hfinal : stage.Final)
      (hinst : o.shared.instances = K8sManager.removeInstance sh.instances n)

section StageEffect

variable {setup : Setup} {sh : Shared} {n : UInt32} {i : PrInstance} {o : Outcome}

theorem stageEffect_of_dispatched {now : Instant} (h : Dispatched setup sh n i now o) :
    StageEffect sh n i.state.stage o := by
  cases h with
  | buildTimedOut startedAt queueUrl message hstate hlate =>
      rw [hstate]
      exact .advanced _ rfl .buildFailed
  | startTimedOut deploymentName address port startedAt message hstate hlate =>
      rw [hstate]
      exact .advanced _ rfl .startTimedOut
  | failed reason hstate =>
      rw [hstate]
      exact .forgotten .failed rfl
  | _ => exact .kept rfl

theorem stageEffect_of_resumed {pc : HandlerPc} {answer : Answer}
    (h : Resumed setup sh n pc answer o) : StageEffect sh n pc.stage o := by
  cases h with
  | buildUrl commitHashShort queueUrl answer =>
      simp only [handleBuildingUrl]
      split <;> exact .kept rfl
  | buildStatus commitHashShort queueUrl buildUrl answer =>
      simp only [handleBuildingStatus]
      split
      · exact .advanced _ rfl .built
      · exact .advanced _ rfl .buildFailed
      · exact .kept rfl
      · exact .kept rfl
      · exact .advanced _ rfl .buildFailed
      · exact .kept rfl
  | noDeploymentClient imageTag hclient => exact .advanced _ rfl .deploymentFailed
  | deploymentDeleted imageTag answer =>
      cases answer with
      | ok u => exact .kept (by simp [createDeploymentDeleted])
      | error e => exact .kept (by simp [createDeploymentDeleted])
  | settled imageTag => exact .kept rfl
  | deploymentCreated imageTag answer =>
      cases answer with
      | ok u => exact .kept rfl
      | error e => exact .advanced _ rfl .deploymentFailed
  | noServiceClient hclient => exact .advanced _ rfl .deploymentFailed
  | serviceDeleted answer => exact .kept (by simp [createServiceDeleted])
  | serviceCreated answer now =>
      simp only [createServiceCreated]
      cases answer with
      | error e => exact .advanced _ rfl .deploymentFailed
      | ok svc =>
          cases hport : svc.firstNodePort with
          | none =>
              simp only [hport]
              exact .advanced _ rfl .deploymentFailed
          | some nodePort =>
              simp only [hport]
              exact .advanced _ rfl .deployed
  | noReadinessClient commitHash commitHashShort deploymentName address port hclient =>
      simp only [handleStartingChecked]
      split <;> exact .kept rfl
  | readinessChecked commitHash commitHashShort deploymentName address port answer =>
      simp only [handleStartingChecked]
      split <;> exact .kept rfl
  | registered commitHash commitHashShort deploymentName address port now readyAt =>
      simp only [handleStartingRegistered]
      split
      · exact .kept rfl
      · exact .advanced _ rfl .started
  | persisted commitHash commitHashShort answer =>
      simp only [handleStartingPersisted]
      cases answer with
      | ok now => exact .kept rfl
      | error e => exact .kept rfl
  | unregistered deploymentName now readyAt => exact .advanced _ rfl .expired
  | noTearDownClient hclient => exact .forgotten .shuttingDown rfl
  | deploymentTornDown answer =>
      simp only [deleteInstanceDeployment]
      cases answer with
      | ok u => exact .kept (by simp)
      | error e =>
          dsimp only
          split
          · exact .kept (by simp)
          · exact .forgotten .shuttingDown (by simp [cleanUpFailed, untracked, Shared.untrack])
  | serviceTornDown answer =>
      simp only [deleteInstanceService]
      cases answer with
      | ok u => exact .forgotten .shuttingDown (by simp [untracked, Shared.untrack])
      | error e =>
          dsimp only
          split
          · exact .forgotten .shuttingDown (by simp [untracked, Shared.untrack])
          · exact .forgotten .shuttingDown (by simp [cleanUpFailed, untracked, Shared.untrack])

/-- A piece of the handler of PR `n` moves `n`. -/
theorem StageEffect.oneMoves (hi : sh.instances.lookup n = some i)
    (h : StageEffect sh n i.state.stage o) :
    Tracking.OneMoves false (trackings sh) (trackings o.shared) := by
  have hbefore : trackings sh n = some i.tracking := by rw [trackings, hi, Option.map_some]
  cases h with
  | kept hinst =>
      have hsame : trackings o.shared = trackings sh := by
        funext k
        rw [trackings, trackings, hinst]
      rw [hsame]
      exact Tracking.oneMoves_refl false _
  | advanced state hinst hnext =>
      refine ⟨n, ?_, ?_⟩
      · intro k hk
        rw [trackings, trackings, hinst, K8sManager.lookup_updateInstanceState, if_neg hk]
      · rw [hbefore, trackings, hinst, K8sManager.lookup_updateInstanceState, if_pos rfl, hi]
        exact .advanced i.tracking state.stage rfl hnext
  | forgotten hfinal hinst =>
      refine ⟨n, ?_, ?_⟩
      · intro k hk
        rw [trackings, trackings, hinst, K8sManager.lookup_removeInstance, if_neg hk]
      · rw [hbefore, trackings, hinst, K8sManager.lookup_removeInstance, if_pos rfl]
        exact .forgotten i.tracking rfl hfinal

end StageEffect

/-! ## Steps -/

/-- What a piece of a call inserts is in an initial stage. -/
theorem stepped_initial {setup : Setup} {sh : Shared} {id : Nat} {call : StartCall}
    {label : StartLabel} {o : StartPr.Outcome} (h : StartPr.Stepped setup sh id call label o) :
    o.shared.instances = sh.instances ∨
      ∃ n i, call.pending = some n ∧ o.shared.instances = sh.instances.insert n i ∧
        i.state.stage.Initial := by
  cases h with
  | bailed error => exact Or.inl rfl
  | begun n huntracked => exact Or.inl rfl
  | registryChecked n habsent => exact Or.inl rfl
  | commitReceived n answer commitHash commitHashShort hcommit => exact Or.inl rfl
  | buildsQueried n commitHash commitHashShort => exact Or.inl rfl
  | cached n commitHash commitHashShort => exact Or.inr ⟨n, _, rfl, rfl, .deploying⟩
  | missed n commitHash commitHashShort => exact Or.inl rfl
  | queued n commitHash commitHashShort queueUrl answer now =>
      exact Or.inr ⟨n, _, rfl, rfl, .building⟩

section Steps

variable {setup : Setup} {w w' : World} {label : Label} {t : List Event}

theorem oneMoves_step (hcoh : Coherent w) (hstep : step setup w label = some (w', t)) :
    Tracking.OneMoves label.byCall (trackings w.shared) (trackings w'.shared) := by
  cases label with
  | start id label =>
      obtain ⟨o, ho, rfl, rfl⟩ := step_start_iff.1 hstep
      rcases stepped_initial (StartPr.stepped_of_step ho) with hinst | ⟨n, i, hn, hinst, hstage⟩
      · have hsame : trackings o.shared = trackings w.shared := by
          funext k
          rw [trackings, trackings, hinst]
        rw [hsame]
        exact Tracking.oneMoves_refl true _
      · -- the PR of a call in flight is not tracked, so the insertion is a start
        have hnone := hcoh.untracked id n hn
        refine ⟨n, ?_, ?_⟩
        · intro k hk
          simp only [trackings, hinst, AList.lookup_insert_ne hk]
        · simp only [trackings, hnone, hinst, AList.lookup_insert]
          exact .started i.tracking rfl hstage
  | tick snapshot =>
      obtain ⟨-, -, rfl, rfl⟩ := step_tick_iff.1 hstep
      exact Tracking.oneMoves_refl false _
  | advance now =>
      rcases step_advance_iff.1 hstep with ⟨-, rfl, rfl⟩ | ⟨n, i, rest, hloop, rfl, rfl⟩
      · exact Tracking.oneMoves_refl false _
      · have hdispatched := dispatched_dispatch setup w.shared n i now
        exact (stageEffect_of_dispatched hdispatched).oneMoves (hcoh.lookup_next hloop)
  | resume answer =>
      obtain ⟨n, pc, rest, o, hloop, ho, rfl, rfl⟩ := step_resume_iff.1 hstep
      obtain ⟨i, hi, hpc⟩ := hcoh.lookup_running hloop
      have heff := stageEffect_of_resumed (resumed_of_resume ho)
      rw [← stage_of_pcMatches hpc] at heff
      exact heff.oneMoves hi

/-- A step that forgets a PR says so in its events. -/
theorem exists_removed_of_forgotten (hcoh : Coherent w)
    (hstep : step setup w label = some (w', t)) {n : UInt32} {i : PrInstance}
    (hi : w.shared.instances.lookup n = some i) (hnone : w'.shared.instances.lookup n = none) :
    ∃ e ∈ t, IsRemoved n e := by
  cases label with
  | start id label =>
      obtain ⟨o, ho, rfl, rfl⟩ := step_start_iff.1 hstep
      rcases stepped_instances (StartPr.stepped_of_step ho) with hinst | ⟨m, j, hm, -, hinst⟩
      · rw [hinst, hi] at hnone
        cases hnone
      · have hne : n ≠ m := by
          rintro rfl
          rw [hcoh.untracked id n hm] at hi
          cases hi
        rw [hinst, AList.lookup_insert_ne hne, hi] at hnone
        cases hnone
  | tick snapshot =>
      obtain ⟨-, -, rfl, rfl⟩ := step_tick_iff.1 hstep
      rw [hi] at hnone
      cases hnone
  | advance now =>
      rcases step_advance_iff.1 hstep with ⟨-, rfl, rfl⟩ | ⟨m, j, rest, hloop, rfl, rfl⟩
      · rw [hi] at hnone
        cases hnone
      · have heff := instanceEffect_of_dispatched (dispatched_dispatch setup w.shared m j now)
        exact heff.exists_removed hi hnone
  | resume answer =>
      obtain ⟨m, pc, rest, o, hloop, ho, rfl, rfl⟩ := step_resume_iff.1 hstep
      have heff := instanceEffect_of_resumed (resumed_of_resume ho)
      exact heff.exists_removed hi hnone

/-- A step keeps a PR whose removal is not among its events, and takes it at most one arrow on. -/
theorem onward_step (hcoh : Coherent w) (hstep : step setup w label = some (w', t)) {n : UInt32}
    (hkept : ∀ e ∈ t, ¬ IsRemoved n e) {tracking : Tracking}
    (hbefore : trackings w.shared n = some tracking) :
    ∃ tracking', trackings w'.shared n = some tracking' ∧
      Relation.ReflTransGen Tracking.Onward tracking tracking' := by
  have hafter : trackings w'.shared n ≠ none := by
    intro hnone
    rw [trackings, Option.map_eq_none_iff] at hnone
    rw [trackings, Option.map_eq_some_iff] at hbefore
    obtain ⟨i, hi, -⟩ := hbefore
    obtain ⟨e, he, hremoved⟩ := exists_removed_of_forgotten hcoh hstep hi hnone
    exact hkept e he hremoved
  obtain ⟨m, hother, hmove⟩ := oneMoves_step hcoh hstep
  by_cases hnm : n = m
  · rw [← hnm, hbefore] at hmove
    exact hmove.onward hafter
  · exact ⟨tracking, by rw [hother n hnm, hbefore], .refl⟩

end Steps

/-! ## Runs -/

/-- In every state reached from the start of the loop by steps in which calls of one PR do not
overlap, a step moves at most one PR and only along the arrows: calls start PRs that are not
tracked, and the loop takes tracked ones on or forgets them at the end. -/
theorem legal_moves (setup : Setup) (w w' w'' : World) (labels : List Label) (tr : List Event)
    (label : Label) (t : List Event) (hfresh : Fresh w)
    (hmeets : (system setup).Meets NoOverlap w labels)
    (hrun : (system setup).exec w labels = some (w', tr))
    (hstep : step setup w' label = some (w'', t)) :
    Tracking.OneMoves label.byCall (trackings w'.shared) (trackings w''.shared) := by
  have hcoh : Coherent w' := System.exec_state_invariant (system setup) Coherent
    (fun _ _ _ _ h hi hs => coherent_step h hi hs) (coherent_of_fresh hfresh) hmeets hrun
  exact oneMoves_step hcoh hstep

/-- PR 7 in `Building`. -/
def buildingSample : PrInstance := .newBuilding 7 "0123456789abcdef" "0123456" "q/1/" ⟨0⟩

/-- The loop with PR 7 in `Building`. -/
def buildingWorld : World :=
  started { sampleWorld.shared with instances := AList.insert 7 buildingSample ∅ }

theorem fresh_buildingWorld : Fresh buildingWorld := fresh_started _

/-- The loop takes PR 7 and Jenkins starts its build. -/
def pollSample : List Label :=
  [.tick [(7, buildingSample)], .advance ⟨0⟩, .resume (.queueItem (.ok (some "b/1/")))]

theorem meets_pollSample (labels : List Label) (h : ∀ s, ∀ l ∈ labels, NoOverlap s l) :
    (system sampleSetup).Meets NoOverlap buildingWorld (pollSample ++ labels) := by
  refine (system sampleSetup).meets_of_forall ?_ buildingWorld
  intro s l hl
  rcases List.mem_append.1 hl with hl | hl
  · simp only [pollSample, List.mem_cons, List.not_mem_nil, or_false] at hl
    rcases hl with rfl | rfl | rfl <;> trivial
  · exact h s l hl

/-- The loop waits for the status of the build. -/
def polledWorld : World :=
  { buildingWorld with loop := .running 7 (.buildStatus "0123456" "q/1/" "b/1/") [] }

theorem exec_pollSample :
    (system sampleSetup).exec buildingWorld pollSample = some (polledWorld, []) := rfl

/-- Jenkins reports a success. -/
def builtLabel : Label := .resume (.build (.ok ⟨some false, some "SUCCESS"⟩))

/-- PR 7 is to be deployed. -/
def builtWorld : World :=
  { buildingWorld with
    shared := buildingWorld.shared.setState 7 (.deploying "pr-7-0123456"), loop := .next [] }

theorem step_builtLabel :
    (system sampleSetup).step polledWorld builtLabel =
      some (builtWorld, [.buildReported 7 "q/1/" "b/1/" .success,
        .broadcast "§a[Proxy] PR #7 build completed! Deploying..."]) := rfl

/-- The last step of a poll takes PR 7 from `Building` to `Deploying`. -/
theorem legal_moves_built :
    Tracking.OneMoves false (trackings polledWorld.shared) (trackings builtWorld.shared) := by
  have hmeets : (system sampleSetup).Meets NoOverlap buildingWorld pollSample := by
    have happend := meets_pollSample [] (by simp)
    rwa [List.append_nil] at happend
  exact legal_moves sampleSetup buildingWorld polledWorld builtWorld pollSample [] builtLabel _
    fresh_buildingWorld hmeets exec_pollSample step_builtLabel

/-- A PR that is tracked in a reached state, and not removed from there on, stays tracked for the
same commit, and only ever goes on along the arrows. -/
theorem never_goes_back (setup : Setup) (w w₁ w₂ : World) (labels labels' : List Label)
    (tr tr' : List Event) (n : UInt32) (tracking : Tracking) (hfresh : Fresh w)
    (hmeets : (system setup).Meets NoOverlap w (labels ++ labels'))
    (hrun : (system setup).exec w labels = some (w₁, tr))
    (hrun' : (system setup).exec w₁ labels' = some (w₂, tr'))
    (htracked : trackings w₁.shared n = some tracking) (hkept : ∀ e ∈ tr', ¬ IsRemoved n e) :
    ∃ stage, trackings w₂.shared n = some { tracking with stage := stage } ∧
      Relation.ReflTransGen Stage.Next tracking.stage stage ∧
      tracking.stage.rank ≤ stage.rank := by
  obtain ⟨hmeets₁, hmeets₂⟩ := ((system setup).meets_append_iff hrun).1 hmeets
  have hcoh : Coherent w₁ := System.exec_state_invariant (system setup) Coherent
    (fun _ _ _ _ h hi hs => coherent_step h hi hs) (coherent_of_fresh hfresh) hmeets₁ hrun
  -- as long as `n` is not removed, it is tracked onward of where it was
  have hinv : Coherent w₂ ∧ ((∀ e ∈ [] ++ tr', ¬ IsRemoved n e) →
      ∃ tracking', trackings w₂.shared n = some tracking' ∧
        Relation.ReflTransGen Tracking.Onward tracking tracking') := by
    refine @System.exec_invariant _ _ _ (system setup) NoOverlap
      (fun w tr => Coherent w ∧ ((∀ e ∈ tr, ¬ IsRemoved n e) →
        ∃ tracking', trackings w.shared n = some tracking' ∧
          Relation.ReflTransGen Tracking.Onward tracking tracking')) ?_ labels' w₁ w₂ [] tr'
      ⟨hcoh, fun _ => ⟨tracking, htracked, .refl⟩⟩ hmeets₂ hrun'
    rintro s tr label s' t ⟨hs, honward⟩ hno hstep
    refine ⟨coherent_step hs hno hstep, fun hall => ?_⟩
    obtain ⟨tracking₁, hbefore, hpath⟩ := honward fun e he => hall e (List.mem_append_left _ he)
    obtain ⟨tracking₂, hafter, hnext⟩ := onward_step hs hstep
      (fun e he => hall e (List.mem_append_right _ he)) hbefore
    exact ⟨tracking₂, hafter, hpath.trans hnext⟩
  obtain ⟨tracking', htracked', hpath⟩ := hinv.2 hkept
  obtain ⟨hcommit, hstages⟩ := Tracking.onward_reflTransGen hpath
  exact ⟨tracking'.stage, by rw [htracked', ← hcommit], hstages,
    Stage.rank_le_of_reflTransGen hstages⟩

/-- PR 7 goes on from `Building` when its build succeeds. -/
theorem never_goes_back_built :
    ∃ stage, trackings builtWorld.shared 7 = some ⟨"0123456789abcdef", "0123456", stage⟩ ∧
      Relation.ReflTransGen Stage.Next .building stage ∧ Stage.building.rank ≤ stage.rank := by
  have hmeets := meets_pollSample [builtLabel] (by simp [builtLabel, NoOverlap])
  have hrun := ((system sampleSetup).exec_singleton_iff).2 step_builtLabel
  exact never_goes_back sampleSetup buildingWorld polledWorld builtWorld pollSample [builtLabel] []
    _ 7 buildingSample.tracking fresh_buildingWorld hmeets exec_pollSample hrun rfl
    (by simp [IsRemoved])

end Lifecycle

end SteelProxy
