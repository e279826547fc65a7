import SteelProxy.K8s.Lifecycle

/-!
# What a piece of a handler does to the tracked instances

Every piece of the handler of PR `n` keeps the instance map, sets the state of `n`, or removes
`n` and records the removal (`InstanceEffect`); it never tracks a new PR. A handler suspended at
an `await` still finds the instance that it was started for, in the state it was started in or
moved to (`PcMatches`).
-/

set_option autoImplicit false

namespace SteelProxy.Lifecycle

open SteelProxy.Library

/-- Events of a started PR. -/
def IsStart : Event → Prop
  | .triggered _ _ _ => True
  | .inserted _ _ => True
  | _ => False

/-- A tracked instance of PR `n` was removed. -/
def IsRemoved (n : UInt32) : Event → Prop
  | .removed m (some _) => m = n
  | _ => False

/-- The instance map after a piece of the handler of PR `n`. -/
structure InstanceEffect (sh : Shared) (n : UInt32) (o : Outcome) : Prop where
  noStart : ∀ e ∈ o.events, ¬ IsStart e
  change : o.shared.instances = sh.instances ∨
    (∃ state, o.shared.instances = K8sManager.updateInstanceState sh.instances n state) ∨
    (o.shared.instances = K8sManager.removeInstance sh.instances n ∧ o.flow = .done ∧
      Event.removed n (sh.instances.lookup n) ∈ o.events)

section InstanceEffect

variable {sh sh' : Shared} {n : UInt32} {flow : Flow} {events : List Event}

/-- A piece that leaves the instance map alone. -/
theorem InstanceEffect.of_eq (hev : ∀ e ∈ events, ¬ IsStart e)
    (h : sh'.instances = sh.instances) : InstanceEffect sh n ⟨sh', flow, events⟩ :=
  ⟨hev, Or.inl h⟩

/-- A piece that updates the state of the instance. -/
theorem InstanceEffect.of_setState (hev : ∀ e ∈ events, ¬ IsStart e) {state : InstanceState}
    (h : sh'.instances = sh.instances) :
    InstanceEffect sh n ⟨sh'.setState n state, flow, events⟩ := by
  refine ⟨hev, Or.inr (Or.inl ⟨state, ?_⟩)⟩
  simp only [Shared.setState, h]

/-- A piece that ends by removing the instance. -/
theorem InstanceEffect.of_untracked (hev : ∀ e ∈ events, ¬ IsStart e)
    (h : sh'.instances = sh.instances) : InstanceEffect sh n (untracked sh' n events) := by
  constructor
  · intro e he
    rcases List.mem_append.1 he with he | he
    · exact hev e he
    · simp only [List.mem_singleton] at he
      subst he
      exact id
  · refine Or.inr (Or.inr ⟨?_, rfl, ?_⟩)
    · simp only [untracked, Shared.untrack, h]
    · simp [untracked, h]

variable {o : Outcome} (heff : InstanceEffect sh n o)

include heff

/-- The instances of other PRs are untouched. -/
theorem InstanceEffect.lookup_of_ne {k : UInt32} (hk : k ≠ n) :
    o.shared.instances.lookup k = sh.instances.lookup k := by
  rcases heff.change with h | ⟨state, h⟩ | ⟨h, -, -⟩
  · rw [h]
  · rw [h, K8sManager.lookup_updateInstanceState, if_neg hk]
  · rw [h, K8sManager.lookup_removeInstance, if_neg hk]

/-- No PR becomes tracked. -/
theorem InstanceEffect.lookup_eq_none {k : UInt32} (hk : sh.instances.lookup k = none) :
    o.shared.instances.lookup k = none := by
  rcases heff.change with h | ⟨state, h⟩ | ⟨h, -, -⟩
  · rw [h, hk]
  · have hsome := K8sManager.isSome_lookup_updateInstanceState sh.instances n k state
    rw [hk, ← h] at hsome
    simpa using hsome
  · rw [h, K8sManager.lookup_removeInstance, hk]
    simp

/-- The removal of a tracked instance is among the events. -/
theorem InstanceEffect.exists_removed {k : UInt32} {i : PrInstance}
    (hk : sh.instances.lookup k = some i) (hnone : o.shared.instances.lookup k = none) :
    ∃ e ∈ o.events, IsRemoved k e := by
  -- only the removal of `n` itself can make a tracked PR untracked
  rcases heff.change with h | ⟨state, h⟩ | ⟨h, -, hmem⟩
  · rw [h, hk] at hnone
    simp at hnone
  · have hsome := K8sManager.isSome_lookup_updateInstanceState sh.instances n k state
    rw [hk, ← h, hnone] at hsome
    simp at hsome
  · rw [h, K8sManager.lookup_removeInstance] at hnone
    by_cases hkn : k = n
    · subst hkn
      rw [hk] at hmem
      exact ⟨_, hmem, rfl⟩
    · rw [if_neg hkn, hk] at hnone
      simp at hnone

end InstanceEffect

@[simp]
theorem instances_withClient (sh : Shared) : sh.withClient.instances = sh.instances := rfl

section Handlers

variable {setup : Setup} {sh : Shared} {n : UInt32}

theorem instanceEffect_of_dispatched {i : PrInstance} {now : Instant} {o : Outcome}
    (h : Dispatched setup sh n i now o) : InstanceEffect sh n o := by
  cases h with
  | buildTimedOut startedAt queueUrl message hstate hlate =>
      exact .of_setState (by simp [IsStart]) rfl
  | notQueued startedAt hstate => exact .of_eq (by simp) rfl
  | building startedAt queueUrl hstate => exact .of_eq (by simp) rfl
  | deploying imageTag hstate => exact .of_eq (by simp) rfl
  | startTimedOut deploymentName address port startedAt message hstate hlate =>
      exact .of_setState (by simp [IsStart]) rfl
  | starting deploymentName address port startedAt hstate => exact .of_eq (by simp) rfl
  | expired deploymentName address port readyAt shutdownAt message hstate hlate =>
      exact .of_eq (by simp [IsStart]) rfl
  | ready deploymentName address port readyAt shutdownAt hstate => exact .of_eq (by simp) rfl
  | shuttingDown deploymentName hstate => exact .of_eq (by simp) rfl
  | failed reason hstate => exact .of_untracked (by simp) rfl

theorem instanceEffect_handleBuildingStatus (commitHashShort queueUrl buildUrl : String)
    (answer : HttpAnswer BuildJson) :
    InstanceEffect sh n (handleBuildingStatus sh n commitHashShort queueUrl buildUrl answer) := by
  unfold handleBuildingStatus
  cases JenkinsClient.getBuildStatus answer with
  | error e => exact .of_eq (by simp) rfl
  | ok status =>
      cases status with
      | success => exact .of_setState (by simp [IsStart]) rfl
      | failed reason => exact .of_setState (by simp [IsStart]) rfl
      | building => exact .of_eq (by simp [IsStart]) rfl
      | queued => exact .of_eq (by simp [IsStart]) rfl
      | notFound => exact .of_setState (by simp [IsStart]) rfl

theorem instanceEffect_handleStartingChecked (commitHash commitHashShort deploymentName
    address : String) (port : UInt16) (call : KubeCall Deployment) :
    InstanceEffect sh n (handleStartingChecked sh n commitHash commitHashShort deploymentName
      address port call) := by
  unfold handleStartingChecked
  cases K8sManager.isDeploymentReady call with
  | error e => exact .of_eq (by simp) rfl
  | ok ready =>
      cases ready with
      | true => exact .of_eq (by simp [IsStart]) rfl
      | false => exact .of_eq (by simp) rfl

theorem instanceEffect_of_resumed {pc : HandlerPc} {answer : Answer} {o : Outcome}
    (h : Resumed setup sh n pc answer o) : InstanceEffect sh n o := by
  cases h with
  | buildUrl commitHashShort queueUrl answer =>
      unfold handleBuildingUrl
      split <;> exact .of_eq (by simp) rfl
  | buildStatus commitHashShort queueUrl buildUrl answer =>
      exact instanceEffect_handleBuildingStatus commitHashShort queueUrl buildUrl answer
  | noDeploymentClient imageTag hclient => exact .of_setState (by simp [IsStart]) rfl
  | deploymentDeleted imageTag answer =>
      unfold createDeploymentDeleted
      cases answer with
      | ok u => exact .of_eq (by simp) (by simp)
      | error e => exact .of_eq (by simp) (by simp)
  | settled imageTag => exact .of_eq (by simp) rfl
  | deploymentCreated imageTag answer =>
      unfold createDeploymentCreated
      cases answer with
      | ok u => exact .of_eq (by simp [IsStart]) rfl
      | error e => exact .of_setState (by simp [IsStart]) rfl
  | noServiceClient hclient => exact .of_setState (by simp [IsStart]) rfl
  | serviceDeleted answer => exact .of_eq (by simp) (by simp)
  | serviceCreated answer now =>
      unfold createServiceCreated
      cases answer with
      | error e => exact .of_setState (by simp [IsStart]) rfl
      | ok svc =>
          dsimp only
          cases svc.firstNodePort with
          | none => exact .of_setState (by simp [IsStart]) rfl
          | some nodePort => exact .of_setState (by simp) rfl
  | noReadinessClient commitHash commitHashShort deploymentName address port hclient =>
      exact instanceEffect_handleStartingChecked _ _ _ _ _ _
  | readinessChecked commitHash commitHashShort deploymentName address port answer =>
      -- the client is initialised first; that does not touch the instance map
      have hchecked := @instanceEffect_handleStartingChecked sh.withClient n commitHash
        commitHashShort deploymentName address port (.answered answer)
      exact ⟨hchecked.noStart, hchecked.change⟩
  | registered commitHash commitHashShort deploymentName address port now readyAt =>
      unfold handleStartingRegistered
      dsimp only
      split
      · exact .of_eq (by simp) rfl
      · exact .of_setState (by simp) rfl
  | persisted commitHash commitHashShort answer =>
      unfold handleStartingPersisted
      cases answer with
      | ok now => exact .of_eq (by simp [IsStart]) rfl
      | error e => exact .of_eq (by simp [IsStart]) rfl
  | unregistered deploymentName now readyAt => exact .of_setState (by simp) rfl
  | noTearDownClient hclient => exact .of_untracked (by simp [IsStart]) rfl
  | deploymentTornDown answer =>
      unfold deleteInstanceDeployment
      cases answer with
      | ok u => exact .of_eq (by simp) (by simp)
      | error e =>
          dsimp only
          split
          · exact .of_eq (by simp) (by simp)
          · exact .of_untracked (by simp [IsStart]) (by simp)
  | serviceTornDown answer =>
      unfold deleteInstanceService
      cases answer with
      | ok u => exact .of_untracked (by simp) (by simp)
      | error e =>
          dsimp only
          split
          · exact .of_untracked (by simp) (by simp)
          · exact .of_untracked (by simp [IsStart]) (by simp)

end Handlers

/-! ## The instance of a suspended handler -/

/-- The instance that the handler suspended at a program counter works on. -/
def PcMatches (i : PrInstance) : HandlerPc → Prop
  | .buildUrl commitHashShort queueUrl =>
      i.commitHashShort = commitHashShort ∧ ∃ t, i.state = .building t (some queueUrl)
  | .buildStatus commitHashShort queueUrl _ =>
      i.commitHashShort = commitHashShort ∧ ∃ t, i.state = .building t (some queueUrl)
  | .deleteDeployment imageTag => i.state = .deploying imageTag
  | .settle imageTag => i.state = .deploying imageTag
  | .createDeployment imageTag => i.state = .deploying imageTag
  | .deleteService => ∃ imageTag, i.state = .deploying imageTag
  | .createService => ∃ imageTag, i.state = .deploying imageTag
  | .checkReady commitHash commitHashShort deploymentName address port =>
      i.commitHash = commitHash ∧ i.commitHashShort = commitHashShort ∧
        ∃ t, i.state = .starting deploymentName address port t
  | .register commitHash commitHashShort deploymentName address port =>
      i.commitHash = commitHash ∧ i.commitHashShort = commitHashShort ∧
        ∃ t, i.state = .starting deploymentName address port t
  | .persist commitHash commitHashShort =>
      i.commitHash = commitHash ∧ i.commitHashShort = commitHashShort ∧
        ∃ deploymentName address port readyAt shutdownAt,
          i.state = .ready deploymentName address port readyAt shutdownAt
  | .unregister deploymentName =>
      ∃ address port readyAt shutdownAt,
        i.state = .ready deploymentName address port readyAt shutdownAt
  | .tearDownDeployment => ∃ deploymentName, i.state = .shuttingDown deploymentName
  | .tearDownService => ∃ deploymentName, i.state = .shuttingDown deploymentName

/-- A piece that suspends the handler of PR `n` leaves an instance that matches. -/
def AwaitsMatching (n : UInt32) (o : Outcome) : Prop :=
  ∀ pc, o.flow = .await pc → ∃ i, o.shared.instances.lookup n = some i ∧ PcMatches i pc

section AwaitsMatching

variable {setup : Setup} {sh sh' : Shared} {n : UInt32} {events : List Event}

theorem AwaitsMatching.of_done : AwaitsMatching n ⟨sh, .done, events⟩ := by
  intro pc h
  cases h

theorem AwaitsMatching.of_panicked : AwaitsMatching n ⟨sh, .panicked, events⟩ := by
  intro pc h
  cases h

theorem AwaitsMatching.of_await {pc : HandlerPc} {i : PrInstance}
    (hi : sh.instances.lookup n = some i) (hpc : PcMatches i pc) :
    AwaitsMatching n ⟨sh, .await pc, events⟩ := by
  intro pc' h
  cases h
  exact ⟨i, hi, hpc⟩

/-- The arm taken fixes the state of the entry, which is what the program counter asks for. -/
theorem awaitsMatching_of_dispatched {i : PrInstance} {now : Instant} {o : Outcome}
    (h : Dispatched setup sh n i now o) (hi : sh.instances.lookup n = some i) :
    AwaitsMatching n o := by
  cases h with
  | buildTimedOut startedAt queueUrl message hstate hlate => exact .of_done
  | notQueued startedAt hstate => exact .of_done
  | building startedAt queueUrl hstate => exact .of_await hi ⟨rfl, startedAt, hstate⟩
  | deploying imageTag hstate => exact .of_await hi hstate
  | startTimedOut deploymentName address port startedAt message hstate hlate => exact .of_done
  | starting deploymentName address port startedAt hstate =>
      exact .of_await hi ⟨rfl, rfl, startedAt, hstate⟩
  | expired deploymentName address port readyAt shutdownAt message hstate hlate =>
      exact .of_await hi ⟨address, port, readyAt, shutdownAt, hstate⟩
  | ready deploymentName address port readyAt shutdownAt hstate => exact .of_done
  | shuttingDown deploymentName hstate => exact .of_await hi ⟨deploymentName, hstate⟩
  | failed reason hstate => exact .of_done

theorem awaitsMatching_of_resumed {pc : HandlerPc} {answer : Answer} {o : Outcome}
    (h : Resumed setup sh n pc answer o) {i : PrInstance}
    (hi : sh.instances.lookup n = some i) (hpc : PcMatches i pc) : AwaitsMatching n o := by
  cases h with
  | buildUrl commitHashShort queueUrl answer =>
      unfold handleBuildingUrl
      split
      · exact .of_await hi hpc
      · exact .of_done
      · exact .of_done
  | buildStatus commitHashShort queueUrl buildUrl answer =>
      unfold handleBuildingStatus
      split <;> exact .of_done
  | noDeploymentClient imageTag hclient => exact .of_done
  | deploymentDeleted imageTag answer =>
      unfold createDeploymentDeleted
      cases answer with
      | ok u => exact .of_await (by simpa using hi) hpc
      | error e => exact .of_await (by simpa using hi) hpc
  | settled imageTag => exact .of_await hi hpc
  | deploymentCreated imageTag answer =>
      unfold createDeploymentCreated
      cases answer with
      | ok u => exact .of_await hi ⟨imageTag, hpc⟩
      | error e => exact .of_done
  | noServiceClient hclient => exact .of_done
  | serviceDeleted answer => exact .of_await (by simpa using hi) hpc
  | serviceCreated answer now =>
      unfold createServiceCreated
      cases answer with
      | error e => exact .of_done
      | ok svc =>
          dsimp only
          split <;> exact .of_done
  | noReadinessClient commitHash commitHashShort deploymentName address port hclient =>
      exact .of_done
  | readinessChecked commitHash commitHashShort deploymentName address port answer =>
      unfold handleStartingChecked
      split
      · exact .of_await hi hpc
      · exact .of_done
      · exact .of_done
  | registered commitHash commitHashShort deploymentName address port now readyAt =>
      unfold handleStartingRegistered
      dsimp only
      split
      · exact .of_panicked
      · rename_i shutdownAt _
        obtain ⟨hhash, hshort, t, -⟩ := hpc
        -- the only piece that changes the state and then suspends: `Ready`, then the upsert
        exact .of_await (Shared.lookup_setState hi _)
          ⟨hhash, hshort, deploymentName, address, port, readyAt, shutdownAt, rfl⟩
  | persisted commitHash commitHashShort answer =>
      unfold handleStartingPersisted
      cases answer <;> exact .of_done
  | unregistered deploymentName now readyAt => exact .of_done
  | noTearDownClient hclient => exact .of_done
  | deploymentTornDown answer =>
      unfold deleteInstanceDeployment
      cases answer with
      | ok u => exact .of_await (by simpa using hi) hpc
      | error e =>
          dsimp only
          split
          · exact .of_await (by simpa using hi) hpc
          · exact .of_done
  | serviceTornDown answer =>
      unfold deleteInstanceService
      cases answer with
      | ok u => exact .of_done
      | error e =>
          dsimp only
          split <;> exact .of_done

end AwaitsMatching

end SteelProxy.Lifecycle
