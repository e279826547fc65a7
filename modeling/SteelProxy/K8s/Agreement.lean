import Mathlib.Data.UInt
import SteelProxy.K8s.Coherence
import SteelProxy.K8s.Recovery

/-!
# The registry agrees with the tracked instances

The backend of a PR is meant to be a function of its tracked state: present exactly in `Ready`,
with the address and port stored there (`Agrees`). Recovery establishes this and every piece of a
handler keeps it, because the registration and the change of state that goes with it lie between
the same two awaits. The exception is a shutdown time that cannot be represented: its panic
separates the two and ends the loop (`registered_without_ready`).
-/

set_option autoImplicit false

namespace SteelProxy.Lifecycle

open SteelProxy.Library SteelProxy.Library.Transition

/-- The registered backend of PR `n`. -/
def backendOf (sh : Shared) (n : UInt32) : Option BackendServer :=
  sh.backends.dynamicBackends.lookup (backendName n)

/-- The endpoint of PR `n` according to its tracked state. -/
def endpointOf (sh : Shared) (n : UInt32) : Option (String × UInt16) :=
  (sh.instances.lookup n).bind fun i => i.state.endpoint

/-- The backend that the tracked state of PR `n` calls for. -/
def expectedBackend (sh : Shared) (n : UInt32) : Option BackendServer :=
  (endpointOf sh n).map fun e => ⟨e.1, e.2, some s!"PR #{n}"⟩

/-- The dynamic backends of PRs are those that the tracked states call for. -/
def Agrees (sh : Shared) : Prop :=
  ∀ n, backendOf sh n = expectedBackend sh n

section Agrees

variable {sh sh' : Shared} {n : UInt32}

theorem expectedBackend_eq_none (h : endpointOf sh n = none) : expectedBackend sh n = none := by
  rw [expectedBackend, h, Option.map_none]

theorem Agrees.congr (h : Agrees sh) (hinst : sh'.instances = sh.instances)
    (hback : sh'.backends = sh.backends) : Agrees sh' := by
  intro k
  have hk := h k
  simp only [backendOf, expectedBackend, endpointOf] at hk ⊢
  rw [hinst, hback, hk]

/-- A change of PR `n` alone keeps the agreement if it agrees on `n` afterwards. -/
theorem Agrees.update (h : Agrees sh)
    (hinst : ∀ k, k ≠ n → sh'.instances.lookup k = sh.instances.lookup k)
    (hback : ∀ k, k ≠ n → backendOf sh' k = backendOf sh k)
    (hn : backendOf sh' n = expectedBackend sh' n) : Agrees sh' := by
  intro k
  by_cases hk : k = n
  · rw [hk, hn]
  · have hexpected : expectedBackend sh' k = expectedBackend sh k := by
      rw [expectedBackend, expectedBackend, endpointOf, endpointOf, hinst k hk]
    rw [hback k hk, h k, hexpected]

/-- A change of the state of PR `n` that needs no backend before or after. -/
theorem Agrees.update_of_none (h : Agrees sh) (hold : endpointOf sh n = none)
    (hinst : ∀ k, k ≠ n → sh'.instances.lookup k = sh.instances.lookup k)
    (hback : sh'.backends = sh.backends) (hnew : endpointOf sh' n = none) : Agrees sh' := by
  have hsame : ∀ k, backendOf sh' k = backendOf sh k := by
    intro k
    rw [backendOf, backendOf, hback]
  apply h.update hinst (fun k _ => hsame k)
  rw [hsame, h n, expectedBackend_eq_none hold, expectedBackend_eq_none hnew]

theorem backendOf_registerBackend {address : String} {port : UInt16}
    (hback : sh'.backends = K8sManager.registerBackend sh.backends n address port) (k : UInt32) :
    backendOf sh' k =
      if k = n then some ⟨address, port, some s!"PR #{n}"⟩ else backendOf sh k := by
  rw [backendOf, hback, K8sManager.lookup_registerBackend]
  rfl

theorem backendOf_unregisterBackend
    (hback : sh'.backends = K8sManager.unregisterBackend sh.backends n) (k : UInt32) :
    backendOf sh' k = if k = n then none else backendOf sh k := by
  rw [backendOf, hback, K8sManager.lookup_unregisterBackend]
  rfl

/-- Registering PR `n` together with a state at the same endpoint. -/
theorem Agrees.register (h : Agrees sh) {address : String} {port : UInt16}
    (hinst : ∀ k, k ≠ n → sh'.instances.lookup k = sh.instances.lookup k)
    (hback : sh'.backends = K8sManager.registerBackend sh.backends n address port)
    (hnew : endpointOf sh' n = some (address, port)) : Agrees sh' := by
  apply h.update hinst
  · intro k hk
    rw [backendOf_registerBackend hback, if_neg hk]
  · rw [backendOf_registerBackend hback, if_pos rfl, expectedBackend, hnew, Option.map_some]

/-- Unregistering PR `n` together with a state without an endpoint. -/
theorem Agrees.unregister (h : Agrees sh)
    (hinst : ∀ k, k ≠ n → sh'.instances.lookup k = sh.instances.lookup k)
    (hback : sh'.backends = K8sManager.unregisterBackend sh.backends n)
    (hnew : endpointOf sh' n = none) : Agrees sh' := by
  apply h.update hinst
  · intro k hk
    rw [backendOf_unregisterBackend hback, if_neg hk]
  · rw [backendOf_unregisterBackend hback, if_pos rfl, expectedBackend_eq_none hnew]

end Agrees

/-! ## Start-up -/

theorem agrees_startUp (staticBackends : KeyedMap String BackendServer) (builds : PrBuilds)
    (deployments : KeyedMap String String) (services : KeyedMap String (Option Int32)) :
    Agrees (Shared.startUp staticBackends builds deployments services) :=
  fun _ => rfl

/-- A step of recovery writes only the backend of the PR of its row. -/
theorem backendOf_recoverBuild {config : KubernetesConfig} {a : RowAnswers} {r r' : Recovery}
    {build : PrBuild} (h : Recovery.recoverBuild config a r build = some r') {k : UInt32}
    (hk : k ≠ prNumberAsU32 build.prNumber) : backendOf r'.shared k = backendOf r.shared k := by
  cases Recovery.recovered_of_recoverBuild h with
  | ready deployment svc nodePort hcall hready hservice hport hrecover =>
      obtain ⟨shutdownAt, -, rfl⟩ := Recovery.recoverReady_eq_some_iff.1 hrecover
      exact (K8sManager.lookup_registerBackend _ _ k _ _).trans (if_neg hk)
  | deferred deployment hcall hready => rfl
  | removed hreport =>
      simp only [Recovery.deleteBuild]
      split <;> rfl

theorem agrees_recoverBuild {config : KubernetesConfig} {a : RowAnswers} {r r' : Recovery}
    {build : PrBuild} (hagrees : Agrees r.shared)
    (h : Recovery.recoverBuild config a r build = some r') : Agrees r'.shared := by
  cases Recovery.recovered_of_recoverBuild h with
  | ready deployment svc nodePort hcall hready hservice hport hrecover =>
      obtain ⟨shutdownAt, -, rfl⟩ := Recovery.recoverReady_eq_some_iff.1 hrecover
      apply hagrees.register (fun k hk => AList.lookup_insert_ne hk) rfl
      simp only [endpointOf, AList.lookup_insert]
      rfl
  | deferred deployment hcall hready => exact hagrees.congr rfl rfl
  | removed hreport =>
      simp only [Recovery.deleteBuild]
      split
      · exact hagrees.congr rfl rfl
      · exact hagrees.congr rfl rfl

/-- Recovery keeps the agreement, on any rows and any answers. -/
theorem agrees_recoverFromDb {config : KubernetesConfig} {loadError : Option String}
    {answers : PrBuild → RowAnswers} {sh sh' : Shared} {result : Except String Nat}
    (hagrees : Agrees sh)
    (h : Recovery.recoverFromDb config loadError answers sh = some (sh', result)) : Agrees sh' := by
  rcases Recovery.exec_of_recoverFromDb h with rfl | ⟨count, t, hrun⟩
  · exact hagrees
  · have hmeets : (Recovery.system config answers).Meets (fun _ _ => True) ⟨sh, 0⟩
        sh.builds.getActiveBuilds := System.meets_of_forall _ (fun _ _ _ => trivial) _
    exact System.exec_state_invariant (Recovery.system config answers) (fun r => Agrees r.shared)
      (fun r build r' _ hr _ hstep => agrees_recoverBuild hr (Recovery.step_eq_some_iff.1 hstep).1)
      hagrees hmeets hrun

/-! ## Pieces of a handler -/

/-- The shutdown time of an instance about to be `Ready` cannot be represented. -/
def DeadlineOverflows (setup : Setup) : HandlerPc → Answer → Prop
  | .register _ _ _ _ _, .registryLocked now _ =>
      now.addSecs (setup.kubernetes.instanceTimeoutMinutes * 60) = none
  | _, _ => False

/-- What a piece of the handler of PR `n`, whose instance is `i`, does to the instance and the
backend of `n`. `overflow` is the case of the panic between the two writes. -/
inductive EndpointEffect (sh : Shared) (n : UInt32) (i : PrInstance) (overflow : Prop)
    (o : Outcome) : Prop where
  | kept (hinst : o.shared.instances = sh.instances) (hback : o.shared.backends = sh.backends)
  | moved (state : InstanceState) (hold : i.state.endpoint = none) (hnew : state.endpoint = none)
      (hinst : o.shared.instances = K8sManager.updateInstanceState sh.instances n state)
      (hback : o.shared.backends = sh.backends)
  | dropped (hold : i.state.endpoint = none)
      (hinst : o.shared.instances = K8sManager.removeInstance sh.instances n)
      (hback : o.shared.backends = sh.backends)
  | registered (state : InstanceState) (address : String) (port : UInt16)
      (hnew : state.endpoint = some (address, port))
      (hinst : o.shared.instances = K8sManager.updateInstanceState sh.instances n state)
      (hback : o.shared.backends = K8sManager.registerBackend sh.backends n address port)
  | unregistered (state : InstanceState) (hnew : state.endpoint = none)
      (hinst : o.shared.instances = K8sManager.updateInstanceState sh.instances n state)
      (hback : o.shared.backends = K8sManager.unregisterBackend sh.backends n)
  | overflowed (address : String) (port : UInt16) (hoverflow : overflow)
      (hback : o.shared.backends = K8sManager.registerBackend sh.backends n address port)

section EndpointEffect

variable {setup : Setup} {sh : Shared} {n : UInt32} {i : PrInstance} {overflow : Prop}
  {o : Outcome}

/-- The backends of other PRs are untouched. -/
theorem EndpointEffect.backendOf_of_ne (h : EndpointEffect sh n i overflow o) {k : UInt32}
    (hk : k ≠ n) : backendOf o.shared k = backendOf sh k := by
  cases h with
  | kept hinst hback => rw [backendOf, backendOf, hback]
  | moved state hold hnew hinst hback => rw [backendOf, backendOf, hback]
  | dropped hold hinst hback => rw [backendOf, backendOf, hback]
  | registered state address port hnew hinst hback =>
      rw [backendOf_registerBackend hback, if_neg hk]
  | unregistered state hnew hinst hback => rw [backendOf_unregisterBackend hback, if_neg hk]
  | overflowed address port hoverflow hback => rw [backendOf_registerBackend hback, if_neg hk]

/-- A piece that does not overflow keeps the agreement. -/
theorem Agrees.of_effect (h : Agrees sh) (hi : sh.instances.lookup n = some i)
    (hno : ¬ overflow) (heff : EndpointEffect sh n i overflow o) : Agrees o.shared := by
  have hold : i.state.endpoint = none → endpointOf sh n = none := by
    intro hnone
    rw [endpointOf, hi, Option.bind_some, hnone]
  -- a new state of `n` changes no other instance and gives `n` the endpoint of that state
  have hupdate : ∀ state, o.shared.instances = K8sManager.updateInstanceState sh.instances n state →
      (∀ k, k ≠ n → o.shared.instances.lookup k = sh.instances.lookup k) ∧
        endpointOf o.shared n = state.endpoint := by
    intro state hinst
    constructor
    · intro k hk
      rw [hinst, K8sManager.lookup_updateInstanceState, if_neg hk]
    · rw [endpointOf, hinst, K8sManager.lookup_updateInstanceState, if_pos rfl, hi, Option.map_some,
        Option.bind_some]
  cases heff with
  | kept hinst hback => exact h.congr hinst hback
  | moved state hnone hnew hinst hback =>
      obtain ⟨hother, hn⟩ := hupdate state hinst
      exact h.update_of_none (hold hnone) hother hback (hn.trans hnew)
  | dropped hnone hinst hback =>
      refine h.update_of_none (hold hnone) ?_ hback ?_
      · intro k hk
        rw [hinst, K8sManager.lookup_removeInstance, if_neg hk]
      · rw [endpointOf, hinst, K8sManager.lookup_removeInstance, if_pos rfl, Option.bind_none]
  | registered state address port hnew hinst hback =>
      obtain ⟨hother, hn⟩ := hupdate state hinst
      exact h.register hother hback (hn.trans hnew)
  | unregistered state hnew hinst hback =>
      obtain ⟨hother, hn⟩ := hupdate state hinst
      exact h.unregister hother hback (hn.trans hnew)
  | overflowed address port hoverflow hback => exact absurd hoverflow hno

@[simp]
theorem backends_withClient : sh.withClient.backends = sh.backends := rfl

/-- Dispatching an entry registers and unregisters nothing. -/
theorem endpointEffect_of_dispatched {now : Instant} (h : Dispatched setup sh n i now o) :
    EndpointEffect sh n i False o := by
  cases h with
  | buildTimedOut startedAt queueUrl message hstate hlate =>
      have hnone : i.state.endpoint = none := by rw [hstate]; rfl
      exact .moved _ hnone rfl rfl rfl
  | startTimedOut deploymentName address port startedAt message hstate hlate =>
      have hnone : i.state.endpoint = none := by rw [hstate]; rfl
      exact .moved _ hnone rfl rfl rfl
  | failed reason hstate =>
      have hnone : i.state.endpoint = none := by rw [hstate]; rfl
      exact .dropped hnone rfl rfl
  | _ => exact .kept rfl rfl

theorem backends_of_dispatched {now : Instant} (h : Dispatched setup sh n i now o) :
    o.shared.backends = sh.backends := by
  cases h <;> rfl

/-- Outside the registry lock no piece of a handler changes the registry. -/
theorem backends_of_resumed {pc : HandlerPc} {answer : Answer} (h : Resumed setup sh n pc answer o)
    (hlocked : ∀ now readyAt, answer ≠ .registryLocked now readyAt) :
    o.shared.backends = sh.backends := by
  cases h with
  | buildUrl commitHashShort queueUrl answer =>
      simp only [handleBuildingUrl]
      split <;> rfl
  | buildStatus commitHashShort queueUrl buildUrl answer =>
      simp only [handleBuildingStatus]
      split <;> rfl
  | deploymentDeleted imageTag answer => cases answer <;> simp [createDeploymentDeleted]
  | deploymentCreated imageTag answer => cases answer <;> rfl
  | serviceDeleted answer => simp [createServiceDeleted]
  | serviceCreated answer now =>
      simp only [createServiceCreated]
      split
      · rfl
      · split <;> rfl
  | noReadinessClient commitHash commitHashShort deploymentName address port hclient =>
      simp only [handleStartingChecked]
      split <;> rfl
  | readinessChecked commitHash commitHashShort deploymentName address port answer =>
      simp only [handleStartingChecked]
      split <;> rfl
  | registered commitHash commitHashShort deploymentName address port now readyAt =>
      exact absurd rfl (hlocked now readyAt)
  | persisted commitHash commitHashShort answer => cases answer <;> rfl
  | unregistered deploymentName now readyAt => exact absurd rfl (hlocked now readyAt)
  | deploymentTornDown answer =>
      simp only [deleteInstanceDeployment]
      split
      · simp
      · split <;> simp [cleanUpFailed, untracked, Shared.untrack]
  | serviceTornDown answer =>
      simp only [deleteInstanceService]
      split
      · simp [untracked, Shared.untrack]
      · split <;> simp [cleanUpFailed, untracked, Shared.untrack]
  | _ => rfl

theorem endpointEffect_handleStartingChecked (commitHash commitHashShort deploymentName
    address : String) (port : UInt16) (call : KubeCall Deployment) :
    EndpointEffect sh n i overflow (handleStartingChecked sh n commitHash commitHashShort
      deploymentName address port call) := by
  simp only [handleStartingChecked]
  split <;> exact .kept rfl rfl

/-- A piece registers the endpoint of the state that it moves to, and unregisters when it leaves
`Ready`. -/
theorem endpointEffect_of_resumed {pc : HandlerPc} {answer : Answer}
    (h : Resumed setup sh n pc answer o) (hpc : PcMatches i pc) :
    EndpointEffect sh n i (DeadlineOverflows setup pc answer) o := by
  cases h with
  | buildUrl commitHashShort queueUrl answer =>
      simp only [handleBuildingUrl]
      split <;> exact .kept rfl rfl
  | buildStatus commitHashShort queueUrl buildUrl answer =>
      obtain ⟨-, t, hstate⟩ := hpc
      have hnone : i.state.endpoint = none := by rw [hstate]; rfl
      simp only [handleBuildingStatus]
      split
      · exact .moved _ hnone rfl rfl rfl
      · exact .moved _ hnone rfl rfl rfl
      · exact .kept rfl rfl
      · exact .kept rfl rfl
      · exact .moved _ hnone rfl rfl rfl
      · exact .kept rfl rfl
  | noDeploymentClient imageTag hclient =>
      have hnone : i.state.endpoint = none := by rw [show i.state = _ from hpc]; rfl
      exact .moved _ hnone rfl rfl rfl
  | deploymentDeleted imageTag answer =>
      cases answer with
      | ok u => exact .kept (by simp [createDeploymentDeleted]) (by simp [createDeploymentDeleted])
      | error e =>
          exact .kept (by simp [createDeploymentDeleted]) (by simp [createDeploymentDeleted])
  | settled imageTag => exact .kept rfl rfl
  | deploymentCreated imageTag answer =>
      have hnone : i.state.endpoint = none := by rw [show i.state = _ from hpc]; rfl
      cases answer with
      | ok u => exact .kept rfl rfl
      | error e => exact .moved _ hnone rfl rfl rfl
  | noServiceClient hclient =>
      obtain ⟨imageTag, hstate⟩ := hpc
      have hnone : i.state.endpoint = none := by rw [hstate]; rfl
      exact .moved _ hnone rfl rfl rfl
  | serviceDeleted answer =>
      exact .kept (by simp [createServiceDeleted]) (by simp [createServiceDeleted])
  | serviceCreated answer now =>
      obtain ⟨imageTag, hstate⟩ := hpc
      have hnone : i.state.endpoint = none := by rw [hstate]; rfl
      simp only [createServiceCreated]
      cases answer with
      | error e => exact .moved _ hnone rfl rfl rfl
      | ok svc =>
          cases hport : svc.firstNodePort with
          | none =>
              simp only [hport]
              exact .moved _ hnone rfl rfl rfl
          | some nodePort =>
              simp only [hport]
              exact .moved _ hnone rfl rfl rfl
  | noReadinessClient commitHash commitHashShort deploymentName address port hclient =>
      exact endpointEffect_handleStartingChecked _ _ _ _ _ _
  | readinessChecked commitHash commitHashShort deploymentName address port answer =>
      simp only [handleStartingChecked]
      split <;> exact .kept rfl rfl
  | registered commitHash commitHashShort deploymentName address port now readyAt =>
      simp only [handleStartingRegistered]
      split
      · -- the panic comes after the registration and before the change of state
        rename_i hsum
        exact .overflowed address port hsum rfl
      · exact .registered _ address port rfl rfl rfl
  | persisted commitHash commitHashShort answer =>
      simp only [handleStartingPersisted]
      cases answer with
      | ok now => exact .kept rfl rfl
      | error e => exact .kept rfl rfl
  | unregistered deploymentName now readyAt => exact .unregistered _ rfl rfl rfl
  | noTearDownClient hclient =>
      obtain ⟨deploymentName, hstate⟩ := hpc
      have hnone : i.state.endpoint = none := by rw [hstate]; rfl
      exact .dropped hnone rfl rfl
  | deploymentTornDown answer =>
      obtain ⟨name, hstate⟩ := hpc
      have hnone : i.state.endpoint = none := by rw [hstate]; rfl
      simp only [deleteInstanceDeployment]
      cases answer with
      | ok u => exact .kept (by simp) (by simp)
      | error e =>
          dsimp only
          split
          · exact .kept (by simp) (by simp)
          · exact .dropped hnone (by simp [cleanUpFailed, untracked, Shared.untrack])
              (by simp [cleanUpFailed, untracked, Shared.untrack])
  | serviceTornDown answer =>
      obtain ⟨name, hstate⟩ := hpc
      have hnone : i.state.endpoint = none := by rw [hstate]; rfl
      simp only [deleteInstanceService]
      cases answer with
      | ok u =>
          exact .dropped hnone (by simp [untracked, Shared.untrack])
            (by simp [untracked, Shared.untrack])
      | error e =>
          dsimp only
          split
          · exact .dropped hnone (by simp [untracked, Shared.untrack])
              (by simp [untracked, Shared.untrack])
          · exact .dropped hnone (by simp [cleanUpFailed, untracked, Shared.untrack])
              (by simp [cleanUpFailed, untracked, Shared.untrack])

end EndpointEffect

/-! ## Runs -/

/-- A `start_pr` call never writes the registry, and tracks a PR without an endpoint. -/
theorem stepped_endpoints {setup : Setup} {sh : Shared} {id : Nat} {call : StartCall}
    {label : StartLabel} {o : StartPr.Outcome} (h : StartPr.Stepped setup sh id call label o) :
    o.shared.backends = sh.backends ∧
      (o.shared.instances = sh.instances ∨
        ∃ n i, call.pending = some n ∧ o.shared.instances = sh.instances.insert n i ∧
          i.state.endpoint = none) := by
  cases h with
  | bailed error => exact ⟨rfl, Or.inl rfl⟩
  | begun n huntracked => exact ⟨rfl, Or.inl rfl⟩
  | registryChecked n habsent => exact ⟨rfl, Or.inl rfl⟩
  | commitReceived n answer commitHash commitHashShort hcommit => exact ⟨rfl, Or.inl rfl⟩
  | buildsQueried n commitHash commitHashShort => exact ⟨rfl, Or.inl rfl⟩
  | cached n commitHash commitHashShort => exact ⟨rfl, Or.inr ⟨n, _, rfl, rfl, rfl⟩⟩
  | missed n commitHash commitHashShort => exact ⟨rfl, Or.inl rfl⟩
  | queued n commitHash commitHashShort queueUrl answer now =>
      exact ⟨rfl, Or.inr ⟨n, _, rfl, rfl, rfl⟩⟩

/-- No backend is registered whose shutdown time cannot be represented. -/
def DeadlineFits (setup : Setup) (w : World) : Label → Prop
  | .resume answer =>
      ∀ n pc rest, w.loop = .running n pc rest → ¬ DeadlineOverflows setup pc answer
  | _ => True

theorem agrees_step {setup : Setup} {w w' : World} {label : Label} {t : List Event}
    (hcoh : Coherent w) (h : Agrees w.shared) (hfits : DeadlineFits setup w label)
    (hstep : step setup w label = some (w', t)) : Agrees w'.shared := by
  cases label with
  | start id label =>
      obtain ⟨o, ho, rfl, rfl⟩ := step_start_iff.1 hstep
      obtain ⟨hback, hinst | ⟨n, i, hpending, hinst, hstate⟩⟩ :=
        stepped_endpoints (StartPr.stepped_of_step ho)
      · exact h.congr hinst hback
      · -- the inserted PR was untracked, so it had no backend, and its new state needs none
        have hnone := hcoh.untracked id n hpending
        refine h.update_of_none (n := n) ?_ ?_ hback ?_
        · rw [endpointOf, hnone, Option.bind_none]
        · intro k hk
          simp only [hinst, AList.lookup_insert_ne hk]
        · simp only [endpointOf, hinst, AList.lookup_insert, Option.bind_some, hstate]
  | tick snapshot =>
      obtain ⟨-, -, rfl, rfl⟩ := step_tick_iff.1 hstep
      exact h
  | advance now =>
      rcases step_advance_iff.1 hstep with ⟨-, rfl, rfl⟩ | ⟨n, i, rest, hloop, rfl, rfl⟩
      · exact h
      · have hdispatched := dispatched_dispatch setup w.shared n i now
        exact h.of_effect (hcoh.lookup_next hloop) id (endpointEffect_of_dispatched hdispatched)
  | resume answer =>
      obtain ⟨n, pc, rest, o, hloop, ho, rfl, rfl⟩ := step_resume_iff.1 hstep
      obtain ⟨i, hi, hpc⟩ := hcoh.lookup_running hloop
      exact h.of_effect hi (hfits n pc rest hloop)
        (endpointEffect_of_resumed (resumed_of_resume ho) hpc)

/-- A step changes the backend of a PR only inside the handler of that PR. -/
theorem backendOf_step {setup : Setup} {w w' : World} {label : Label} {t : List Event}
    (hcoh : Coherent w) (hstep : step setup w label = some (w', t)) {k : UInt32}
    (hk : ¬ InHandler w k) : backendOf w'.shared k = backendOf w.shared k := by
  cases label with
  | start id label =>
      obtain ⟨o, ho, rfl, rfl⟩ := step_start_iff.1 hstep
      have hback := (stepped_endpoints (StartPr.stepped_of_step ho)).1
      simp only [backendOf, hback]
  | tick snapshot =>
      obtain ⟨-, -, rfl, rfl⟩ := step_tick_iff.1 hstep
      rfl
  | advance now =>
      rcases step_advance_iff.1 hstep with ⟨-, rfl, rfl⟩ | ⟨n, i, rest, hloop, rfl, rfl⟩
      · rfl
      · have hback := backends_of_dispatched (dispatched_dispatch setup w.shared n i now)
        simp only [backendOf, hback]
  | resume answer =>
      obtain ⟨n, pc, rest, o, hloop, ho, rfl, rfl⟩ := step_resume_iff.1 hstep
      obtain ⟨i, hi, hpc⟩ := hcoh.lookup_running hloop
      have hkn : k ≠ n := by
        rintro rfl
        exact hk ⟨pc, rest, hloop⟩
      exact (endpointEffect_of_resumed (resumed_of_resume ho) hpc).backendOf_of_ne hkn

/-- The backend of PR `n` is registered if and only if `n` is tracked in `Ready`, and then at the
address and port of this state. -/
structure RegistryAgreement (sh : Shared) (n : UInt32) : Prop where
  registered_iff_ready : (backendOf sh n).isSome = true ↔
    ∃ i deploymentName address port readyAt shutdownAt, sh.instances.lookup n = some i ∧
      i.state = .ready deploymentName address port readyAt shutdownAt
  sameEndpoint : ∀ backend i deploymentName address port readyAt shutdownAt,
    backendOf sh n = some backend → sh.instances.lookup n = some i →
      i.state = .ready deploymentName address port readyAt shutdownAt →
        backend.address = address ∧ backend.port = port

theorem registryAgreement_of_agrees {sh : Shared} (h : Agrees sh) (n : UInt32) :
    RegistryAgreement sh n where
  registered_iff_ready := by
    rw [h n, expectedBackend, Option.isSome_map, endpointOf]
    constructor
    · intro hsome
      obtain ⟨e, he⟩ := Option.isSome_iff_exists.1 hsome
      obtain ⟨i, hi, hstate⟩ := Option.bind_eq_some_iff.1 he
      -- only `Ready` has an endpoint
      cases hs : i.state with
      | ready deploymentName address port readyAt shutdownAt =>
          exact ⟨i, deploymentName, address, port, readyAt, shutdownAt, hi, hs⟩
      | _ =>
          rw [hs] at hstate
          cases hstate
    · rintro ⟨i, deploymentName, address, port, readyAt, shutdownAt, hi, hs⟩
      rw [hi, Option.bind_some, hs]
      rfl
  sameEndpoint := by
    intro backend i deploymentName address port readyAt shutdownAt hbackend hi hs
    rw [h n, expectedBackend, endpointOf, hi, Option.bind_some, hs] at hbackend
    cases hbackend
    exact ⟨rfl, rfl⟩

theorem agrees_exec {setup : Setup} {w w' : World} {labels : List Label} {tr : List Event}
    (hfresh : Fresh w) (h : Agrees w.shared)
    (hmeets : (system setup).Meets
      (fun w label => NoOverlap w label ∧ DeadlineFits setup w label) w labels)
    (hrun : (system setup).exec w labels = some (w', tr)) :
    Coherent w' ∧ Agrees w'.shared :=
  System.exec_state_invariant (system setup)
    (fun w => Coherent w ∧ Agrees w.shared)
    (fun _ _ _ _ hinv hi hs =>
      ⟨coherent_step hinv.1 hi.1 hs, agrees_step hinv.1 hinv.2 hi.2 hs⟩)
    ⟨coherent_of_fresh hfresh, h⟩ hmeets hrun

/-- In every run after a recovery in which calls of one PR do not overlap and no backend is
registered whose shutdown time cannot be represented, the registry agrees with the tracked
instances. A step changes the backend of a PR only inside the handler of that PR, a step of a
`start_pr` call changes none, and a step of the recovery only that of its own row. -/
theorem registry_agrees_of_deadlineFits (setup : Setup)
    (staticBackends : KeyedMap String BackendServer) (builds : PrBuilds)
    (deployments : KeyedMap String String) (services : KeyedMap String (Option Int32))
    (loadError : Option String) (answers : PrBuild → RowAnswers) (sh : Shared)
    (result : Except String Nat) (labels : List Label) (w : World) (tr : List Event)
    (hrec : Recovery.recoverFromDb setup.kubernetes loadError answers
      (Shared.startUp staticBackends builds deployments services) = some (sh, result))
    (hmeets : (system setup).Meets
      (fun w label => NoOverlap w label ∧ DeadlineFits setup w label) (started sh) labels)
    (hrun : (system setup).exec (started sh) labels = some (w, tr)) :
    (∀ n, RegistryAgreement w.shared n) ∧
      (∀ label w' t, step setup w label = some (w', t) → ∀ n, ¬ InHandler w n →
        backendOf w'.shared n = backendOf w.shared n) ∧
      (∀ id label w' t, step setup w (.start id label) = some (w', t) →
        w'.shared.backends = w.shared.backends) ∧
      ∀ a r build r', Recovery.recoverBuild setup.kubernetes a r build = some r' →
        ∀ n, n ≠ prNumberAsU32 build.prNumber → backendOf r'.shared n = backendOf r.shared n := by
  have hstart : Agrees (started sh).shared :=
    agrees_recoverFromDb (agrees_startUp staticBackends builds deployments services) hrec
  obtain ⟨hcoh, hagrees⟩ := agrees_exec (fresh_started sh) hstart hmeets hrun
  refine ⟨registryAgreement_of_agrees hagrees, ?_, ?_, ?_⟩
  · intro label w' t hstep n hn
    exact backendOf_step hcoh hstep hn
  · intro id label w' t hstep
    obtain ⟨o, ho, rfl, -⟩ := step_start_iff.1 hstep
    exact (stepped_endpoints (StartPr.stepped_of_step ho)).1
  · intro a r build r' hstep n hn
    exact backendOf_recoverBuild hstep hn

/-- PR 7 as its row says, with a ready pod behind NodePort 30007. -/
def readyAnswers : RowAnswers where
  clientInit := true
  deployment := .ok ⟨some 1⟩
  service := .ok ⟨some (some [⟨some 30007⟩])⟩
  now := ⟨0⟩
  readyAt := ⟨0⟩
  deleteSucceeds := true

/-- The instance of PR 7 after its recovery. -/
def recoveredSample : PrInstance :=
  ⟨7, "0123456789abcdef", "0123456", .ready "steel-pr-7" "127.0.0.1" 30007 ⟨0⟩ ⟨1800000000000⟩⟩

/-- The stores after this recovery. -/
def recoveredShared : Shared where
  instances := AList.insert 7 recoveredSample ∅
  backends := K8sManager.registerBackend (BackendRegistry.new ∅) 7 "127.0.0.1" 30007
  builds := sampleBuilds
  clientReady := true
  deployments := ∅
  services := ∅

/-- PR 7 is shut down at its time. -/
def expireSample : List Label :=
  [.tick [(7, recoveredSample)], .advance ⟨1800000000000⟩, .resume (.registryLocked ⟨0⟩ ⟨0⟩)]

/-- The registry agrees after the recovery of PR 7 and its shutdown. -/
theorem registry_agrees_expireSample :
    ∃ w tr, (system sampleSetup).exec (started recoveredShared) expireSample = some (w, tr) ∧
      (∀ n, RegistryAgreement w.shared n) ∧ backendOf recoveredShared 7 ≠ none ∧
        backendOf w.shared 7 = none := by
  have hrec : Recovery.recoverFromDb sampleSetup.kubernetes none (fun _ => readyAnswers)
      Recovery.sampleStartUp = some (recoveredShared, .ok 1) := by rfl
  have hfinal : ((system sampleSetup).exec (started recoveredShared) expireSample).map
      (fun p => backendOf p.1.shared 7) = some none := by rfl
  cases hrun : (system sampleSetup).exec (started recoveredShared) expireSample with
  | none => simp [hrun] at hfinal
  | some p =>
      rcases p with ⟨w, tr⟩
      simp only [hrun, Option.map_some, Option.some.injEq] at hfinal
      have hmeets : (system sampleSetup).Meets
          (fun w label => NoOverlap w label ∧ DeadlineFits sampleSetup w label)
          (started recoveredShared) expireSample := by
        refine (system sampleSetup).meets_of_forall ?_ _
        simp only [expireSample, List.forall_mem_cons, List.not_mem_nil, false_implies,
          implies_true, and_true]
        intro w
        refine ⟨⟨trivial, trivial⟩, ⟨trivial, trivial⟩, trivial, ?_⟩
        -- half an hour after the clock reading fits
        intro n pc rest _
        cases pc with
        | register commitHash commitHashShort deploymentName address port =>
            show Instant.addSecs ⟨0⟩ (30 * 60) ≠ none
            decide
        | _ => exact id
      have hagrees := registry_agrees_of_deadlineFits sampleSetup ∅
        sampleBuilds ∅ ∅ none (fun _ => readyAnswers) recoveredShared (.ok 1)
        expireSample w tr hrec hmeets hrun
      exact ⟨w, tr, rfl, hagrees.1, by decide, hfinal⟩

/-- An instance timeout of 2^58 minutes. -/
def hugeTimeout : Setup :=
  { sampleSetup with
    kubernetes := { sampleSetup.kubernetes with instanceTimeoutMinutes := 2 ^ 58 } }

/-- PR 7 is deployed from its cached build, found ready and registered. -/
def deployCachedSample : List Label :=
  sampleChecks 0 7 "0123456789abcdef" ++
    [.tick [(7, ⟨7, "0123456789abcdef", "0123456", .deploying "pr-7-0123456"⟩)]] ++ sampleDeploy ++
    [.tick [(7, ⟨7, "0123456789abcdef", "0123456",
      .starting "steel-pr-7" "127.0.0.1" 30007 ⟨0⟩⟩)]] ++ sampleRegister

/-- The panic on the shutdown time leaves a registered backend behind an instance that is not
`Ready`. -/
theorem registered_without_ready :
    ¬ ∀ (setup : Setup) (staticBackends : KeyedMap String BackendServer) (builds : PrBuilds)
      (deployments : KeyedMap String String) (services : KeyedMap String (Option Int32))
      (loadError : Option String) (answers : PrBuild → RowAnswers) (sh : Shared)
      (result : Except String Nat) (labels : List Label) (w : World) (tr : List Event),
      Recovery.recoverFromDb setup.kubernetes loadError answers
          (Shared.startUp staticBackends builds deployments services) = some (sh, result) →
        (system setup).Meets NoOverlap (started sh) labels →
          (system setup).exec (started sh) labels = some (w, tr) →
            ∀ n, ¬ InHandler w n → RegistryAgreement w.shared n := by
  intro hall
  -- the deployment of the row is not ready yet, so its recovery changes nothing
  have hrec : Recovery.recoverFromDb hugeTimeout.kubernetes none
      (fun _ => { readyAnswers with deployment := .ok ⟨some 0⟩ }) Recovery.sampleStartUp =
        some ({ Recovery.sampleStartUp with clientReady := true }, .ok 0) := by rfl
  have hno : (system hugeTimeout).Meets NoOverlap
      (started { Recovery.sampleStartUp with clientReady := true }) deployCachedSample := by
    refine (system hugeTimeout).meets_cons ?_ ((system hugeTimeout).meets_of_forall ?_)
    · intro _ _ id' hpending
      cases hpending
    · simp [sampleDeploy, sampleRegister, NoOverlap]
  have hfinal : ((system hugeTimeout).exec
      (started { Recovery.sampleStartUp with clientReady := true }) deployCachedSample).map
        (fun p => ((backendOf p.1.shared 7).isSome, (endpointOf p.1.shared 7).isSome, p.1.loop)) =
          some (true, false, .panicked) := by decide +kernel
  cases hrun : (system hugeTimeout).exec
      (started { Recovery.sampleStartUp with clientReady := true }) deployCachedSample with
  | none => simp [hrun] at hfinal
  | some p =>
      rcases p with ⟨w, tr⟩
      simp only [hrun, Option.map_some, Option.some.injEq, Prod.mk.injEq] at hfinal
      obtain ⟨hregistered, hendpoint, hloop⟩ := hfinal
      have hidle : ¬ InHandler w 7 := by
        rintro ⟨pc, rest, hrunning⟩
        rw [hloop] at hrunning
        cases hrunning
      -- the registered backend would have to belong to a `Ready` instance, which has an endpoint
      obtain ⟨i, deploymentName, address, port, readyAt, shutdownAt, hi, hs⟩ :=
        (hall hugeTimeout ∅ _ ∅ ∅ none _ _ _ _ w tr hrec hno hrun 7
          hidle).registered_iff_ready.1 hregistered
      rw [endpointOf, hi, Option.bind_some, hs] at hendpoint
      cases hendpoint

end SteelProxy.Lifecycle
