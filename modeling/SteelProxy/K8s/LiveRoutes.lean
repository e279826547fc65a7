import SteelProxy.K8s.Agreement
import SteelProxy.K8s.ClusterEffects
import SteelProxy.K8s.RecoveryCompleteness
import SteelProxy.K8s.Restarts

/-!
# Registered backends are live

A backend that the loop or a recovery registers for a PR is at the node address and at the
NodePort of the PR's own service, and the service is not deleted as long as the backend is
registered: the proxy never sends a player to a NodePort that the cluster has given back. This
holds across restarts at any point, also when the loop has died on a shutdown time that cannot be
represented (`routes_are_live`), provided that the recoveries read the services that are there.
-/

set_option autoImplicit false

namespace SteelProxy

open SteelProxy.Library SteelProxy.Library.Transition

/-- The address and port that an instance in `Starting` or `Ready` carries. -/
def InstanceState.target : InstanceState → Option (String × UInt16)
  | .starting _ address port _ => some (address, port)
  | .ready _ address port _ _ => some (address, port)
  | _ => none

theorem InstanceState.target_of_endpoint {state : InstanceState} {e : String × UInt16}
    (h : state.endpoint = some e) : state.target = some e := by
  cases state with
  | ready deploymentName address port readyAt shutdownAt => exact h
  | _ => cases h

namespace Lifecycle

/-- The address and port are those of the service that PR `n` has in the cluster. -/
def LiveEndpoint (config : KubernetesConfig) (sh : Shared) (n : UInt32) (e : String × UInt16) :
    Prop :=
  e.1 = config.nodeAddress ∧ ∃ nodePort,
    sh.services.lookup (deploymentName n) = some (some nodePort) ∧ e.2 = nodePortAsU16 nodePort

/-- The backend is that of PR `n`, at the service of the PR. -/
structure LiveBackend (config : KubernetesConfig) (sh : Shared) (n : UInt32) (b : BackendServer) :
    Prop where
  described : b.description = some s!"PR #{n}"
  endpoint : LiveEndpoint config sh n (b.address, b.port)

/-- The backend and the instance of PR `n` are at the service of the PR. -/
structure RoutedAt (config : KubernetesConfig) (sh : Shared) (n : UInt32) : Prop where
  backend : ∀ b, backendOf sh n = some b → LiveBackend config sh n b
  instance_ : ∀ i e, sh.instances.lookup n = some i → i.state.target = some e →
    LiveEndpoint config sh n e

section RoutedAt

variable {config : KubernetesConfig} {sh sh' : Shared} {n : UInt32}

theorem LiveEndpoint.congr {e : String × UInt16} (h : LiveEndpoint config sh n e)
    (hsvc : sh'.services.lookup (deploymentName n) = sh.services.lookup (deploymentName n)) :
    LiveEndpoint config sh' n e := by
  obtain ⟨haddress, nodePort, hlookup, hport⟩ := h
  exact ⟨haddress, nodePort, by rw [hsvc, hlookup], hport⟩

theorem LiveBackend.congr {b : BackendServer} (h : LiveBackend config sh n b)
    (hsvc : sh'.services.lookup (deploymentName n) = sh.services.lookup (deploymentName n)) :
    LiveBackend config sh' n b :=
  ⟨h.described, h.endpoint.congr hsvc⟩

/-- Only what the stores say about PR `n` matters. -/
theorem RoutedAt.congr (h : RoutedAt config sh n)
    (hinst : sh'.instances.lookup n = sh.instances.lookup n)
    (hback : backendOf sh' n = backendOf sh n)
    (hsvc : sh'.services.lookup (deploymentName n) = sh.services.lookup (deploymentName n)) :
    RoutedAt config sh' n where
  backend b hb := (h.backend b (hback ▸ hb)).congr hsvc
  instance_ i e hi he := (h.instance_ i e (hinst ▸ hi) he).congr hsvc

/-- A PR without a backend, in a state without an address. -/
theorem RoutedAt.of_none (hback : backendOf sh n = none)
    (hinst : ∀ i, sh.instances.lookup n = some i → i.state.target = none) :
    RoutedAt config sh n where
  backend b hb := by
    rw [hback] at hb
    cases hb
  instance_ i e hi he := by
    rw [hinst i hi] at he
    cases he

/-- The state of PR `n` becomes one without an address, and nothing else changes for it. -/
theorem RoutedAt.of_state (h : RoutedAt config sh n) (hback : backendOf sh' n = backendOf sh n)
    (hsvc : sh'.services.lookup (deploymentName n) = sh.services.lookup (deploymentName n))
    (hinst : ∀ i, sh'.instances.lookup n = some i → i.state.target = none) :
    RoutedAt config sh' n where
  backend b hb := (h.backend b (hback ▸ hb)).congr hsvc
  instance_ i e hi he := by
    rw [hinst i hi] at he
    cases he

/-- A new state without an address. -/
theorem RoutedAt.setState (h : RoutedAt config sh n) {i : PrInstance} {state : InstanceState}
    (hi : sh.instances.lookup n = some i) (hstate : state.target = none) :
    RoutedAt config (sh.setState n state) n := by
  refine h.of_state rfl rfl ?_
  intro i' hi'
  rw [Shared.lookup_setState hi] at hi'
  cases hi'
  exact hstate

/-- A PR that is no longer tracked. -/
theorem RoutedAt.untrack (h : RoutedAt config sh n) (hback : sh'.backends = sh.backends)
    (hsvc : sh'.services.lookup (deploymentName n) = sh.services.lookup (deploymentName n))
    (hinst : sh'.instances = K8sManager.removeInstance sh.instances n) :
    RoutedAt config sh' n := by
  refine h.of_state (by rw [backendOf, backendOf, hback]) hsvc ?_
  intro i hi
  rw [hinst, K8sManager.lookup_removeInstance, if_pos rfl] at hi
  cases hi

/-- A PR whose state has no address has no backend, if the registry agrees with the state. -/
theorem backendOf_eq_none_of_target {i : PrInstance}
    (hagrees : backendOf sh n = expectedBackend sh n) (hi : sh.instances.lookup n = some i)
    (htarget : i.state.target = none) : backendOf sh n = none := by
  rw [hagrees]
  refine expectedBackend_eq_none ?_
  rw [endpointOf, hi, Option.bind_some]
  cases hendpoint : i.state.endpoint with
  | none => rfl
  | some e =>
      rw [InstanceState.target_of_endpoint hendpoint] at htarget
      cases htarget

end RoutedAt

/-! ## Pieces of a handler -/

section Pieces

variable {setup : Setup} {sh : Shared} {n : UInt32} {i : PrInstance} {o : Outcome}

theorem routedAt_of_dispatched {config : KubernetesConfig} {now : Instant}
    (h : Dispatched setup sh n i now o) (hi : sh.instances.lookup n = some i)
    (hrouted : RoutedAt config sh n) : RoutedAt config o.shared n := by
  cases h with
  | buildTimedOut startedAt queueUrl message hstate hlate => exact hrouted.setState hi rfl
  | startTimedOut deploymentName address port startedAt message hstate hlate =>
      exact hrouted.setState hi rfl
  | failed reason hstate => exact hrouted.untrack rfl rfl rfl
  | _ => exact hrouted

theorem routedAt_handleStartingChecked {config : KubernetesConfig}
    (commitHash commitHashShort deploymentName address : String) (port : UInt16)
    (call : KubeCall Deployment) (hrouted : RoutedAt config sh n) :
    RoutedAt config (handleStartingChecked sh n commitHash commitHashShort deploymentName address
      port call).shared n := by
  simp only [handleStartingChecked]
  split <;> exact hrouted

/-- The new service of a PR without a backend: the address of the new state is that of the
service. -/
theorem routedAt_createServiceCreated {answer : Except KubeError Service} {now : Instant}
    (hi : sh.instances.lookup n = some i) (hnone : backendOf sh n = none)
    (hrouted : RoutedAt setup.kubernetes sh n) :
    RoutedAt setup.kubernetes (createServiceCreated setup sh n answer now).shared n := by
  simp only [createServiceCreated]
  cases answer with
  | error e => exact hrouted.setState hi rfl
  | ok svc =>
      have hset := fun state => @Shared.lookup_setState
        { sh with services := sh.services.insert (deploymentName n) svc.firstNodePort } n i hi state
      cases hport : svc.firstNodePort with
      | none =>
          simp only [hport] at hset ⊢
          refine .of_none hnone ?_
          intro i' hi'
          simp only [serviceFailed] at hi'
          rw [hset] at hi'
          cases hi'
          rfl
      | some nodePort =>
          simp only [hport] at hset ⊢
          refine ⟨?_, ?_⟩
          · intro b hb
            have hb' : backendOf sh n = some b := hb
            rw [hnone] at hb'
            cases hb'
          · intro i' e hi' he
            rw [hset] at hi'
            cases hi'
            cases he
            exact ⟨rfl, nodePort, AList.lookup_insert _, rfl⟩

/-- A backend is registered at the address of the state, also if the loop panics after it. -/
theorem routedAt_handleStartingRegistered
    {commitHash commitHashShort deploymentName address : String} {port : UInt16}
    {now readyAt : Instant} (hi : sh.instances.lookup n = some i)
    (htarget : i.state.target = some (address, port)) (hrouted : RoutedAt setup.kubernetes sh n) :
    RoutedAt setup.kubernetes (handleStartingRegistered setup sh n commitHash commitHashShort
      deploymentName address port now readyAt).shared n := by
  have hlive := hrouted.instance_ i (address, port) hi htarget
  have hbackend : ∀ sh' : Shared,
      sh'.backends = K8sManager.registerBackend sh.backends n address port →
        sh'.services = sh.services → ∀ b, backendOf sh' n = some b →
          LiveBackend setup.kubernetes sh' n b := by
    intro sh' hback hsvc b hb
    rw [backendOf_registerBackend hback, if_pos rfl] at hb
    cases hb
    exact ⟨rfl, hlive.congr (by rw [hsvc])⟩
  simp only [handleStartingRegistered]
  split
  · exact ⟨hbackend _ rfl rfl, fun i' e hi' he => hrouted.instance_ i' e hi' he⟩
  · refine ⟨hbackend _ rfl rfl, ?_⟩
    intro i' e hi' he
    have hset := fun state => @Shared.lookup_setState
      { sh with backends := K8sManager.registerBackend sh.backends n address port } n i hi state
    dsimp only at hi'
    rw [hset] at hi'
    cases hi'
    cases he
    exact hlive

/-- A PR without a backend and in a state without an address is removed, whatever happens to its
service. -/
theorem routedAt_removed {sh' : Shared} (hnone : backendOf sh n = none)
    (hback : sh'.backends = sh.backends)
    (hinst : sh'.instances = K8sManager.removeInstance sh.instances n) :
    RoutedAt setup.kubernetes sh' n := by
  refine .of_none (by rw [backendOf, hback]; exact hnone) ?_
  intro i hi
  rw [hinst, K8sManager.lookup_removeInstance, if_pos rfl] at hi
  cases hi

/-- The service of a PR without a backend is deleted, and the PR is removed. -/
theorem routedAt_deleteInstanceService {answer : Except KubeError Unit}
    (hnone : backendOf sh n = none) :
    RoutedAt setup.kubernetes (deleteInstanceService sh n answer).shared n := by
  simp only [deleteInstanceService]
  cases answer with
  | ok u =>
      exact routedAt_removed hnone (by simp [untracked, Shared.untrack])
        (by simp [untracked, Shared.untrack])
  | error e =>
      dsimp only
      split
      · exact routedAt_removed hnone (by simp [untracked, Shared.untrack])
          (by simp [untracked, Shared.untrack])
      · exact routedAt_removed hnone (by simp [cleanUpFailed, untracked, Shared.untrack])
          (by simp [cleanUpFailed, untracked, Shared.untrack])

/-- The service of a PR is deleted and created only while its state has no address, so that it has
no backend; the address of a new state is that of the service that was created for it, and a
backend is registered at the address of the state. -/
theorem routedAt_of_resumed {pc : HandlerPc} {answer : Answer}
    (h : Resumed setup sh n pc answer o) (hi : sh.instances.lookup n = some i)
    (hpc : PcMatches i pc) (hagrees : backendOf sh n = expectedBackend sh n)
    (hrouted : RoutedAt setup.kubernetes sh n) : RoutedAt setup.kubernetes o.shared n := by
  have hunrouted := fun htarget => backendOf_eq_none_of_target hagrees hi htarget
  cases h with
  | buildUrl commitHashShort queueUrl answer =>
      simp only [handleBuildingUrl]
      split <;> exact hrouted
  | buildStatus commitHashShort queueUrl buildUrl answer =>
      simp only [handleBuildingStatus]
      split
      · exact hrouted.setState hi rfl
      · exact hrouted.setState hi rfl
      · exact hrouted
      · exact hrouted
      · exact hrouted.setState hi rfl
      · exact hrouted
  | noDeploymentClient imageTag hclient => exact hrouted.setState hi rfl
  | deploymentDeleted imageTag answer =>
      cases answer with
      | ok u => exact hrouted.congr rfl rfl rfl
      | error e =>
          exact hrouted.congr (by simp [createDeploymentDeleted])
            (by simp [createDeploymentDeleted, backendOf]) (by simp [createDeploymentDeleted])
  | settled imageTag => exact hrouted
  | deploymentCreated imageTag answer =>
      cases answer with
      | ok u => exact hrouted.congr rfl rfl rfl
      | error e => exact hrouted.setState hi rfl
  | noServiceClient hclient => exact hrouted.setState hi rfl
  | serviceDeleted answer =>
      obtain ⟨imageTag, hstate⟩ := hpc
      -- a deploying PR has no backend that the delete could leave dangling
      have hnone := hunrouted (by rw [hstate]; rfl)
      refine .of_none (by simpa [createServiceDeleted, backendOf] using hnone) ?_
      intro i' hi'
      simp only [createServiceDeleted, Shared.afterDeleteService_eq, instances_withClient] at hi'
      rw [hi] at hi'
      cases hi'
      rw [hstate]
      rfl
  | serviceCreated answer now =>
      obtain ⟨imageTag, hstate⟩ := hpc
      exact routedAt_createServiceCreated hi (hunrouted (by rw [hstate]; rfl)) hrouted
  | noReadinessClient commitHash commitHashShort deploymentName address port hclient =>
      exact routedAt_handleStartingChecked _ _ _ _ _ _ hrouted
  | readinessChecked commitHash commitHashShort deploymentName address port answer =>
      exact routedAt_handleStartingChecked _ _ _ _ _ _ (hrouted.congr rfl rfl rfl)
  | registered commitHash commitHashShort deploymentName address port now readyAt =>
      obtain ⟨-, -, startedAt, hstate⟩ := hpc
      exact routedAt_handleStartingRegistered hi (by rw [hstate]; rfl) hrouted
  | persisted commitHash commitHashShort answer =>
      cases answer with
      | ok now => exact hrouted.congr rfl rfl rfl
      | error e => exact hrouted
  | unregistered deploymentName now readyAt =>
      refine .of_none ?_ ?_
      · exact (backendOf_unregisterBackend rfl n).trans (if_pos rfl)
      · intro i' hi'
        have hset := @Shared.lookup_setState
          { sh with backends := K8sManager.unregisterBackend sh.backends n } n i hi
            (.shuttingDown deploymentName)
        simp only [handleReadyUnregistered] at hi'
        rw [hset] at hi'
        cases hi'
        rfl
  | noTearDownClient hclient => exact hrouted.untrack rfl rfl rfl
  | deploymentTornDown answer =>
      simp only [deleteInstanceDeployment]
      cases answer with
      | ok u => exact hrouted.congr (by simp) (by simp [backendOf]) (by simp)
      | error e =>
          dsimp only
          split
          · exact hrouted.congr (by simp) (by simp [backendOf]) (by simp)
          · exact hrouted.untrack (by simp [cleanUpFailed, untracked, Shared.untrack])
              (by simp [cleanUpFailed, untracked, Shared.untrack])
              (by simp [cleanUpFailed, untracked, Shared.untrack])
  | serviceTornDown answer =>
      obtain ⟨name, hstate⟩ := hpc
      -- the backend was unregistered before the PR began to shut down
      exact routedAt_deleteInstanceService (hunrouted (by rw [hstate]; rfl))

end Pieces

/-! ## Steps -/

/-- The routes of all PRs, and the registry agrees with the tracked instances until the loop
dies. -/
structure Routed (setup : Setup) (w : World) : Prop where
  coherent : Coherent w
  agrees : w.loop ≠ .panicked → Agrees w.shared
  routes : ∀ n, RoutedAt setup.kubernetes w.shared n

section Steps

variable {setup : Setup} {w w' : World} {label : Label} {t : List Event}

/-- A `start_pr` call tracks a PR in a state without an address. -/
theorem stepped_target {sh : Shared} {id : Nat} {call : StartCall} {label : StartLabel}
    {o : StartPr.Outcome} (h : StartPr.Stepped setup sh id call label o) :
    o.shared.instances = sh.instances ∨
      ∃ n i, o.shared.instances = sh.instances.insert n i ∧ i.state.target = none := by
  cases h with
  | cached n commitHash commitHashShort => exact Or.inr ⟨n, _, rfl, rfl⟩
  | queued n commitHash commitHashShort queueUrl answer now => exact Or.inr ⟨n, _, rfl, rfl⟩
  | _ => exact Or.inl rfl

/-- A loop that goes on keeps the agreement. -/
theorem agrees_of_goesOn (hcoh : Coherent w) (hbefore : w.loop ≠ .panicked → Agrees w.shared)
    (hstep : step setup w label = some (w', t)) (hloop : w'.loop ≠ .panicked) :
    Agrees w'.shared := by
  have hrunning : w.loop ≠ .panicked := by
    intro hpanicked
    cases label with
    | start id label =>
        obtain ⟨o, -, rfl, -⟩ := step_start_iff.1 hstep
        exact hloop hpanicked
    | tick snapshot =>
        obtain ⟨hwaiting, -⟩ := step_tick_iff.1 hstep
        rw [hpanicked] at hwaiting
        cases hwaiting
    | advance now =>
        rcases step_advance_iff.1 hstep with ⟨hnext, -⟩ | ⟨n, i, rest, hnext, -⟩
        · rw [hpanicked] at hnext
          cases hnext
        · rw [hpanicked] at hnext
          cases hnext
    | resume answer =>
        obtain ⟨n, pc, rest, o, hnext, -⟩ := step_resume_iff.1 hstep
        rw [hpanicked] at hnext
        cases hnext
  refine agrees_step hcoh (hbefore hrunning) ?_ hstep
  -- an overflow of the shutdown time is the panic
  cases label with
  | resume answer =>
      intro n pc rest hrun hoverflow
      obtain ⟨m, pc', rest', o, hrun', ho, rfl, -⟩ := step_resume_iff.1 hstep
      rw [hrun] at hrun'
      cases hrun'
      apply hloop
      cases resumed_of_resume ho with
      | registered commitHash commitHashShort deploymentName address port now readyAt =>
          simp only [handleStartingRegistered, show now.addSecs _ = none from hoverflow]
          rfl
      | _ => exact absurd hoverflow id
  | _ => trivial

theorem routed_step (h : Routed setup w) (hno : NoOverlap w label)
    (hstep : step setup w label = some (w', t)) : Routed setup w' := by
  refine ⟨coherent_step h.coherent hno hstep,
    agrees_of_goesOn h.coherent h.agrees hstep, ?_⟩
  intro k
  have hk := h.routes k
  cases label with
  | start id label =>
      obtain ⟨o, ho, rfl, -⟩ := step_start_iff.1 hstep
      have hstepped := StartPr.stepped_of_step ho
      have hsvc : o.shared.services = w.shared.services := by rw [stepped_shared hstepped]
      have hback := (stepped_endpoints hstepped).1
      rcases stepped_target hstepped with hinst | ⟨n, i, hinst, htarget⟩
      · exact hk.congr (by rw [hinst]) (by simp only [backendOf, hback]) (by rw [hsvc])
      · by_cases hkn : k = n
        · subst hkn
          -- the PR that the call starts has no address yet
          refine hk.of_state (by simp only [backendOf, hback]) (by rw [hsvc]) ?_
          intro i' hi'
          have hlookup : o.shared.instances.lookup k = some i := by
            rw [hinst, AList.lookup_insert]
          cases hlookup.symm.trans hi'
          exact htarget
        · refine hk.congr ?_ (by simp only [backendOf, hback]) (by rw [hsvc])
          simp only [hinst, AList.lookup_insert_ne hkn]
  | tick snapshot =>
      obtain ⟨-, -, rfl, -⟩ := step_tick_iff.1 hstep
      exact hk
  | advance now =>
      rcases step_advance_iff.1 hstep with ⟨-, rfl, -⟩ | ⟨n, i, rest, hloop, rfl, -⟩
      · exact hk
      · have hdispatched := dispatched_dispatch setup w.shared n i now
        have hi := h.coherent.lookup_next hloop
        by_cases hkn : k = n
        · subst hkn
          exact routedAt_of_dispatched hdispatched hi hk
        · refine hk.congr ((instanceEffect_of_dispatched hdispatched).lookup_of_ne hkn) ?_ ?_
          · exact (endpointEffect_of_dispatched hdispatched).backendOf_of_ne hkn
          · rw [(dispatched_shared hdispatched).2.1]
  | resume answer =>
      obtain ⟨n, pc, rest, o, hloop, ho, rfl, -⟩ := step_resume_iff.1 hstep
      obtain ⟨i, hi, hpc⟩ := h.coherent.lookup_running hloop
      have hresumed := resumed_of_resume ho
      have hagrees := h.agrees (by rw [hloop]; simp)
      by_cases hkn : k = n
      · subst hkn
        exact routedAt_of_resumed hresumed hi hpc (hagrees k) hk
      · refine hk.congr ((instanceEffect_of_resumed hresumed).lookup_of_ne hkn) ?_ ?_
        · exact (endpointEffect_of_resumed hresumed hpc).backendOf_of_ne hkn
        · exact (clusterFrame_of_resumed hresumed).services k hkn

end Steps

end Lifecycle

/-! ## Recovery -/

namespace Restarts

/-- A service that Kubernetes reports while a row is recovered is the one that the PR has in the
cluster. -/
def TruthfulService (r : Recovery) (build : PrBuild) (answers : RowAnswers) : Prop :=
  ∀ svc, answers.service = .ok svc →
    r.shared.services.lookup (deploymentName (prNumberAsU32 build.prNumber)) =
      some svc.firstNodePort

/-- The routes of all PRs while the process recovers. -/
structure RecoversRouted (setup : Setup) (sh : Shared) : Prop where
  agrees : Lifecycle.Agrees sh
  routes : ∀ n, Lifecycle.RoutedAt setup.kubernetes sh n

theorem recoversRouted_startUp (setup : Setup) (staticBackends : KeyedMap String BackendServer)
    (d : Durable) : RecoversRouted setup (d.startUp staticBackends) where
  agrees := Lifecycle.agrees_startUp staticBackends d.builds d.deployments d.services
  routes n := .of_none rfl (fun i hi => by cases hi)

theorem recoversRouted_row {setup : Setup} {r r' : Recovery} {build : PrBuild}
    {answers : RowAnswers} (h : RecoversRouted setup r.shared)
    (htruthful : TruthfulService r build answers)
    (hrow : Recovery.recoverBuild setup.kubernetes answers r build = some r') :
    RecoversRouted setup r'.shared := by
  refine ⟨Lifecycle.agrees_recoverBuild h.agrees hrow, ?_⟩
  intro n
  cases Recovery.recovered_of_recoverBuild hrow with
  | ready deployment svc nodePort hcall hready hservice hport hrecover =>
      obtain ⟨shutdownAt, -, rfl⟩ := Recovery.recoverReady_eq_some_iff.1 hrecover
      by_cases hn : n = prNumberAsU32 build.prNumber
      · subst hn
        -- what Kubernetes reported is what the cluster has
        have hlookup := htruthful svc hservice
        rw [hport] at hlookup
        refine ⟨?_, ?_⟩
        · intro b hb
          rw [Lifecycle.backendOf_registerBackend rfl, if_pos rfl] at hb
          cases hb
          exact ⟨rfl, rfl, nodePort, hlookup, rfl⟩
        · intro i e hi he
          rw [AList.lookup_insert] at hi
          cases hi
          cases he
          exact ⟨rfl, nodePort, hlookup, rfl⟩
      · refine (h.routes n).congr (AList.lookup_insert_ne hn) ?_ rfl
        exact (Lifecycle.backendOf_registerBackend rfl n).trans (if_neg hn)
  | deferred deployment hcall hready => exact (h.routes n).congr rfl rfl rfl
  | removed hreport =>
      simp only [Recovery.deleteBuild]
      split <;> exact (h.routes n).congr rfl rfl rfl

/-! ## Runs -/

theorem phases_routed {setup : Setup} {staticBackends : KeyedMap String BackendServer}
    {d : Durable} {labels : List RestartLabel} {s : Restarts} {tr : List Event}
    (hmeets : (system setup staticBackends).Meets
      (Condition Lifecycle.NoOverlap TruthfulService) (start staticBackends d) labels)
    (hrun : (system setup staticBackends).exec (start staticBackends d) labels = some (s, tr)) :
    Phases (fun _ => True) (RecoversRouted setup) (Lifecycle.Routed setup) s := by
  refine exec_phases (fun d _ => recoversRouted_startUp setup staticBackends d)
    (fun _ _ => trivial) (fun _ _ => trivial) ?_ ?_ ?_ trivial hmeets hrun
  · intro r build answers r' h htruthful hrow
    exact recoversRouted_row h htruthful hrow
  · intro sh h
    exact ⟨Lifecycle.coherent_of_fresh (Lifecycle.fresh_started sh), fun _ => h.agrees,
      h.routes⟩
  · intro w label w' t h hno hstep
    exact Lifecycle.routed_step h hno hstep

/-- In every run across restarts in which calls of one PR do not overlap and the recoveries read
the services that are there, a registered backend of a PR is at the node address and at the
NodePort of the service that the PR has in the cluster now. -/
theorem routes_are_live (setup : Setup) (staticBackends : KeyedMap String BackendServer)
    (d : Durable) (labels : List RestartLabel) (s : Restarts) (tr : List Event)
    (hmeets : (system setup staticBackends).Meets
      (Condition Lifecycle.NoOverlap TruthfulService) (start staticBackends d) labels)
    (hrun : (system setup staticBackends).exec (start staticBackends d) labels = some (s, tr)) :
    ∀ sh, s.process.shared = some sh → ∀ n b, Lifecycle.backendOf sh n = some b →
      b.address = setup.kubernetes.nodeAddress ∧ ∃ nodePort,
        sh.services.lookup (deploymentName n) = some (some nodePort) ∧
          b.port = nodePortAsU16 nodePort := by
  have hphases := phases_routed hmeets hrun
  intro sh hsh n b hb
  cases hp : s.process with
  | loading sh' =>
      rw [hp] at hsh
      cases hsh
      exact (((hphases.loading sh hp).routes n).backend b hb).endpoint
  | recovering r rest =>
      rw [hp] at hsh
      cases hsh
      exact (((hphases.recovering r rest hp).routes n).backend b hb).endpoint
  | running w =>
      rw [hp] at hsh
      cases hsh
      exact (((hphases.running w hp).routes n).backend b hb).endpoint
  | panicked =>
      rw [hp] at hsh
      cases hsh

/-- The condition of these runs, for the calls numbered below `k` alone. -/
def CheckedBelow (k : Nat) (s : Restarts) : RestartLabel → Prop
  | .process (.step label) =>
      match s.process with
      | .running w => Lifecycle.ApartBelow k w label
      | _ => True
  | .process (.recover answers) =>
      match s.process with
      | .recovering r (build :: _) => TruthfulService r build answers
      | _ => True
  | _ => True

instance (r : Recovery) (build : PrBuild) (answers : RowAnswers) :
    Decidable (TruthfulService r build answers) :=
  match h : answers.service with
  | .error _ => isTrue (by intro svc hsvc; rw [h] at hsvc; cases hsvc)
  | .ok svc =>
      decidable_of_iff (r.shared.services.lookup (deploymentName (prNumberAsU32 build.prNumber)) =
        some svc.firstNodePort) (by simp [TruthfulService, h])

instance (k : Nat) (s : Restarts) (label : RestartLabel) : Decidable (CheckedBelow k s label) :=
  match label with
  | .process (.step label) =>
      match h : s.process with
      | .running w =>
          decidable_of_iff (Lifecycle.ApartBelow k w label) (by simp [CheckedBelow, h])
      | .loading _ => isTrue (by simp [CheckedBelow, h])
      | .recovering _ _ => isTrue (by simp [CheckedBelow, h])
      | .panicked => isTrue (by simp [CheckedBelow, h])
  | .process (.recover answers) =>
      match h : s.process with
      | .recovering r (build :: _) =>
          decidable_of_iff (TruthfulService r build answers) (by simp [CheckedBelow, h])
      | .recovering _ [] => isTrue (by simp [CheckedBelow, h])
      | .loading _ => isTrue (by simp [CheckedBelow, h])
      | .running _ => isTrue (by simp [CheckedBelow, h])
      | .panicked => isTrue (by simp [CheckedBelow, h])
  | .process (.load _) => isTrue trivial
  | .process .spawn => isTrue trivial
  | .restart _ => isTrue trivial

/-- In a run with finitely many calls, the condition is a check of these. -/
theorem condition_of_checkedBelow {setup : Setup} {staticBackends : KeyedMap String BackendServer}
    {d : Durable} {labels : List RestartLabel} {k : Nat}
    (h : (system setup staticBackends).Meets (CheckedBelow k) (start staticBackends d) labels) :
    (system setup staticBackends).Meets (Condition Lifecycle.NoOverlap TruthfulService)
      (start staticBackends d) labels := by
  refine @System.Meets.mono_of_invariant _ _ _ (system setup staticBackends) (CheckedBelow k) _
    (fun s => ∀ w, s.process = .running w → ∀ id, k ≤ id → w.calls id = .idle) ?_ ?_ _ _
    (by rintro w ⟨⟩) h
  · rintro ⟨p, durable⟩ label hidle hchecked
    cases label with
    | process label =>
        cases label with
        | step label =>
            rintro w rfl
            exact Lifecycle.noOverlap_of_apart (hidle w rfl) hchecked
        | recover answers =>
            rintro r build rest rfl
            exact hchecked
        | _ => trivial
    | restart landed =>
        cases landed with
        | none => trivial
        | some answer => exact fun _ _ => trivial
  · rintro ⟨p, durable⟩ label s' t hidle hchecked hstep
    cases label with
    | process label =>
        obtain ⟨⟨p', t'⟩, hp, heq⟩ := Option.map_eq_some_iff.1 hstep
        cases heq
        cases Process.stepped_of_step hp with
        | loaded sh error =>
            cases error with
            | some e =>
                rintro w ⟨⟩ id -
                rfl
            | none => rintro w ⟨⟩
        | recovered r build rest answers =>
            cases Recovery.recoverBuild setup.kubernetes answers r build <;> rintro w ⟨⟩
        | spawned r =>
            rintro w ⟨⟩ id -
            rfl
        | stepped w₀ w label t hw =>
            rintro _ ⟨⟩
            exact Lifecycle.idle_step (hidle w₀ rfl) hchecked hw
    | restart landed =>
        -- a started process serves no calls yet
        cases landed with
        | none =>
            cases hstep
            rintro w ⟨⟩
        | some answer =>
            obtain ⟨d', -, heq⟩ := Option.map_eq_some_iff.1 hstep
            cases heq
            rintro w ⟨⟩

/-! ### A run with a restart -/

/-- What an earlier process left of PR 7: its row, and a deployment whose pod is not ready. -/
def leftSample : Durable :=
  ⟨sampleBuilds, AList.insert "steel-pr-7" "localhost:5000/steel/steel-server:pr-7-0123456" ∅, ∅⟩

/-- The pod of the row is not ready. -/
def pendingAnswers : RowAnswers :=
  { Lifecycle.readyAnswers with
    deployment := .ok ⟨some 0⟩
    service := .error ⟨some 404, "not found"⟩ }

/-- Steps of the loop and the calls. -/
def stepsOf (labels : List Label) : List RestartLabel :=
  labels.map fun label => .process (.step label)

/-- The process recovers nothing, and PR 7 is started from its cached build, up to the creation of
its service. -/
def deploySample (deleted : Except KubeError Unit) : List RestartLabel :=
  [.process (.load none), .process (.recover pendingAnswers), .process .spawn] ++
    stepsOf (Lifecycle.sampleChecks 0 7 "0123456789abcdef" ++
      [.tick [(7, .newDeploying 7 "0123456789abcdef" "0123456" "pr-7-0123456")], .advance ⟨0⟩,
        .resume (.deleted (.ok ())), .resume .slept, .resume (.deploymentCreated (.ok ())),
        .resume (.deleted deleted)])

/-- Kubernetes creates the service at this NodePort. -/
def createdAt (nodePort : Int32) : Answer :=
  .serviceCreated (.ok ⟨some (some [⟨some nodePort⟩])⟩) ⟨0⟩

/-- PR 7 once its second service is there. -/
def startingSample : PrInstance :=
  ⟨7, "0123456789abcdef", "0123456", .starting "steel-pr-7" "127.0.0.1" 30008 ⟨0⟩⟩

/-- The process ends before it sees that the service was created. The next process replaces the
service by one with another NodePort, and the loop registers PR 7 there. -/
def redeploySample : List RestartLabel :=
  deploySample (.error ⟨some 404, "not found"⟩) ++ [.restart (some (createdAt 30007))] ++
    deploySample (.ok ()) ++
    stepsOf ([.resume (createdAt 30008), .advance ⟨0⟩, .tick [(7, startingSample)]] ++
      Lifecycle.sampleRegister ++
      [.resume (.persisted (.ok "2026-01-02 00:00:00")), .advance ⟨0⟩])

/-- What this run leaves. -/
def redeployedSample : Durable where
  builds := sampleBuilds.upsert 7 "0123456789abcdef" "0123456" "pr-7-0123456" "Ready" none
    "2026-01-02 00:00:00"
  deployments :=
    AList.insert "steel-pr-7" "localhost:5000/steel/steel-server:pr-7-0123456" ∅
  services := AList.insert "steel-pr-7" (some 30008) ∅

/-- The backend that the loop registers. -/
def redeployedBackend : BackendServer := ⟨"127.0.0.1", 30008, some "PR #7"⟩

/-- The process serves PR 7 at the end of this run. -/
def servesRedeployed : Process → Bool
  | .running w =>
      decide (w.shared.builds = redeployedSample.builds ∧
        w.shared.deployments.entries = redeployedSample.deployments.entries ∧
        w.shared.services.entries = redeployedSample.services.entries ∧
        Lifecycle.backendOf w.shared 7 = some redeployedBackend)
  | _ => false

theorem exec_redeploySample :
    ∃ s tr w, (system Lifecycle.sampleSetup ∅).exec (start ∅ leftSample) redeploySample =
        some (s, tr) ∧
      s.process = .running w ∧ w.shared.durable = redeployedSample ∧
      Lifecycle.backendOf w.shared 7 = some redeployedBackend := by
  have hserves : ((system Lifecycle.sampleSetup ∅).exec (start ∅ leftSample) redeploySample).any
      (fun result => servesRedeployed result.1.process) = true := by decide +kernel
  obtain ⟨⟨s, tr⟩, hrun, hprocess⟩ := (Option.any_eq_true _ _).1 hserves
  cases hp : s.process with
  | running w =>
      rw [hp, servesRedeployed, decide_eq_true_iff] at hprocess
      obtain ⟨hbuilds, hdeployments, hservices, hbackend⟩ := hprocess
      refine ⟨s, tr, w, hrun, hp, ?_, hbackend⟩
      rw [Shared.durable, hbuilds, AList.ext hdeployments, AList.ext hservices]
  | _ =>
      rw [hp] at hprocess
      cases hprocess

theorem meets_redeploySample : (system Lifecycle.sampleSetup ∅).Meets
    (Condition Lifecycle.NoOverlap TruthfulService) (start ∅ leftSample) redeploySample :=
  condition_of_checkedBelow (k := 1) (by decide +kernel)

/-- The backend of PR 7 is at the NodePort of its second service. -/
theorem routes_are_live_redeploySample :
    ∃ s tr sh, (system Lifecycle.sampleSetup ∅).exec (start ∅ leftSample) redeploySample =
        some (s, tr) ∧
      s.process.shared = some sh ∧ Lifecycle.backendOf sh 7 = some redeployedBackend ∧
      ∃ nodePort, sh.services.lookup (deploymentName 7) = some (some nodePort) ∧
        redeployedBackend.port = nodePortAsU16 nodePort := by
  obtain ⟨s, tr, w, hrun, hrunning, -, hbackend⟩ := exec_redeploySample
  have hshared : s.process.shared = some w.shared := by rw [hrunning, Process.shared]
  exact ⟨s, tr, w.shared, hrun, hshared, hbackend, (routes_are_live Lifecycle.sampleSetup ∅
    leftSample redeploySample s tr meets_redeploySample hrun w.shared hshared 7 redeployedBackend
      hbackend).2⟩

/-- The cluster that Kubernetes reports has the services that the proxy left. -/
def Reports (c : Recovery.Cluster) (sh : Shared) : Prop :=
  ∀ n, c.nodePort n = (sh.services.lookup (deploymentName n)).join

/-- A restart after any run across restarts keeps the route to a PR whose row is stored and whose
pod is still ready: a recovery that Kubernetes answers truthfully registers the same backend. -/
theorem restart_keeps_route (setup : Setup) (staticBackends : KeyedMap String BackendServer)
    (d : Durable) (labels : List RestartLabel) (s : Restarts) (tr : List Event) (w : World)
    (hmeets : (system setup staticBackends).Meets
      (Condition Lifecycle.NoOverlap TruthfulService) (start staticBackends d) labels)
    (hrun : (system setup staticBackends).exec (start staticBackends d) labels = some (s, tr))
    (hrunning : s.process = .running w) (c : Recovery.Cluster) (message : String)
    (answers : PrBuild → RowAnswers) (sh : Shared) (count : Nat)
    (hreports : Reports c w.shared)
    (hrec : Recovery.recoverFromDb setup.kubernetes none (c.truthfully message answers)
      (w.shared.durable.startUp staticBackends) = some (sh, .ok count))
    (n : UInt32) (b : BackendServer) (hb : Lifecycle.backendOf w.shared n = some b)
    (hrow : ∃ row ∈ w.shared.builds.getActiveBuilds, Recovery.prOf row = n)
    (hready : ∃ deployment, c.deployments (deploymentName n) = some deployment ∧
      deployment.isReady = true) : Lifecycle.backendOf sh n = some b := by
  obtain ⟨hdescribed, haddress, nodePort, hlookup, hport⟩ :=
    (((phases_routed hmeets hrun).running w hrunning).routes n).backend b hb
  have hnodePort : c.nodePort n = some nodePort := by rw [hreports n, hlookup, Option.join_some]
  have hruns : c.runs n = true := by
    obtain ⟨deployment, hdeployment, hisReady⟩ := hready
    exact Recovery.runs_iff.2 ⟨deployment, nodePort, hdeployment, hisReady, hnodePort⟩
  simp only [Recovery.recoverFromDb, Option.map_eq_some_iff, Prod.mk.injEq, Except.ok.injEq] at hrec
  obtain ⟨⟨r, t⟩, hloop, rfl, -⟩ := hrec
  have hprogress := (Recovery.progress_startUp setup.kubernetes c staticBackends
    w.shared.builds w.shared.deployments w.shared.services).exec hloop
  -- the row of the PR is among those that the loop recovers
  have hmem : n ∈ [] ++ Recovery.runningPrs c w.shared.builds.getActiveBuilds := by
    obtain ⟨row, hactive, hn⟩ := hrow
    exact List.mem_filter.2 ⟨List.mem_map.2 ⟨row, hactive, hn⟩, hruns⟩
  obtain ⟨nodePort', hnodePort', -, hregistered⟩ := hprogress.serves n hmem
  rw [hnodePort] at hnodePort'
  cases hnodePort'
  rw [Lifecycle.backendOf, hregistered]
  obtain ⟨address, port, description⟩ := b
  cases haddress
  cases hport
  cases hdescribed
  rfl

/-- The cluster with the pod of PR 7 ready behind NodePort 30008. -/
def servingCluster : Recovery.Cluster where
  deployments := fun name => if name = "steel-pr-7" then some ⟨some 1⟩ else none
  services := fun name => if name = "steel-pr-7" then some ⟨some (some [⟨some 30008⟩])⟩ else none

theorem reports_servingCluster {sh : Shared} (h : sh.durable = redeployedSample) :
    Reports servingCluster sh := by
  intro n
  have hlookup : sh.services.lookup (deploymentName n) =
      if deploymentName n = "steel-pr-7" then some (some 30008) else none := by
    rw [show sh.services = redeployedSample.services from congrArg Durable.services h]
    exact KeyedMap.lookup_insert_ite ∅ "steel-pr-7" (deploymentName n) (some 30008)
  rw [hlookup, Recovery.Cluster.nodePort]
  by_cases hn : deploymentName n = "steel-pr-7"
  · rw [if_pos hn, hn]
    rfl
  · simp [servingCluster, hn]

/-- A crash of the process that serves PR 7 keeps its route. -/
theorem restart_keeps_route_redeploySample :
    ∃ s tr w sh, (system Lifecycle.sampleSetup ∅).exec (start ∅ leftSample) redeploySample =
        some (s, tr) ∧
      s.process = .running w ∧
      Recovery.recoverFromDb Lifecycle.sampleSetup.kubernetes none
        (servingCluster.truthfully "not found" (fun _ => Lifecycle.readyAnswers))
        (w.shared.durable.startUp ∅) = some (sh, .ok 1) ∧
      Lifecycle.backendOf sh 7 = some redeployedBackend := by
  obtain ⟨s, tr, w, hrun, hrunning, hdurable, hbackend⟩ := exec_redeploySample
  have hrecovers : ∃ sh, Recovery.recoverFromDb Lifecycle.sampleSetup.kubernetes none
      (servingCluster.truthfully "not found" (fun _ => Lifecycle.readyAnswers))
      (redeployedSample.startUp ∅) = some (sh, .ok 1) := ⟨_, rfl⟩
  obtain ⟨sh, hrec⟩ := hrecovers
  rw [← hdurable] at hrec
  have hrow : ∃ row ∈ w.shared.builds.getActiveBuilds, Recovery.prOf row = 7 := by
    rw [show w.shared.builds = redeployedSample.builds from congrArg Durable.builds hdurable]
    decide +kernel
  refine ⟨s, tr, w, sh, hrun, hrunning, hrec, ?_⟩
  exact restart_keeps_route Lifecycle.sampleSetup ∅ leftSample redeploySample s tr w
    meets_redeploySample hrun hrunning servingCluster "not found"
    (fun _ => Lifecycle.readyAnswers) sh 1 (reports_servingCluster hdurable) hrec 7
    redeployedBackend hbackend hrow ⟨⟨some 1⟩, rfl, rfl⟩

end Restarts

end SteelProxy
