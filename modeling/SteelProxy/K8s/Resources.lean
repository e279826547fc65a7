import SteelProxy.K8s.ClusterEffects
import SteelProxy.K8s.Coherence

/-!
# Every deployment and service has a tracked owner

The deployment and the service of a PR are created by two calls inside one handler, and they are
deleted by the handler of `ShuttingDown`. The other two ways of leaving the tracked instances,
`Failed` and a failed clean-up, delete nothing. So a PR with objects in the cluster has to be in
`Starting`, `Ready` or `ShuttingDown`, or between the two creating calls (`Owned`). This holds as
long as every service is created with a NodePort; `service_failure_leaks` is what happens to the
deployment otherwise.
-/

set_option autoImplicit false

namespace SteelProxy.Lifecycle

open SteelProxy.Library SteelProxy.Library.Transition

/-- The deployment or the service of PR `n` exists in the cluster. -/
def HasResources (sh : Shared) (n : UInt32) : Prop :=
  (sh.deployments.lookup (deploymentName n)).isSome = true ∨
    (sh.services.lookup (deploymentName n)).isSome = true

/-- The states from which an instance leaves only through the delete calls. -/
def MayOwn : InstanceState → Prop
  | .starting _ _ _ _ => True
  | .ready _ _ _ _ _ => True
  | .shuttingDown _ => True
  | _ => False

/-- The awaits of `handle_deploying` after the deployment was created. -/
def Creating : HandlerPc → Prop
  | .deleteService => True
  | .createService => True
  | _ => False

/-- The awaits that come after a Kubernetes call of the same handler. -/
def HasClient : HandlerPc → Prop
  | .settle _ => True
  | .createDeployment _ => True
  | .deleteService => True
  | .createService => True
  | .tearDownService => True
  | _ => False

/-- The objects of PR `n` have an owner; `pc` is the await of the handler of `n`, if it is
running. -/
structure Owned (sh : Shared) (n : UInt32) (pc : Option HandlerPc) : Prop where
  client : HasResources sh n → sh.clientReady = true
  clientAt : ∀ p, pc = some p → HasClient p → sh.clientReady = true
  tornDown : pc = some .tearDownService → sh.deployments.lookup (deploymentName n) = none
  owner : HasResources sh n → ∃ i, sh.instances.lookup n = some i ∧
    (MayOwn i.state ∨ ∃ p, pc = some p ∧ Creating p)

/-- The await at which a piece stops. -/
def flowPc : Flow → Option HandlerPc
  | .await pc => some pc
  | _ => none

/-- The await of the handler of PR `n`. -/
def loopPc (n : UInt32) : LoopState → Option HandlerPc
  | .running m pc _ => if m = n then some pc else none
  | _ => none

section Owned

variable {sh sh' : Shared} {n : UInt32} {i : PrInstance} {pc : Option HandlerPc}

/-- An instance in another state owns nothing. -/
theorem Owned.not_hasResources (h : Owned sh n pc) (hi : sh.instances.lookup n = some i)
    (hstate : ¬ MayOwn i.state) (hpc : ∀ p, pc = some p → ¬ Creating p) : ¬ HasResources sh n := by
  intro hres
  obtain ⟨j, hj, hown⟩ := h.owner hres
  rw [hi, Option.some.injEq] at hj
  subst hj
  rcases hown with hmay | ⟨p, hp, hcreating⟩
  · exact hstate hmay
  · exact hpc p hp hcreating

theorem hasResources_congr (hdep : sh'.deployments = sh.deployments)
    (hsvc : sh'.services = sh.services) (n : UInt32) : HasResources sh' n ↔ HasResources sh n := by
  rw [HasResources, HasResources, hdep, hsvc]

/-- Nothing to own. -/
theorem Owned.of_none (hres : ¬ HasResources sh n)
    (hclient : ∀ p, pc = some p → HasClient p → sh.clientReady = true) : Owned sh n pc where
  client := fun h => absurd h hres
  clientAt := hclient
  tornDown := by
    intro _
    by_contra hdep
    exact hres (Or.inl (Option.isSome_iff_ne_none.2 hdep))
  owner := fun h => absurd h hres

/-- The tracked instance is in a state that may own. -/
theorem Owned.of_mayOwn (hi : sh.instances.lookup n = some i) (hstate : MayOwn i.state)
    (hclient : HasResources sh n → sh.clientReady = true)
    (hpc : ∀ p, pc = some p → ¬ HasClient p) : Owned sh n pc where
  client := hclient
  clientAt := fun p hp hhas => absurd hhas (hpc p hp)
  tornDown := fun hp => absurd trivial (hpc _ hp)
  owner := fun _ => ⟨i, hi, Or.inl hstate⟩

/-- The handler is between its creating calls. -/
theorem Owned.of_creating {p : HandlerPc} (hi : sh.instances.lookup n = some i)
    (hclient : sh.clientReady = true) (hcreating : Creating p) : Owned sh n (some p) where
  client := fun _ => hclient
  clientAt := fun _ _ _ => hclient
  tornDown := by
    intro hp
    cases hp
    exact hcreating.elim
  owner := fun _ => ⟨i, hi, Or.inr ⟨p, rfl, hcreating⟩⟩

/-- A change that does not concern PR `n`. -/
theorem Owned.frame (h : Owned sh n pc)
    (hinst : sh'.instances.lookup n = sh.instances.lookup n)
    (hdep : sh'.deployments.lookup (deploymentName n) = sh.deployments.lookup (deploymentName n))
    (hsvc : sh'.services.lookup (deploymentName n) = sh.services.lookup (deploymentName n))
    (hclient : sh.clientReady = true → sh'.clientReady = true) : Owned sh' n pc := by
  have hres : HasResources sh' n → HasResources sh n := by
    intro hres
    rw [HasResources, hdep, hsvc] at hres
    exact hres
  constructor
  · intro hr
    exact hclient (h.client (hres hr))
  · intro p hp hhas
    exact hclient (h.clientAt p hp hhas)
  · intro hp
    exact hdep.trans (h.tornDown hp)
  · intro hr
    rw [hinst]
    exact h.owner (hres hr)

end Owned

/-! ## Pieces of a handler -/

/-- The answer does not break the assumptions on deletes and services: a delete succeeds or
answers 404. -/
def DeleteSucceeds : Answer → Prop
  | .deleted answer => Shared.isGone answer = true
  | _ => True

/-- A service is created, with a NodePort. -/
def ServiceExposed : Answer → Prop
  | .serviceCreated answer _ => ∃ svc, answer = .ok svc ∧ svc.firstNodePort.isSome = true
  | _ => True

section Pieces

variable {setup : Setup} {sh : Shared} {n : UInt32} {i : PrInstance} {o : Outcome}

theorem clientReady_of_resumed {pc : HandlerPc} {answer : Answer}
    (h : Resumed setup sh n pc answer o) (hclient : sh.clientReady = true) :
    o.shared.clientReady = true := by
  cases h with
  | buildUrl commitHashShort queueUrl answer =>
      simp only [handleBuildingUrl]
      split <;> exact hclient
  | buildStatus commitHashShort queueUrl buildUrl answer =>
      simp only [handleBuildingStatus]
      split <;> exact hclient
  | noDeploymentClient imageTag hnone => exact hclient
  | deploymentDeleted imageTag answer => cases answer <;> simp [createDeploymentDeleted]
  | settled imageTag => exact hclient
  | deploymentCreated imageTag answer => cases answer <;> exact hclient
  | noServiceClient hnone => exact hclient
  | serviceDeleted answer => simp [createServiceDeleted]
  | serviceCreated answer now =>
      simp only [createServiceCreated]
      cases answer with
      | error e => exact hclient
      | ok svc =>
          cases hport : svc.firstNodePort <;>
            · simp only [hport]
              exact hclient
  | noReadinessClient commitHash commitHashShort deploymentName address port hnone =>
      simp only [handleStartingChecked]
      split <;> exact hclient
  | readinessChecked commitHash commitHashShort deploymentName address port answer =>
      simp only [handleStartingChecked]
      split <;> rfl
  | registered commitHash commitHashShort deploymentName address port now readyAt =>
      simp only [handleStartingRegistered]
      split <;> exact hclient
  | persisted commitHash commitHashShort answer =>
      simp only [handleStartingPersisted]
      cases answer <;> exact hclient
  | unregistered deploymentName now readyAt => exact hclient
  | noTearDownClient hnone => exact hclient
  | deploymentTornDown answer =>
      simp only [deleteInstanceDeployment]
      cases answer with
      | ok u => simp
      | error e =>
          dsimp only
          split
          · simp
          · simp [cleanUpFailed, untracked, Shared.untrack]
  | serviceTornDown answer =>
      simp only [deleteInstanceService]
      cases answer with
      | ok u => simpa [untracked, Shared.untrack] using hclient
      | error e =>
          dsimp only
          split <;> simpa [cleanUpFailed, untracked, Shared.untrack] using hclient

/-- No await reached by a dispatch comes after a Kubernetes call. -/
theorem not_hasClient_of_dispatched {now : Instant} {o : Outcome}
    (h : Dispatched setup sh n i now o) {p : HandlerPc} (hp : flowPc o.flow = some p) :
    ¬ HasClient p := by
  cases h with
  | buildTimedOut => cases hp
  | notQueued => cases hp
  | building => cases hp; exact id
  | deploying => cases hp; exact id
  | startTimedOut => cases hp
  | starting => cases hp; exact id
  | expired => cases hp; exact id
  | ready => cases hp
  | shuttingDown => cases hp; exact id
  | failed => cases hp

/-- A dispatch leaves an owning instance in a state that may own. -/
theorem mayOwn_of_dispatched {now : Instant} {o : Outcome} (h : Dispatched setup sh n i now o)
    (hi : sh.instances.lookup n = some i) (hmay : MayOwn i.state) :
    ∃ i', o.shared.instances.lookup n = some i' ∧ MayOwn i'.state := by
  cases h with
  | buildTimedOut startedAt queueUrl message hstate hlate =>
      rw [hstate] at hmay
      exact hmay.elim
  | startTimedOut name address port startedAt message hstate hlate =>
      exact ⟨_, Shared.lookup_setState hi _, trivial⟩
  | failed reason hstate =>
      rw [hstate] at hmay
      exact hmay.elim
  | _ => exact ⟨i, hi, hmay⟩

theorem owned_of_dispatched {now : Instant} {o : Outcome} (hd : Dispatched setup sh n i now o)
    (h : Owned sh n none) (hi : sh.instances.lookup n = some i) :
    Owned o.shared n (flowPc o.flow) := by
  obtain ⟨hdep, hsvc, -, hclient⟩ := dispatched_shared hd
  have hres := hasResources_congr hdep hsvc n
  have hpc : ∀ p, flowPc o.flow = some p → ¬ HasClient p :=
    fun p hp => not_hasClient_of_dispatched hd hp
  by_cases hstate : MayOwn i.state
  · obtain ⟨i', hi', hmay⟩ := mayOwn_of_dispatched hd hi hstate
    refine Owned.of_mayOwn hi' hmay ?_ hpc
    intro hr
    rw [hclient]
    exact h.client (hres.1 hr)
  · apply Owned.of_none
    · intro hr
      exact h.not_hasResources hi hstate (by simp) (hres.1 hr)
    · intro p hp hhas
      exact absurd hhas (hpc p hp)

/-- A handler that works on an instance in another state, at an await before the deployment is
created, finds nothing to own. -/
theorem Owned.not_hasResources_at {pc : HandlerPc} (h : Owned sh n (some pc))
    (hi : sh.instances.lookup n = some i) (hstate : ¬ MayOwn i.state) (hpc : ¬ Creating pc) :
    ¬ HasResources sh n := by
  apply h.not_hasResources hi hstate
  intro p hp
  cases hp
  exact hpc

/-- A delete that succeeds leaves no deployment. -/
theorem lookup_deleted {answer : Except KubeError Unit} (hgone : Shared.isGone answer = true) :
    (sh.withClient.afterDeleteDeployment (deploymentName n) answer).deployments.lookup
      (deploymentName n) = none := by
  rw [lookup_afterDeleteDeployment, if_pos ⟨rfl, hgone⟩]

theorem owned_handleStartingChecked {commitHash c name address : String} {port : UInt16}
    {sh' : Shared} (call : KubeCall Deployment) (hsh' : sh' = sh ∨ sh' = sh.withClient)
    (hi : sh.instances.lookup n = some i) (hstate : MayOwn i.state)
    (hclient : HasResources sh n → sh.clientReady = true) :
    Owned (handleStartingChecked sh' n commitHash c name address port call).shared n
      (flowPc (handleStartingChecked sh' n commitHash c name address port call).flow) := by
  have hi' : sh'.instances.lookup n = some i := by
    rcases hsh' with rfl | rfl <;> exact hi
  have hclient' : HasResources sh' n → sh'.clientReady = true := by
    rcases hsh' with rfl | rfl
    · exact hclient
    · exact fun _ => rfl
  simp only [handleStartingChecked]
  split
  · apply Owned.of_mayOwn hi' hstate hclient'
    intro p hp
    cases hp
    exact id
  · exact .of_mayOwn hi' hstate hclient' (by simp [flowPc])
  · exact .of_mayOwn hi' hstate hclient' (by simp [flowPc])

theorem owned_of_resumed {pc : HandlerPc} {answer : Answer} (h : Owned sh n (some pc))
    (hi : sh.instances.lookup n = some i) (hpc : PcMatches i pc)
    (hres : Resumed setup sh n pc answer o) (hdelete : DeleteSucceeds answer)
    (hservice : ServiceExposed answer) : Owned o.shared n (flowPc o.flow) := by
  cases hres with
  | buildUrl c queueUrl answer =>
      obtain ⟨-, t, hs⟩ := hpc
      have hnone := h.not_hasResources_at hi (by rw [hs]; exact id) id
      simp only [handleBuildingUrl]
      split
      · apply Owned.of_none hnone
        intro p hp hhas
        cases hp
        exact hhas.elim
      · exact .of_none hnone (by simp [flowPc])
      · exact .of_none hnone (by simp [flowPc])
  | buildStatus c queueUrl buildUrl answer =>
      obtain ⟨-, t, hs⟩ := hpc
      have hnone := h.not_hasResources_at hi (by rw [hs]; exact id) id
      simp only [handleBuildingStatus]
      split <;> exact .of_none hnone (by simp [flowPc])
  | noDeploymentClient imageTag hclient =>
      have hnone := h.not_hasResources_at hi (by rw [show i.state = _ from hpc]; exact id) id
      exact .of_none hnone (by simp [deploymentFailed, flowPc])
  | deploymentDeleted imageTag answer =>
      have hnone := h.not_hasResources_at hi (by rw [show i.state = _ from hpc]; exact id) id
      -- after the delete there is no deployment, and a `Deploying` PR had no service before it
      have hnone' : ¬ HasResources
          (sh.withClient.afterDeleteDeployment (deploymentName n) answer) n := by
        rintro (hdep | hsvc)
        · rw [lookup_deleted hdelete] at hdep
          cases hdep
        · exact hnone (Or.inr (by simpa using hsvc))
      cases answer with
      | ok u => exact .of_none hnone' fun _ _ _ => by simp [createDeploymentDeleted]
      | error e => exact .of_none hnone' fun _ _ _ => by simp [createDeploymentDeleted]
  | settled imageTag =>
      have hnone := h.not_hasResources_at hi (by rw [show i.state = _ from hpc]; exact id) id
      exact .of_none hnone fun _ _ _ => h.clientAt _ rfl trivial
  | deploymentCreated imageTag answer =>
      have hnone := h.not_hasResources_at hi (by rw [show i.state = _ from hpc]; exact id) id
      have hclient := h.clientAt _ rfl trivial
      cases answer with
      | error e =>
          exact .of_none hnone (by simp [createDeploymentCreated, deploymentFailed, flowPc])
      | ok u => exact .of_creating hi hclient trivial
  | noServiceClient hnone =>
      -- the deployment was created through a client
      have hclient := h.clientAt _ rfl trivial
      rw [hnone] at hclient
      cases hclient
  | serviceDeleted answer =>
      exact .of_creating (by simpa [createServiceDeleted] using hi) (by simp [createServiceDeleted])
        trivial
  | serviceCreated answer now =>
      have hclient := h.clientAt _ rfl trivial
      -- with a NodePort the handler goes on to `Starting`, which owns both objects
      obtain ⟨svc, rfl, hport⟩ := hservice
      obtain ⟨nodePort, hport⟩ := Option.isSome_iff_exists.1 hport
      simp only [createServiceCreated, hport]
      exact .of_mayOwn (Shared.lookup_setState hi _) trivial (fun _ => hclient) (by simp [flowPc])
  | noReadinessClient commitHash c name address port hnone =>
      obtain ⟨-, -, t, hs⟩ := hpc
      exact owned_handleStartingChecked _ (Or.inl rfl) hi (by rw [hs]; trivial) h.client
  | readinessChecked commitHash c name address port answer =>
      obtain ⟨-, -, t, hs⟩ := hpc
      exact owned_handleStartingChecked _ (Or.inr rfl) hi (by rw [hs]; trivial) h.client
  | registered commitHash c name address port now readyAt =>
      obtain ⟨-, -, t, hs⟩ := hpc
      simp only [handleStartingRegistered]
      split
      · exact .of_mayOwn hi (by rw [hs]; trivial) h.client (by simp [flowPc])
      · refine .of_mayOwn (Shared.lookup_setState hi _) trivial h.client ?_
        intro p hp
        cases hp
        exact id
  | persisted commitHash c answer =>
      obtain ⟨-, -, name, address, port, readyAt, shutdownAt, hs⟩ := hpc
      simp only [handleStartingPersisted]
      cases answer with
      | ok now => exact .of_mayOwn hi (by rw [hs]; trivial) h.client (by simp [flowPc])
      | error e => exact .of_mayOwn hi (by rw [hs]; trivial) h.client (by simp [flowPc])
  | unregistered name now readyAt =>
      exact .of_mayOwn (Shared.lookup_setState hi _) trivial h.client
        (by simp [handleReadyUnregistered, flowPc])
  | noTearDownClient hnone =>
      -- without a client nothing was ever created
      refine .of_none ?_ (by simp [cleanUpFailed, untracked, flowPc])
      intro hr
      have hclient := h.client hr
      rw [hnone] at hclient
      cases hclient
  | deploymentTornDown answer =>
      obtain ⟨name, hs⟩ := hpc
      have hawait : Owned (sh.withClient.afterDeleteDeployment (deploymentName n) answer) n
          (some .tearDownService) :=
        ⟨fun _ => by simp, fun _ _ _ => by simp, fun _ => lookup_deleted hdelete,
          fun _ => ⟨i, by simpa using hi, Or.inl (by rw [hs]; trivial)⟩⟩
      simp only [deleteInstanceDeployment]
      cases answer with
      | ok u => exact hawait
      | error e =>
          have hfound : e.isNotFound = true := hdelete
          simp only [hfound, if_true]
          exact hawait
  | serviceTornDown answer =>
      have hnone : ¬ HasResources
          ((sh.afterDeleteService (deploymentName n) answer).untrack n) n := by
        rintro (hdep | hsvc)
        · have hgone := h.tornDown rfl
          simp [Shared.untrack, hgone] at hdep
        · have hgone := lookup_afterDeleteService sh (deploymentName n) (deploymentName n) answer
          rw [if_pos ⟨rfl, hdelete⟩] at hgone
          simp only [Shared.untrack, hgone] at hsvc
          cases hsvc
      simp only [deleteInstanceService]
      cases answer with
      | ok u => exact .of_none hnone (by simp [untracked, flowPc])
      | error e =>
          have hfound : e.isNotFound = true := hdelete
          simp only [hfound, if_true]
          exact .of_none hnone (by simp [untracked, flowPc])

end Pieces

/-! ## Runs -/

/-- A delete that the step gets an answer to succeeds or answers 404. -/
def DeletesSucceed : Label → Prop
  | .resume answer => DeleteSucceeds answer
  | _ => True

/-- A service that the step gets an answer about is created, with a NodePort. -/
def ServicesExposed : Label → Prop
  | .resume answer => ServiceExposed answer
  | _ => True

/-- The invariant of a run. -/
structure ResourceInv (w : World) : Prop where
  coherent : Coherent w
  owned : ∀ n, Owned w.shared n (loopPc n w.loop)

theorem loopPc_afterFlow (n : UInt32) (rest : List (UInt32 × PrInstance)) (flow : Flow) :
    loopPc n (afterFlow n rest flow) = flowPc flow := by
  cases flow with
  | await pc => simp [afterFlow, loopPc, flowPc]
  | done => rfl
  | panicked => rfl

theorem loopPc_afterFlow_of_ne {k n : UInt32} (hk : k ≠ n)
    (rest : List (UInt32 × PrInstance)) (flow : Flow) :
    loopPc k (afterFlow n rest flow) = none := by
  cases flow with
  | await pc => exact if_neg (Ne.symm hk)
  | done => rfl
  | panicked => rfl

section Runs

variable {setup : Setup} {w w' : World} {t : List Event}

theorem owned_start {id : Nat} {label : StartLabel} (h : ResourceInv w)
    (hstep : step setup w (.start id label) = some (w', t)) (n : UInt32) :
    Owned w'.shared n (loopPc n w'.loop) := by
  obtain ⟨o, ho, rfl, rfl⟩ := step_start_iff.1 hstep
  have hs := StartPr.stepped_of_step ho
  have hn := h.owned n
  have hshared := stepped_shared hs
  have hdep : o.shared.deployments = w.shared.deployments := by rw [hshared]
  have hsvc : o.shared.services = w.shared.services := by rw [hshared]
  have hclient : o.shared.clientReady = w.shared.clientReady := by rw [hshared]
  show Owned o.shared n (loopPc n w.loop)
  have hframe : o.shared.instances.lookup n = w.shared.instances.lookup n →
      Owned o.shared n (loopPc n w.loop) := fun hinst =>
    hn.frame hinst (by rw [hdep]) (by rw [hsvc]) fun hc => hclient.trans hc
  rcases stepped_instances hs with heq | ⟨m, i, hpending, -, heq⟩
  · exact hframe (by rw [heq])
  · by_cases hnm : n = m
    · -- the inserted PR was not tracked, so there is nothing to own
      subst hnm
      have hnone := h.coherent.untracked id n hpending
      apply Owned.of_none
      · intro hr
        obtain ⟨j, hj, -⟩ := hn.owner ((hasResources_congr hdep hsvc n).1 hr)
        rw [hnone] at hj
        cases hj
      · intro p hp hhas
        exact hclient.trans (hn.clientAt p hp hhas)
    · exact hframe (by rw [heq, AList.lookup_insert_ne hnm])

/-- A piece of the handler of PR `n` that leaves `n` owned. -/
theorem ResourceInv.of_piece {n : UInt32} {o : Outcome} {rest : List (UInt32 × PrInstance)}
    (h : ResourceInv w) (hcoh : Coherent ⟨o.shared, w.calls, afterFlow n rest o.flow⟩)
    (heff : InstanceEffect w.shared n o) (hframe : ClusterFrame w.shared n o)
    (hclient : w.shared.clientReady = true → o.shared.clientReady = true)
    (hother : ∀ k, k ≠ n → loopPc k w.loop = none) (hn : Owned o.shared n (flowPc o.flow)) :
    ResourceInv ⟨o.shared, w.calls, afterFlow n rest o.flow⟩ where
  coherent := hcoh
  owned := by
    intro k
    show Owned o.shared k (loopPc k (afterFlow n rest o.flow))
    by_cases hk : k = n
    · subst hk
      rw [loopPc_afterFlow]
      exact hn
    · -- only the handler of `n` runs, and its pieces touch nothing of another PR
      rw [loopPc_afterFlow_of_ne hk]
      have hold := h.owned k
      rw [hother k hk] at hold
      exact hold.frame (heff.lookup_of_ne hk) (hframe.deployments k hk) (hframe.services k hk)
        hclient

theorem resourceInv_step {label : Label} (h : ResourceInv w) (hno : NoOverlap w label)
    (hdelete : DeletesSucceed label) (hservice : ServicesExposed label)
    (hstep : step setup w label = some (w', t)) : ResourceInv w' := by
  have hcoh := coherent_step h.coherent hno hstep
  cases label with
  | start id label => exact ⟨hcoh, owned_start h hstep⟩
  | tick snapshot =>
      obtain ⟨hloop, -, rfl, rfl⟩ := step_tick_iff.1 hstep
      refine ⟨hcoh, ?_⟩
      intro n
      have hn := h.owned n
      rw [hloop] at hn
      exact hn
  | advance now =>
      rcases step_advance_iff.1 hstep with ⟨hloop, rfl, rfl⟩ | ⟨n, i, rest, hloop, rfl, rfl⟩
      · refine ⟨hcoh, ?_⟩
        intro n
        have hn := h.owned n
        rw [hloop] at hn
        exact hn
      · have hn := h.owned n
        rw [hloop] at hn
        have hdispatched := dispatched_dispatch setup w.shared n i now
        obtain ⟨hdep, hsvc, -, hclient⟩ := dispatched_shared hdispatched
        have hother : ∀ k, k ≠ n → loopPc k w.loop = none := by
          intro k _
          rw [hloop]
          rfl
        exact h.of_piece hcoh (instanceEffect_of_dispatched hdispatched) (.of_eq hdep hsvc)
          (fun hc => hclient.trans hc) hother
          (owned_of_dispatched hdispatched hn (h.coherent.lookup_next hloop))
  | resume answer =>
      obtain ⟨n, pc, rest, o, hloop, ho, rfl, rfl⟩ := step_resume_iff.1 hstep
      obtain ⟨i, hi, hpc⟩ := h.coherent.lookup_running hloop
      have hres := resumed_of_resume ho
      have hn := h.owned n
      rw [hloop, loopPc, if_pos rfl] at hn
      have hother : ∀ k, k ≠ n → loopPc k w.loop = none := by
        intro k hk
        rw [hloop]
        exact if_neg (Ne.symm hk)
      exact h.of_piece hcoh (instanceEffect_of_resumed hres) (clusterFrame_of_resumed hres)
        (clientReady_of_resumed hres) hother (owned_of_resumed hn hi hpc hres hdelete hservice)

end Runs

/-- In every run from a cluster without objects in which calls of one PR do not overlap, deletes
succeed and every service is created with a NodePort, a PR with a deployment or a service in the
cluster is tracked. -/
theorem tracked_of_hasResources (setup : Setup) (w w' : World) (labels : List Label)
    (tr : List Event) (hfresh : Fresh w) (hempty : ∀ n, ¬ HasResources w.shared n)
    (hmeets : (system setup).Meets
      (fun w label => (NoOverlap w label ∧ DeletesSucceed label) ∧ ServicesExposed label) w labels)
    (hrun : (system setup).exec w labels = some (w', tr)) :
    ∀ n, HasResources w'.shared n → ∃ i, w'.shared.instances.lookup n = some i := by
  have hloop : ∀ n, loopPc n w.loop = none := by
    intro n
    rw [hfresh.2]
    rfl
  have h0 : ResourceInv w := by
    refine ⟨coherent_of_fresh hfresh, ?_⟩
    intro n
    apply Owned.of_none (hempty n)
    intro p hp
    rw [hloop] at hp
    cases hp
  have hinv := System.exec_state_invariant (system setup) ResourceInv
    (fun s i s' t h hi hs => resourceInv_step h hi.1.1 hi.1.2 hi.2 hs) h0 hmeets hrun
  intro n hres
  obtain ⟨i, hi, -⟩ := (hinv.owned n).owner hres
  exact ⟨i, hi⟩

/-- A proxy with the row of PR 7 and nothing in the cluster. -/
def cachedWorld : World := started (Shared.startUp ∅ sampleBuilds ∅ ∅)

theorem not_hasResources_cachedWorld (n : UInt32) : ¬ HasResources cachedWorld.shared n := by
  rintro (h | h) <;> cases h

/-- PR 7 is deployed from its cached build. -/
def deployCached : List Label :=
  sampleChecks 0 7 "0123456789abcdef" ++
    [.tick [(7, .newDeploying 7 "0123456789abcdef" "0123456" "pr-7-0123456")]] ++ sampleDeploy

/-- The objects of PR 7 are created, and PR 7 is tracked. -/
theorem tracked_deployCached :
    ∃ w tr, (system sampleSetup).exec cachedWorld deployCached = some (w, tr) ∧
      HasResources w.shared 7 ∧ ∃ i, w.shared.instances.lookup 7 = some i := by
  have hcreated : ((system sampleSetup).exec cachedWorld deployCached).map (fun p =>
      (p.1.shared.deployments.lookup (deploymentName 7)).isSome) = some true := by decide +kernel
  have hmeets : (system sampleSetup).Meets (fun w label =>
      (NoOverlap w label ∧ DeletesSucceed label) ∧ ServicesExposed label) cachedWorld
        deployCached := by
    refine System.meets_cons _ ⟨⟨?_, trivial⟩, trivial⟩ (System.meets_of_forall _ ?_)
    · intro _ _ id' hpending
      cases hpending
    · simp [sampleDeploy, NoOverlap, DeletesSucceed, DeleteSucceeds, Shared.isGone,
        KubeError.isNotFound, ServicesExposed, ServiceExposed, Service.firstNodePort]
  cases hrun : (system sampleSetup).exec cachedWorld deployCached with
  | none => simp [hrun] at hcreated
  | some p =>
      rcases p with ⟨w, tr⟩
      simp only [hrun, Option.map_some, Option.some.injEq] at hcreated
      exact ⟨w, tr, rfl, Or.inl hcreated, tracked_of_hasResources sampleSetup cachedWorld w
        deployCached tr (fresh_started _) not_hasResources_cachedWorld hmeets hrun 7
          (Or.inl hcreated)⟩

/-- The service of PR 7 is refused after its deployment was created, and the next tick removes
the failed instance. -/
def refuseService : List Label :=
  sampleChecks 0 7 "0123456789abcdef" ++
    [.tick [(7, .newDeploying 7 "0123456789abcdef" "0123456" "pr-7-0123456")], .advance ⟨0⟩,
      .resume (.deleted (.error ⟨some 404, "not found"⟩)), .resume (.deploymentCreated (.ok ())),
      .resume (.deleted (.error ⟨some 404, "not found"⟩)),
      .resume (.serviceCreated (.error ⟨some 403, "exceeded quota"⟩) ⟨0⟩), .advance ⟨0⟩,
      .tick [(7, ⟨7, "0123456789abcdef", "0123456",
        .failed "Service creation failed: Failed to create service"⟩)], .advance ⟨0⟩, .advance ⟨0⟩]

/-- A deployment whose service was refused is left in the cluster without a tracked instance. -/
theorem service_failure_leaks :
    ¬ ∀ (setup : Setup) (w w' : World) (labels : List Label) (tr : List Event), Fresh w →
      (∀ n, ¬ HasResources w.shared n) →
        (system setup).Meets (fun w label => NoOverlap w label ∧ DeletesSucceed label) w labels →
          (system setup).exec w labels = some (w', tr) → w'.loop = .waiting →
            ∀ n, HasResources w'.shared n → ∃ i, w'.shared.instances.lookup n = some i := by
  intro hall
  have hfinal : ((system sampleSetup).exec cachedWorld refuseService).map (fun p =>
      ((p.1.shared.deployments.lookup (deploymentName 7)).isSome,
        (p.1.shared.instances.lookup 7).isNone, p.1.loop)) = some (true, true, .waiting) := by
    decide +kernel
  have hmeets : (system sampleSetup).Meets (fun w label =>
      NoOverlap w label ∧ DeletesSucceed label) cachedWorld refuseService := by
    refine System.meets_cons _ ⟨?_, trivial⟩ (System.meets_of_forall _ ?_)
    · intro _ _ id' hpending
      cases hpending
    · simp [NoOverlap, DeletesSucceed, DeleteSucceeds, Shared.isGone, KubeError.isNotFound]
  cases hrun : (system sampleSetup).exec cachedWorld refuseService with
  | none => simp [hrun] at hfinal
  | some p =>
      rcases p with ⟨w, tr⟩
      simp only [hrun, Option.map_some, Option.some.injEq, Prod.mk.injEq] at hfinal
      obtain ⟨hdeployment, huntracked, hloop⟩ := hfinal
      obtain ⟨i, hi⟩ := hall sampleSetup cachedWorld w refuseService tr (fresh_started _)
        not_hasResources_cachedWorld hmeets hrun hloop 7 (Or.inl hdeployment)
      rw [hi] at huntracked
      cases huntracked

end SteelProxy.Lifecycle
