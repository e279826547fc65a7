import SteelProxy.K8s.HandlerEffects

/-!
# What a piece of a handler does to the cluster

The deployments and services after each piece: those of other PRs are untouched
(`clusterFrame_of_resumed`), a dispatch touches none, and a delete that is answered by success or
404 leaves none behind.
-/

set_option autoImplicit false

namespace SteelProxy.Lifecycle

open SteelProxy.Library

section Deletes

variable (sh : Shared) (name k : String) (answer : Except KubeError Unit)

theorem lookup_afterDeleteDeployment :
    (sh.afterDeleteDeployment name answer).deployments.lookup k =
      if k = name ∧ Shared.isGone answer = true then none else sh.deployments.lookup k := by
  cases h : Shared.isGone answer with
  | true => simp [h, KeyedMap.lookup_erase_ite]
  | false => simp [h]

theorem lookup_afterDeleteService :
    (sh.afterDeleteService name answer).services.lookup k =
      if k = name ∧ Shared.isGone answer = true then none else sh.services.lookup k := by
  cases h : Shared.isGone answer with
  | true => simp [h, KeyedMap.lookup_erase_ite]
  | false => simp [h]

@[simp]
theorem deployments_withClient : sh.withClient.deployments = sh.deployments := rfl

@[simp]
theorem services_withClient : sh.withClient.services = sh.services := rfl

@[simp]
theorem builds_withClient : sh.withClient.builds = sh.builds := rfl

@[simp]
theorem clientReady_withClient : sh.withClient.clientReady = true := rfl

end Deletes

/-- The cluster objects of other PRs are untouched. -/
structure ClusterFrame (sh : Shared) (n : UInt32) (o : Outcome) : Prop where
  deployments : ∀ k, k ≠ n →
    o.shared.deployments.lookup (deploymentName k) = sh.deployments.lookup (deploymentName k)
  services : ∀ k, k ≠ n →
    o.shared.services.lookup (deploymentName k) = sh.services.lookup (deploymentName k)

section Frame

variable {setup : Setup} {sh sh' : Shared} {n : UInt32} {flow : Flow} {events : List Event}

theorem ClusterFrame.of_eq (hdep : sh'.deployments = sh.deployments)
    (hsvc : sh'.services = sh.services) : ClusterFrame sh n ⟨sh', flow, events⟩ where
  deployments := by
    intro k _
    simp only [hdep]
  services := by
    intro k _
    simp only [hsvc]

theorem ClusterFrame.of_afterDeleteDeployment (sh' : Shared)
    (hdep : sh'.deployments = sh.deployments) (hsvc : sh'.services = sh.services)
    (answer : Except KubeError Unit) :
    ClusterFrame sh n ⟨sh'.afterDeleteDeployment (deploymentName n) answer, flow, events⟩ where
  deployments := by
    intro k hk
    -- the names of two PRs differ, so the delete does not reach the deployment of `k`
    have hname : deploymentName k ≠ deploymentName n := deploymentName_injective.ne hk
    rw [lookup_afterDeleteDeployment, if_neg fun h => hname h.1, hdep]
  services := by
    intro k _
    simp [hsvc]

theorem ClusterFrame.of_afterDeleteService (sh' : Shared)
    (hdep : sh'.deployments = sh.deployments) (hsvc : sh'.services = sh.services)
    (answer : Except KubeError Unit) :
    ClusterFrame sh n ⟨sh'.afterDeleteService (deploymentName n) answer, flow, events⟩ where
  deployments := by
    intro k _
    simp [hdep]
  services := by
    intro k hk
    have hname : deploymentName k ≠ deploymentName n := deploymentName_injective.ne hk
    rw [lookup_afterDeleteService, if_neg fun h => hname h.1, hsvc]

/-- Removal from tracking leaves the cluster alone. -/
theorem ClusterFrame.untracked (h : ClusterFrame sh n ⟨sh', flow, events⟩)
    (events' : List Event) : ClusterFrame sh n (untracked sh' n events') :=
  ⟨h.deployments, h.services⟩

/-- A dispatch touches no object of the cluster and no row. -/
theorem dispatched_shared {i : PrInstance} {now : Instant} {o : Outcome}
    (h : Dispatched setup sh n i now o) :
    o.shared.deployments = sh.deployments ∧ o.shared.services = sh.services ∧
      o.shared.builds = sh.builds ∧ o.shared.clientReady = sh.clientReady := by
  cases h <;> exact ⟨rfl, rfl, rfl, rfl⟩

theorem clusterFrame_of_resumed {pc : HandlerPc} {answer : Answer} {o : Outcome}
    (h : Resumed setup sh n pc answer o) : ClusterFrame sh n o := by
  have hdep := deployments_withClient sh
  have hsvc := services_withClient sh
  cases h with
  | buildUrl commitHashShort queueUrl answer =>
      simp only [handleBuildingUrl]
      split <;> exact .of_eq rfl rfl
  | buildStatus commitHashShort queueUrl buildUrl answer =>
      simp only [handleBuildingStatus]
      split <;> exact .of_eq rfl rfl
  | noDeploymentClient imageTag hclient => exact .of_eq rfl rfl
  | deploymentDeleted imageTag answer =>
      cases answer with
      | ok u => exact .of_afterDeleteDeployment sh.withClient hdep hsvc (.ok u)
      | error e => exact .of_afterDeleteDeployment sh.withClient hdep hsvc (.error e)
  | settled imageTag => exact .of_eq rfl rfl
  | deploymentCreated imageTag answer =>
      cases answer with
      | ok u =>
          refine ⟨?_, fun _ _ => rfl⟩
          intro k hk
          exact AList.lookup_insert_ne (deploymentName_injective.ne hk)
      | error e => exact .of_eq rfl rfl
  | noServiceClient hclient => exact .of_eq rfl rfl
  | serviceDeleted answer => exact .of_afterDeleteService sh.withClient hdep hsvc answer
  | serviceCreated answer now =>
      simp only [createServiceCreated]
      cases answer with
      | error e => exact .of_eq rfl rfl
      | ok svc =>
          -- the new service is there with and without a NodePort
          cases hport : svc.firstNodePort <;>
            · simp only [hport]
              refine ⟨fun _ _ => rfl, ?_⟩
              intro k hk
              exact AList.lookup_insert_ne (deploymentName_injective.ne hk)
  | noReadinessClient commitHash commitHashShort deploymentName address port hclient =>
      simp only [handleStartingChecked]
      split <;> exact .of_eq rfl rfl
  | readinessChecked commitHash commitHashShort deploymentName address port answer =>
      simp only [handleStartingChecked]
      split <;> exact .of_eq rfl rfl
  | registered commitHash commitHashShort deploymentName address port now readyAt =>
      simp only [handleStartingRegistered]
      split <;> exact .of_eq rfl rfl
  | persisted commitHash commitHashShort answer =>
      simp only [handleStartingPersisted]
      cases answer with
      | ok now => exact .of_eq rfl rfl
      | error e => exact .of_eq rfl rfl
  | unregistered deploymentName now readyAt => exact .of_eq rfl rfl
  | noTearDownClient hclient => exact .of_eq rfl rfl
  | deploymentTornDown answer =>
      have hframe : ∀ flow events, ClusterFrame sh n
          ⟨sh.withClient.afterDeleteDeployment (deploymentName n) answer, flow, events⟩ :=
        fun _ _ => .of_afterDeleteDeployment sh.withClient hdep hsvc answer
      simp only [deleteInstanceDeployment]
      cases answer with
      | ok u => exact hframe _ _
      | error e =>
          dsimp only
          split
          · exact hframe _ _
          · exact (hframe .done []).untracked _
  | serviceTornDown answer =>
      have hframe : ClusterFrame sh n
          ⟨sh.afterDeleteService (deploymentName n) answer, .done, []⟩ :=
        .of_afterDeleteService sh rfl rfl answer
      simp only [deleteInstanceService]
      cases answer with
      | ok u => exact hframe.untracked _
      | error e =>
          dsimp only
          split
          · exact hframe.untracked _
          · exact hframe.untracked _

end Frame

end SteelProxy.Lifecycle
