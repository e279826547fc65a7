import SteelProxy.K8s.LiveRoutes
import SteelProxy.K8s.Manifests
import SteelProxy.K8s.Stages

/-!
# What a player of a PR reaches

From the name `pr-<n>` to the pods: the registered backend is at a NodePort of the cluster,
Kubernetes forwards it to the service that has it, the service to the pods that it selects, and
these run the image of their deployment. In every run across restarts all of them are those of
PR `n` (`players_reach_own_build`). The link that the other modules do not have is the image: every
deployment of the cluster is of an image that was tagged for its PR.
-/

set_option autoImplicit false

namespace SteelProxy

open SteelProxy.Library SteelProxy.Library.Transition

namespace Lifecycle

/-! ## Images of the deployments -/

/-- An instance that is to be deployed is deployed from an image of PR `n`. -/
def OwnTag (n : UInt32) (state : InstanceState) : Prop :=
  ∀ imageTag, state = .deploying imageTag → ∃ short, imageTag = imageTagOf n short

/-- Every tracked instance is deployed from an image of its PR. -/
def OwnTags (m : Instances) : Prop := ∀ n i, m.lookup n = some i → OwnTag n i.state

/-- Every deployment of the cluster is of an image of its PR. -/
def OwnImages (config : KubernetesConfig) (deployments : KeyedMap String String) : Prop :=
  ∀ n image, deployments.lookup (deploymentName n) = some image →
    ∃ short, image = deploymentImage config (imageTagOf n short)

theorem ownTag_of_stage {n : UInt32} {state : InstanceState} (h : state.stage ≠ .deploying) :
    OwnTag n state := by
  rintro imageTag rfl
  exact absurd rfl h

section Instances

variable {m m' : Instances} {n : UInt32}

theorem OwnTags.congr (h : OwnTags m) (hinst : m' = m) : OwnTags m' := hinst ▸ h

theorem OwnTags.update (h : OwnTags m) {state : InstanceState} (hstate : OwnTag n state)
    (hinst : m' = K8sManager.updateInstanceState m n state) : OwnTags m' := by
  intro k i hi
  rw [hinst, K8sManager.lookup_updateInstanceState] at hi
  by_cases hk : k = n
  · subst hk
    rw [if_pos rfl] at hi
    obtain ⟨old, -, rfl⟩ := Option.map_eq_some_iff.1 hi
    exact hstate
  · rw [if_neg hk] at hi
    exact h k i hi

theorem OwnTags.remove (h : OwnTags m) (hinst : m' = K8sManager.removeInstance m n) :
    OwnTags m' := by
  intro k i hi
  rw [hinst, K8sManager.lookup_removeInstance] at hi
  by_cases hk : k = n
  · rw [if_pos hk] at hi
    cases hi
  · rw [if_neg hk] at hi
    exact h k i hi

theorem OwnTags.insert (h : OwnTags m) {i : PrInstance} (hi : OwnTag n i.state)
    (hinst : m' = m.insert n i) : OwnTags m' := by
  intro k j hj
  rw [hinst, KeyedMap.lookup_insert_ite] at hj
  by_cases hk : k = n
  · subst hk
    rw [if_pos rfl] at hj
    cases hj
    exact hi
  · rw [if_neg hk] at hj
    exact h k j hj

end Instances

section Pieces

variable {setup : Setup} {sh : Shared} {n : UInt32} {i : PrInstance} {o : Outcome}

/-- A piece that does not take the instance to `Deploying`. -/
theorem ownTags_of_stageEffect {stage : Stage} (h : StageEffect sh n stage o)
    (hnot : ¬ stage.Next .deploying) (htags : OwnTags sh.instances) :
    OwnTags o.shared.instances := by
  cases h with
  | kept hinst => exact htags.congr hinst
  | advanced state hinst hnext =>
      refine htags.update (ownTag_of_stage ?_) hinst
      intro hstage
      rw [hstage] at hnext
      exact hnot hnext
  | forgotten hfinal hinst => exact htags.remove hinst

theorem ownTags_of_dispatched {now : Instant} (h : Dispatched setup sh n i now o)
    (htags : OwnTags sh.instances) : OwnTags o.shared.instances := by
  cases h with
  | buildTimedOut startedAt queueUrl message hstate hlate =>
      exact htags.update (ownTag_of_stage (by decide)) rfl
  | startTimedOut deploymentName address port startedAt message hstate hlate =>
      exact htags.update (ownTag_of_stage (by simp [InstanceState.stage])) rfl
  | failed reason hstate => exact htags.remove rfl
  | _ => exact htags

/-- The tag of a new `Deploying` is made for the PR of the handler. -/
theorem ownTags_of_resumed {pc : HandlerPc} {answer : Answer} (h : Resumed setup sh n pc answer o)
    (htags : OwnTags sh.instances) : OwnTags o.shared.instances := by
  have heff := stageEffect_of_resumed h
  cases h with
  | buildUrl commitHashShort queueUrl answer =>
      simp only [handleBuildingUrl]
      split <;> exact htags
  | buildStatus commitHashShort queueUrl buildUrl answer =>
      simp only [handleBuildingStatus]
      split
      -- the only new tag is the one made from the number of the PR
      · refine htags.update ?_ rfl
        rintro imageTag ⟨⟩
        exact ⟨commitHashShort, rfl⟩
      · exact htags.update (ownTag_of_stage (by simp [InstanceState.stage])) rfl
      · exact htags
      · exact htags
      · exact htags.update (ownTag_of_stage (by simp [InstanceState.stage])) rfl
      · exact htags
  | _ => exact ownTags_of_stageEffect heff (by rintro ⟨⟩) htags

/-- The deployments change only at the PR of the handler: by a delete, or by the create call of
the image that the handler has. -/
theorem deployments_of_resumed {pc : HandlerPc} {answer : Answer}
    (h : Resumed setup sh n pc answer o) :
    o.shared.deployments = sh.deployments ∨
      o.shared.deployments = sh.deployments.erase (deploymentName n) ∨
      ∃ imageTag, pc = .createDeployment imageTag ∧ o.shared.deployments =
        sh.deployments.insert (deploymentName n) (deploymentImage setup.kubernetes imageTag) := by
  have hdelete : ∀ answer : Except KubeError Unit,
      (sh.withClient.afterDeleteDeployment (deploymentName n) answer).deployments =
          sh.deployments ∨
        (sh.withClient.afterDeleteDeployment (deploymentName n) answer).deployments =
          sh.deployments.erase (deploymentName n) := by
    intro answer
    cases hgone : Shared.isGone answer <;> simp [hgone]
  -- the handlers of the other stages leave the deployments alone
  cases h with
  | buildUrl commitHashShort queueUrl answer =>
      simp only [handleBuildingUrl]
      split <;> exact Or.inl rfl
  | buildStatus commitHashShort queueUrl buildUrl answer =>
      simp only [handleBuildingStatus]
      split <;> exact Or.inl rfl
  | deploymentDeleted imageTag answer =>
      have hdeleted := hdelete answer
      cases answer with
      | ok u => exact hdeleted.imp_right Or.inl
      | error e => exact hdeleted.imp_right Or.inl
  | deploymentCreated imageTag answer =>
      cases answer with
      | ok u => exact Or.inr (Or.inr ⟨imageTag, rfl, rfl⟩)
      | error e => exact Or.inl rfl
  | serviceDeleted answer => exact Or.inl (by simp [createServiceDeleted])
  | serviceCreated answer now =>
      simp only [createServiceCreated]
      split
      · exact Or.inl rfl
      · split <;> exact Or.inl rfl
  | noReadinessClient commitHash commitHashShort deploymentName address port hclient =>
      simp only [handleStartingChecked]
      split <;> exact Or.inl rfl
  | readinessChecked commitHash commitHashShort deploymentName address port answer =>
      simp only [handleStartingChecked]
      split <;> exact Or.inl rfl
  | registered commitHash commitHashShort deploymentName address port now readyAt =>
      simp only [handleStartingRegistered]
      split <;> exact Or.inl rfl
  | persisted commitHash commitHashShort answer => cases answer <;> exact Or.inl rfl
  | deploymentTornDown answer =>
      have hdeleted := hdelete answer
      simp only [deleteInstanceDeployment]
      split
      · exact hdeleted.imp_right Or.inl
      · split
        · exact hdeleted.imp_right Or.inl
        · exact hdeleted.imp_right Or.inl
  | serviceTornDown answer =>
      simp only [deleteInstanceService]
      split
      · exact Or.inl (by simp [untracked, Shared.untrack])
      · split <;> exact Or.inl (by simp [cleanUpFailed, untracked, Shared.untrack])
  | _ => exact Or.inl rfl

theorem ownImages_of_resumed {pc : HandlerPc} {answer : Answer}
    (h : Resumed setup sh n pc answer o) (hi : sh.instances.lookup n = some i)
    (hpc : PcMatches i pc) (htags : OwnTags sh.instances)
    (himages : OwnImages setup.kubernetes sh.deployments) :
    OwnImages setup.kubernetes o.shared.deployments := by
  intro k image hk
  rcases deployments_of_resumed h with hdep | hdep | ⟨imageTag, rfl, hdep⟩
  · rw [hdep] at hk
    exact himages k image hk
  · rw [hdep, KeyedMap.lookup_erase_ite] at hk
    by_cases hname : deploymentName k = deploymentName n
    · rw [if_pos hname] at hk
      cases hk
    · rw [if_neg hname] at hk
      exact himages k image hk
  · rw [hdep, KeyedMap.lookup_insert_ite] at hk
    by_cases hname : deploymentName k = deploymentName n
    · rw [if_pos hname] at hk
      cases hk
      obtain ⟨short, rfl⟩ := htags n i hi imageTag hpc
      exact ⟨short, by rw [deploymentName_injective hname]⟩
    · rw [if_neg hname] at hk
      exact himages k image hk

end Pieces

/-! ## Steps -/

/-- The routes of all PRs, and the images of all deployments. -/
structure OwnBuilds (setup : Setup) (w : World) : Prop where
  routed : Routed setup w
  tags : OwnTags w.shared.instances
  images : OwnImages setup.kubernetes w.shared.deployments

section Steps

variable {setup : Setup} {w w' : World} {label : Label} {t : List Event}

theorem ownTags_of_stepped {sh : Shared} {id : Nat} {call : StartCall} {label : StartLabel}
    {o : StartPr.Outcome} (h : StartPr.Stepped setup sh id call label o)
    (htags : OwnTags sh.instances) : OwnTags o.shared.instances := by
  cases h with
  | cached n commitHash commitHashShort =>
      refine htags.insert ?_ rfl
      rintro imageTag ⟨⟩
      exact ⟨commitHashShort, rfl⟩
  | queued n commitHash commitHashShort queueUrl answer now =>
      exact htags.insert (ownTag_of_stage (by simp [PrInstance.newBuilding,
        InstanceState.stage])) rfl
  | _ => exact htags

theorem ownBuilds_step (h : OwnBuilds setup w) (hno : NoOverlap w label)
    (hstep : step setup w label = some (w', t)) : OwnBuilds setup w' := by
  have hrouted := routed_step h.routed hno hstep
  cases label with
  | start id label =>
      obtain ⟨o, ho, rfl, -⟩ := step_start_iff.1 hstep
      have hstepped := StartPr.stepped_of_step ho
      refine ⟨hrouted, ownTags_of_stepped hstepped h.tags, ?_⟩
      rw [stepped_shared hstepped]
      exact h.images
  | tick snapshot =>
      obtain ⟨-, -, rfl, -⟩ := step_tick_iff.1 hstep
      exact ⟨hrouted, h.tags, h.images⟩
  | advance now =>
      rcases step_advance_iff.1 hstep with ⟨-, rfl, -⟩ | ⟨n, i, rest, hloop, rfl, -⟩
      · exact ⟨hrouted, h.tags, h.images⟩
      · have hdispatched := dispatched_dispatch setup w.shared n i now
        refine ⟨hrouted, ownTags_of_dispatched hdispatched h.tags, ?_⟩
        rw [(dispatched_shared hdispatched).1]
        exact h.images
  | resume answer =>
      obtain ⟨n, pc, rest, o, hloop, ho, rfl, -⟩ := step_resume_iff.1 hstep
      obtain ⟨i, hi, hpc⟩ := h.routed.coherent.lookup_running hloop
      have hresumed := resumed_of_resume ho
      exact ⟨hrouted, ownTags_of_resumed hresumed h.tags,
        ownImages_of_resumed hresumed hi hpc h.tags h.images⟩

end Steps

end Lifecycle

/-! ## From the port to the pods -/

/-- The NodePorts of the cluster are ports, and each belongs to one service. -/
structure NodePortsAllocated (sh : Shared) : Prop where
  valid : ∀ n nodePort, sh.services.lookup (deploymentName n) = some (some nodePort) →
    0 ≤ nodePort ∧ nodePort ≤ 65535
  distinct : ∀ n m nodePort, sh.services.lookup (deploymentName n) = some (some nodePort) →
    sh.services.lookup (deploymentName m) = some (some nodePort) → n = m

/-- A connection to a port of the node is forwarded to the pod: a service has the port as its
NodePort, and selects the pod, which is one of a deployment of the cluster. -/
def Reaches (config : ClusterConfig) (sh : Shared) (port : UInt16) (pod : Pod) : Prop :=
  ∃ k m nodePort image, sh.services.lookup (deploymentName k) = some (some nodePort) ∧
    nodePortAsU16 nodePort = port ∧ sh.deployments.lookup (deploymentName m) = some image ∧
    pod = (K8sManager.deploymentManifest config m image).pod ∧
    (K8sManager.serviceManifest config k).SelectsPod pod

theorem toNat_nodePortAsU16 {nodePort : Int32} (h : 0 ≤ nodePort) (hle : nodePort ≤ 65535) :
    ((nodePortAsU16 nodePort).toNat : Int) = nodePort.toInt := by
  have hint : nodePort.toInt ≤ 65535 := Int32.le_iff_toInt_le.1 hle
  rw [Int32.toInt_eq_toNatClampNeg h] at hint ⊢
  rw [nodePortAsU16, UInt32.toNat_toUInt16, Int32.toNat_toUInt32_of_le h]
  omega

/-- The cast of the NodePort loses nothing, so that a port leads to one service. -/
theorem NodePortsAllocated.eq_of_port {sh : Shared} (h : NodePortsAllocated sh) {n m : UInt32}
    {p q : Int32} (hn : sh.services.lookup (deploymentName n) = some (some p))
    (hm : sh.services.lookup (deploymentName m) = some (some q))
    (hport : nodePortAsU16 p = nodePortAsU16 q) : n = m := by
  obtain ⟨hp, hp'⟩ := h.valid n p hn
  obtain ⟨hq, hq'⟩ := h.valid m q hm
  have hpq : p = q := by
    rw [← Int32.toInt_inj, ← toNat_nodePortAsU16 hp hp', ← toNat_nodePortAsU16 hq hq', hport]
  exact h.distinct n m p hn (hpq ▸ hm)

namespace Restarts

/-- The routes of all PRs and the images of all deployments, while the process recovers. -/
structure RecoversOwned (setup : Setup) (sh : Shared) : Prop where
  routed : RecoversRouted setup sh
  tags : Lifecycle.OwnTags sh.instances
  images : Lifecycle.OwnImages setup.kubernetes sh.deployments

theorem recoversOwned_row {setup : Setup} {r r' : Recovery} {build : PrBuild}
    {answers : RowAnswers} (h : RecoversOwned setup r.shared)
    (htruthful : TruthfulService r build answers)
    (hrow : Recovery.recoverBuild setup.kubernetes answers r build = some r') :
    RecoversOwned setup r'.shared := by
  have hrouted := recoversRouted_row h.routed htruthful hrow
  cases Recovery.recovered_of_recoverBuild hrow with
  | ready deployment svc nodePort hcall hready hservice hport hrecover =>
      obtain ⟨shutdownAt, -, rfl⟩ := Recovery.recoverReady_eq_some_iff.1 hrecover
      exact ⟨hrouted, h.tags.insert (Lifecycle.ownTag_of_stage (by simp [InstanceState.stage]))
        rfl, h.images⟩
  | deferred deployment hcall hready => exact ⟨hrouted, h.tags, h.images⟩
  | removed hreport =>
      simp only [Recovery.deleteBuild] at hrouted ⊢
      refine ⟨hrouted, ?_, ?_⟩
      · split <;> exact h.tags
      · split <;> exact h.images

theorem phases_owned {setup : Setup} {staticBackends : KeyedMap String BackendServer}
    {d : Durable} {labels : List RestartLabel} {s : Restarts} {tr : List Event}
    (hleft : Lifecycle.OwnImages setup.kubernetes d.deployments)
    (hmeets : (system setup staticBackends).Meets
      (Condition Lifecycle.NoOverlap TruthfulService) (start staticBackends d) labels)
    (hrun : (system setup staticBackends).exec (start staticBackends d) labels = some (s, tr)) :
    Phases (fun d => Lifecycle.OwnImages setup.kubernetes d.deployments) (RecoversOwned setup)
      (Lifecycle.OwnBuilds setup) s := by
  refine exec_phases ?_ (fun sh h => h.images) (fun w h => h.images) ?_ ?_ ?_ hleft hmeets hrun
  · intro d hd
    exact ⟨recoversRouted_startUp setup staticBackends d, fun n i hi => (by cases hi), hd⟩
  · intro r build answers r' h htruthful hrow
    exact recoversOwned_row h htruthful hrow
  · intro sh h
    exact ⟨⟨Lifecycle.coherent_of_fresh (Lifecycle.fresh_started sh), fun _ => h.routed.agrees,
      h.routed.routes⟩, h.tags, h.images⟩
  · intro w label w' t h hno hstep
    exact Lifecycle.ownBuilds_step h hno hstep

/-- In every run across restarts in which calls of one PR do not overlap and the recoveries read
the services that are there, every pod that a connection to the registered backend of PR `n`
reaches runs an image tagged for PR `n`, and listens on the port that the service forwards to. -/
theorem players_reach_own_build (setup : Setup) (config : ClusterConfig)
    (hconfig : setup.kubernetes = config.toKubernetesConfig)
    (staticBackends : KeyedMap String BackendServer) (d : Durable) (labels : List RestartLabel)
    (s : Restarts) (tr : List Event)
    (hleft : Lifecycle.OwnImages config.toKubernetesConfig d.deployments)
    (hmeets : (system setup staticBackends).Meets
      (Condition Lifecycle.NoOverlap TruthfulService) (start staticBackends d) labels)
    (hrun : (system setup staticBackends).exec (start staticBackends d) labels = some (s, tr))
    (w : World) (hrunning : s.process = .running w) (hports : NodePortsAllocated w.shared)
    (n : UInt32) (b : BackendServer) (hb : Lifecycle.backendOf w.shared n = some b) (pod : Pod)
    (hreaches : Reaches config w.shared b.port pod) :
    b.address = config.nodeAddress ∧ pod.ListensOn 25565 ∧ ∃ short,
      pod.containers.map Container.image =
        [Lifecycle.deploymentImage config.toKubernetesConfig (imageTagOf n short)] := by
  rw [← hconfig] at hleft
  have howned := (phases_owned hleft hmeets hrun).running w hrunning
  obtain ⟨-, haddress, nodePort, hlookup, hport⟩ := (howned.routed.routes n).backend b hb
  obtain ⟨k, m, nodePort', image, hservice, hport', hdeployment, rfl, hselects⟩ := hreaches
  -- the port leads to the service of `n`, and its selector to the deployment of `n`
  have hk : k = n := hports.eq_of_port hservice hlookup (hport'.trans hport)
  have hm : k = m := (selects_pod_iff config k m image).1 hselects
  subst hk
  subst hm
  obtain ⟨short, rfl⟩ := howned.images k image hdeployment
  refine ⟨?_, ?_, short, ?_⟩
  · rw [hconfig] at haddress
    exact haddress
  · exact listensOn_targetPort config k k _ _ (List.mem_singleton_self _)
  · rw [hconfig]
    rfl

/-- The sample configuration with the defaults of the resource limits. -/
def sampleCluster : ClusterConfig where
  toKubernetesConfig := Lifecycle.sampleSetup.kubernetes
  namespace_ := "steel"
  resources := ⟨"2Gi", "1000m"⟩

/-- The image of what is left of PR 7. -/
def imageSample : String :=
  Lifecycle.deploymentImage Lifecycle.sampleSetup.kubernetes (imageTagOf 7 "0123456")

theorem ownImages_leftSample :
    Lifecycle.OwnImages sampleCluster.toKubernetesConfig leftSample.deployments := by
  intro n image h
  have hlookup : leftSample.deployments.lookup (deploymentName n) =
      if deploymentName n = deploymentName 7 then some imageSample else none :=
    KeyedMap.lookup_insert_ite ∅ (deploymentName 7) (deploymentName n) imageSample
  rw [hlookup] at h
  by_cases hn : deploymentName n = deploymentName 7
  · rw [if_pos hn] at h
    cases h
    exact ⟨"0123456", by rw [deploymentName_injective hn]; rfl⟩
  · rw [if_neg hn] at h
    cases h

theorem services_redeployedSample {sh : Shared} (hdurable : sh.durable = redeployedSample)
    (n : UInt32) (nodePort : Int32)
    (h : sh.services.lookup (deploymentName n) = some (some nodePort)) :
    n = 7 ∧ nodePort = 30008 := by
  have hlookup : sh.services.lookup (deploymentName n) =
      if deploymentName n = deploymentName 7 then some (some 30008) else none := by
    rw [show sh.services = redeployedSample.services from congrArg Durable.services hdurable]
    exact KeyedMap.lookup_insert_ite ∅ (deploymentName 7) (deploymentName n) (some 30008)
  rw [hlookup] at h
  by_cases hn : deploymentName n = deploymentName 7
  · rw [if_pos hn] at h
    cases h
    exact ⟨deploymentName_injective hn, rfl⟩
  · rw [if_neg hn] at h
    cases h

/-- A player of PR 7, which the loop has registered after a restart, reaches its pod. -/
theorem players_reach_own_build_redeploySample :
    ∃ s tr w, (system Lifecycle.sampleSetup ∅).exec (start ∅ leftSample) redeploySample =
        some (s, tr) ∧
      s.process = .running w ∧ Lifecycle.backendOf w.shared 7 = some redeployedBackend ∧
      Reaches sampleCluster w.shared redeployedBackend.port
        (K8sManager.deploymentManifest sampleCluster 7 imageSample).pod ∧
      ∃ short, (K8sManager.deploymentManifest sampleCluster 7 imageSample).pod.containers.map
        Container.image =
          [Lifecycle.deploymentImage sampleCluster.toKubernetesConfig (imageTagOf 7 short)] := by
  obtain ⟨s, tr, w, hrun, hrunning, hdurable, hbackend⟩ := exec_redeploySample
  have hports : NodePortsAllocated w.shared := by
    refine ⟨?_, ?_⟩
    · intro n nodePort h
      obtain ⟨-, rfl⟩ := services_redeployedSample hdurable n nodePort h
      decide
    · intro n m nodePort hn hm
      rw [(services_redeployedSample hdurable n nodePort hn).1,
        (services_redeployedSample hdurable m nodePort hm).1]
  have hreaches : Reaches sampleCluster w.shared redeployedBackend.port
      (K8sManager.deploymentManifest sampleCluster 7 imageSample).pod := by
    refine ⟨7, 7, 30008, imageSample, ?_, rfl, ?_, rfl, (selects_pod_iff _ _ _ _).2 rfl⟩
    · rw [show w.shared.services = redeployedSample.services from
        congrArg Durable.services hdurable]
      rfl
    · rw [show w.shared.deployments = redeployedSample.deployments from
        congrArg Durable.deployments hdurable]
      rfl
  exact ⟨s, tr, w, hrun, hrunning, hbackend, hreaches,
    (players_reach_own_build Lifecycle.sampleSetup sampleCluster rfl ∅ leftSample redeploySample s
      tr ownImages_leftSample meets_redeploySample hrun w hrunning hports 7 redeployedBackend
      hbackend _ hreaches).2.2⟩

end Restarts

end SteelProxy
