import SteelProxy.K8s.Recovery

/-!
# Recovery of the running instances

`recover_from_db` when Kubernetes answers every query truthfully. A row whose deployment is ready
and whose service has a NodePort is tracked as `Ready` and registered; a row whose deployment is
not ready yet is left to the lifecycle loop, which never sees it because nothing is inserted.
`recoveryComplete_iff` gives the exact condition under which no running instance is missed.
-/

set_option autoImplicit false

namespace SteelProxy.Recovery

open SteelProxy.Library SteelProxy.Library.Transition

/-- The deployments and services of the cluster, by name. -/
structure Cluster where
  deployments : String → Option Deployment
  services : String → Option Service

/-- The truthful answer to a query for an object. -/
def reply {α : Type} (message : String) : Option α → Except KubeError α
  | some x => .ok x
  | none => .error ⟨some 404, message⟩

namespace Cluster

/-- The answers with the client and the two queries replaced by truthful ones. -/
def truthfully (c : Cluster) (message : String) (answers : PrBuild → RowAnswers)
    (build : PrBuild) : RowAnswers :=
  let name := deploymentName (prNumberAsU32 build.prNumber)
  { answers build with
    clientInit := true
    deployment := reply message (c.deployments name)
    service := reply message (c.services name) }

/-- The NodePort of the service of PR `n`. -/
def nodePort (c : Cluster) (n : UInt32) : Option Int32 :=
  (c.services (deploymentName n)).bind Service.firstNodePort

/-- The deployment of PR `n` is ready and its service has a NodePort. -/
def runs (c : Cluster) (n : UInt32) : Bool :=
  (c.deployments (deploymentName n)).any Deployment.isReady && (c.nodePort n).isSome

end Cluster

/-- The PR of a row. -/
def prOf (build : PrBuild) : UInt32 := prNumberAsU32 build.prNumber

/-- The states from which the handlers of the lifecycle loop go on towards `Ready`. -/
def Continues : InstanceState → Prop
  | .building _ buildUrl => buildUrl.isSome = true
  | .deploying _ => True
  | .starting _ _ _ _ => True
  | _ => False

/-- PR `n` is tracked as `Ready` at the node address and `nodePort`, and its backend is
registered there. -/
def Serves (config : KubernetesConfig) (sh : Shared) (n : UInt32) (nodePort : Int32) : Prop :=
  (∃ i, sh.instances.lookup n = some i ∧
    i.state.endpoint = some (config.nodeAddress, nodePortAsU16 nodePort)) ∧
  sh.backends.dynamicBackends.lookup (backendName n) =
    some ⟨config.nodeAddress, nodePortAsU16 nodePort, some s!"PR #{n}"⟩

/-- Every active row whose deployment exists and whose service has a NodePort is tracked, and
the returned count is the number of instances in `Ready`. -/
structure RecoveredAll (config : KubernetesConfig) (c : Cluster) (active : List PrBuild)
    (sh : Shared) (count : Nat) : Prop where
  tracked : ∀ build ∈ active, ∀ deployment nodePort,
    c.deployments (deploymentName (prOf build)) = some deployment →
      c.nodePort (prOf build) = some nodePort →
        if deployment.isReady then Serves config sh (prOf build) nodePort
        else ∃ i, sh.instances.lookup (prOf build) = some i ∧ Continues i.state
  counted : count =
    ((KeyedMap.pairs sh.instances).filter fun e => e.2.state.endpoint.isSome).length

/-- `recover_from_db` returns, and has recovered all. -/
def RecoveryComplete (config : KubernetesConfig) (c : Cluster) (message : String)
    (answers : PrBuild → RowAnswers) (sh : Shared) : Prop :=
  ∃ sh' count,
    recoverFromDb config none (c.truthfully message answers) sh = some (sh', .ok count) ∧
      RecoveredAll config c sh.builds.getActiveBuilds sh' count

section Steps

variable {config : KubernetesConfig} {c : Cluster} {message : String}
  {answers : PrBuild → RowAnswers} {r r' : Recovery} {build : PrBuild}

theorem deploymentCall_truthfully (sh : Shared) :
    deploymentCall (c.truthfully message answers build) sh =
      .answered (reply message (c.deployments (deploymentName (prOf build)))) := by
  simp [deploymentCall, Cluster.truthfully, prOf]

theorem runs_iff {n : UInt32} :
    c.runs n = true ↔ ∃ deployment nodePort, c.deployments (deploymentName n) = some deployment ∧
      deployment.isReady = true ∧ c.nodePort n = some nodePort := by
  simp only [Cluster.runs, Bool.and_eq_true, Option.any_eq_true, Option.isSome_iff_exists]
  constructor
  · rintro ⟨⟨deployment, hdep, hready⟩, nodePort, hport⟩
    exact ⟨deployment, nodePort, hdep, hready, hport⟩
  · rintro ⟨deployment, nodePort, hdep, hready, hport⟩
    exact ⟨⟨deployment, hdep, hready⟩, nodePort, hport⟩

/-- The step of a row whose PR runs. -/
theorem recoverBuild_of_runs {nodePort : Int32} (hruns : c.runs (prOf build) = true)
    (hport : c.nodePort (prOf build) = some nodePort) :
    recoverBuild config (c.truthfully message answers build) r build =
      recoverReady config (c.truthfully message answers build)
        { r with shared := afterClient (c.truthfully message answers build) r.shared }
        (prOf build) build config.nodeAddress (nodePortAsU16 nodePort) := by
  obtain ⟨deployment, -, hdep, hready, -⟩ := runs_iff.1 hruns
  obtain ⟨svc, hsvc, hfirst⟩ := Option.bind_eq_some_iff.1 hport
  have hservice : (c.truthfully message answers build).service = .ok svc := by
    simp only [prOf] at hsvc
    simp [Cluster.truthfully, hsvc, reply]
  -- both queries are answered positively, so the step takes the branch of a ready deployment
  simp only [recoverBuild, deploymentCall_truthfully, hdep, reply, K8sManager.isDeploymentReady,
    hready, hservice, K8sManager.getServiceInfo, hfirst, Option.map_some]
  rfl

variable (config message answers r) in
/-- The step of any other row tracks and registers nothing. -/
theorem recoverBuild_of_not_runs (hruns : c.runs (prOf build) = false) :
    ∃ r', recoverBuild config (c.truthfully message answers build) r build = some r' ∧
      r'.shared.instances = r.shared.instances ∧ r'.shared.backends = r.shared.backends ∧
        r'.recovered = r.recovered := by
  have hkeep : ∀ sh n, (deleteBuild (c.truthfully message answers build) sh n).instances =
      sh.instances ∧
        (deleteBuild (c.truthfully message answers build) sh n).backends = sh.backends := by
    intro sh n
    simp only [deleteBuild]
    split <;> exact ⟨rfl, rfl⟩
  simp only [recoverBuild, deploymentCall_truthfully]
  -- no deployment, a deployment that is not ready, or a ready one without a NodePort
  cases hdep : c.deployments (deploymentName (prOf build)) with
  | none => exact ⟨_, rfl, (hkeep _ _).1, (hkeep _ _).2, rfl⟩
  | some deployment =>
      cases hready : deployment.isReady with
      | false =>
          simp only [reply, K8sManager.isDeploymentReady, hready]
          exact ⟨_, rfl, rfl, rfl, rfl⟩
      | true =>
          have hport : c.nodePort (prOf build) = none := by
            simpa [Cluster.runs, hdep, hready] using hruns
          have hinfo : K8sManager.getServiceInfo config
              (.answered (c.truthfully message answers build).service) = .ok none := by
            show K8sManager.getServiceInfo config
              (.answered (reply message (c.services (deploymentName (prOf build))))) = .ok none
            cases hsvc : c.services (deploymentName (prOf build)) with
            | none => rfl
            | some svc =>
                have hfirst : svc.firstNodePort = none := by
                  simpa [Cluster.nodePort, hsvc] using hport
                simp [reply, K8sManager.getServiceInfo, hfirst]
          simp only [reply, K8sManager.isDeploymentReady, hready, hinfo]
          exact ⟨_, rfl, (hkeep _ _).1, (hkeep _ _).2, rfl⟩

end Steps

/-! ## The whole loop -/

/-- What the loop has done for the rows of the PRs `nums`: exactly these are tracked, each serves
its PR, and each row was counted. -/
structure Progress (config : KubernetesConfig) (c : Cluster) (r : Recovery) (nums : List UInt32) :
    Prop where
  tracked : ∀ n, n ∈ nums ↔ (r.shared.instances.lookup n).isSome = true
  serves : ∀ n ∈ nums, ∃ nodePort, c.nodePort n = some nodePort ∧ Serves config r.shared n nodePort
  counted : r.recovered = nums.length

/-- The PRs of the rows that run, in row order. -/
def runningPrs (c : Cluster) (builds : List PrBuild) : List UInt32 :=
  (builds.map prOf).filter c.runs

/-- The shutdown time of the row's instance can be represented. -/
def HasDeadline (config : KubernetesConfig) (a : RowAnswers) : Prop :=
  a.now.addSecs (config.instanceTimeoutMinutes * 60) ≠ none

section Loop

variable {config : KubernetesConfig} {c : Cluster} {message : String}
  {answers : PrBuild → RowAnswers}

/-- Recovering one more PR keeps the others. -/
theorem Progress.insert {r : Recovery} {nums : List UInt32} {n : UInt32} {nodePort : Int32}
    {i : PrInstance} {sh : Shared} (h : Progress config c r nums)
    (hport : c.nodePort n = some nodePort)
    (hstate : i.state.endpoint = some (config.nodeAddress, nodePortAsU16 nodePort))
    (hinst : sh.instances = r.shared.instances.insert n i)
    (hback : sh.backends = K8sManager.registerBackend r.shared.backends n config.nodeAddress
      (nodePortAsU16 nodePort)) :
    Progress config c ⟨sh, r.recovered + 1⟩ (nums ++ [n]) where
  tracked := by
    intro k
    simp only [hinst, KeyedMap.lookup_insert_ite, List.mem_append, List.mem_singleton]
    by_cases hk : k = n
    · simp [hk]
    · simp [hk, h.tracked k]
  serves := by
    intro k hk
    by_cases hkn : k = n
    · subst hkn
      refine ⟨nodePort, hport, ⟨i, ?_, hstate⟩, ?_⟩
      · rw [hinst, AList.lookup_insert]
      · rw [hback, K8sManager.lookup_registerBackend, if_pos rfl]
    · have hmem : k ∈ nums := by simpa [hkn] using hk
      obtain ⟨kPort, hkPort, ⟨j, hj, hjstate⟩, hreg⟩ := h.serves k hmem
      refine ⟨kPort, hkPort, ⟨j, ?_, hjstate⟩, ?_⟩
      · rw [hinst, AList.lookup_insert_ne hkn, hj]
      · rw [hback, K8sManager.lookup_registerBackend, if_neg hkn, hreg]
  counted := by
    rw [h.counted, List.length_append, List.length_singleton]

theorem Progress.congr {r r' : Recovery} {nums : List UInt32} (h : Progress config c r nums)
    (hinst : r'.shared.instances = r.shared.instances)
    (hback : r'.shared.backends = r.shared.backends) (hcount : r'.recovered = r.recovered) :
    Progress config c r' nums where
  tracked := by
    rw [hinst]
    exact h.tracked
  serves := by
    simp only [Serves, hinst, hback]
    exact h.serves
  counted := by rw [hcount, h.counted]

variable (config c message answers) in
/-- One step succeeds exactly when the row does not run or has a deadline. -/
theorem exists_recoverBuild_iff (r : Recovery) (build : PrBuild) :
    (∃ r', recoverBuild config (c.truthfully message answers build) r build = some r') ↔
      (c.runs (prOf build) = true → HasDeadline config (answers build)) := by
  cases hruns : c.runs (prOf build) with
  | false =>
      obtain ⟨r', hstep, -⟩ := recoverBuild_of_not_runs config message answers r hruns
      exact ⟨fun _ h => Bool.noConfusion h, fun _ => ⟨r', hstep⟩⟩
  | true =>
      obtain ⟨-, nodePort, -, -, hport⟩ := runs_iff.1 hruns
      simp only [recoverBuild_of_runs hruns hport, recoverReady_eq_some_iff, true_implies,
        HasDeadline, Option.ne_none_iff_exists']
      constructor
      · rintro ⟨r', shutdownAt, hsum, -⟩
        exact ⟨shutdownAt, hsum⟩
      · rintro ⟨shutdownAt, hsum⟩
        exact ⟨_, shutdownAt, hsum, rfl⟩

/-- One step recovers the row if it runs, and nothing otherwise. -/
theorem Progress.step {r r' : Recovery} {nums : List UInt32} {build : PrBuild}
    (h : Progress config c r nums)
    (hstep : recoverBuild config (c.truthfully message answers build) r build = some r') :
    Progress config c r' (nums ++ runningPrs c [build]) := by
  cases hruns : c.runs (prOf build) with
  | false =>
      obtain ⟨r₁, hstep₁, hinst, hback, hcount⟩ :=
        recoverBuild_of_not_runs config message answers r hruns
      rw [hstep] at hstep₁
      cases hstep₁
      have hnums : runningPrs c [build] = [] := by simp [runningPrs, hruns]
      rw [hnums, List.append_nil]
      exact h.congr hinst hback hcount
  | true =>
      obtain ⟨-, nodePort, -, -, hport⟩ := runs_iff.1 hruns
      rw [recoverBuild_of_runs hruns hport] at hstep
      obtain ⟨shutdownAt, -, rfl⟩ := recoverReady_eq_some_iff.1 hstep
      have hnums : runningPrs c [build] = [prOf build] := by simp [runningPrs, hruns]
      rw [hnums]
      exact h.insert hport rfl rfl rfl

variable (config c message answers) in
/-- The loop returns exactly when every row that runs has a deadline. -/
theorem exists_exec_truthfully_iff (builds : List PrBuild) (r : Recovery) :
    (∃ r' t, (system config (c.truthfully message answers)).exec r builds = some (r', t)) ↔
      ∀ build ∈ builds, c.runs (prOf build) = true → HasDeadline config (answers build) := by
  induction builds generalizing r with
  | nil => simp
  | cons build builds ih =>
      rw [List.forall_mem_cons, ← exists_recoverBuild_iff config c message answers r build]
      constructor
      · rintro ⟨r', t, hrun⟩
        obtain ⟨m, t₁, t₂, hstep, hrest, -⟩ := (System.exec_cons_iff _).1 hrun
        exact ⟨⟨m, (step_eq_some_iff.1 hstep).1⟩, (ih m).1 ⟨r', t₂, hrest⟩⟩
      · rintro ⟨⟨m, hstep⟩, hall⟩
        obtain ⟨r', t, hrest⟩ := (ih m).2 hall
        exact ⟨r', [] ++ t, (System.exec_cons_iff _).2
          ⟨m, [], t, step_eq_some_iff.2 ⟨hstep, rfl⟩, hrest, rfl⟩⟩

/-- The loop recovers the rows that run. -/
theorem Progress.exec {builds : List PrBuild} {r r' : Recovery} {nums : List UInt32}
    {t : List Empty} (h : Progress config c r nums)
    (hrun : (system config (c.truthfully message answers)).exec r builds = some (r', t)) :
    Progress config c r' (nums ++ runningPrs c builds) := by
  induction builds generalizing r nums t with
  | nil =>
      simp only [System.exec_nil, Option.some.injEq, Prod.mk.injEq] at hrun
      obtain ⟨rfl, -⟩ := hrun
      simpa [runningPrs] using h
  | cons build builds ih =>
      obtain ⟨m, t₁, t₂, hstep, hrest, -⟩ := (System.exec_cons_iff _).1 hrun
      have hm := ih (h.step (step_eq_some_iff.1 hstep).1) hrest
      have hnums :
          runningPrs c (build :: builds) = runningPrs c [build] ++ runningPrs c builds := by
        simp only [runningPrs, ← List.filter_append, ← List.map_append, List.singleton_append]
      rw [hnums, ← List.append_assoc]
      exact hm

end Loop

/-! ## Completeness -/

section Complete

variable {config : KubernetesConfig} {c : Cluster}

variable (config c) in
theorem progress_startUp (staticBackends : KeyedMap String BackendServer) (builds : PrBuilds)
    (deployments : KeyedMap String String) (services : KeyedMap String (Option Int32)) :
    Progress config c ⟨Shared.startUp staticBackends builds deployments services, 0⟩ [] where
  tracked := by simp [Shared.startUp]
  serves := by simp
  counted := rfl

/-- Every tracked instance is `Ready`. -/
theorem Progress.filter_ready {r : Recovery} {nums : List UInt32} (h : Progress config c r nums) :
    ((KeyedMap.pairs r.shared.instances).filter fun e => e.2.state.endpoint.isSome) =
      KeyedMap.pairs r.shared.instances := by
  rw [List.filter_eq_self]
  rintro ⟨n, i⟩ hmem
  have hi := (KeyedMap.mem_pairs_iff _ n i).1 hmem
  obtain ⟨nodePort, -, ⟨j, hj, hstate⟩, -⟩ := h.serves n ((h.tracked n).2 (by rw [hi]; rfl))
  rw [hi] at hj
  cases hj
  rw [hstate]
  rfl

/-- After the loop, all is recovered exactly when no row waits for its deployment and no PR runs
for two rows. -/
theorem Progress.recoveredAll_iff {builds : List PrBuild} {r : Recovery}
    (h : Progress config c r (runningPrs c builds)) :
    RecoveredAll config c builds r.shared r.recovered ↔
      (∀ build ∈ builds, ∀ deployment,
        c.deployments (deploymentName (prOf build)) = some deployment →
          (c.nodePort (prOf build)).isSome = true → deployment.isReady = true) ∧
      (runningPrs c builds).Nodup := by
  -- a row counts even if an earlier row has already inserted its PR
  have hcount : r.recovered =
      ((KeyedMap.pairs r.shared.instances).filter fun e => e.2.state.endpoint.isSome).length ↔
        (runningPrs c builds).Nodup := by
    rw [h.filter_ready, h.counted]
    exact KeyedMap.length_eq_length_pairs_iff h.tracked
  constructor
  · intro hall
    refine ⟨?_, hcount.1 hall.counted⟩
    intro build hbuild deployment hdep hport
    obtain ⟨nodePort, hport⟩ := Option.isSome_iff_exists.1 hport
    by_contra hready
    have htracked := hall.tracked build hbuild deployment nodePort hdep hport
    rw [if_neg hready] at htracked
    -- only the PRs that run are tracked
    obtain ⟨i, hi, -⟩ := htracked
    have hmem := (h.tracked (prOf build)).2 (by rw [hi]; rfl)
    obtain ⟨deployment', nodePort', hdep', hready', -⟩ := runs_iff.1 (List.mem_filter.1 hmem).2
    rw [hdep] at hdep'
    cases hdep'
    exact hready hready'
  · rintro ⟨hready, hnodup⟩
    refine ⟨?_, hcount.2 hnodup⟩
    intro build hbuild deployment nodePort hdep hport
    have hisReady := hready build hbuild deployment hdep (by rw [hport]; rfl)
    rw [if_pos hisReady]
    have hmem : prOf build ∈ runningPrs c builds :=
      List.mem_filter.2 ⟨List.mem_map_of_mem hbuild,
        runs_iff.2 ⟨deployment, nodePort, hdep, hisReady, hport⟩⟩
    obtain ⟨nodePort', hport', hserves⟩ := h.serves (prOf build) hmem
    rw [hport] at hport'
    cases hport'
    exact hserves

end Complete

/-- Recovery is complete exactly when every active row whose deployment exists and whose service
has a NodePort has a ready deployment, no two of these rows name one PR, and their shutdown times
can be represented. -/
theorem recoveryComplete_iff (config : KubernetesConfig) (c : Cluster) (message : String)
    (answers : PrBuild → RowAnswers) (staticBackends : KeyedMap String BackendServer)
    (builds : PrBuilds) (deployments : KeyedMap String String)
    (services : KeyedMap String (Option Int32)) :
    RecoveryComplete config c message answers
        (Shared.startUp staticBackends builds deployments services) ↔
      (∀ build ∈ builds.getActiveBuilds, ∀ deployment,
        c.deployments (deploymentName (prOf build)) = some deployment →
          (c.nodePort (prOf build)).isSome = true → deployment.isReady = true) ∧
      (runningPrs c builds.getActiveBuilds).Nodup ∧
      ∀ build ∈ builds.getActiveBuilds, c.runs (prOf build) = true →
        HasDeadline config (answers build) := by
  have hstart := progress_startUp config c staticBackends builds deployments services
  rw [← exists_exec_truthfully_iff config c message answers builds.getActiveBuilds
    ⟨Shared.startUp staticBackends builds deployments services, 0⟩]
  constructor
  · rintro ⟨sh', count, hrec, hall⟩
    simp only [recoverFromDb, Option.map_eq_some_iff, Prod.mk.injEq, Except.ok.injEq] at hrec
    obtain ⟨⟨r', t⟩, hrun, rfl, rfl⟩ := hrec
    have hprogress := hstart.exec hrun
    rw [List.nil_append] at hprogress
    obtain ⟨hready, hnodup⟩ := hprogress.recoveredAll_iff.1 hall
    exact ⟨hready, hnodup, r', t, hrun⟩
  · rintro ⟨hready, hnodup, r', t, hrun⟩
    have hprogress := hstart.exec hrun
    rw [List.nil_append] at hprogress
    refine ⟨r'.shared, r'.recovered, ?_, hprogress.recoveredAll_iff.2 ⟨hready, hnodup⟩⟩
    have hloop : (system config (c.truthfully message answers)).exec
        ⟨Shared.startUp staticBackends builds deployments services, 0⟩
        (Shared.startUp staticBackends builds deployments services).builds.getActiveBuilds =
          some (r', t) := hrun
    simp only [recoverFromDb, hloop, Option.map_some]

/-- A cluster in which the pod of PR 7 is still coming up. -/
def startingCluster : Cluster where
  deployments := fun name => if name = "steel-pr-7" then some ⟨some 0⟩ else none
  services := fun name => if name = "steel-pr-7" then some ⟨some (some [⟨some 30007⟩])⟩ else none

/-- A deployment that is not ready yet is forgotten. -/
theorem starting_deployment_untracked :
    ¬ ∀ (config : KubernetesConfig) (c : Cluster) (message : String)
      (answers : PrBuild → RowAnswers) (staticBackends : KeyedMap String BackendServer)
      (builds : PrBuilds) (deployments : KeyedMap String String)
      (services : KeyedMap String (Option Int32)),
      RecoveryComplete config c message answers
        (Shared.startUp staticBackends builds deployments services) := by
  intro hall
  obtain ⟨sh', count, hrec, hrecovered⟩ :=
    hall ⟨"localhost:5000/steel", 30, "steel-server", "127.0.0.1"⟩ startingCluster "not found"
      (fun _ => unreachable) ∅ sampleBuilds ∅ ∅
  have htracked := hrecovered.tracked sampleRow (by decide) ⟨some 0⟩ 30007 (by rfl) (by rfl)
  -- the recovery returns with an empty instance map
  cases hrec
  obtain ⟨i, hi, -⟩ := htracked
  cases hi

end SteelProxy.Recovery
