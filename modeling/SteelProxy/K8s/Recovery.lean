import SteelProxy.Library.Transition
import SteelProxy.K8s.Handlers

/-!
# Recovery from the database at start-up

`K8sManager::recover_from_db` over the rows of `pr_builds`, one step for each active row. The
answers while a row is recovered are arbitrary; the Kubernetes client is initialised by the first
call that succeeds in it and is kept from then on.

The row of a PR is to be deleted only on a positive report that its deployment or its service is
gone. The source folds every other error into the same match arms, so a step keeps this rule
exactly when no such error meets a row that the delete removes (`conservative_iff`).
-/

set_option autoImplicit false

namespace SteelProxy

open SteelProxy.Library SteelProxy.Library.Transition

/-- The answers while one row is recovered. `clientInit` is the outcome of initialising the
Kubernetes client, should it be tried; the service is asked for only after a ready deployment. -/
structure RowAnswers where
  clientInit : Bool
  deployment : Except KubeError Deployment
  service : Except KubeError Service
  now : Instant
  readyAt : Instant
  deleteSucceeds : Bool

/-- The stores and the counter `recovered` of the loop. -/
structure Recovery where
  shared : Shared
  recovered : Nat

namespace Recovery

/-- The stores after the Kubernetes client was asked for. -/
def afterClient (a : RowAnswers) (sh : Shared) : Shared :=
  { sh with clientReady := sh.clientReady || a.clientInit }

/-- The call of `is_deployment_ready`. -/
def deploymentCall (a : RowAnswers) (sh : Shared) : KubeCall Deployment :=
  if sh.clientReady || a.clientInit then .answered a.deployment else .clientFailed

/-- `let _ = PrBuild::delete(..)`; an error is dropped. -/
def deleteBuild (a : RowAnswers) (sh : Shared) (n : UInt32) : Shared :=
  if a.deleteSucceeds then { sh with builds := sh.builds.delete n } else sh

/-- The branch of a ready deployment with an endpoint; `none` is the panic of the clock sum. -/
def recoverReady (config : KubernetesConfig) (a : RowAnswers) (r : Recovery) (n : UInt32)
    (build : PrBuild) (address : String) (port : UInt16) : Option Recovery :=
  match a.now.addSecs (config.instanceTimeoutMinutes * 60) with
  | none => none
  | some shutdownAt =>
      let state := InstanceState.ready (deploymentName n) address port a.readyAt shutdownAt
      some
        { shared :=
            { r.shared with
              instances := r.shared.instances.insert n
                ⟨n, build.commitHash, build.commitHashShort, state⟩
              backends := K8sManager.registerBackend r.shared.backends n address port }
          recovered := r.recovered + 1 }

/-- The body of the loop of `recover_from_db`. -/
def recoverBuild (config : KubernetesConfig) (a : RowAnswers) (r : Recovery) (build : PrBuild) :
    Option Recovery :=
  let n := prNumberAsU32 build.prNumber
  let sh := afterClient a r.shared
  match K8sManager.isDeploymentReady (deploymentCall a r.shared) with
  | .ok true =>
      match K8sManager.getServiceInfo config (.answered a.service) with
      | .ok (some (address, port)) =>
          recoverReady config a { r with shared := sh } n build address port
      -- the `else` of `if let Ok(Some(..))`: no service, no NodePort, or any error
      | _ => some { r with shared := deleteBuild a sh n }
  -- logged as "will be handled by lifecycle", but nothing is inserted for the loop to handle
  | .ok false => some { r with shared := sh }
  -- the source reads every error as "Deployment doesn't exist"
  | .error _ => some { r with shared := deleteBuild a sh n }

/-- The loop of `recover_from_db`, a step for each row. -/
def system (config : KubernetesConfig) (answers : PrBuild → RowAnswers) :
    System Recovery PrBuild Empty :=
  ⟨fun r build => (recoverBuild config (answers build) r build).map fun r' => (r', [])⟩

/-- `K8sManager::recover_from_db`; `loadError` is the error of the query, and `none` a panic. -/
def recoverFromDb (config : KubernetesConfig) (loadError : Option String)
    (answers : PrBuild → RowAnswers) (sh : Shared) : Option (Shared × Except String Nat) :=
  match loadError with
  | some e => some (sh, .error e)
  | none =>
      ((system config answers).exec ⟨sh, 0⟩ sh.builds.getActiveBuilds).map fun p =>
        (p.1.shared, .ok p.1.recovered)

theorem step_eq_some_iff {config : KubernetesConfig} {answers : PrBuild → RowAnswers}
    {r r' : Recovery} {build : PrBuild} {t : List Empty} :
    (system config answers).step r build = some (r', t) ↔
      recoverBuild config (answers build) r build = some r' ∧ t = [] := by
  show (recoverBuild config (answers build) r build).map (fun r' => (r', [])) = some (r', t) ↔ _
  cases recoverBuild config (answers build) r build with
  | none => simp
  | some r₁ =>
      simp only [Option.map_some, Option.some.injEq, Prod.mk.injEq]
      exact and_congr_right fun _ => eq_comm

/-- A returning call failed to load the rows, or ran the loop over all of them. -/
theorem exec_of_recoverFromDb {config : KubernetesConfig} {loadError : Option String}
    {answers : PrBuild → RowAnswers} {sh sh' : Shared} {result : Except String Nat}
    (h : recoverFromDb config loadError answers sh = some (sh', result)) :
    sh' = sh ∨ ∃ count t, (system config answers).exec ⟨sh, 0⟩ sh.builds.getActiveBuilds =
      some (⟨sh', count⟩, t) := by
  cases loadError with
  | some e =>
      simp only [recoverFromDb, Option.some.injEq, Prod.mk.injEq] at h
      exact Or.inl h.1.symm
  | none =>
      simp only [recoverFromDb, Option.map_eq_some_iff, Prod.mk.injEq] at h
      obtain ⟨⟨⟨shared, recovered⟩, t⟩, hrun, rfl, -⟩ := h
      exact Or.inr ⟨recovered, t, hrun⟩

/-! ## What Kubernetes reported -/

/-- Kubernetes reported that the deployment does not exist, or that it is ready but its service
does not exist or has no NodePort. -/
def positiveReport : KubeCall Deployment → Except KubeError Service → Bool
  | .clientFailed, _ => false
  | .answered (.error e), _ => e.isNotFound
  | .answered (.ok deployment), .error e => deployment.isReady && e.isNotFound
  | .answered (.ok deployment), .ok svc => deployment.isReady && svc.firstNodePort.isNone

/-- A query that is made ends in an error other than 404, or without a client. -/
def unclassifiedError : KubeCall Deployment → Except KubeError Service → Bool
  | .clientFailed, _ => true
  | .answered (.error e), _ => !e.isNotFound
  | .answered (.ok deployment), .error e => deployment.isReady && !e.isNotFound
  | .answered (.ok _), .ok _ => false

theorem positiveReport_eq_false {call : KubeCall Deployment}
    {service : Except KubeError Service} (h : unclassifiedError call service = true) :
    positiveReport call service = false := by
  cases call with
  | clientFailed => rfl
  | answered answer =>
      cases answer with
      | error e => simpa [unclassifiedError, positiveReport] using h
      | ok deployment =>
          cases service with
          | error e =>
              simp only [unclassifiedError, Bool.and_eq_true, Bool.not_eq_true'] at h
              simp [positiveReport, h.2]
          | ok svc => cases h

/-- `Recovered config a r build r'`: the step of a row that goes from `r` to `r'`. A row is
recovered, left to the lifecycle loop, or deleted; the last on every error. -/
inductive Recovered (config : KubernetesConfig) (a : RowAnswers) (r : Recovery)
    (build : PrBuild) : Recovery → Prop where
  | ready {r' : Recovery} (deployment : Deployment) (svc : Service) (nodePort : Int32)
      (hcall : deploymentCall a r.shared = .answered (.ok deployment))
      (hready : deployment.isReady = true) (hservice : a.service = .ok svc)
      (hport : svc.firstNodePort = some nodePort)
      (hrecover : recoverReady config a { r with shared := afterClient a r.shared }
        (prNumberAsU32 build.prNumber) build config.nodeAddress (nodePortAsU16 nodePort) =
          some r') : Recovered config a r build r'
  | deferred (deployment : Deployment)
      (hcall : deploymentCall a r.shared = .answered (.ok deployment))
      (hready : deployment.isReady = false) :
      Recovered config a r build { r with shared := afterClient a r.shared }
  | removed (hreport : (positiveReport (deploymentCall a r.shared) a.service ||
        unclassifiedError (deploymentCall a r.shared) a.service) = true) :
      Recovered config a r build
        { r with
          shared := deleteBuild a (afterClient a r.shared) (prNumberAsU32 build.prNumber) }

/-- `recoverBuild` does nothing that `Recovered` does not list. -/
theorem recovered_of_recoverBuild {config : KubernetesConfig} {a : RowAnswers}
    {r r' : Recovery} {build : PrBuild} (h : recoverBuild config a r build = some r') :
    Recovered config a r build r' := by
  simp only [recoverBuild] at h
  cases hcall : deploymentCall a r.shared with
  | clientFailed =>
      rw [hcall] at h
      cases h
      exact .removed (by rw [hcall]; rfl)
  | answered answer =>
      cases answer with
      | error e =>
          rw [hcall] at h
          cases h
          exact .removed (by rw [hcall]; simp [positiveReport, unclassifiedError])
      | ok deployment =>
          cases hready : deployment.isReady with
          | false =>
              simp only [hcall, K8sManager.isDeploymentReady, hready] at h
              cases h
              exact .deferred deployment hcall hready
          | true =>
              simp only [hcall, K8sManager.isDeploymentReady, hready] at h
              cases hservice : a.service with
              | error e =>
                  have hclass : (positiveReport (deploymentCall a r.shared) a.service ||
                      unclassifiedError (deploymentCall a r.shared) a.service) = true := by
                    simp [hcall, hservice, positiveReport, unclassifiedError, hready]
                  -- 404 and every other error of `get_service_info` take the same `else` branch
                  cases hfound : e.isNotFound <;>
                    · simp only [hservice, K8sManager.getServiceInfo, hfound, if_true,
                        Bool.false_eq_true, if_false] at h
                      cases h
                      exact .removed hclass
              | ok svc =>
                  cases hport : svc.firstNodePort with
                  | none =>
                      simp only [hservice, K8sManager.getServiceInfo, hport, Option.map_none] at h
                      cases h
                      exact .removed (by simp [hcall, hservice, positiveReport, hready, hport])
                  | some nodePort =>
                      simp only [hservice, K8sManager.getServiceInfo, hport, Option.map_some] at h
                      exact .ready deployment svc nodePort hcall hready hservice hport h

theorem recoverReady_eq_some_iff {config : KubernetesConfig} {a : RowAnswers}
    {r r' : Recovery} {n : UInt32} {build : PrBuild} {address : String} {port : UInt16} :
    recoverReady config a r n build address port = some r' ↔
      ∃ shutdownAt, a.now.addSecs (config.instanceTimeoutMinutes * 60) = some shutdownAt ∧
        r' =
          { shared :=
              { r.shared with
                instances := r.shared.instances.insert n
                  ⟨n, build.commitHash, build.commitHashShort,
                    .ready (deploymentName n) address port a.readyAt shutdownAt⟩
                backends := K8sManager.registerBackend r.shared.backends n address port }
            recovered := r.recovered + 1 } := by
  simp only [recoverReady]
  cases a.now.addSecs (config.instanceTimeoutMinutes * 60) with
  | none => simp
  | some shutdownAt =>
      simp only [Option.some.injEq, exists_eq_left']
      exact eq_comm

theorem builds_deleteBuild (a : RowAnswers) (sh : Shared) (n : UInt32) :
    (deleteBuild a sh n).builds = if a.deleteSucceeds then sh.builds.delete n else sh.builds := by
  simp only [deleteBuild]
  split <;> rfl

/-- The table after a step: the row of the PR is deleted on a positive report, and on every
unclassified error. -/
theorem builds_recoverBuild {config : KubernetesConfig} {a : RowAnswers} {r r' : Recovery}
    {build : PrBuild} (h : recoverBuild config a r build = some r') :
    r'.shared.builds =
      if (positiveReport (deploymentCall a r.shared) a.service ||
          unclassifiedError (deploymentCall a r.shared) a.service) && a.deleteSucceeds then
        r.shared.builds.delete (prNumberAsU32 build.prNumber)
      else
        r.shared.builds := by
  cases recovered_of_recoverBuild h with
  | ready deployment svc nodePort hcall hready hservice hport hrecover =>
      obtain ⟨shutdownAt, -, rfl⟩ := recoverReady_eq_some_iff.1 hrecover
      simp [hcall, hservice, positiveReport, unclassifiedError, hport, afterClient]
  | deferred deployment hcall hready =>
      rw [hcall]
      cases a.service <;> simp [positiveReport, unclassifiedError, hready, afterClient]
  | removed hreport =>
      rw [hreport, builds_deleteBuild, Bool.true_and]
      rfl

/-! ## Conservative recovery -/

/-- The step of a row keeps the other rows, and the row of its PR unless Kubernetes positively
reported that it is gone. -/
def ConservativeAt (config : KubernetesConfig) (answers : PrBuild → RowAnswers) (r : Recovery)
    (build : PrBuild) : Prop :=
  ∀ r', recoverBuild config (answers build) r build = some r' →
    r'.shared.builds.rows ⊆ r.shared.builds.rows ∧
      ∀ row ∈ r.shared.builds.rows, row ∉ r'.shared.builds.rows →
        row.prNumber = prNumberAsI64 (prNumberAsU32 build.prNumber) ∧
          positiveReport (deploymentCall (answers build) r.shared) (answers build).service = true

/-- Every step of `recover_from_db` on the loaded rows is conservative. -/
def Conservative (config : KubernetesConfig) (answers : PrBuild → RowAnswers) (sh : Shared) :
    Prop :=
  (system config answers).Meets (ConservativeAt config answers) ⟨sh, 0⟩ sh.builds.getActiveBuilds

/-- An unclassified error does not meet a row that the delete removes. -/
def ErrorsDeleteNothing (answers : PrBuild → RowAnswers) (r : Recovery) (build : PrBuild) : Prop :=
  unclassifiedError (deploymentCall (answers build) r.shared) (answers build).service = true →
    (answers build).deleteSucceeds = true →
      ∀ row ∈ r.shared.builds.rows, row.prNumber ≠ prNumberAsI64 (prNumberAsU32 build.prNumber)

/-- An unclassified error ends in the delete. -/
theorem recoverBuild_of_unclassifiedError (config : KubernetesConfig) {a : RowAnswers}
    {r : Recovery} (build : PrBuild)
    (h : unclassifiedError (deploymentCall a r.shared) a.service = true) :
    recoverBuild config a r build = some
      { r with
        shared := deleteBuild a (afterClient a r.shared) (prNumberAsU32 build.prNumber) } := by
  simp only [recoverBuild]
  cases hcall : deploymentCall a r.shared with
  | clientFailed => rfl
  | answered answer =>
      cases answer with
      | error e => rfl
      | ok deployment =>
          cases hservice : a.service with
          | error e =>
              simp only [hcall, hservice, unclassifiedError, Bool.and_eq_true,
                Bool.not_eq_true'] at h
              simp [K8sManager.isDeploymentReady, K8sManager.getServiceInfo, h.1, h.2]
          | ok svc => simp [hcall, hservice, unclassifiedError] at h

theorem conservativeAt_iff (config : KubernetesConfig) (answers : PrBuild → RowAnswers)
    (r : Recovery) (build : PrBuild) :
    ConservativeAt config answers r build ↔ ErrorsDeleteNothing answers r build := by
  constructor
  · -- a row of the PR would be lost to the delete without a positive report
    intro h herror hdelete row hrow hnumber
    have hstep := recoverBuild_of_unclassifiedError config build herror
    obtain ⟨-, hlost⟩ := h _ hstep
    have hgone : row ∉ (deleteBuild (answers build) (afterClient (answers build) r.shared)
        (prNumberAsU32 build.prNumber)).builds.rows := by
      rw [builds_deleteBuild, if_pos hdelete, PrBuilds.mem_rows_delete_iff]
      exact fun hmem => hmem.2 hnumber
    have hpositive := (hlost row hrow hgone).2
    rw [positiveReport_eq_false herror] at hpositive
    cases hpositive
  · intro h r' hstep
    rw [builds_recoverBuild hstep]
    split
    · rename_i hcond
      simp only [Bool.and_eq_true, Bool.or_eq_true] at hcond
      -- the delete was reached by a positive report, or by an error that deletes no row
      refine ⟨fun row hrow => ((PrBuilds.mem_rows_delete_iff _ _ row).1 hrow).1, ?_⟩
      intro row hrow hgone
      have hnumber : row.prNumber = prNumberAsI64 (prNumberAsU32 build.prNumber) := by
        by_contra hne
        exact hgone ((PrBuilds.mem_rows_delete_iff _ _ row).2 ⟨hrow, hne⟩)
      refine ⟨hnumber, hcond.1.resolve_right ?_⟩
      intro herror
      exact h herror hcond.2 row hrow hnumber
    · exact ⟨fun row hrow => hrow, fun row hrow hgone => absurd hrow hgone⟩

/-- Recovery is conservative exactly when no unclassified error meets a row that the delete
removes. -/
theorem conservative_iff (config : KubernetesConfig) (answers : PrBuild → RowAnswers)
    (sh : Shared) :
    Conservative config answers sh ↔
      (system config answers).Meets (ErrorsDeleteNothing answers) ⟨sh, 0⟩
        sh.builds.getActiveBuilds :=
  (system config answers).meets_congr (conservativeAt_iff config answers) _ _

/-- A start-up with one row. -/
def sampleStartUp : Shared := Shared.startUp ∅ sampleBuilds ∅ ∅

/-- The API server cannot be reached. -/
def unreachable : RowAnswers where
  clientInit := true
  deployment := .error ⟨none, "connection refused"⟩
  service := .error ⟨none, "connection refused"⟩
  now := ⟨0⟩
  readyAt := ⟨0⟩
  deleteSucceeds := true

/-- An unreachable API server erases the row of a PR. -/
theorem unreachable_deletes_row :
    ¬ ∀ (config : KubernetesConfig) (answers : PrBuild → RowAnswers) (sh : Shared),
      Conservative config answers sh := by
  intro hall
  have hfirst : ConservativeAt ⟨"localhost:5000/steel", 30, "steel-server", "127.0.0.1"⟩
      (fun _ => unreachable) ⟨sampleStartUp, 0⟩ sampleRow :=
    (hall _ (fun _ => unreachable) sampleStartUp).1
  have hlost := (hfirst _ rfl).2 sampleRow List.mem_cons_self (by decide)
  exact absurd hlost.2 (by decide)

/-! ## Rows over the whole recovery -/

theorem positiveReport_answered {a : RowAnswers} {sh : Shared}
    (h : positiveReport (deploymentCall a sh) a.service = true) :
    positiveReport (.answered a.deployment) a.service = true := by
  simp only [deploymentCall] at h
  split at h
  · exact h
  · cases h

/-- A row lost by a conservative recovery belongs to the PR of a loaded row on which Kubernetes
gave a positive report. -/
theorem exists_positiveReport_of_lost {config : KubernetesConfig}
    {answers : PrBuild → RowAnswers} {builds : List PrBuild} {r r' : Recovery} {t : List Empty}
    (hrun : (system config answers).exec r builds = some (r', t))
    (hcons : (system config answers).Meets (ConservativeAt config answers) r builds)
    {row : PrBuild} (hrow : row ∈ r.shared.builds.rows) (hgone : row ∉ r'.shared.builds.rows) :
    ∃ build ∈ builds, row.prNumber = prNumberAsI64 (prNumberAsU32 build.prNumber) ∧
      positiveReport (.answered (answers build).deployment) (answers build).service = true := by
  induction builds generalizing r t with
  | nil =>
      simp only [System.exec_nil, Option.some.injEq, Prod.mk.injEq] at hrun
      obtain ⟨rfl, -⟩ := hrun
      exact absurd hrow hgone
  | cons build builds ih =>
      obtain ⟨m, t₁, t₂, hstep, hrest, -⟩ := System.exec_cons_iff _ |>.1 hrun
      obtain ⟨hhead, htail⟩ := (System.meets_cons_iff _ hstep).1 hcons
      -- the row is lost in this step, or later
      by_cases hm : row ∈ m.shared.builds.rows
      · obtain ⟨build', hmem, h⟩ := ih hrest htail hm
        exact ⟨build', List.mem_cons_of_mem _ hmem, h⟩
      · obtain ⟨hnumber, hreport⟩ := (hhead m (step_eq_some_iff.1 hstep).1).2 row hrow hm
        exact ⟨build, List.mem_cons_self, hnumber, positiveReport_answered hreport⟩

/-! ## What recovery tracks -/

/-- All tracked instances are in `Ready`. -/
def AllReady (m : Instances) : Prop :=
  ∀ n i, m.lookup n = some i → i.state.endpoint.isSome = true

theorem allReady_recoverBuild {config : KubernetesConfig} {a : RowAnswers} {r r' : Recovery}
    {build : PrBuild} (h : AllReady r.shared.instances)
    (hstep : recoverBuild config a r build = some r') : AllReady r'.shared.instances := by
  cases recovered_of_recoverBuild hstep with
  | ready deployment svc nodePort hcall hready hservice hport hrecover =>
      obtain ⟨shutdownAt, -, rfl⟩ := recoverReady_eq_some_iff.1 hrecover
      intro n i hi
      by_cases hn : n = prNumberAsU32 build.prNumber
      · subst hn
        simp only [AList.lookup_insert, Option.some.injEq] at hi
        subst hi
        rfl
      · simp only [AList.lookup_insert_ne hn] at hi
        exact h n i hi
  | deferred deployment hcall hready => exact h
  | removed hreport =>
      simp only [deleteBuild]
      split
      · exact h
      · exact h

/-- A recovered instance is in `Ready`. -/
theorem allReady_recoverFromDb {config : KubernetesConfig} {loadError : Option String}
    {answers : PrBuild → RowAnswers} {sh sh' : Shared} {result : Except String Nat}
    (h : AllReady sh.instances)
    (hrec : recoverFromDb config loadError answers sh = some (sh', result)) :
    AllReady sh'.instances := by
  rcases exec_of_recoverFromDb hrec with rfl | ⟨count, t, hrun⟩
  · exact h
  · exact System.exec_state_invariant (system config answers) (fun r => AllReady r.shared.instances)
      (fun r build r' _ hr _ hstep => allReady_recoverBuild hr (step_eq_some_iff.1 hstep).1) h
      (System.meets_of_forall _ (fun _ _ _ => trivial) _) hrun

end Recovery

end SteelProxy
