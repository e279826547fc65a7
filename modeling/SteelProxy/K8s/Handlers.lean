import SteelProxy.Database
import SteelProxy.K8s.Manager

/-!
# The lifecycle handlers, between awaits

`k8s/lifecycle.rs` and the Kubernetes calls of `k8s/mod.rs` it makes, cut at every `await`. A
handler is started by `dispatch` on an entry of the snapshot and continued by `resume` with the
answer it waits for; each piece returns the stores, where the handler stops next, and the events
it causes.

The stores hold the cluster as the answers reveal it: a successful create adds the object, a
successful delete or a 404 removes it, and any other error leaves it as it was.
-/

set_option autoImplicit false

namespace SteelProxy

open SteelProxy.Library

/-- What the lifecycle code and `start_pr` read of the configuration; Kubernetes and Jenkins are
configured whenever the loop runs. -/
structure Setup where
  kubernetes : KubernetesConfig
  jenkins : JenkinsConfig
  githubConfigured : Bool

/-- The stores shared by the loop, the `start_pr` calls and recovery: the tracked instances, the
backend registry, the `pr_builds` table, whether the Kubernetes client has been initialised, and
the cluster's `steel-pr-*` deployments (by image) and services (by NodePort). -/
structure Shared where
  instances : Instances
  backends : BackendRegistry
  builds : PrBuilds
  clientReady : Bool
  deployments : KeyedMap String String
  services : KeyedMap String (Option Int32)

/-- Observable effects, in order. `inserted` and `removed` carry the previous map entry;
`buildReported` is the status Jenkins gave for the build of a queue item. -/
inductive Event where
  | broadcast (message : String)
  | returned (id : Nat) (error : Option String)
  | triggered (n : UInt32) (commitHashShort queueUrl : String)
  | inserted (n : UInt32) (old : Option PrInstance)
  | removed (n : UInt32) (old : Option PrInstance)
  | buildReported (n : UInt32) (queueUrl buildUrl : String) (status : BuildStatus)
  | deployed (n : UInt32) (image : String)
  | foundReady (n : UInt32) (image : Option String)
  | upserted (n : UInt32) (commitHash commitHashShort imageTag state : String)
  deriving DecidableEq, Repr

/-- The `await` at which a handler is suspended, with its live local variables. -/
inductive HandlerPc where
  | buildUrl (commitHashShort queueUrl : String)
  | buildStatus (commitHashShort queueUrl buildUrl : String)
  | deleteDeployment (imageTag : String)
  | settle (imageTag : String)
  | createDeployment (imageTag : String)
  | deleteService
  | createService
  | checkReady (commitHash commitHashShort deploymentName address : String) (port : UInt16)
  | register (commitHash commitHashShort deploymentName address : String) (port : UInt16)
  | persist (commitHash commitHashShort : String)
  | unregister (deploymentName : String)
  | tearDownDeployment
  | tearDownService
  deriving DecidableEq, Repr

/-- The value an `await` returns. -/
inductive Answer where
  | clientFailed
  | queueItem (answer : HttpAnswer (Option String))
  | build (answer : HttpAnswer BuildJson)
  | deleted (answer : Except KubeError Unit)
  | slept
  | deploymentCreated (answer : Except KubeError Unit)
  | serviceCreated (answer : Except KubeError Service) (now : Instant)
  | deploymentRead (answer : Except KubeError Deployment)
  | registryLocked (now readyAt : Instant)
  | persisted (answer : Except String String)

/-- Where a piece of a handler stops: at the next `await`, at its end, or in a panic. -/
inductive Flow where
  | await (pc : HandlerPc)
  | done
  | panicked
  deriving DecidableEq, Repr

/-- The result of a piece of a handler. -/
structure Outcome where
  shared : Shared
  flow : Flow
  events : List Event

namespace Shared

/-- The stores when the proxy starts. -/
def startUp (staticBackends : KeyedMap String BackendServer) (builds : PrBuilds)
    (deployments : KeyedMap String String) (services : KeyedMap String (Option Int32)) : Shared :=
  ⟨∅, BackendRegistry.new staticBackends, builds, false, deployments, services⟩

/-- `update_instance_state` on the stores. -/
def setState (sh : Shared) (n : UInt32) (state : InstanceState) : Shared :=
  { sh with instances := K8sManager.updateInstanceState sh.instances n state }

/-- `remove_instance` on the stores. -/
def untrack (sh : Shared) (n : UInt32) : Shared :=
  { sh with instances := K8sManager.removeInstance sh.instances n }

/-- The Kubernetes client exists from its first successful initialisation on. -/
def withClient (sh : Shared) : Shared := { sh with clientReady := true }

/-- The cluster after a delete of the deployment `name` was answered. -/
def afterDeleteDeployment (sh : Shared) (name : String) : Except KubeError Unit → Shared
  | .ok () => { sh with deployments := sh.deployments.erase name }
  | .error e =>
      if e.isNotFound then { sh with deployments := sh.deployments.erase name } else sh

/-- The cluster after a delete of the service `name` was answered. -/
def afterDeleteService (sh : Shared) (name : String) : Except KubeError Unit → Shared
  | .ok () => { sh with services := sh.services.erase name }
  | .error e => if e.isNotFound then { sh with services := sh.services.erase name } else sh

/-- The answer to a delete after which the object is gone. -/
def isGone : Except KubeError Unit → Bool
  | .ok () => true
  | .error e => e.isNotFound

@[simp]
theorem afterDeleteDeployment_eq (sh : Shared) (name : String) (answer : Except KubeError Unit) :
    sh.afterDeleteDeployment name answer =
      { sh with
        deployments := if isGone answer then sh.deployments.erase name else sh.deployments } := by
  cases answer with
  | ok u => rfl
  | error e =>
      cases h : e.isNotFound <;> simp [afterDeleteDeployment, isGone, h]

@[simp]
theorem afterDeleteService_eq (sh : Shared) (name : String) (answer : Except KubeError Unit) :
    sh.afterDeleteService name answer =
      { sh with services := if isGone answer then sh.services.erase name else sh.services } := by
  cases answer with
  | ok u => rfl
  | error e =>
      cases h : e.isNotFound <;> simp [afterDeleteService, isGone, h]

theorem lookup_setState {sh : Shared} {n : UInt32} {i : PrInstance}
    (hi : sh.instances.lookup n = some i) (state : InstanceState) :
    (sh.setState n state).instances.lookup n = some { i with state := state } := by
  rw [setState, K8sManager.lookup_updateInstanceState, if_pos rfl, hi, Option.map_some]

end Shared

namespace Lifecycle

/-- `format!("{}/{}:{}", registry, image_name, image_tag)`. -/
def deploymentImage (config : KubernetesConfig) (imageTag : String) : String :=
  s!"{config.registry}/{config.imageName}:{imageTag}"

/-! ## Building -/

/-- `handle_building` up to the queue item query. -/
def handleBuilding (setup : Setup) (sh : Shared) (n : UInt32) (commitHashShort : String)
    (startedAt : Instant) (queueUrl : Option String) (now : Instant) : Outcome :=
  let timeout := JenkinsClient.buildTimeout setup.jenkins
  if startedAt.elapsedExceeds now timeout then
    ⟨sh.setState n (.failed "Build timeout"), .done,
      [.broadcast s!"§c[Proxy] PR #{n} build timed out after {timeout / 60} minutes"]⟩
  else
    -- despite its name, the stored build URL is the URL of the queue item
    match queueUrl with
    | none => ⟨sh, .done, []⟩
    | some queueUrl => ⟨sh, .await (.buildUrl commitHashShort queueUrl), []⟩

/-- `handle_building` after `get_build_url`. -/
def handleBuildingUrl (sh : Shared) (commitHashShort queueUrl : String)
    (answer : HttpAnswer (Option String)) : Outcome :=
  match JenkinsClient.getBuildUrl answer with
  | .ok (some url) => ⟨sh, .await (.buildStatus commitHashShort queueUrl url), []⟩
  -- still queued, or a failed query: the next tick asks again
  | .ok none => ⟨sh, .done, []⟩
  | .error _ => ⟨sh, .done, []⟩

/-- `handle_building` after `get_build_status`. -/
def handleBuildingStatus (sh : Shared) (n : UInt32) (commitHashShort queueUrl buildUrl : String)
    (answer : HttpAnswer BuildJson) : Outcome :=
  match JenkinsClient.getBuildStatus answer with
  -- the image tag is made from the commit of the snapshot's entry
  | .ok .success =>
      ⟨sh.setState n (.deploying (imageTagOf n commitHashShort)), .done,
        [.buildReported n queueUrl buildUrl .success,
          .broadcast s!"§a[Proxy] PR #{n} build completed! Deploying..."]⟩
  | .ok (.failed reason) =>
      ⟨sh.setState n (.failed reason), .done,
        [.buildReported n queueUrl buildUrl (.failed reason),
          .broadcast s!"§c[Proxy] PR #{n} build failed: {reason}"]⟩
  | .ok .building => ⟨sh, .done, [.buildReported n queueUrl buildUrl .building]⟩
  | .ok .queued => ⟨sh, .done, [.buildReported n queueUrl buildUrl .queued]⟩
  | .ok .notFound =>
      ⟨sh.setState n (.failed "Build not found"), .done,
        [.buildReported n queueUrl buildUrl .notFound]⟩
  | .error _ => ⟨sh, .done, []⟩

/-! ## Deploying -/

/-- `handle_deploying` up to the first call of `create_deployment`. -/
def handleDeploying (sh : Shared) (imageTag : String) : Outcome :=
  ⟨sh, .await (.deleteDeployment imageTag), []⟩

/-- The arm of `handle_deploying` for an error of `create_deployment`. -/
def deploymentFailed (sh : Shared) (n : UInt32) (error : String) : Outcome :=
  ⟨sh.setState n (.failed s!"Deployment failed: {error}"), .done,
    [.broadcast s!"§c[Proxy] Failed to deploy PR #{n}: {error}"]⟩

/-- The arm of `handle_deploying` for an error of `create_service`. -/
def serviceFailed (sh : Shared) (n : UInt32) (error : String) : Outcome :=
  ⟨sh.setState n (.failed s!"Service creation failed: {error}"), .done,
    [.broadcast s!"§c[Proxy] Failed to create service for PR #{n}: {error}"]⟩

/-- `create_deployment` after the delete of an old deployment; only a delete that removed
something is followed by the two-second wait, and an error is only logged. -/
def createDeploymentDeleted (sh : Shared) (n : UInt32) (imageTag : String)
    (answer : Except KubeError Unit) : Outcome :=
  let sh' := sh.withClient.afterDeleteDeployment (deploymentName n) answer
  match answer with
  | .ok () => ⟨sh', .await (.settle imageTag), []⟩
  -- a 404 and any other error of the delete both go on to the create call
  | .error _ => ⟨sh', .await (.createDeployment imageTag), []⟩

/-- `create_deployment` after the create call, and `handle_deploying` up to the first call of
`create_service`. -/
def createDeploymentCreated (setup : Setup) (sh : Shared) (n : UInt32) (imageTag : String)
    (answer : Except KubeError Unit) : Outcome :=
  match answer with
  | .ok () =>
      let image := deploymentImage setup.kubernetes imageTag
      ⟨{ sh with deployments := sh.deployments.insert (deploymentName n) image },
        .await .deleteService, [.deployed n image]⟩
  | .error _ => deploymentFailed sh n "Failed to create deployment"

/-- `create_service` after the delete of an old service. -/
def createServiceDeleted (sh : Shared) (n : UInt32) (answer : Except KubeError Unit) : Outcome :=
  ⟨sh.withClient.afterDeleteService (deploymentName n) answer, .await .createService, []⟩

/-- `create_service` after the create call, and the end of `handle_deploying`. -/
def createServiceCreated (setup : Setup) (sh : Shared) (n : UInt32)
    (answer : Except KubeError Service) (now : Instant) : Outcome :=
  match answer with
  | .error _ => serviceFailed sh n "Failed to create service"
  | .ok svc =>
      -- the service exists from here on, also when no NodePort was assigned to it
      let sh' := { sh with
        services := sh.services.insert (deploymentName n) svc.firstNodePort }
      match svc.firstNodePort with
      | none => serviceFailed sh' n "No NodePort assigned"
      | some nodePort =>
          ⟨sh'.setState n (.starting (deploymentName n) setup.kubernetes.nodeAddress
            (nodePortAsU16 nodePort) now), .done, []⟩

/-! ## Starting -/

/-- `handle_starting` up to the readiness query. -/
def handleStarting (sh : Shared) (n : UInt32)
    (commitHash commitHashShort deploymentName address : String) (port : UInt16)
    (startedAt now : Instant) : Outcome :=
  if startedAt.elapsedExceeds now 300 then
    ⟨sh.setState n (.shuttingDown deploymentName), .done,
      [.broadcast s!"§c[Proxy] PR #{n} startup timed out"]⟩
  else
    ⟨sh, .await (.checkReady commitHash commitHashShort deploymentName address port), []⟩

/-- `handle_starting` after `is_deployment_ready`. -/
def handleStartingChecked (sh : Shared) (n : UInt32)
    (commitHash commitHashShort deploymentName address : String) (port : UInt16)
    (call : KubeCall Deployment) : Outcome :=
  match K8sManager.isDeploymentReady call with
  -- readiness is asked of the deployment's name; nothing compares its image with the commit
  | .ok true =>
      ⟨sh, .await (.register commitHash commitHashShort deploymentName address port),
        [.foundReady n (sh.deployments.lookup deploymentName)]⟩
  | .ok false => ⟨sh, .done, []⟩
  | .error _ => ⟨sh, .done, []⟩

/-- `handle_starting` once `register_backend` has the registry lock: the backend is registered,
then the shutdown time is computed (with a wrapping product and a panicking sum), then the state
becomes `Ready`. -/
def handleStartingRegistered (setup : Setup) (sh : Shared) (n : UInt32)
    (commitHash commitHashShort deploymentName address : String) (port : UInt16)
    (now readyAt : Instant) : Outcome :=
  let sh' := { sh with backends := K8sManager.registerBackend sh.backends n address port }
  match now.addSecs (setup.kubernetes.instanceTimeoutMinutes * 60) with
  | none => ⟨sh', .panicked, []⟩
  | some shutdownAt =>
      ⟨sh'.setState n (.ready deploymentName address port readyAt shutdownAt),
        .await (.persist commitHash commitHashShort), []⟩

/-- `handle_starting` after the upsert; `answer` is the database's clock, or its error. -/
def handleStartingPersisted (sh : Shared) (n : UInt32) (commitHash commitHashShort : String)
    (answer : Except String String) : Outcome :=
  let imageTag := imageTagOf n commitHashShort
  let ready := Event.broadcast
    s!"§a[Proxy] PR #{n} is ready! Use §e/server pr-{n}§a to connect."
  match answer with
  | .ok now =>
      ⟨{ sh with
          builds := sh.builds.upsert n commitHash commitHashShort imageTag "Ready" none now },
        .done, [.upserted n commitHash commitHashShort imageTag "Ready", ready]⟩
  -- the row is not written, the instance stays `Ready` and is announced all the same
  | .error _ => ⟨sh, .done, [ready]⟩

/-! ## Ready, shutting down, failed -/

/-- `handle_ready` up to the registry lock. -/
def handleReady (sh : Shared) (n : UInt32) (deploymentName : String) (shutdownAt now : Instant) :
    Outcome :=
  if shutdownAt.nanos ≤ now.nanos then
    ⟨sh, .await (.unregister deploymentName),
      [.broadcast s!"§e[Proxy] PR #{n} is shutting down (timeout expired)"]⟩
  else
    ⟨sh, .done, []⟩

/-- `handle_ready` once `unregister_backend` has the registry lock. -/
def handleReadyUnregistered (sh : Shared) (n : UInt32) (deploymentName : String) : Outcome :=
  let sh' := { sh with backends := K8sManager.unregisterBackend sh.backends n }
  ⟨sh'.setState n (.shuttingDown deploymentName), .done, []⟩

/-- `handle_shutting_down` up to the first call of `delete_instance`. -/
def handleShuttingDown (sh : Shared) : Outcome := ⟨sh, .await .tearDownDeployment, []⟩

/-- Removal from tracking at the end of a handler. -/
def untracked (sh : Shared) (n : UInt32) (events : List Event) : Outcome :=
  ⟨sh.untrack n, .done, events ++ [.removed n (sh.instances.lookup n)]⟩

/-- The arm of `handle_shutting_down` for an error of `delete_instance`; the instance is still
removed from tracking. -/
def cleanUpFailed (sh : Shared) (n : UInt32) (error : String) : Outcome :=
  untracked sh n [.broadcast s!"§c[Proxy] Failed to clean up PR #{n}: {error}"]

/-- `delete_instance` after the delete of the deployment. -/
def deleteInstanceDeployment (sh : Shared) (n : UInt32) (answer : Except KubeError Unit) :
    Outcome :=
  let sh' := sh.withClient.afterDeleteDeployment (deploymentName n) answer
  match answer with
  | .ok () => ⟨sh', .await .tearDownService, []⟩
  | .error e =>
      if e.isNotFound then ⟨sh', .await .tearDownService, []⟩ else cleanUpFailed sh' n e.message

/-- `delete_instance` after the delete of the service, and the end of `handle_shutting_down`. -/
def deleteInstanceService (sh : Shared) (n : UInt32) (answer : Except KubeError Unit) : Outcome :=
  let sh' := sh.afterDeleteService (deploymentName n) answer
  match answer with
  | .ok () => untracked sh' n []
  | .error e => if e.isNotFound then untracked sh' n [] else cleanUpFailed sh' n e.message

/-! ## Dispatch and resumption -/

/-- The body of the loop of `run_lifecycle_loop` on one snapshot entry, up to its first
`await`. -/
def dispatch (setup : Setup) (sh : Shared) (n : UInt32) (instance_ : PrInstance)
    (now : Instant) : Outcome :=
  -- `instance_` is the snapshot's entry: the map may have changed since it was taken
  match instance_.state with
  | .building startedAt buildUrl =>
      handleBuilding setup sh n instance_.commitHashShort startedAt buildUrl now
  | .deploying imageTag => handleDeploying sh imageTag
  | .starting deploymentName address port startedAt =>
      handleStarting sh n instance_.commitHash instance_.commitHashShort deploymentName address
        port startedAt now
  | .ready deploymentName _ _ _ shutdownAt => handleReady sh n deploymentName shutdownAt now
  | .shuttingDown _ => handleShuttingDown sh
  | .failed _ => untracked sh n []

/-- A failed client initialisation is possible until the client exists, in the pieces that start
by asking for it. -/
def resumeClientFailed (sh : Shared) (n : UInt32) : HandlerPc → Option Outcome
  | .deleteDeployment _ => some (deploymentFailed sh n clientError)
  | .deleteService => some (serviceFailed sh n clientError)
  | .checkReady commitHash commitHashShort deploymentName address port =>
      some (handleStartingChecked sh n commitHash commitHashShort deploymentName address port
        .clientFailed)
  | .tearDownDeployment => some (cleanUpFailed sh n clientError)
  | _ => none

/-- The continuation of the handler of PR `n` suspended at `pc` with an answer; `none` when the
answer is not one that `pc` waits for. -/
def resume (setup : Setup) (sh : Shared) (n : UInt32) (pc : HandlerPc) (answer : Answer) :
    Option Outcome :=
  match answer with
  -- the client is kept in a `OnceCell`, so its initialisation fails only before it first succeeds
  | .clientFailed => if sh.clientReady then none else resumeClientFailed sh n pc
  | .queueItem answer =>
      match pc with
      | .buildUrl commitHashShort queueUrl =>
          some (handleBuildingUrl sh commitHashShort queueUrl answer)
      | _ => none
  | .build answer =>
      match pc with
      | .buildStatus commitHashShort queueUrl buildUrl =>
          some (handleBuildingStatus sh n commitHashShort queueUrl buildUrl answer)
      | _ => none
  | .deleted answer =>
      match pc with
      | .deleteDeployment imageTag => some (createDeploymentDeleted sh n imageTag answer)
      | .deleteService => some (createServiceDeleted sh n answer)
      | .tearDownDeployment => some (deleteInstanceDeployment sh n answer)
      | .tearDownService => some (deleteInstanceService sh n answer)
      | _ => none
  | .slept =>
      match pc with
      | .settle imageTag => some ⟨sh, .await (.createDeployment imageTag), []⟩
      | _ => none
  | .deploymentCreated answer =>
      match pc with
      | .createDeployment imageTag => some (createDeploymentCreated setup sh n imageTag answer)
      | _ => none
  | .serviceCreated answer now =>
      match pc with
      | .createService => some (createServiceCreated setup sh n answer now)
      | _ => none
  | .deploymentRead answer =>
      match pc with
      | .checkReady commitHash commitHashShort deploymentName address port =>
          some (handleStartingChecked sh.withClient n commitHash commitHashShort deploymentName
            address port (.answered answer))
      | _ => none
  | .registryLocked now readyAt =>
      match pc with
      | .register commitHash commitHashShort deploymentName address port =>
          some (handleStartingRegistered setup sh n commitHash commitHashShort deploymentName
            address port now readyAt)
      | .unregister deploymentName => some (handleReadyUnregistered sh n deploymentName)
      | _ => none
  | .persisted answer =>
      match pc with
      | .persist commitHash commitHashShort =>
          some (handleStartingPersisted sh n commitHash commitHashShort answer)
      | _ => none

/-! ## The pieces of a handler, one constructor each -/

/-- `Dispatched setup sh n i now o`: the handler of PR `n` is started on the entry `i` of the
snapshot and goes to the outcome `o`. -/
inductive Dispatched (setup : Setup) (sh : Shared) (n : UInt32) (i : PrInstance) (now : Instant) :
    Outcome → Prop where
  | buildTimedOut (startedAt : Instant) (queueUrl : Option String) (message : String)
      (hstate : i.state = .building startedAt queueUrl)
      (hlate : startedAt.elapsedExceeds now (JenkinsClient.buildTimeout setup.jenkins) = true) :
      Dispatched setup sh n i now
        ⟨sh.setState n (.failed "Build timeout"), .done, [.broadcast message]⟩
  | notQueued (startedAt : Instant) (hstate : i.state = .building startedAt none) :
      Dispatched setup sh n i now ⟨sh, .done, []⟩
  | building (startedAt : Instant) (queueUrl : String)
      (hstate : i.state = .building startedAt (some queueUrl)) :
      Dispatched setup sh n i now ⟨sh, .await (.buildUrl i.commitHashShort queueUrl), []⟩
  | deploying (imageTag : String) (hstate : i.state = .deploying imageTag) :
      Dispatched setup sh n i now ⟨sh, .await (.deleteDeployment imageTag), []⟩
  | startTimedOut (deploymentName address : String) (port : UInt16) (startedAt : Instant)
      (message : String) (hstate : i.state = .starting deploymentName address port startedAt)
      (hlate : startedAt.elapsedExceeds now 300 = true) :
      Dispatched setup sh n i now
        ⟨sh.setState n (.shuttingDown deploymentName), .done, [.broadcast message]⟩
  | starting (deploymentName address : String) (port : UInt16) (startedAt : Instant)
      (hstate : i.state = .starting deploymentName address port startedAt) :
      Dispatched setup sh n i now
        ⟨sh, .await (.checkReady i.commitHash i.commitHashShort deploymentName address port), []⟩
  | expired (deploymentName address : String) (port : UInt16) (readyAt shutdownAt : Instant)
      (message : String)
      (hstate : i.state = .ready deploymentName address port readyAt shutdownAt)
      (hlate : shutdownAt.nanos ≤ now.nanos) :
      Dispatched setup sh n i now
        ⟨sh, .await (.unregister deploymentName), [.broadcast message]⟩
  | ready (deploymentName address : String) (port : UInt16) (readyAt shutdownAt : Instant)
      (hstate : i.state = .ready deploymentName address port readyAt shutdownAt) :
      Dispatched setup sh n i now ⟨sh, .done, []⟩
  | shuttingDown (deploymentName : String) (hstate : i.state = .shuttingDown deploymentName) :
      Dispatched setup sh n i now ⟨sh, .await .tearDownDeployment, []⟩
  | failed (reason : String) (hstate : i.state = .failed reason) :
      Dispatched setup sh n i now (untracked sh n [])

/-- `dispatch` does nothing that `Dispatched` does not list. -/
theorem dispatched_dispatch (setup : Setup) (sh : Shared) (n : UInt32) (i : PrInstance)
    (now : Instant) : Dispatched setup sh n i now (dispatch setup sh n i now) := by
  simp only [dispatch]
  cases hstate : i.state with
  | building startedAt buildUrl =>
      simp only [handleBuilding]
      split
      · rename_i hlate
        exact .buildTimedOut startedAt buildUrl _ hstate hlate
      · cases buildUrl with
        | none => exact .notQueued startedAt hstate
        | some queueUrl => exact .building startedAt queueUrl hstate
  | deploying imageTag => exact .deploying imageTag hstate
  | starting deploymentName address port startedAt =>
      simp only [handleStarting]
      split
      · rename_i hlate
        exact .startTimedOut deploymentName address port startedAt _ hstate hlate
      · exact .starting deploymentName address port startedAt hstate
  | ready deploymentName address port readyAt shutdownAt =>
      simp only [handleReady]
      split
      · rename_i hlate
        exact .expired deploymentName address port readyAt shutdownAt _ hstate hlate
      · exact .ready deploymentName address port readyAt shutdownAt hstate
  | shuttingDown deploymentName => exact .shuttingDown deploymentName hstate
  | failed reason => exact .failed reason hstate

/-- `Resumed setup sh n pc answer o`: the handler of PR `n` suspended at `pc` continues with
`answer` to the outcome `o`. -/
inductive Resumed (setup : Setup) (sh : Shared) (n : UInt32) :
    HandlerPc → Answer → Outcome → Prop where
  | buildUrl (commitHashShort queueUrl : String) (answer : HttpAnswer (Option String)) :
      Resumed setup sh n (.buildUrl commitHashShort queueUrl) (.queueItem answer)
        (handleBuildingUrl sh commitHashShort queueUrl answer)
  | buildStatus (commitHashShort queueUrl buildUrl : String) (answer : HttpAnswer BuildJson) :
      Resumed setup sh n (.buildStatus commitHashShort queueUrl buildUrl) (.build answer)
        (handleBuildingStatus sh n commitHashShort queueUrl buildUrl answer)
  | noDeploymentClient (imageTag : String) (hclient : sh.clientReady = false) :
      Resumed setup sh n (.deleteDeployment imageTag) .clientFailed
        (deploymentFailed sh n clientError)
  | deploymentDeleted (imageTag : String) (answer : Except KubeError Unit) :
      Resumed setup sh n (.deleteDeployment imageTag) (.deleted answer)
        (createDeploymentDeleted sh n imageTag answer)
  | settled (imageTag : String) :
      Resumed setup sh n (.settle imageTag) .slept ⟨sh, .await (.createDeployment imageTag), []⟩
  | deploymentCreated (imageTag : String) (answer : Except KubeError Unit) :
      Resumed setup sh n (.createDeployment imageTag) (.deploymentCreated answer)
        (createDeploymentCreated setup sh n imageTag answer)
  | noServiceClient (hclient : sh.clientReady = false) :
      Resumed setup sh n .deleteService .clientFailed (serviceFailed sh n clientError)
  | serviceDeleted (answer : Except KubeError Unit) :
      Resumed setup sh n .deleteService (.deleted answer) (createServiceDeleted sh n answer)
  | serviceCreated (answer : Except KubeError Service) (now : Instant) :
      Resumed setup sh n .createService (.serviceCreated answer now)
        (createServiceCreated setup sh n answer now)
  | noReadinessClient (commitHash commitHashShort deploymentName address : String)
      (port : UInt16) (hclient : sh.clientReady = false) :
      Resumed setup sh n (.checkReady commitHash commitHashShort deploymentName address port)
        .clientFailed
        (handleStartingChecked sh n commitHash commitHashShort deploymentName address port
          .clientFailed)
  | readinessChecked (commitHash commitHashShort deploymentName address : String)
      (port : UInt16) (answer : Except KubeError Deployment) :
      Resumed setup sh n (.checkReady commitHash commitHashShort deploymentName address port)
        (.deploymentRead answer)
        (handleStartingChecked sh.withClient n commitHash commitHashShort deploymentName address
          port (.answered answer))
  | registered (commitHash commitHashShort deploymentName address : String) (port : UInt16)
      (now readyAt : Instant) :
      Resumed setup sh n (.register commitHash commitHashShort deploymentName address port)
        (.registryLocked now readyAt)
        (handleStartingRegistered setup sh n commitHash commitHashShort deploymentName address
          port now readyAt)
  | persisted (commitHash commitHashShort : String) (answer : Except String String) :
      Resumed setup sh n (.persist commitHash commitHashShort) (.persisted answer)
        (handleStartingPersisted sh n commitHash commitHashShort answer)
  | unregistered (deploymentName : String) (now readyAt : Instant) :
      Resumed setup sh n (.unregister deploymentName) (.registryLocked now readyAt)
        (handleReadyUnregistered sh n deploymentName)
  | noTearDownClient (hclient : sh.clientReady = false) :
      Resumed setup sh n .tearDownDeployment .clientFailed (cleanUpFailed sh n clientError)
  | deploymentTornDown (answer : Except KubeError Unit) :
      Resumed setup sh n .tearDownDeployment (.deleted answer)
        (deleteInstanceDeployment sh n answer)
  | serviceTornDown (answer : Except KubeError Unit) :
      Resumed setup sh n .tearDownService (.deleted answer) (deleteInstanceService sh n answer)

theorem resumed_of_resumeClientFailed {setup : Setup} {sh : Shared} {n : UInt32}
    {pc : HandlerPc} {o : Outcome} (hclient : sh.clientReady = false)
    (h : resumeClientFailed sh n pc = some o) : Resumed setup sh n pc .clientFailed o := by
  cases pc with
  | deleteDeployment imageTag =>
      cases h
      exact .noDeploymentClient imageTag hclient
  | deleteService =>
      cases h
      exact .noServiceClient hclient
  | checkReady commitHash commitHashShort deploymentName address port =>
      cases h
      exact .noReadinessClient commitHash commitHashShort deploymentName address port hclient
  | tearDownDeployment =>
      cases h
      exact .noTearDownClient hclient
  | _ => cases h

/-- `resume` does nothing that `Resumed` does not list. -/
theorem resumed_of_resume {setup : Setup} {sh : Shared} {n : UInt32} {pc : HandlerPc}
    {answer : Answer} {o : Outcome} (h : resume setup sh n pc answer = some o) :
    Resumed setup sh n pc answer o := by
  -- each answer is taken only at the `await`s that wait for it
  cases answer with
  | clientFailed =>
      simp only [resume] at h
      cases hclient : sh.clientReady with
      | true => simp [hclient] at h
      | false =>
          rw [hclient] at h
          exact resumed_of_resumeClientFailed hclient h
  | queueItem answer =>
      cases pc with
      | buildUrl commitHashShort queueUrl =>
          cases h
          exact .buildUrl commitHashShort queueUrl answer
      | _ => cases h
  | build answer =>
      cases pc with
      | buildStatus commitHashShort queueUrl buildUrl =>
          cases h
          exact .buildStatus commitHashShort queueUrl buildUrl answer
      | _ => cases h
  | deleted answer =>
      cases pc with
      | deleteDeployment imageTag => cases h; exact .deploymentDeleted imageTag answer
      | deleteService => cases h; exact .serviceDeleted answer
      | tearDownDeployment => cases h; exact .deploymentTornDown answer
      | tearDownService => cases h; exact .serviceTornDown answer
      | _ => cases h
  | slept =>
      cases pc with
      | settle imageTag => cases h; exact .settled imageTag
      | _ => cases h
  | deploymentCreated answer =>
      cases pc with
      | createDeployment imageTag => cases h; exact .deploymentCreated imageTag answer
      | _ => cases h
  | serviceCreated answer now =>
      cases pc with
      | createService => cases h; exact .serviceCreated answer now
      | _ => cases h
  | deploymentRead answer =>
      cases pc with
      | checkReady commitHash commitHashShort deploymentName address port =>
          cases h
          exact .readinessChecked commitHash commitHashShort deploymentName address port answer
      | _ => cases h
  | registryLocked now readyAt =>
      cases pc with
      | register commitHash commitHashShort deploymentName address port =>
          cases h
          exact .registered commitHash commitHashShort deploymentName address port now readyAt
      | unregister deploymentName => cases h; exact .unregistered deploymentName now readyAt
      | _ => cases h
  | persisted answer =>
      cases pc with
      | persist commitHash commitHashShort =>
          cases h
          exact .persisted commitHash commitHashShort answer
      | _ => cases h

end Lifecycle

end SteelProxy
