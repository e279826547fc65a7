import SteelProxy.Config

/-!
# Answers of GitHub, Jenkins and Kubernetes

What the clients of `github/mod.rs`, `jenkins/mod.rs` and `k8s/mod.rs` make of an answer. The
services themselves are not modelled: an answer is any value of the answer type, so what is
proved holds whether or not the services are truthful.
-/

set_option autoImplicit false

namespace SteelProxy

/-- An HTTP exchange: the request failed, a status outside 200-299, a body that is not the
expected JSON, or a parsed body. -/
inductive HttpAnswer (α : Type) where
  | failed
  | status (code : Nat) (display body : String)
  | badBody (error : String)
  | ok (value : α)
  deriving DecidableEq, Repr

namespace GitHubClient

/-- `GitHubClient::get_pr_head_commit`: the full hash and its first seven characters. -/
def getPrHeadCommit : HttpAnswer String → Except String (String × String)
  | .failed => .error "Failed to fetch PR from GitHub"
  | .status _ display body => .error s!"GitHub API error {display}: {body}"
  | .badBody _ => .error "Failed to parse GitHub PR response"
  | .ok fullSha => .ok (fullSha, String.ofList (fullSha.toList.take 7))

end GitHubClient

/-- `jenkins::BuildStatus`. -/
inductive BuildStatus where
  | queued
  | building
  | success
  | failed (reason : String)
  | notFound
  deriving DecidableEq, Repr

/-- The fields of a build's JSON that are read. -/
structure BuildJson where
  building : Option Bool
  result : Option String
  deriving DecidableEq, Repr

namespace JenkinsClient

/-- `JenkinsClient::trigger_build`: the queue URL is the `Location` header, if there is one. The
body of a successful answer is not read. -/
def triggerBuild (config : JenkinsConfig) : HttpAnswer (Option String) → Except String String
  | .failed => .error "Failed to trigger Jenkins build"
  | .status _ display body => .error s!"Jenkins returned error: {display} {body}"
  | .badBody _ => .ok s!"{config.url}/queue/"
  | .ok location => .ok (location.getD s!"{config.url}/queue/")

/-- `JenkinsClient::get_build_url`, over the `executable.url` field. -/
def getBuildUrl : HttpAnswer (Option String) → Except String (Option String)
  | .failed => .error "Failed to query queue item"
  | .status _ _ _ => .ok none
  | .badBody error => .error error
  | .ok url => .ok url

/-- `JenkinsClient::get_build_status`. -/
def getBuildStatus : HttpAnswer BuildJson → Except String BuildStatus
  | .failed => .error "Failed to query build status"
  | .status code display _ =>
      if code = 404 then .ok .notFound else .error s!"Jenkins returned error: {display}"
  | .badBody error => .error error
  | .ok json =>
      if json.building.getD false then
        .ok .building
      else
        match json.result.getD "" with
        | "SUCCESS" => .ok .success
        | "FAILURE" => .ok (.failed "FAILURE")
        | "ABORTED" => .ok (.failed "ABORTED")
        | "UNSTABLE" => .ok (.failed "UNSTABLE")
        | "" => .ok .queued
        | result => .ok (.failed s!"Unknown result: {result}")

/-- The seconds of `JenkinsClient::build_timeout`; the `u64` product wraps. -/
def buildTimeout (config : JenkinsConfig) : UInt64 := config.buildTimeoutMinutes * 60

end JenkinsClient

/-- `kube::Error`: an API error has a status code. -/
structure KubeError where
  code : Option Nat
  message : String
  deriving DecidableEq, Repr

/-- The match arm `Err(kube::Error::Api(e)) if e.code == 404`. -/
def KubeError.isNotFound (e : KubeError) : Bool := e.code = some 404

/-- A function that first obtains the Kubernetes client: either that fails, or the API call is
answered. -/
inductive KubeCall (α : Type) where
  | clientFailed
  | answered (answer : Except KubeError α)
  deriving Repr

/-- The context of a failed client initialisation. -/
def clientError : String := "Failed to create Kubernetes client from kubeconfig"

/-- `ServicePort`. -/
structure ServicePort where
  nodePort : Option Int32
  deriving DecidableEq, Repr

/-- `Service`, down to the ports of its specification. -/
structure Service where
  specPorts : Option (Option (List ServicePort))
  deriving DecidableEq, Repr

/-- The NodePort of the first port of a service. -/
def Service.firstNodePort (svc : Service) : Option Int32 := do
  let ports ← svc.specPorts
  let ports ← ports
  let port ← ports.head?
  port.nodePort

/-- `node_port as u16`. -/
def nodePortAsU16 (nodePort : Int32) : UInt16 := nodePort.toUInt32.toUInt16

/-- `Deployment`, down to the available replicas of its status. -/
structure Deployment where
  availableReplicas : Option Int32
  deriving DecidableEq, Repr

/-- `available_replicas.unwrap_or(0) > 0`. -/
def Deployment.isReady (deployment : Deployment) : Bool :=
  0 < deployment.availableReplicas.getD 0

namespace K8sManager

/-- `K8sManager::is_deployment_ready`. -/
def isDeploymentReady : KubeCall Deployment → Except String Bool
  | .clientFailed => .error clientError
  | .answered (.error _) => .error "Failed to get deployment"
  | .answered (.ok deployment) => .ok deployment.isReady

/-- `K8sManager::get_service_info`. -/
def getServiceInfo (config : KubernetesConfig) :
    KubeCall Service → Except String (Option (String × UInt16))
  | .clientFailed => .error clientError
  | .answered (.error e) => if e.isNotFound then .ok none else .error e.message
  | .answered (.ok svc) =>
      .ok (svc.firstNodePort.map fun nodePort => (config.nodeAddress, nodePortAsU16 nodePort))

end K8sManager

end SteelProxy
