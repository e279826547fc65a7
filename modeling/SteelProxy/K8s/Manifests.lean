import SteelProxy.Library.LabelSelector
import SteelProxy.Library.Text
import SteelProxy.K8s.Handlers

/-!
# The objects of a PR

The deployment and the service that `create_deployment` and `create_service` ask Kubernetes for,
and what Kubernetes makes of them: the pods of a deployment carry the labels of its template, a
service sends connections to the pods that its selector selects. The service of a PR selects the
pods of that PR and of no other (`selects_pod_iff`), at a port on which their containers listen,
and an image tag tells the PR that it was built for (`imageTagOf_inj`).
-/

set_option autoImplicit false

namespace SteelProxy

open SteelProxy.Library

/-! ## Manifests -/

/-- `config::ResourceLimits`. -/
structure ResourceLimits where
  memory : String
  cpu : String
  deriving DecidableEq, Repr

/-- `config::KubernetesConfig`, with the fields that only the created objects use. -/
structure ClusterConfig extends KubernetesConfig where
  namespace_ : String
  resources : ResourceLimits
  deriving DecidableEq, Repr

/-- `metadata` of an object. -/
structure ObjectMeta where
  name : String
  namespace_ : String
  labels : Labels

/-- A port of a container. -/
structure ContainerPort where
  containerPort : Int32
  name : String

/-- The readiness probe of a container. -/
structure ReadinessProbe where
  tcpSocketPort : Int32
  initialDelaySeconds : Int32
  periodSeconds : Int32

/-- A container of a pod template. -/
structure Container where
  name : String
  image : String
  ports : List ContainerPort
  limits : Labels
  requests : Labels
  readinessProbe : ReadinessProbe

/-- The deployment that is asked for. -/
structure DeploymentManifest where
  metadata : ObjectMeta
  replicas : Int32
  matchLabels : Labels
  templateLabels : Labels
  containers : List Container

/-- A port of a service. -/
structure ManifestPort where
  port : Int32
  targetPort : Int32
  name : String

/-- The service that is asked for. -/
structure ServiceManifest where
  metadata : ObjectMeta
  selector : Labels
  ports : List ManifestPort
  serviceType : String

namespace K8sManager

/-- The labels of the objects of PR `n`. -/
def prLabels (n : UInt32) : Labels :=
  (AList.insert "pr" (toString n) ∅).insert "app" "steel-server"

/-- The deployment of `create_deployment`, with the image that it puts together. -/
def deploymentManifest (config : ClusterConfig) (n : UInt32) (image : String) :
    DeploymentManifest where
  metadata := ⟨deploymentName n, config.namespace_, prLabels n⟩
  replicas := 1
  matchLabels := prLabels n
  templateLabels := prLabels n
  containers :=
    [{ name := "steel-server"
       image := image
       ports := [⟨25565, "minecraft"⟩]
       limits := (AList.insert "cpu" config.resources.cpu ∅).insert "memory"
         config.resources.memory
       requests := (AList.insert "cpu" "250m" ∅).insert "memory" "512Mi"
       readinessProbe := ⟨25565, 10, 5⟩ }]

/-- The service of `create_service`. -/
def serviceManifest (config : ClusterConfig) (n : UInt32) : ServiceManifest where
  metadata := ⟨deploymentName n, config.namespace_, ∅⟩
  selector := prLabels n
  ports := [⟨25565, 25565, "minecraft"⟩]
  serviceType := "NodePort"

end K8sManager

/-! ## What Kubernetes makes of them -/

/-- A pod: where it is, its labels, and its containers. -/
structure Pod where
  namespace_ : String
  labels : Labels
  containers : List Container

/-- The pods that a deployment runs. -/
def DeploymentManifest.pod (d : DeploymentManifest) : Pod :=
  ⟨d.metadata.namespace_, d.templateLabels, d.containers⟩

/-- Kubernetes accepts a deployment only if its selector selects the pods of its own template. -/
def DeploymentManifest.Accepted (d : DeploymentManifest) : Prop :=
  Labels.Selects d.matchLabels d.templateLabels

/-- The service sends connections to the pod. -/
def ServiceManifest.SelectsPod (s : ServiceManifest) (pod : Pod) : Prop :=
  s.metadata.namespace_ = pod.namespace_ ∧ Labels.Selects s.selector pod.labels

/-- A container of the pod listens on the port. -/
def Pod.ListensOn (pod : Pod) (port : Int32) : Prop :=
  ∃ container ∈ pod.containers, ∃ p ∈ container.ports, p.containerPort = port

section Selection

variable (config : ClusterConfig) (n m : UInt32) (image : String)

theorem lookup_prLabels : (K8sManager.prLabels n).lookup "pr" = some (toString n) := by
  rw [K8sManager.prLabels, AList.lookup_insert_ne (by decide), AList.lookup_insert]

/-- Different PRs have different labels. -/
theorem selects_prLabels_iff :
    Labels.Selects (K8sManager.prLabels n) (K8sManager.prLabels m) ↔ n = m := by
  constructor
  · intro h
    by_contra hne
    refine Labels.not_selects_of_ne (lookup_prLabels n) (lookup_prLabels m) ?_ h
    intro htext
    exact hne (@eq_of_append_toString_eq "" n m (by rw [htext]))
  · rintro rfl
    exact Labels.selects_self _

/-- The API server accepts the deployment: its selector selects its own pods. -/
theorem accepted_deploymentManifest : (K8sManager.deploymentManifest config n image).Accepted :=
  Labels.selects_self _

/-- The service of a PR selects the pods of that PR and of no other. -/
theorem selects_pod_iff :
    (K8sManager.serviceManifest config n).SelectsPod
      (K8sManager.deploymentManifest config m image).pod ↔ n = m :=
  (and_iff_right rfl).trans (selects_prLabels_iff n m)

/-- The pods listen on every port that the service sends connections to. -/
theorem listensOn_targetPort :
    ∀ p ∈ (K8sManager.serviceManifest config n).ports,
      (K8sManager.deploymentManifest config m image).pod.ListensOn p.targetPort := by
  intro p hp
  cases List.mem_singleton.1 hp
  exact ⟨_, List.mem_singleton_self _, _, List.mem_singleton_self _, rfl⟩

end Selection

/-! ## Images -/

theorem toList_toString (n : UInt32) : (toString n : String).toList = Nat.toDigits 10 n.toNat := by
  simp only [toString, Nat.repr, String.toList_ofList]

/-- An image tag tells the PR and the short hash. -/
theorem imageTagOf_inj {n m : UInt32} {short short' : String}
    (h : imageTagOf n short = imageTagOf m short') : n = m ∧ short = short' := by
  have hdash : ∀ k : UInt32, '-' ∉ (toString k : String).toList := by
    intro k hmem
    rw [toList_toString] at hmem
    have hdigit := Nat.isDigit_of_mem_toDigits (by decide) (by decide) hmem
    exact absurd hdigit (by decide)
  have htext : "pr-" ++ toString n ++ "-" ++ short = "pr-" ++ toString m ++ "-" ++ short' := h
  simp only [String.append_assoc] at htext
  have hlist := congrArg String.toList ((String.append_right_inj "pr-").1 htext)
  simp only [String.toList_append, show "-".toList = ['-'] from rfl, List.singleton_append] at hlist
  obtain ⟨hn, hshort⟩ := Text.eq_of_append_separator (hdash n) (hdash m) hlist
  exact ⟨@eq_of_append_toString_eq "" n m (by rw [String.toList_inj.1 hn]),
    String.toList_inj.1 hshort⟩

end SteelProxy
