import SteelProxy.Registry
import SteelProxy.Clients
import SteelProxy.K8s.Instance

/-!
# The instance map and the names of a PR

The operations of `K8sManager` on the map of tracked instances, the registration of a PR's
backend, and the names derived from a PR number. A PR number is recovered from each name
(`backendName_injective`, `deploymentName_injective`).
-/

set_option autoImplicit false

namespace SteelProxy

open SteelProxy.Library

/-! ## Names -/

/-- `format!("pr-{}", pr_number)`. -/
def backendName (n : UInt32) : String := s!"pr-{n}"

/-- `format!("steel-pr-{}", pr_number)`. -/
def deploymentName (n : UInt32) : String := s!"steel-pr-{n}"

/-- `format!("pr-{}-{}", pr_number, commit_hash_short)`. -/
def imageTagOf (n : UInt32) (commitHashShort : String) : String := s!"pr-{n}-{commitHashShort}"

/-- Decimal notation determines the number. -/
theorem toDigits_ten_injective {m n : Nat} (h : Nat.toDigits 10 m = Nat.toDigits 10 n) : m = n := by
  have hm := Nat.ofDigitChars_ten_toDigits (n := m)
  rw [h, Nat.ofDigitChars_ten_toDigits] at hm
  exact hm.symm

/-- Two PR numbers with the same text after the same prefix are equal. -/
theorem eq_of_append_toString_eq {pre : String} {m n : UInt32}
    (h : pre ++ toString m = pre ++ toString n) : m = n := by
  have hrepr : (toString m : String) = toString n := (String.append_right_inj pre).1 h
  -- `toString` of a `u32` is the decimal notation of its value
  have hdigits := congrArg String.toList hrepr
  simp only [toString, Nat.repr, String.toList_ofList] at hdigits
  exact UInt32.toNat_inj.1 (toDigits_ten_injective hdigits)

theorem backendName_injective : Function.Injective backendName :=
  fun _ _ h => eq_of_append_toString_eq h

theorem deploymentName_injective : Function.Injective deploymentName :=
  fun _ _ h => eq_of_append_toString_eq h

/-! ## The map of tracked instances -/

/-- `K8sManager::instances`. -/
abbrev Instances : Type := KeyedMap UInt32 PrInstance

namespace K8sManager

/-- `K8sManager::has_instance`. -/
def hasInstance (m : Instances) (n : UInt32) : Bool := (m.lookup n).isSome

/-- `K8sManager::create_building_instance`. -/
def createBuildingInstance (m : Instances) (n : UInt32)
    (commitHash commitHashShort queueUrl : String) (now : Instant) : Instances :=
  m.insert n (PrInstance.newBuilding n commitHash commitHashShort queueUrl now)

/-- `K8sManager::create_deploying_instance`. -/
def createDeployingInstance (m : Instances) (n : UInt32) (commitHash commitHashShort : String) :
    Instances :=
  m.insert n (PrInstance.newDeploying n commitHash commitHashShort (imageTagOf n commitHashShort))

/-- `K8sManager::get_instance_state`. -/
def getInstanceState (m : Instances) (n : UInt32) : Option InstanceState :=
  (m.lookup n).map fun instance_ => instance_.state

/-- `K8sManager::update_instance_state`. -/
def updateInstanceState (m : Instances) (n : UInt32) (state : InstanceState) : Instances :=
  KeyedMap.adjust n (fun instance_ => { instance_ with state := state }) m

/-- `K8sManager::remove_instance`. -/
def removeInstance (m : Instances) (n : UInt32) : Instances := m.erase n

/-- `K8sManager::get_instances_snapshot`, in the map's own listing order. -/
def getInstancesSnapshot (m : Instances) : List (UInt32 × PrInstance) := KeyedMap.pairs m

/-- `K8sManager::register_backend`. -/
def registerBackend (r : BackendRegistry) (n : UInt32) (address : String) (port : UInt16) :
    BackendRegistry :=
  r.addDynamic (backendName n) ⟨address, port, some s!"PR #{n}"⟩

/-- `K8sManager::unregister_backend`. -/
def unregisterBackend (r : BackendRegistry) (n : UInt32) : BackendRegistry :=
  (r.removeDynamic (backendName n)).2

section Lookup

variable (m : Instances) (n k : UInt32)

theorem lookup_updateInstanceState (state : InstanceState) :
    (updateInstanceState m n state).lookup k =
      if k = n then (m.lookup n).map fun instance_ => { instance_ with state := state }
      else m.lookup k :=
  KeyedMap.lookup_adjust m n k _

theorem lookup_removeInstance :
    (removeInstance m n).lookup k = if k = n then none else m.lookup k :=
  KeyedMap.lookup_erase_ite m n k

theorem isSome_lookup_updateInstanceState (state : InstanceState) :
    ((updateInstanceState m n state).lookup k).isSome = (m.lookup k).isSome := by
  rw [lookup_updateInstanceState]
  by_cases h : k = n
  · subst h
    simp
  · simp [h]

end Lookup

section Backend

variable (r : BackendRegistry) (n k : UInt32)

theorem lookup_registerBackend (address : String) (port : UInt16) :
    (registerBackend r n address port).dynamicBackends.lookup (backendName k) =
      if k = n then some ⟨address, port, some s!"PR #{n}"⟩
      else r.dynamicBackends.lookup (backendName k) := by
  rw [registerBackend, BackendRegistry.lookup_addDynamic]
  simp only [backendName_injective.eq_iff]

theorem lookup_unregisterBackend :
    (unregisterBackend r n).dynamicBackends.lookup (backendName k) =
      if k = n then none else r.dynamicBackends.lookup (backendName k) := by
  rw [unregisterBackend, BackendRegistry.lookup_removeDynamic]
  simp only [backendName_injective.eq_iff]

end Backend

end K8sManager

end SteelProxy
