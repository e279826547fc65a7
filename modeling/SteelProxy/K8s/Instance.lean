import Mathlib.Algebra.Group.Nat.Defs
import Mathlib.Tactic.Common

/-!
# PR instances and clock readings

`k8s/instance.rs`, with `std::time::Instant` as a number of nanoseconds. Adding a duration of
whole seconds to an `Instant` panics when the seconds no longer fit in an `i64`; the sum is
`none` there.
-/

set_option autoImplicit false

namespace SteelProxy

/-- A reading of the monotonic clock, in nanoseconds. -/
structure Instant where
  nanos : Nat
  deriving DecidableEq, Repr

namespace Instant

/-- Nanoseconds in a second. -/
def nanosPerSec : Nat := 1000000000

/-- `instant + Duration::from_secs(secs)`, with `none` for the overflow panic. -/
def addSecs (t : Instant) (secs : UInt64) : Option Instant :=
  if t.nanos / nanosPerSec + secs.toNat < 2 ^ 63 then
    some ⟨t.nanos + secs.toNat * nanosPerSec⟩
  else
    none

theorem addSecs_eq_some_iff {t t' : Instant} {secs : UInt64} :
    t.addSecs secs = some t' ↔
      t.nanos / nanosPerSec + secs.toNat < 2 ^ 63 ∧
        t' = ⟨t.nanos + secs.toNat * nanosPerSec⟩ := by
  simp only [addSecs]
  split
  · rename_i hfits
    simp only [hfits, true_and, Option.some.injEq]
    exact eq_comm
  · rename_i hoverflow
    constructor
    · intro h
      cases h
    · rintro ⟨hfits, -⟩
      exact absurd hfits hoverflow

/-- `started_at.elapsed() > Duration::from_secs(secs)` at the time `now`; `elapsed` saturates at
zero. -/
def elapsedExceeds (startedAt now : Instant) (secs : UInt64) : Bool :=
  secs.toNat * nanosPerSec < now.nanos - startedAt.nanos

end Instant

/-- `k8s::InstanceState`. -/
inductive InstanceState where
  | building (startedAt : Instant) (buildUrl : Option String)
  | deploying (imageTag : String)
  | starting (deploymentName address : String) (port : UInt16) (startedAt : Instant)
  | ready (deploymentName address : String) (port : UInt16) (readyAt shutdownAt : Instant)
  | shuttingDown (deploymentName : String)
  | failed (reason : String)
  deriving DecidableEq, Repr

/-- `k8s::PrInstance`. -/
structure PrInstance where
  prNumber : UInt32
  commitHash : String
  commitHashShort : String
  state : InstanceState
  deriving DecidableEq, Repr

namespace InstanceState

/-- The address and port held by a `Ready` state. -/
def endpoint : InstanceState → Option (String × UInt16)
  | .ready _ address port _ _ => some (address, port)
  | _ => none

end InstanceState

namespace PrInstance

/-- `PrInstance::new_building`: the queue URL is stored as the build URL. -/
def newBuilding (n : UInt32) (commitHash commitHashShort queueUrl : String) (now : Instant) :
    PrInstance :=
  ⟨n, commitHash, commitHashShort, .building now (some queueUrl)⟩

/-- `PrInstance::new_deploying`. -/
def newDeploying (n : UInt32) (commitHash commitHashShort imageTag : String) : PrInstance :=
  ⟨n, commitHash, commitHashShort, .deploying imageTag⟩

end PrInstance

end SteelProxy
