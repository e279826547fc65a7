import SteelProxy.K8s.Process

/-!
# Shutdown times and build timeouts as events

The shutdown time of an instance is computed at two places, when it is recovered and when it
becomes ready, and the build timeout in each poll of a building instance, all in unchecked `u64`
arithmetic on configured minutes. The events of this file are the values computed, the times at
which they start to run, and the moves of the instances that depend on them. `Exact` says what
they are in exact arithmetic, and `TimersFit` when a step computes that.
-/

set_option autoImplicit false

namespace SteelProxy

open SteelProxy.Library SteelProxy.Library.Transition

/-- What concerns the timers, in order: the shutdown time of PR `n` is computed from the clock
reading `now`, with `none` for a panic; the build timeout of a poll is computed; PR `n` is tracked
in `Building` from `now` on; the loop takes the entry of PR `n` at `now`; PR `n` is no longer
`Ready`, through a tick or not; the build of PR `n` failed with `Build timeout`. -/
inductive TimerEvent where
  | deadline (n : UInt32) (now : Instant) (shutdownAt : Option Instant)
  | buildTimeout (secs : UInt64)
  | created (n : UInt32) (now : Instant)
  | checked (n : UInt32) (now : Instant)
  | left (n : UInt32) (inTick : Bool)
  | timedOut (n : UInt32)
  deriving DecidableEq, Repr

namespace InstanceState

/-- The shutdown time held by a `Ready` state. -/
def shutdownTime : InstanceState → Option Instant
  | .ready _ _ _ _ shutdownAt => some shutdownAt
  | _ => none

/-- The start time held by a `Building` state. -/
def buildStart : InstanceState → Option Instant
  | .building startedAt _ => some startedAt
  | _ => none

end InstanceState

namespace Timers

open SteelProxy.Lifecycle

/-! ## The timers of a step -/

/-- The shutdown time of PR `n`, if it is tracked in `Ready`. -/
def shutdownOf (sh : Shared) (n : UInt32) : Option Instant :=
  (sh.instances.lookup n).bind fun i => i.state.shutdownTime

/-- The start time of PR `n`, if it is tracked in `Building`. -/
def buildStartOf (sh : Shared) (n : UInt32) : Option Instant :=
  (sh.instances.lookup n).bind fun i => i.state.buildStart

/-- The tracked state of PR `n` is that of a build timeout. -/
def HasTimedOut (sh : Shared) (n : UInt32) : Prop :=
  K8sManager.getInstanceState sh.instances n = some (.failed "Build timeout")

instance (sh : Shared) (n : UInt32) : Decidable (HasTimedOut sh n) :=
  inferInstanceAs (Decidable (_ = _))

/-- The moves of PR `n` from `Ready`, and from `Building` to a build timeout. -/
def moves (n : UInt32) (inTick : Bool) (sh sh' : Shared) : List TimerEvent :=
  if (shutdownOf sh n).isSome ∧ shutdownOf sh' n = none then
    [.left n inTick]
  else if (buildStartOf sh n).isSome ∧ HasTimedOut sh' n then
    [.timedOut n]
  else
    []

/-- The endpoint with which `recover_from_db` makes the instance of a row `Ready`. -/
def foundEndpoint (config : KubernetesConfig) (a : RowAnswers) (sh : Shared) :
    Option (String × UInt16) :=
  match K8sManager.isDeploymentReady (Recovery.deploymentCall a sh) with
  | .ok true =>
      match K8sManager.getServiceInfo config (.answered a.service) with
      | .ok endpoint => endpoint
      | .error _ => none
  | _ => none

/-- The timers of a row of `recover_from_db`. -/
def recoverEvents (setup : Setup) (a : RowAnswers) (r : Recovery) (build : PrBuild) :
    List TimerEvent :=
  let n := prNumberAsU32 build.prNumber
  match Recovery.recoverBuild setup.kubernetes a r build with
  | none => [.deadline n a.now none]
  | some r' =>
      if (foundEndpoint setup.kubernetes a r.shared).isSome then
        .deadline n a.now (shutdownOf r'.shared n) :: moves n false r.shared r'.shared
      else
        moves n false r.shared r'.shared

/-- The PR that a call inserts into the tracked instances when it goes on with a label. -/
def insertedBy (setup : Setup) : StartCall → StartLabel → Option UInt32
  | .decided n _ _ true, .buildsResumed => some n
  | .jenkins n _ _, .jenkinsAnswered answer _ =>
      if (JenkinsClient.triggerBuild setup.jenkins answer).isOk then some n else none
  | _, _ => none

/-- The insertion of a building instance. -/
def creations (n : UInt32) : StartLabel → List TimerEvent
  | .jenkinsAnswered _ now => [.created n now]
  | _ => []

/-- The timers of a piece of a call; a call touches no PR but the one that it inserts. -/
def startEvents (setup : Setup) (w : World) (id : Nat) (label : StartLabel) : List TimerEvent :=
  match insertedBy setup (w.calls id) label with
  | none => []
  | some n =>
      match StartPr.step setup w.shared id (w.calls id) label with
      | none => []
      | some o => moves n false w.shared o.shared ++ creations n label

/-- The build timeout, computed for a building entry. -/
def polls (setup : Setup) (instance_ : PrInstance) : List TimerEvent :=
  if instance_.state.buildStart.isSome then
    [.buildTimeout (JenkinsClient.buildTimeout setup.jenkins)]
  else
    []

/-- The timers of the dispatch of an entry. -/
def dispatchEvents (setup : Setup) (sh : Shared) (n : UInt32) (instance_ : PrInstance)
    (now : Instant) : List TimerEvent :=
  .checked n now ::
    (polls setup instance_ ++ moves n true sh (dispatch setup sh n instance_ now).shared)

/-- The clock reading from which a resumed handler computes a shutdown time. -/
def registerClock : HandlerPc → Answer → Option Instant
  | .register _ _ _ _ _, .registryLocked now _ => some now
  | _, _ => none

/-- The shutdown time, computed by the piece of a handler that goes on to `o`. -/
def deadlines (n : UInt32) (o : Outcome) : Option Instant → List TimerEvent
  | some now => [.deadline n now (shutdownOf o.shared n)]
  | none => []

/-- The timers of a resumed handler. -/
def resumeEvents (setup : Setup) (sh : Shared) (n : UInt32) (pc : HandlerPc) (answer : Answer) :
    List TimerEvent :=
  match resume setup sh n pc answer with
  | none => []
  | some o => deadlines n o (registerClock pc answer) ++ moves n true sh o.shared

/-- The timers of a step of the loop or of a call. -/
def loopEvents (setup : Setup) (w : World) : Label → List TimerEvent
  | .start id label => startEvents setup w id label
  | .tick _ => []
  | .advance now =>
      match w.loop with
      | .next ((n, instance_) :: _) => dispatchEvents setup w.shared n instance_ now
      | _ => []
  | .resume answer =>
      match w.loop with
      | .running n pc _ => resumeEvents setup w.shared n pc answer
      | _ => []

/-- The timers of a step of the process. -/
def observe (setup : Setup) : Process → ProcessLabel → List TimerEvent
  | .recovering r (build :: _), .recover answers => recoverEvents setup answers r build
  | .running w, .step label => loopEvents setup w label
  | _, _ => []

/-- The process with what concerns the timers. -/
def system (setup : Setup) : System Process ProcessLabel TimerEvent :=
  (Process.system setup).observed (observe setup)

/-! ## Exact timers -/

/-- The instance timeout of the configuration, in nanoseconds. -/
def instanceTimeout (setup : Setup) : Nat :=
  60 * setup.kubernetes.instanceTimeoutMinutes.toNat * Instant.nanosPerSec

/-- The build timeout of the configuration, in nanoseconds. -/
def buildTimeout (setup : Setup) : Nat :=
  60 * setup.jenkins.buildTimeoutMinutes.toNat * Instant.nanosPerSec

/-- The time from which PR `n` is `Ready`: the clock reading of its shutdown time. -/
def readyTime (n : UInt32) : TimerEvent → Option Instant
  | .deadline m now _ => if m = n then some now else none
  | _ => none

/-- The time from which PR `n` is `Building`. -/
def creationTime (n : UInt32) : TimerEvent → Option Instant
  | .created m now => if m = n then some now else none
  | _ => none

/-- The time at which a tick takes the entry of PR `n`. -/
def checkTime (n : UInt32) : TimerEvent → Option Instant
  | .checked m now => if m = n then some now else none
  | _ => none

/-- The timers are those of exact arithmetic: a shutdown time is its clock reading plus the
instance timeout, and does not panic; the build timeout does not wrap; an instance leaves `Ready`
through a tick that reads at least its ready time plus the instance timeout; a build times out
through a tick that reads more than the build timeout after its creation. -/
def Exact (setup : Setup) (pre : List TimerEvent) : TimerEvent → Prop
  | .deadline _ now shutdownAt => shutdownAt = some ⟨now.nanos + instanceTimeout setup⟩
  | .buildTimeout secs => secs.toNat = 60 * setup.jenkins.buildTimeoutMinutes.toNat
  | .created _ _ => True
  | .checked _ _ => True
  | .left n inTick =>
      inTick = true ∧ ∃ readyAt now, lastOf (readyTime n) pre = some readyAt ∧
        lastOf (checkTime n) pre = some now ∧ readyAt.nanos + instanceTimeout setup ≤ now.nanos
  | .timedOut n =>
      ∃ startedAt now, lastOf (creationTime n) pre = some startedAt ∧
        lastOf (checkTime n) pre = some now ∧ buildTimeout setup < now.nanos - startedAt.nanos

/-- The shutdown time computed from `now` is representable. -/
def ShutdownFits (setup : Setup) (now : Instant) : Prop :=
  now.nanos / Instant.nanosPerSec + 60 * setup.kubernetes.instanceTimeoutMinutes.toNat < 2 ^ 63

/-- The build timeout is representable, and a build that is late according to the entry of the
snapshot is late according to the tracked instance. -/
def BuildTimeoutFits (setup : Setup) (sh : Shared) (n : UInt32) (startedAt now : Instant) : Prop :=
  60 * setup.jenkins.buildTimeoutMinutes.toNat < 2 ^ 64 ∧
    (buildTimeout setup < now.nanos - startedAt.nanos → ∀ trackedSince,
      buildStartOf sh n = some trackedSince → buildTimeout setup < now.nanos - trackedSince.nanos)

/-- The timers of a step of the loop or of a call fit, and a call does not insert over a `Ready`
instance. -/
def LoopFits (setup : Setup) (w : World) : Label → Prop
  | .start id label =>
      ∀ n, insertedBy setup (w.calls id) label = some n → shutdownOf w.shared n = none
  | .tick _ => True
  | .advance now =>
      ∀ n instance_ rest startedAt, w.loop = .next ((n, instance_) :: rest) →
        instance_.state.buildStart = some startedAt →
          BuildTimeoutFits setup w.shared n startedAt now
  | .resume answer =>
      ∀ n pc rest now, w.loop = .running n pc rest → registerClock pc answer = some now →
        ShutdownFits setup now

/-- The timers of a step of the process fit. -/
def TimersFit (setup : Setup) : Process → ProcessLabel → Prop
  | .recovering r (_ :: _), .recover answers =>
      (foundEndpoint setup.kubernetes answers r.shared).isSome → ShutdownFits setup answers.now
  | .running w, .step label => LoopFits setup w label
  | _, _ => True

/-! ## Minutes in `u64` -/

theorem toNat_mul_sixty (minutes : UInt64) :
    (minutes * 60).toNat = 60 * minutes.toNat % 2 ^ 64 := by
  rw [UInt64.toNat_mul, Nat.mul_comm]
  rfl

/-- The product does not wrap exactly when it is representable. -/
theorem toNat_mul_sixty_eq_iff {minutes : UInt64} :
    (minutes * 60).toNat = 60 * minutes.toNat ↔ 60 * minutes.toNat < 2 ^ 64 := by
  rw [toNat_mul_sixty]
  constructor
  · intro h
    rw [← h]
    exact Nat.mod_lt _ (by decide)
  · exact Nat.mod_eq_of_lt

/-- The code's shutdown time is the exact one exactly when that is representable. -/
theorem addSecs_timeout_iff {setup : Setup} {now : Instant} :
    now.addSecs (setup.kubernetes.instanceTimeoutMinutes * 60) =
        some ⟨now.nanos + instanceTimeout setup⟩ ↔ ShutdownFits setup now := by
  rw [Instant.addSecs_eq_some_iff, ShutdownFits]
  constructor
  · rintro ⟨hfits, hsum⟩
    -- the sums are equal only if the product did not wrap
    rw [Instant.mk.injEq, instanceTimeout, Nat.add_right_inj,
      Nat.mul_left_inj (by decide : Instant.nanosPerSec ≠ 0)] at hsum
    rwa [hsum]
  · intro hfits
    have hlt : 60 * setup.kubernetes.instanceTimeoutMinutes.toNat < 2 ^ 63 :=
      Nat.lt_of_le_of_lt (Nat.le_add_left _ _) hfits
    rw [toNat_mul_sixty_eq_iff.2 (Nat.lt_trans hlt (by decide))]
    exact ⟨hfits, rfl⟩

/-- With a representable timeout the check of the code is the exact one. -/
theorem elapsedExceeds_buildTimeout_iff {setup : Setup} {startedAt now : Instant}
    (hfits : 60 * setup.jenkins.buildTimeoutMinutes.toNat < 2 ^ 64) :
    startedAt.elapsedExceeds now (JenkinsClient.buildTimeout setup.jenkins) = true ↔
      buildTimeout setup < now.nanos - startedAt.nanos := by
  rw [Instant.elapsedExceeds, JenkinsClient.buildTimeout, toNat_mul_sixty_eq_iff.2 hfits,
    decide_eq_true_iff]
  rfl

/-! ## Shutdown times and start times -/

section Stores

variable {sh sh' : Shared} {n : UInt32} {i : PrInstance} {inTick : Bool}

theorem shutdownOf_eq (h : sh.instances.lookup n = some i) :
    shutdownOf sh n = i.state.shutdownTime := by
  rw [shutdownOf, h, Option.bind_some]

theorem buildStartOf_eq (h : sh.instances.lookup n = some i) :
    buildStartOf sh n = i.state.buildStart := by
  rw [buildStartOf, h, Option.bind_some]

theorem shutdownOf_congr (h : sh'.instances.lookup n = sh.instances.lookup n) :
    shutdownOf sh' n = shutdownOf sh n := by
  rw [shutdownOf, shutdownOf, h]

theorem shutdownOf_of_eq (h : sh'.instances = sh.instances) (n : UInt32) :
    shutdownOf sh' n = shutdownOf sh n := by
  rw [shutdownOf, shutdownOf, h]

theorem buildStartOf_congr (h : sh'.instances.lookup n = sh.instances.lookup n) :
    buildStartOf sh' n = buildStartOf sh n := by
  rw [buildStartOf, buildStartOf, h]

theorem buildStartOf_eq_none (h : (shutdownOf sh n).isSome) : buildStartOf sh n = none := by
  cases hi : sh.instances.lookup n with
  | none => rw [buildStartOf, hi, Option.bind_none]
  | some i =>
      rw [shutdownOf_eq hi] at h
      rw [buildStartOf_eq hi]
      cases hstate : i.state with
      | ready deploymentName address port readyAt shutdownAt => rfl
      | _ =>
          rw [hstate] at h
          cases h

theorem lookup_of_updated {state : InstanceState}
    (h : sh'.instances = K8sManager.updateInstanceState sh.instances n state) :
    sh'.instances.lookup n = (sh.instances.lookup n).map fun i => { i with state := state } := by
  rw [h, K8sManager.lookup_updateInstanceState, if_pos rfl]

theorem lookup_of_removed (h : sh'.instances = K8sManager.removeInstance sh.instances n) :
    sh'.instances.lookup n = none := by
  rw [h, K8sManager.lookup_removeInstance, if_pos rfl]

theorem hasTimedOut_iff (h : sh.instances.lookup n = some i) :
    HasTimedOut sh n ↔ i.state = .failed "Build timeout" := by
  rw [HasTimedOut, K8sManager.getInstanceState, h, Option.map_some, Option.some.injEq]

theorem not_hasTimedOut_of_untracked (h : sh.instances.lookup n = none) : ¬ HasTimedOut sh n := by
  rw [HasTimedOut, K8sManager.getInstanceState, h, Option.map_none]
  intro heq
  cases heq

/-- A new state of PR `n` other than that of a build timeout. -/
theorem not_hasTimedOut_of_updated {state : InstanceState}
    (h : sh'.instances = K8sManager.updateInstanceState sh.instances n state)
    (hreason : state ≠ .failed "Build timeout") : ¬ HasTimedOut sh' n := by
  have hlookup := lookup_of_updated h
  cases hi : sh.instances.lookup n with
  | none => exact not_hasTimedOut_of_untracked (by rw [hlookup, hi, Option.map_none])
  | some i =>
      rw [hi, Option.map_some] at hlookup
      rw [hasTimedOut_iff hlookup]
      exact hreason

/-- A building instance has not timed out. -/
theorem not_hasTimedOut (h : (buildStartOf sh n).isSome) : ¬ HasTimedOut sh n := by
  cases hi : sh.instances.lookup n with
  | none => exact not_hasTimedOut_of_untracked hi
  | some i =>
      rw [hasTimedOut_iff hi]
      intro hstate
      rw [buildStartOf_eq hi, hstate] at h
      cases h

theorem moves_of_left (h : (shutdownOf sh n).isSome) (h' : shutdownOf sh' n = none) :
    moves n inTick sh sh' = [.left n inTick] :=
  if_pos ⟨h, h'⟩

theorem moves_eq_nil (hready : shutdownOf sh n = none ∨ (shutdownOf sh' n).isSome)
    (hbuilding : buildStartOf sh n = none ∨ ¬ HasTimedOut sh' n) :
    moves n inTick sh sh' = [] := by
  rw [moves, if_neg, if_neg]
  · rintro ⟨hstart, htimeout⟩
    rcases hbuilding with h | h
    · rw [h] at hstart
      cases hstart
    · exact h htimeout
  · rintro ⟨hsome, hnone⟩
    rcases hready with h | h
    · rw [h] at hsome
      cases hsome
    · rw [hnone] at h
      cases h

/-- An instance that is not touched does not move. -/
theorem moves_of_lookup_eq (h : sh'.instances.lookup n = sh.instances.lookup n) :
    moves n inTick sh sh' = [] := by
  apply moves_eq_nil
  · rw [shutdownOf_congr h]
    cases shutdownOf sh n with
    | none => exact Or.inl rfl
    | some shutdownAt => exact Or.inr rfl
  · rw [← buildStartOf_congr h]
    cases hstart : buildStartOf sh' n with
    | none => exact Or.inl rfl
    | some startedAt => exact Or.inr (not_hasTimedOut (by rw [hstart]; rfl))

end Stores

/-! ## Events and what they record -/

/-- The event concerns no PR but `n`. -/
def Concerns (n : UInt32) : TimerEvent → Prop
  | .deadline m _ _ => m = n
  | .buildTimeout _ => True
  | .created m _ => m = n
  | .checked m _ => m = n
  | .left m _ => m = n
  | .timedOut m => m = n

/-- The event records no time of PR `n`. -/
def Unread (n : UInt32) (e : TimerEvent) : Prop :=
  readyTime n e = none ∧ creationTime n e = none ∧ checkTime n e = none

section Readings

variable {n k : UInt32} {t : List TimerEvent} {e : TimerEvent}

@[simp]
theorem readyTime_deadline (now : Instant) (shutdownAt : Option Instant) :
    readyTime n (.deadline n now shutdownAt) = some now :=
  if_pos rfl

@[simp]
theorem creationTime_created (now : Instant) : creationTime n (.created n now) = some now :=
  if_pos rfl

@[simp]
theorem checkTime_checked (now : Instant) : checkTime n (.checked n now) = some now :=
  if_pos rfl

theorem unread_of_ne (h : Concerns n e) (hk : k ≠ n) : Unread k e := by
  cases e with
  | deadline m now shutdownAt =>
      refine ⟨if_neg ?_, rfl, rfl⟩
      rw [show m = n from h]
      exact Ne.symm hk
  | buildTimeout secs => exact ⟨rfl, rfl, rfl⟩
  | created m now =>
      refine ⟨rfl, if_neg ?_, rfl⟩
      rw [show m = n from h]
      exact Ne.symm hk
  | checked m now =>
      refine ⟨rfl, rfl, if_neg ?_⟩
      rw [show m = n from h]
      exact Ne.symm hk
  | left m inTick => exact ⟨rfl, rfl, rfl⟩
  | timedOut m => exact ⟨rfl, rfl, rfl⟩

theorem mem_moves {inTick : Bool} {sh sh' : Shared} (h : e ∈ moves n inTick sh sh') :
    e = .left n inTick ∨ e = .timedOut n := by
  simp only [moves] at h
  split at h
  · exact Or.inl (List.mem_singleton.1 h)
  · split at h
    · exact Or.inr (List.mem_singleton.1 h)
    · cases h

theorem concerns_moves {inTick : Bool} {sh sh' : Shared} :
    ∀ e ∈ moves n inTick sh sh', Concerns n e := by
  intro e he
  rcases mem_moves he with rfl | rfl
  · rfl
  · rfl

/-- The moves record no time. -/
theorem unread_moves {inTick : Bool} {sh sh' : Shared} :
    ∀ e ∈ moves n inTick sh sh', Unread k e := by
  intro e he
  rcases mem_moves he with rfl | rfl
  · exact ⟨rfl, rfl, rfl⟩
  · exact ⟨rfl, rfl, rfl⟩

/-- Events that record no time of a PR leave its times as they were. -/
theorem lastOf_append_of_unread (tr : List TimerEvent) (h : ∀ e ∈ t, Unread k e) :
    lastOf (readyTime k) (tr ++ t) = lastOf (readyTime k) tr ∧
      lastOf (creationTime k) (tr ++ t) = lastOf (creationTime k) tr ∧
        lastOf (checkTime k) (tr ++ t) = lastOf (checkTime k) tr :=
  ⟨lastOf_append_of_forall_none fun e he => (h e he).1,
    lastOf_append_of_forall_none fun e he => (h e he).2.1,
    lastOf_append_of_forall_none fun e he => (h e he).2.2⟩

theorem lastOf_append_of_ne (tr : List TimerEvent) (h : ∀ e ∈ t, Concerns n e) (hk : k ≠ n) :
    lastOf (readyTime k) (tr ++ t) = lastOf (readyTime k) tr ∧
      lastOf (creationTime k) (tr ++ t) = lastOf (creationTime k) tr ∧
        lastOf (checkTime k) (tr ++ t) = lastOf (checkTime k) tr :=
  lastOf_append_of_unread tr fun e he => unread_of_ne (h e he) hk

end Readings

/-! ## Timed stores -/

/-- The shutdown time of PR `n` is exact for its ready time, and its start time is that of its
creation. -/
structure TimedAt (setup : Setup) (sh : Shared) (tr : List TimerEvent) (n : UInt32) : Prop where
  ready : ∀ shutdownAt, shutdownOf sh n = some shutdownAt →
    ∃ readyAt, lastOf (readyTime n) tr = some readyAt ∧
      shutdownAt = ⟨readyAt.nanos + instanceTimeout setup⟩
  building : ∀ startedAt, buildStartOf sh n = some startedAt →
    lastOf (creationTime n) tr = some startedAt

/-- The times held by the tracked instances are those of the events. -/
def Timed (setup : Setup) (sh : Shared) (tr : List TimerEvent) : Prop :=
  ∀ n, TimedAt setup sh tr n

section Timed

variable {setup : Setup} {sh sh' : Shared} {tr t : List TimerEvent} {n : UInt32}

theorem TimedAt.congr (h : TimedAt setup sh tr n)
    (hlookup : sh'.instances.lookup n = sh.instances.lookup n)
    (hready : lastOf (readyTime n) (tr ++ t) = lastOf (readyTime n) tr)
    (hcreation : lastOf (creationTime n) (tr ++ t) = lastOf (creationTime n) tr) :
    TimedAt setup sh' (tr ++ t) n where
  ready := by
    rw [shutdownOf_congr hlookup, hready]
    exact h.ready
  building := by
    rw [buildStartOf_congr hlookup, hcreation]
    exact h.building

/-- An instance that is neither `Ready` nor `Building` holds no time. -/
theorem TimedAt.of_none (hready : shutdownOf sh n = none) (hbuilding : buildStartOf sh n = none) :
    TimedAt setup sh tr n where
  ready := by
    intro shutdownAt h
    rw [hready] at h
    cases h
  building := by
    intro startedAt h
    rw [hbuilding] at h
    cases h

/-- An instance becomes `Ready` with the exact shutdown time for the clock reading. -/
theorem TimedAt.of_deadline {now : Instant}
    (h : shutdownOf sh n = some ⟨now.nanos + instanceTimeout setup⟩)
    (shutdownAt : Option Instant) :
    TimedAt setup sh (tr ++ [.deadline n now shutdownAt]) n where
  ready := by
    intro shutdownAt' hs
    rw [h] at hs
    cases hs
    exact ⟨now, by rw [lastOf_append_one, readyTime_deadline, Option.some_or], rfl⟩
  building := by
    intro startedAt hstart
    rw [buildStartOf_eq_none (by rw [h]; rfl)] at hstart
    cases hstart

/-- A step on PR `n` leaves the other PRs timed. -/
theorem Timed.update (h : Timed setup sh tr)
    (hlookup : ∀ k, k ≠ n → sh'.instances.lookup k = sh.instances.lookup k)
    (hevents : ∀ e ∈ t, Concerns n e) (hn : TimedAt setup sh' (tr ++ t) n) :
    Timed setup sh' (tr ++ t) := by
  intro k
  by_cases hk : k = n
  · rw [hk]
    exact hn
  · obtain ⟨hready, hcreation, -⟩ := lastOf_append_of_ne tr hevents hk
    exact (h k).congr (hlookup k hk) hready hcreation

theorem Timed.congr (h : Timed setup sh tr) (hinst : sh'.instances = sh.instances) :
    Timed setup sh' tr := by
  intro k
  have hk : TimedAt setup sh' (tr ++ []) k :=
    (h k).congr (by rw [hinst]) (by rw [List.append_nil]) (by rw [List.append_nil])
  rwa [List.append_nil] at hk

end Timed

end Timers

end SteelProxy
