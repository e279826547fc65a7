import SteelProxy.K8s.DueInstances
import SteelProxy.K8s.Agreement

/-!
# How long an instance lives

Under a clock that never goes back, the stages of an instance use up the build timeout, the five
minutes of the start and the instance timeout, and what is lost between them is bounded by how
often the loop comes by: if it finds a tracked PR again within `gap`, no PR is found later than
the three timeouts and five gaps after it was found first (`lifetime_bounded`), whatever Jenkins,
Kubernetes and the database answer. The invariant bounds the last reading at which a PR was found
by the one at which it was found first, for each stage and apart from this for a PR whose handler
is about to take it on.
-/

set_option autoImplicit false

namespace SteelProxy

open SteelProxy.Library SteelProxy.Library.Transition

/-- The clock readings that come with an answer, in order. -/
def Answer.readings : Answer → List Instant
  | .serviceCreated _ now => [now]
  | .registryLocked now readyAt => [now, readyAt]
  | _ => []

/-- The clock readings of a step, in order. -/
def Label.readings : Label → List Instant
  | .start _ (.jenkinsAnswered _ now) => [now]
  | .start _ _ => []
  | .tick _ => []
  | .advance now => [now]
  | .resume answer => answer.readings

namespace Lifetimes

open SteelProxy.Lifecycle

/-- PR `n` is found by the loop at the reading `now`; it was found first at `first`. -/
structure Found where
  n : UInt32
  first : Instant
  now : Instant
  deriving DecidableEq, Repr

/-- The world with the last reading of the clock, and for the tracked PRs the readings at which the
loop found them first and last. -/
structure Clocked where
  world : World
  clock : Instant
  found : UInt32 → Option (Instant × Instant)

/-- The clock after further readings; it never goes back. -/
def readClock (clock : Instant) : List Instant → Option Instant
  | [] => some clock
  | now :: readings => if clock.nanos ≤ now.nanos then readClock now readings else none

namespace Clocked

/-- The finding of an entry that the loop takes. -/
def finding (s : Clocked) : TickEvent → Option Found
  | .taken n _ now => some ⟨n, ((s.found n).map Prod.fst).getD now, now⟩
  | .forgotten _ => none

/-- The readings at which PRs were found, after a finding. -/
def note (found : UInt32 → Option (Instant × Instant)) (f : Found) :
    UInt32 → Option (Instant × Instant) :=
  Function.update found f.n (some (f.first, f.now))

/-- The loop finds a PR again within `gap`. -/
def SpacedBy (gap : Nat) (s : Clocked) (label : Label) : Prop :=
  ∀ n i now, .taken n i now ∈ Ticks.takes s.world label → ∀ first last,
    s.found n = some (first, last) → now.nanos ≤ last.nanos + gap

/-- One step of the loop or of a call, at readings of a clock that does not go back. A PR that is
not tracked any more is found anew when it is started again. -/
def step (setup : Setup) (s : Clocked) (label : Label) : Option (Clocked × List Found) :=
  match readClock s.clock label.readings, Lifecycle.step setup s.world label with
  | some clock, some (w, _) =>
      let findings := (Ticks.takes s.world label).filterMap s.finding
      some (⟨w, clock, fun n =>
        if (w.shared.instances.lookup n).isSome then findings.foldl note s.found n else none⟩,
          findings)
  | _, _ => none

/-- The lifecycle loop with its clock. -/
def system (setup : Setup) : System Clocked Label Found := ⟨step setup⟩

end Clocked

/-! ## The limits -/

/-- The build timeout in nanoseconds. -/
def buildLimit (setup : Setup) : Nat :=
  (JenkinsClient.buildTimeout setup.jenkins).toNat * Instant.nanosPerSec

/-- The limit of `handle_starting` in nanoseconds. -/
def startLimit : Nat := 300 * Instant.nanosPerSec

/-- The instance timeout in nanoseconds. -/
def readyLimit (setup : Setup) : Nat :=
  (setup.kubernetes.instanceTimeoutMinutes * 60).toNat * Instant.nanosPerSec

/-- The three timeouts and five gaps. -/
def lifetimeLimit (setup : Setup) (gap : Nat) : Nat :=
  buildLimit setup + startLimit + readyLimit setup + 5 * gap

/-! ## The age of an instance -/

/-- The times of a state were read by `clock`. -/
def Dated (setup : Setup) (clock : Instant) : InstanceState → Prop
  | .building startedAt _ => startedAt.nanos ≤ clock.nanos
  | .starting _ _ _ startedAt => startedAt.nanos ≤ clock.nanos
  | .ready _ _ _ _ shutdownAt => shutdownAt.nanos ≤ clock.nanos + readyLimit setup
  | _ => True

/-- A PR that was found first at `first` was found last at `last`, by its state and by whether its
handler is about to take it on. -/
def Aged (setup : Setup) (gap : Nat) (departing : Bool) (first last : Instant) :
    InstanceState → Prop
  | .building startedAt _ =>
      startedAt.nanos ≤ first.nanos ∧ last.nanos ≤ startedAt.nanos + buildLimit setup
  | .deploying _ =>
      -- found last while it was built, or found now and being deployed
      last.nanos ≤ first.nanos + buildLimit setup ∨
        departing = true ∧ last.nanos ≤ first.nanos + buildLimit setup + gap
  | .starting _ _ _ startedAt =>
      last.nanos ≤ first.nanos + buildLimit setup + gap ∨
        startedAt.nanos ≤ first.nanos + buildLimit setup + 2 * gap ∧
          last.nanos ≤ startedAt.nanos + startLimit
  | .ready _ _ _ _ shutdownAt =>
      -- found last while it started, before its shutdown time, or now that the time is over
      last.nanos ≤ first.nanos + buildLimit setup + startLimit + 2 * gap ∨
        (shutdownAt.nanos ≤
            first.nanos + buildLimit setup + startLimit + readyLimit setup + 3 * gap ∧
          last.nanos ≤ shutdownAt.nanos) ∨
        departing = true ∧ last.nanos ≤
          first.nanos + buildLimit setup + startLimit + readyLimit setup + 4 * gap
  | .shuttingDown _ =>
      last.nanos ≤ first.nanos + buildLimit setup + startLimit + readyLimit setup + 4 * gap ∨
        departing = true ∧ last.nanos ≤
          first.nanos + buildLimit setup + startLimit + readyLimit setup + 5 * gap
  | .failed _ => last.nanos ≤ first.nanos + buildLimit setup + gap

section Aged

variable {setup : Setup} {gap : Nat} {departing : Bool} {first last clock clock' now : Instant}
  {state : InstanceState}

theorem Dated.mono (h : Dated setup clock state) (hle : clock.nanos ≤ clock'.nanos) :
    Dated setup clock' state := by
  cases state with
  | building startedAt buildUrl => exact Nat.le_trans h hle
  | starting deploymentName address port startedAt => exact Nat.le_trans h hle
  | ready deploymentName address port readyAt shutdownAt =>
      exact Nat.le_trans h (Nat.add_le_add_right hle _)
  | _ => trivial

/-- Outside of its handler a PR is at most four gaps behind its timeouts. -/
theorem Aged.last_le (h : Aged setup gap false first last state) :
    last.nanos ≤ first.nanos + buildLimit setup + startLimit + readyLimit setup + 4 * gap := by
  cases state with
  | building startedAt buildUrl =>
      obtain ⟨hstart, hlast⟩ := h
      omega
  | deploying imageTag =>
      rcases h with hlast | ⟨hdeparting, -⟩
      · omega
      · cases hdeparting
  | starting deploymentName address port startedAt =>
      rcases h with hlast | ⟨hstart, hlast⟩
      · omega
      · omega
  | ready deploymentName address port readyAt shutdownAt =>
      rcases h with hlast | ⟨hshutdown, hlast⟩ | ⟨hdeparting, -⟩
      · omega
      · omega
      · cases hdeparting
  | shuttingDown deploymentName =>
      rcases h with hlast | ⟨hdeparting, -⟩
      · exact hlast
      · cases hdeparting
  | failed reason =>
      have hlast : last.nanos ≤ first.nanos + buildLimit setup + gap := h
      omega

theorem Aged.depart (h : Aged setup gap false first last state) (departing : Bool) :
    Aged setup gap departing first last state := by
  cases state with
  | deploying imageTag =>
      rcases h with hlast | ⟨hdeparting, -⟩
      · exact Or.inl hlast
      · cases hdeparting
  | ready deploymentName address port readyAt shutdownAt =>
      rcases h with hlast | hlast | ⟨hdeparting, -⟩
      · exact Or.inl hlast
      · exact Or.inr (Or.inl hlast)
      · cases hdeparting
  | shuttingDown deploymentName =>
      rcases h with hlast | ⟨hdeparting, -⟩
      · exact Or.inl hlast
      · cases hdeparting
  | _ => exact h

end Aged

/-! ## Finding a PR -/

/-- What the handler of PR `n` does with its entry up to its first `await`: nothing yet if the PR
is not due, and otherwise it takes the PR on or is about to. -/
inductive FindEffect (setup : Setup) (sh : Shared) (n : UInt32) (i : PrInstance) (now : Instant)
    (o : Outcome) : Prop where
  | early (hdue : i.due setup now = false) (hinst : o.shared.instances = sh.instances)
  | departing (pc : HandlerPc)
      (hstate : i.state.stage = .deploying ∨ i.state.stage = .ready ∨
        i.state.stage = .shuttingDown)
      (hinst : o.shared.instances = sh.instances) (hflow : o.flow = .await pc)
      (hpc : pc.departing = true)
  | buildTimedOut (reason : String) (hstate : i.state.stage = .building)
      (hinst : o.shared.instances = K8sManager.updateInstanceState sh.instances n (.failed reason))
  | startTimedOut (deploymentName : String) (hstate : i.state.stage = .starting)
      (hinst : o.shared.instances =
        K8sManager.updateInstanceState sh.instances n (.shuttingDown deploymentName))
  | forgotten (hinst : o.shared.instances = K8sManager.removeInstance sh.instances n)

theorem findEffect_dispatch (setup : Setup) (sh : Shared) (n : UInt32) (i : PrInstance)
    (now : Instant) : FindEffect setup sh n i now (dispatch setup sh n i now) := by
  simp only [dispatch]
  cases hstate : i.state with
  | building startedAt buildUrl =>
      simp only [handleBuilding]
      split
      · exact .buildTimedOut _ (by rw [hstate]; rfl) rfl
      · rename_i hearly
        have hdue : i.due setup now = false := by
          rw [PrInstance.due, hstate]
          exact Bool.eq_false_iff.2 hearly
        cases buildUrl with
        | none => exact .early hdue rfl
        | some queueUrl => exact .early hdue rfl
  | deploying imageTag => exact .departing _ (by rw [hstate]; exact Or.inl rfl) rfl rfl rfl
  | starting deploymentName address port startedAt =>
      simp only [handleStarting]
      split
      · exact .startTimedOut _ (by rw [hstate]; rfl) rfl
      · rename_i hearly
        refine .early ?_ rfl
        rw [PrInstance.due, hstate]
        exact Bool.eq_false_iff.2 hearly
  | ready deploymentName address port readyAt shutdownAt =>
      simp only [handleReady]
      split
      · exact .departing _ (by rw [hstate]; exact Or.inr (Or.inl rfl)) rfl rfl rfl
      · rename_i hearly
        refine .early ?_ rfl
        rw [PrInstance.due, hstate]
        exact decide_eq_false hearly
  | shuttingDown deploymentName =>
      exact .departing _ (by rw [hstate]; exact Or.inr (Or.inr rfl)) rfl rfl rfl
  -- a failed PR is forgotten without an `await`
  | failed reason => exact .forgotten rfl

section Findings

variable {setup : Setup} {gap : Nat} {sh : Shared} {n : UInt32} {i i' : PrInstance} {o : Outcome}
  {rest : List (UInt32 × PrInstance)} {first now : Instant}

/-- A PR that is found now was found before, or is found for the first time. -/
def FoundBefore (setup : Setup) (gap : Nat) (first now : Instant) (state : InstanceState) : Prop :=
  first = now ∨
    ∃ last : Instant, now.nanos ≤ last.nanos + gap ∧ Aged setup gap false first last state

theorem FoundBefore.now_le {state : InstanceState} (h : FoundBefore setup gap first now state) :
    now.nanos ≤ first.nanos + lifetimeLimit setup gap := by
  rcases h with rfl | ⟨last, hgap, haged⟩
  · exact Nat.le_add_right _ _
  · have hlast := haged.last_le
    unfold lifetimeLimit
    omega

/-- A PR that is not due is younger than the timeout of its stage. -/
theorem aged_of_early (hdated : Dated setup now i.state)
    (hbefore : FoundBefore setup gap first now i.state) (hdue : i.due setup now = false) :
    Aged setup gap false first now i.state := by
  cases hstate : i.state with
  | building startedAt buildUrl =>
      rw [PrInstance.due, hstate] at hdue
      rw [hstate] at hdated hbefore
      have hnow : ¬ buildLimit setup < now.nanos - startedAt.nanos := of_decide_eq_false hdue
      have hdated' : startedAt.nanos ≤ now.nanos := hdated
      rcases hbefore with rfl | ⟨last, hgap, hstart, hlast⟩
      · exact ⟨hdated', by omega⟩
      · exact ⟨hstart, by omega⟩
  | starting deploymentName address port startedAt =>
      rw [PrInstance.due, hstate] at hdue
      rw [hstate] at hdated hbefore
      have hnow : ¬ startLimit < now.nanos - startedAt.nanos := of_decide_eq_false hdue
      have hdated' : startedAt.nanos ≤ now.nanos := hdated
      -- found first in this stage, or found again there
      refine Or.inr ⟨?_, by omega⟩
      rcases hbefore with rfl | ⟨last, hgap, hlast | ⟨hstart, -⟩⟩
      · omega
      · omega
      · exact hstart
  | ready deploymentName address port readyAt shutdownAt =>
      rw [PrInstance.due, hstate] at hdue
      rw [hstate] at hdated hbefore
      have hnow : ¬ shutdownAt.nanos ≤ now.nanos := of_decide_eq_false hdue
      have hdated' : shutdownAt.nanos ≤ now.nanos + readyLimit setup := hdated
      refine Or.inr (Or.inl ⟨?_, by omega⟩)
      rcases hbefore with rfl | ⟨last, hgap, hlast | ⟨hshutdown, -⟩ | ⟨hdeparting, -⟩⟩
      · omega
      · omega
      · exact hshutdown
      · cases hdeparting
  -- the other stages are due whenever they are found
  | deploying imageTag =>
      rw [PrInstance.due, hstate] at hdue
      cases hdue
  | shuttingDown deploymentName =>
      rw [PrInstance.due, hstate] at hdue
      cases hdue
  | failed reason =>
      rw [PrInstance.due, hstate] at hdue
      cases hdue

/-- A PR whose handler is about to take it on. -/
theorem aged_of_departing (hbefore : FoundBefore setup gap first now i.state)
    (hstate : i.state.stage = .deploying ∨ i.state.stage = .ready ∨
      i.state.stage = .shuttingDown) : Aged setup gap true first now i.state := by
  cases hi : i.state with
  | deploying imageTag =>
      rw [hi] at hbefore
      refine Or.inr ⟨rfl, ?_⟩
      rcases hbefore with rfl | ⟨last, hgap, hlast | ⟨hdeparting, -⟩⟩
      · omega
      · omega
      · cases hdeparting
  | ready deploymentName address port readyAt shutdownAt =>
      rw [hi] at hbefore
      refine Or.inr (Or.inr ⟨rfl, ?_⟩)
      rcases hbefore with rfl | ⟨last, hgap, hlast | ⟨hshutdown, hlast⟩ | ⟨hdeparting, -⟩⟩
      · omega
      · omega
      · omega
      · cases hdeparting
  | shuttingDown deploymentName =>
      rw [hi] at hbefore
      refine Or.inr ⟨rfl, ?_⟩
      rcases hbefore with rfl | ⟨last, hgap, hlast | ⟨hdeparting, -⟩⟩
      · omega
      · omega
      · cases hdeparting
  | _ =>
      rw [hi] at hstate
      rcases hstate with hstate | hstate | hstate <;> cases hstate

/-- After the PR was found, and before its handler goes on. -/
theorem aged_of_findEffect (hi : sh.instances.lookup n = some i)
    (hdated : Dated setup now i.state) (hbefore : FoundBefore setup gap first now i.state)
    (heff : FindEffect setup sh n i now o) (hi' : o.shared.instances.lookup n = some i') :
    Dated setup now i'.state ∧
      Aged setup gap ((afterFlow n rest o.flow).departs n) first now i'.state := by
  cases heff with
  | early hdue hinst =>
      rw [hinst, hi] at hi'
      cases hi'
      exact ⟨hdated, (aged_of_early hdated hbefore hdue).depart _⟩
  | departing pc hstate hinst hflow hpc =>
      rw [hinst, hi] at hi'
      cases hi'
      rw [Ticks.departs_afterFlow hflow hpc]
      exact ⟨hdated, aged_of_departing hbefore hstate⟩
  | buildTimedOut reason hstate hinst =>
      rw [hinst, K8sManager.lookup_updateInstanceState, if_pos rfl, hi, Option.map_some] at hi'
      cases hi'
      refine ⟨trivial, ?_⟩
      show now.nanos ≤ first.nanos + buildLimit setup + gap
      cases hi : i.state with
      | building startedAt buildUrl =>
          rw [hi] at hbefore
          rcases hbefore with rfl | ⟨last, hgap, hstart, hlast⟩
          · omega
          · omega
      | _ =>
          rw [hi] at hstate
          cases hstate
  | startTimedOut deploymentName hstate hinst =>
      rw [hinst, K8sManager.lookup_updateInstanceState, if_pos rfl, hi, Option.map_some] at hi'
      cases hi'
      refine ⟨trivial, Or.inl ?_⟩
      cases hi : i.state with
      | starting deploymentName address port startedAt =>
          rw [hi] at hbefore
          rcases hbefore with rfl | ⟨last, hgap, hlast | ⟨hstart, hlast⟩⟩
          · omega
          · omega
          · omega
      | _ =>
          rw [hi] at hstate
          cases hstate
  | forgotten hinst =>
      rw [hinst, K8sManager.lookup_removeInstance, if_pos rfl] at hi'
      cases hi'

end Findings

/-! ## The pieces of a handler -/

/-- The states that an answer takes an instance to, with the readings that are stored in them. -/
inductive Advance (setup : Setup) (answer : Answer) : InstanceState → InstanceState → Prop where
  | built (startedAt : Instant) (buildUrl : Option String) (imageTag : String) :
      Advance setup answer (.building startedAt buildUrl) (.deploying imageTag)
  | buildFailed (startedAt : Instant) (buildUrl : Option String) (reason : String) :
      Advance setup answer (.building startedAt buildUrl) (.failed reason)
  | deploymentFailed (imageTag reason : String) :
      Advance setup answer (.deploying imageTag) (.failed reason)
  | deployed (imageTag deploymentName address : String) (port : UInt16) (startedAt : Instant)
      (hread : startedAt ∈ answer.readings) :
      Advance setup answer (.deploying imageTag) (.starting deploymentName address port startedAt)
  | started (deploymentName address : String) (port : UInt16)
      (startedAt now readyAt shutdownAt : Instant) (hread : now ∈ answer.readings)
      (hshutdown : shutdownAt.nanos = now.nanos + readyLimit setup) :
      Advance setup answer (.starting deploymentName address port startedAt)
        (.ready deploymentName address port readyAt shutdownAt)
  | expired (deploymentName address : String) (port : UInt16) (readyAt shutdownAt : Instant) :
      Advance setup answer (.ready deploymentName address port readyAt shutdownAt)
        (.shuttingDown deploymentName)

/-- What a piece of the handler of PR `n` after an answer does with the instance `i`. A handler
that is about to take its PR on ends only when it does so. -/
inductive AgeEffect (setup : Setup) (sh : Shared) (n : UInt32) (i : PrInstance) (pc : HandlerPc)
    (answer : Answer) (o : Outcome) : Prop where
  | kept (hinst : o.shared.instances = sh.instances)
      (hflow : pc.departing = true → ∃ pc', o.flow = .await pc' ∧ pc'.departing = true)
  | advanced (state : InstanceState)
      (hinst : o.shared.instances = K8sManager.updateInstanceState sh.instances n state)
      (hadvance : Advance setup answer i.state state)
  | forgotten (hinst : o.shared.instances = K8sManager.removeInstance sh.instances n)

section Pieces

variable {setup : Setup} {gap : Nat} {sh : Shared} {n : UInt32} {i i' : PrInstance} {o : Outcome}
  {pc : HandlerPc} {answer : Answer} {rest : List (UInt32 × PrInstance)}

theorem ageEffect_of_resumed (h : Resumed setup sh n pc answer o) (hpc : PcMatches i pc) :
    AgeEffect setup sh n i pc answer o := by
  cases h with
  | buildUrl commitHashShort queueUrl answer =>
      simp only [handleBuildingUrl]
      split <;> exact .kept rfl (by rintro ⟨⟩)
  | buildStatus commitHashShort queueUrl buildUrl answer =>
      obtain ⟨-, startedAt, hstate⟩ := hpc
      simp only [handleBuildingStatus]
      -- success, failure, still building, still queued, not found, no answer
      split
      · exact .advanced _ rfl (by rw [hstate]; exact .built _ _ _)
      · exact .advanced _ rfl (by rw [hstate]; exact .buildFailed _ _ _)
      · exact .kept rfl (by rintro ⟨⟩)
      · exact .kept rfl (by rintro ⟨⟩)
      · exact .advanced _ rfl (by rw [hstate]; exact .buildFailed _ _ _)
      · exact .kept rfl (by rintro ⟨⟩)
  | noDeploymentClient imageTag hclient =>
      have hstate : i.state = .deploying imageTag := hpc
      exact .advanced _ rfl (by rw [hstate]; exact .deploymentFailed _ _)
  | deploymentDeleted imageTag answer =>
      cases answer with
      | ok u => exact .kept (by simp [createDeploymentDeleted]) fun _ => ⟨_, rfl, rfl⟩
      | error e => exact .kept (by simp [createDeploymentDeleted]) fun _ => ⟨_, rfl, rfl⟩
  | settled imageTag => exact .kept rfl fun _ => ⟨_, rfl, rfl⟩
  | deploymentCreated imageTag answer =>
      have hstate : i.state = .deploying imageTag := hpc
      cases answer with
      | ok u => exact .kept rfl fun _ => ⟨_, rfl, rfl⟩
      | error e => exact .advanced _ rfl (by rw [hstate]; exact .deploymentFailed _ _)
  | noServiceClient hclient =>
      obtain ⟨imageTag, hstate⟩ := hpc
      exact .advanced _ rfl (by rw [hstate]; exact .deploymentFailed _ _)
  | serviceDeleted answer =>
      exact .kept (by simp [createServiceDeleted]) fun _ => ⟨_, rfl, rfl⟩
  | serviceCreated answer now =>
      obtain ⟨imageTag, hstate⟩ := hpc
      simp only [createServiceCreated]
      cases answer with
      | error e => exact .advanced _ rfl (by rw [hstate]; exact .deploymentFailed _ _)
      | ok svc =>
          cases hport : svc.firstNodePort with
          | none =>
              simp only [hport]
              exact .advanced _ rfl (by rw [hstate]; exact .deploymentFailed _ _)
          | some nodePort =>
              simp only [hport]
              refine .advanced _ rfl ?_
              rw [hstate]
              exact .deployed _ _ _ _ now List.mem_cons_self
  | noReadinessClient commitHash commitHashShort deploymentName address port hclient =>
      simp only [handleStartingChecked]
      split <;> exact .kept rfl (by rintro ⟨⟩)
  | readinessChecked commitHash commitHashShort deploymentName address port answer =>
      simp only [handleStartingChecked]
      split <;> exact .kept rfl (by rintro ⟨⟩)
  | registered commitHash commitHashShort deploymentName address port now readyAt =>
      obtain ⟨-, -, startedAt, hstate⟩ := hpc
      simp only [handleStartingRegistered]
      split
      -- a shutdown time that cannot be represented panics and leaves the state as it is
      · exact .kept rfl (by rintro ⟨⟩)
      · rename_i shutdownAt hshutdown
        obtain ⟨-, rfl⟩ := Instant.addSecs_eq_some_iff.1 hshutdown
        refine .advanced _ rfl ?_
        rw [hstate]
        exact .started _ _ _ startedAt now readyAt _ List.mem_cons_self rfl
  | persisted commitHash commitHashShort answer =>
      cases answer with
      | ok now => exact .kept rfl (by rintro ⟨⟩)
      | error e => exact .kept rfl (by rintro ⟨⟩)
  | unregistered deploymentName now readyAt =>
      obtain ⟨address, port, readyAt', shutdownAt, hstate⟩ := hpc
      exact .advanced _ rfl (by rw [hstate]; exact .expired _ _ _ _ _)
  | noTearDownClient hclient => exact .forgotten rfl
  | deploymentTornDown answer =>
      simp only [deleteInstanceDeployment]
      cases answer with
      | ok u => exact .kept (by simp) fun _ => ⟨_, rfl, rfl⟩
      | error e =>
          dsimp only
          split
          · exact .kept (by simp) fun _ => ⟨_, rfl, rfl⟩
          · exact .forgotten (by simp [cleanUpFailed, untracked, Shared.untrack])
  | serviceTornDown answer =>
      simp only [deleteInstanceService]
      cases answer with
      | ok u => exact .forgotten (by simp [untracked, Shared.untrack])
      | error e =>
          dsimp only
          split
          · exact .forgotten (by simp [untracked, Shared.untrack])
          · exact .forgotten (by simp [cleanUpFailed, untracked, Shared.untrack])

theorem Advance.dated {clock : Instant} {state state' : InstanceState}
    (h : Advance setup answer state state')
    (hread : ∀ now ∈ answer.readings, now.nanos ≤ clock.nanos) : Dated setup clock state' := by
  cases h with
  | deployed imageTag deploymentName address port startedAt hmem => exact hread startedAt hmem
  | started deploymentName address port startedAt now readyAt shutdownAt hmem hshutdown =>
      have hnow := hread now hmem
      show shutdownAt.nanos ≤ clock.nanos + readyLimit setup
      omega
  | _ => trivial

/-- A stage ends with what its timeout and the gaps have left of it. -/
theorem Advance.aged {departing departing' : Bool} {first last : Instant}
    {state state' : InstanceState} (h : Advance setup answer state state')
    (haged : Aged setup gap departing first last state) :
    Aged setup gap departing' first last state' := by
  cases h with
  | built startedAt buildUrl imageTag =>
      obtain ⟨hstart, hlast⟩ := haged
      exact Or.inl (by omega)
  | buildFailed startedAt buildUrl reason =>
      obtain ⟨hstart, hlast⟩ := haged
      show last.nanos ≤ first.nanos + buildLimit setup + gap
      omega
  | deploymentFailed imageTag reason =>
      show last.nanos ≤ first.nanos + buildLimit setup + gap
      rcases haged with hlast | ⟨-, hlast⟩
      · omega
      · exact hlast
  | deployed imageTag deploymentName address port startedAt hread =>
      rcases haged with hlast | ⟨-, hlast⟩
      · exact Or.inl (by omega)
      · exact Or.inl hlast
  | started deploymentName address port startedAt now readyAt shutdownAt hread hshutdown =>
      rcases haged with hlast | ⟨hstart, hlast⟩
      · exact Or.inl (by omega)
      · exact Or.inl (by omega)
  | expired deploymentName address port readyAt shutdownAt =>
      rcases haged with hlast | ⟨hshutdown, hlast⟩ | ⟨-, hlast⟩
      · exact Or.inl (by omega)
      · exact Or.inl (by omega)
      · exact Or.inl hlast

/-- After a piece of the handler of a PR. -/
theorem aged_of_ageEffect {clock clock' : Instant}
    (hi : sh.instances.lookup n = some i) (hdated : Dated setup clock i.state)
    (hclock : clock.nanos ≤ clock'.nanos)
    (hread : ∀ now ∈ answer.readings, now.nanos ≤ clock'.nanos)
    (heff : AgeEffect setup sh n i pc answer o) (hi' : o.shared.instances.lookup n = some i') :
    Dated setup clock' i'.state ∧ ∀ first last, Aged setup gap pc.departing first last i.state →
      Aged setup gap ((afterFlow n rest o.flow).departs n) first last i'.state := by
  cases heff with
  | kept hinst hflow =>
      rw [hinst, hi] at hi'
      cases hi'
      refine ⟨hdated.mono hclock, fun first last haged => ?_⟩
      cases hpc : pc.departing with
      | false =>
          rw [hpc] at haged
          exact haged.depart _
      | true =>
          -- the handler goes on to another `await` before it takes the PR on
          obtain ⟨pc', hawait, hpc'⟩ := hflow hpc
          rw [Ticks.departs_afterFlow hawait hpc', ← hpc]
          exact haged
  | advanced state hinst hadvance =>
      rw [hinst, K8sManager.lookup_updateInstanceState, if_pos rfl, hi, Option.map_some] at hi'
      cases hi'
      exact ⟨hadvance.dated hread, fun first last haged => hadvance.aged haged⟩
  | forgotten hinst =>
      rw [hinst, K8sManager.lookup_removeInstance, if_pos rfl] at hi'
      cases hi'

end Pieces

/-! ## Steps -/

/-- The times of the tracked PRs were read by the clock, their ages are those of their stages, and
nothing is kept about other PRs. -/
structure Lived (setup : Setup) (gap : Nat) (s : Clocked) : Prop where
  dated : ∀ n i, s.world.shared.instances.lookup n = some i → Dated setup s.clock i.state
  aged : ∀ n i first last, s.world.shared.instances.lookup n = some i →
    s.found n = some (first, last) → Aged setup gap (s.world.loop.departs n) first last i.state
  unfound : ∀ n, s.world.shared.instances.lookup n = none → s.found n = none

theorem le_of_readClock {clock clock' : Instant} {readings : List Instant}
    (h : readClock clock readings = some clock') :
    clock.nanos ≤ clock'.nanos ∧ ∀ now ∈ readings, now.nanos ≤ clock'.nanos := by
  induction readings generalizing clock with
  | nil =>
      cases h
      exact ⟨Nat.le_refl _, fun now hnow => by cases hnow⟩
  | cons now readings ih =>
      rw [readClock] at h
      split at h
      · rename_i hle
        obtain ⟨hclock, hreadings⟩ := ih h
        refine ⟨Nat.le_trans hle hclock, ?_⟩
        intro now' hnow'
        rcases List.mem_cons.1 hnow' with rfl | hnow'
        · exact hclock
        · exact hreadings now' hnow'
      · cases h

/-- What a piece of a call starts is dated by its clock reading. -/
theorem stepped_dated {setup : Setup} {sh : Shared} {id : Nat} {call : StartCall}
    {label : StartLabel} {o : StartPr.Outcome} {clock : Instant}
    (h : StartPr.Stepped setup sh id call label o)
    (hread : ∀ now ∈ (Label.start id label).readings, now.nanos ≤ clock.nanos) :
    o.shared.instances = sh.instances ∨ ∃ n i, call.pending = some n ∧
      o.shared.instances = sh.instances.insert n i ∧ Dated setup clock i.state := by
  cases h with
  | cached n commitHash commitHashShort => exact Or.inr ⟨n, _, rfl, rfl, trivial⟩
  | queued n commitHash commitHashShort queueUrl answer now hqueued =>
      exact Or.inr ⟨n, _, rfl, rfl, hread now List.mem_cons_self⟩
  | _ => exact Or.inl rfl

section Steps

variable {setup : Setup} {gap : Nat} {s s' : Clocked} {label : Label} {t : List Found}

theorem clocked_step_iff :
    Clocked.step setup s label = some (s', t) ↔
      ∃ clock w events, readClock s.clock label.readings = some clock ∧
        Lifecycle.step setup s.world label = some (w, events) ∧
        t = (Ticks.takes s.world label).filterMap s.finding ∧
        s' = ⟨w, clock, fun n =>
          if (w.shared.instances.lookup n).isSome then t.foldl Clocked.note s.found n
          else none⟩ := by
  constructor
  · intro h
    unfold Clocked.step at h
    split at h
    · rename_i clock w events hclock hstep
      cases h
      exact ⟨clock, w, events, hclock, hstep, rfl, rfl⟩
    · cases h
  · rintro ⟨clock, w, events, hclock, hstep, rfl, rfl⟩
    simp only [Clocked.step, hclock, hstep]

/-- What a step keeps of its findings concerns tracked PRs only. -/
theorem lived_of_tracked {clock : Instant} {w : World} {found : UInt32 → Option (Instant × Instant)}
    (h : ∀ k i, w.shared.instances.lookup k = some i → Dated setup clock i.state ∧
      ∀ first last, found k = some (first, last) →
        Aged setup gap (w.loop.departs k) first last i.state) :
    Lived setup gap ⟨w, clock, fun k =>
      if (w.shared.instances.lookup k).isSome then found k else none⟩ where
  dated k i hi := (h k i hi).1
  aged := by
    intro k i first last hi hfound
    simp only [hi, Option.isSome_some, if_true] at hfound
    exact (h k i hi).2 first last hfound
  unfound := by
    intro k hk
    simp only [hk, Option.isSome_none, Bool.false_eq_true, if_false]

/-- A PR that a step leaves as it is. -/
theorem Lived.keep {clock : Instant} {loop : LoopState} {n : UInt32} {i : PrInstance}
    (h : Lived setup gap s) (hclock : s.clock.nanos ≤ clock.nanos)
    (hi : s.world.shared.instances.lookup n = some i)
    (hdeparts : loop.departs n = s.world.loop.departs n) :
    Dated setup clock i.state ∧ ∀ first last, s.found n = some (first, last) →
      Aged setup gap (loop.departs n) first last i.state := by
  refine ⟨(h.dated n i hi).mono hclock, fun first last hfound => ?_⟩
  rw [hdeparts]
  exact h.aged n i first last hi hfound

theorem lived_start {id : Nat} {start : StartLabel} {clock : Instant} {w : World}
    {events : List Event} (hcoh : Coherent s.world) (h : Lived setup gap s)
    (hclock : readClock s.clock (Label.start id start).readings = some clock)
    (hstep : Lifecycle.step setup s.world (.start id start) = some (w, events)) :
    Lived setup gap ⟨w, clock, fun n =>
      if (w.shared.instances.lookup n).isSome then s.found n else none⟩ := by
  obtain ⟨hle, hread⟩ := le_of_readClock hclock
  obtain ⟨o, ho, rfl, -⟩ := step_start_iff.1 hstep
  refine lived_of_tracked ?_
  intro k i hi
  rcases stepped_dated (StartPr.stepped_of_step ho) hread with hinst | ⟨n, j, hn, hinst, hdated⟩
  · have hi' : o.shared.instances.lookup k = some i := hi
    rw [hinst] at hi'
    exact h.keep hle hi' rfl
  · by_cases hk : k = n
    · subst hk
      have hj : o.shared.instances.lookup k = some i := hi
      rw [hinst, AList.lookup_insert] at hj
      cases hj
      -- the PR of a call in flight is not tracked, so it has not been found yet
      refine ⟨hdated, fun first last hfound => ?_⟩
      rw [h.unfound k (hcoh.untracked id k hn)] at hfound
      cases hfound
    · have hi' : o.shared.instances.lookup k = some i := hi
      rw [hinst, AList.lookup_insert_ne hk] at hi'
      exact h.keep hle hi' rfl

theorem lived_resume {answer : Answer} {clock : Instant} {w : World} {events : List Event}
    (hcoh : Coherent s.world) (h : Lived setup gap s)
    (hclock : readClock s.clock (Label.resume answer).readings = some clock)
    (hstep : Lifecycle.step setup s.world (.resume answer) = some (w, events)) :
    Lived setup gap ⟨w, clock, fun n =>
      if (w.shared.instances.lookup n).isSome then s.found n else none⟩ := by
  obtain ⟨hle, hread⟩ := le_of_readClock hclock
  obtain ⟨n, pc, rest, o, hloop, ho, rfl, -⟩ := step_resume_iff.1 hstep
  obtain ⟨i, hi, hpc⟩ := hcoh.lookup_running hloop
  have hresumed := resumed_of_resume ho
  refine lived_of_tracked ?_
  intro k j hj
  by_cases hk : k = n
  · subst hk
    -- the handler of this PR is running, so the entry it took has been found
    obtain ⟨hdated, haged⟩ := @aged_of_ageEffect setup gap s.world.shared k i j o pc answer rest
      s.clock clock hi (h.dated k i hi) hle hread (ageEffect_of_resumed hresumed hpc) hj
    refine ⟨hdated, fun first last hfound => haged first last ?_⟩
    have hbefore := h.aged k i first last hi hfound
    rw [hloop] at hbefore
    simpa [LoopState.departs] using hbefore
  · have hj' : o.shared.instances.lookup k = some j := hj
    rw [(instanceEffect_of_resumed hresumed).lookup_of_ne hk] at hj'
    refine h.keep hle hj' ?_
    rw [Ticks.departs_afterFlow_of_ne hk, hloop]
    simp [LoopState.departs, hk]

/-- The loop finds PR `n`. -/
theorem lived_advance {n : UInt32} {i : PrInstance} {rest : List (UInt32 × PrInstance)}
    {now first : Instant} (hcoh : Coherent s.world) (h : Lived setup gap s)
    (hclock : s.clock.nanos ≤ now.nanos) (hloop : s.world.loop = .next ((n, i) :: rest))
    (hbefore : FoundBefore setup gap first now i.state) :
    let o := dispatch setup s.world.shared n i now
    let w : World := { s.world with shared := o.shared, loop := afterFlow n rest o.flow }
    Lived setup gap ⟨w, now, fun k =>
      if (w.shared.instances.lookup k).isSome then
        Clocked.note s.found ⟨n, first, now⟩ k
      else none⟩ := by
  intro o w
  have hi := hcoh.lookup_next hloop
  have heff := findEffect_dispatch setup s.world.shared n i now
  refine lived_of_tracked ?_
  intro k j hj
  by_cases hk : k = n
  · subst hk
    obtain ⟨hdated, haged⟩ := @aged_of_findEffect setup gap s.world.shared k i j o rest first now hi
      ((h.dated k i hi).mono hclock) hbefore heff hj
    refine ⟨hdated, fun first' last' hfound => ?_⟩
    rw [Clocked.note, Function.update_self] at hfound
    cases hfound
    exact haged
  · have hother := (instanceEffect_of_dispatched
      (dispatched_dispatch setup s.world.shared n i now)).lookup_of_ne hk
    have hj' : o.shared.instances.lookup k = some j := hj
    rw [hother] at hj'
    simp only [Clocked.note, Function.update_of_ne hk]
    refine h.keep hclock hj' ?_
    rw [hloop]
    exact Ticks.departs_afterFlow_of_ne hk

/-- A step keeps the ages, and what it finds is not older than the limit. -/
theorem lived_step (hcoh : Coherent s.world) (h : Lived setup gap s)
    (hspaced : Clocked.SpacedBy gap s label) (hstep : Clocked.step setup s label = some (s', t)) :
    Lived setup gap s' ∧
      ∀ f ∈ t, f.now.nanos ≤ f.first.nanos + lifetimeLimit setup gap := by
  obtain ⟨clock, w, events, hclock, hstep', rfl, rfl⟩ := clocked_step_iff.1 hstep
  cases label with
  | start id start =>
      exact ⟨lived_start hcoh h hclock hstep', fun f hf => by cases hf⟩
  | resume answer => exact ⟨lived_resume hcoh h hclock hstep', fun f hf => by cases hf⟩
  | tick snapshot =>
      obtain ⟨hloop, -, rfl, -⟩ := step_tick_iff.1 hstep'
      obtain ⟨hle, -⟩ := le_of_readClock hclock
      refine ⟨lived_of_tracked fun k i hi => h.keep hle hi ?_, fun f hf => by cases hf⟩
      rw [hloop]
      rfl
  | advance now =>
      obtain ⟨hle, hread⟩ := le_of_readClock hclock
      rcases step_advance_iff.1 hstep' with ⟨hloop, rfl, -⟩ | ⟨n, i, rest, hloop, rfl, -⟩
      · have htakes : Ticks.takes s.world (.advance now) = [] := by simp [Ticks.takes, hloop]
        rw [htakes]
        refine ⟨lived_of_tracked fun k i hi => h.keep hle hi ?_, fun f hf => by cases hf⟩
        rw [hloop]
        rfl
      · have htakes : Ticks.takes s.world (.advance now) = [.taken n i now] := by
          simp [Ticks.takes, hloop]
        have hnow : clock = now := by
          simp only [Label.readings, readClock] at hclock
          split at hclock
          · exact (Option.some.inj hclock).symm
          · cases hclock
        subst hnow
        have hi := hcoh.lookup_next hloop
        -- no handler is running here, so the age is one outside of a handler
        have hbefore : FoundBefore setup gap (((s.found n).map Prod.fst).getD clock) clock
            i.state := by
          cases hfound : s.found n with
          | none => exact Or.inl rfl
          | some p =>
              obtain ⟨first, last⟩ := p
              have haged := h.aged n i first last hi hfound
              rw [hloop] at haged
              refine Or.inr ⟨last, ?_, haged⟩
              exact hspaced n i clock (by rw [htakes]; exact List.mem_cons_self) first last hfound
        rw [htakes]
        refine ⟨lived_advance hcoh h hle hloop hbefore, ?_⟩
        intro f hf
        have hf' : f = ⟨n, ((s.found n).map Prod.fst).getD clock, clock⟩ := List.mem_singleton.1 hf
        rw [hf']
        exact hbefore.now_le

end Steps

/-! ## Runs -/

/-- The times of the tracked instances were read by `clock`. -/
def AllDated (setup : Setup) (clock : Instant) (m : Instances) : Prop :=
  ∀ n i, m.lookup n = some i → Dated setup clock i.state

theorem allDated_recoverBuild {setup : Setup} {clock : Instant} {a : RowAnswers} {r r' : Recovery}
    {build : PrBuild} (h : AllDated setup clock r.shared.instances)
    (hnow : a.now.nanos ≤ clock.nanos)
    (hstep : Recovery.recoverBuild setup.kubernetes a r build = some r') :
    AllDated setup clock r'.shared.instances := by
  cases Recovery.recovered_of_recoverBuild hstep with
  | ready deployment svc nodePort hcall hready hservice hport hrecover =>
      obtain ⟨shutdownAt, hshutdown, rfl⟩ := Recovery.recoverReady_eq_some_iff.1 hrecover
      obtain ⟨-, rfl⟩ := Instant.addSecs_eq_some_iff.1 hshutdown
      intro n i hi
      by_cases hn : n = prNumberAsU32 build.prNumber
      · subst hn
        simp only [AList.lookup_insert, Option.some.injEq] at hi
        subst hi
        exact Nat.add_le_add_right hnow _
      · simp only [AList.lookup_insert_ne hn] at hi
        exact h n i hi
  | deferred deployment hcall hready => exact h
  | removed hreport =>
      simp only [Recovery.deleteBuild]
      split
      · exact h
      · exact h

theorem allDated_recoverFromDb {setup : Setup} {clock : Instant} {loadError : Option String}
    {answers : PrBuild → RowAnswers} {sh sh' : Shared} {result : Except String Nat}
    (h : AllDated setup clock sh.instances)
    (hnow : ∀ build ∈ sh.builds.getActiveBuilds, (answers build).now.nanos ≤ clock.nanos)
    (hrec : Recovery.recoverFromDb setup.kubernetes loadError answers sh = some (sh', result)) :
    AllDated setup clock sh'.instances := by
  rcases Recovery.exec_of_recoverFromDb hrec with rfl | ⟨count, t, hrun⟩
  · exact h
  · exact System.exec_state_invariant (Recovery.system setup.kubernetes answers)
      (fun r => AllDated setup clock r.shared.instances)
      (fun r build r' _ hr hnow hstep =>
        allDated_recoverBuild hr hnow (Recovery.step_eq_some_iff.1 hstep).1) h
      (System.meets_of_forall _ (fun _ build hbuild => hnow build hbuild) _) hrun

/-- In every run after a recovery, with a clock that never goes back, in which calls of one PR do
not overlap and the loop finds a tracked PR again within `gap`, it finds no PR later than the
three timeouts and five gaps after it found it first. -/
theorem lifetime_bounded (setup : Setup) (staticBackends : KeyedMap String BackendServer)
    (builds : PrBuilds) (deployments : KeyedMap String String)
    (services : KeyedMap String (Option Int32)) (loadError : Option String)
    (answers : PrBuild → RowAnswers) (sh : Shared) (result : Except String Nat) (clock : Instant)
    (gap : Nat) (labels : List Label) (s : Clocked) (tr : List Found)
    (hrec : Recovery.recoverFromDb setup.kubernetes loadError answers
      (Shared.startUp staticBackends builds deployments services) = some (sh, result))
    (hnow : ∀ build ∈ builds.getActiveBuilds, (answers build).now.nanos ≤ clock.nanos)
    (hmeets : (Clocked.system setup).Meets
      (fun s label => NoOverlap s.world label ∧ Clocked.SpacedBy gap s label)
      ⟨started sh, clock, fun _ => none⟩ labels)
    (hrun : (Clocked.system setup).exec ⟨started sh, clock, fun _ => none⟩ labels =
      some (s, tr)) :
    ∀ f ∈ tr, f.now.nanos ≤ f.first.nanos + lifetimeLimit setup gap := by
  have hdated : AllDated setup clock sh.instances :=
    allDated_recoverFromDb (fun n i hi => by cases hi) hnow hrec
  have hstart : Lived setup gap ⟨started sh, clock, fun _ => none⟩ :=
    ⟨hdated, fun _ _ _ _ _ hfound => (by cases hfound), fun _ _ => rfl⟩
  have hinv : (Coherent s.world ∧ Lived setup gap s) ∧
      ∀ f ∈ [] ++ tr, f.now.nanos ≤ f.first.nanos + lifetimeLimit setup gap := by
    refine @System.exec_invariant _ _ _ (Clocked.system setup)
      (fun s label => NoOverlap s.world label ∧ Clocked.SpacedBy gap s label)
      (fun s tr => (Coherent s.world ∧ Lived setup gap s) ∧
        ∀ f ∈ tr, f.now.nanos ≤ f.first.nanos + lifetimeLimit setup gap) ?_ labels _ s [] tr
      ⟨⟨coherent_of_fresh (fresh_started sh), hstart⟩, fun f hf => by cases hf⟩ hmeets hrun
    -- one step: the stores stay coherent, the ages hold, and what is found is within the limit
    rintro s tr label s' t ⟨⟨hcoh, hlived⟩, hfound⟩ ⟨hno, hspaced⟩ hstep
    obtain ⟨hlived', hfound'⟩ := lived_step hcoh hlived hspaced hstep
    obtain ⟨clock, w, events, -, hstep', -, rfl⟩ := clocked_step_iff.1 hstep
    exact ⟨⟨coherent_step hcoh hno hstep', hlived'⟩,
      List.forall_mem_append.2 ⟨hfound, hfound'⟩⟩
  exact hinv.2

/-- PR 7 is found before its shutdown time, at it, and while it is shut down. -/
def shutdownSample : List Label :=
  [.tick [(7, recoveredSample)], .advance ⟨1700000000000⟩, .advance ⟨1700000000000⟩,
    .tick [(7, recoveredSample)], .advance ⟨1800000000000⟩,
    .resume (.registryLocked ⟨1800000000000⟩ ⟨1800000000000⟩), .advance ⟨1800000000000⟩,
    .tick [(7, { recoveredSample with state := .shuttingDown "steel-pr-7" })],
    .advance ⟨1810000000000⟩, .resume (.deleted (.ok ())), .resume (.deleted (.ok ()))]

theorem spacedBy_of_readings_le {gap : Nat} {label : Label}
    (h : ∀ now, label = .advance now → now.nanos ≤ gap) (s : Clocked) :
    Clocked.SpacedBy gap s label := by
  intro n i now htaken first last _
  unfold Ticks.takes at htaken
  split at htaken
  · rename_i reading
    split at htaken
    · obtain ⟨-, -, rfl⟩ : n = _ ∧ i = _ ∧ now = reading := by simpa using htaken
      exact Nat.le_add_left_of_le (h now rfl)
    · simp at htaken
  · simp at htaken

theorem lifetime_bounded_shutdownSample :
    ∃ s tr, (Clocked.system sampleSetup).exec ⟨started recoveredShared, ⟨0⟩, fun _ => none⟩
        shutdownSample = some (s, tr) ∧
      (∀ f ∈ tr, f.now.nanos ≤ f.first.nanos + lifetimeLimit sampleSetup 2000000000000) ∧
      tr = [⟨7, ⟨1700000000000⟩, ⟨1700000000000⟩⟩, ⟨7, ⟨1700000000000⟩, ⟨1800000000000⟩⟩,
        ⟨7, ⟨1700000000000⟩, ⟨1810000000000⟩⟩] := by
  have hrec : Recovery.recoverFromDb sampleSetup.kubernetes none (fun _ => readyAnswers)
      Recovery.sampleStartUp = some (recoveredShared, .ok 1) := by rfl
  have hevents : ((Clocked.system sampleSetup).exec ⟨started recoveredShared, ⟨0⟩, fun _ => none⟩
      shutdownSample).map Prod.snd =
        some [⟨7, ⟨1700000000000⟩, ⟨1700000000000⟩⟩, ⟨7, ⟨1700000000000⟩, ⟨1800000000000⟩⟩,
          ⟨7, ⟨1700000000000⟩, ⟨1810000000000⟩⟩] := by decide +kernel
  obtain ⟨s, hrun⟩ := (Clocked.system sampleSetup).exists_exec_of_events hevents
  have hno : ∀ s : Clocked, ∀ label ∈ shutdownSample, NoOverlap s.world label := by
    simp [shutdownSample, NoOverlap]
  have hle : ∀ label ∈ shutdownSample, ∀ now, label = .advance now →
      now.nanos ≤ 2000000000000 := by
    simp [shutdownSample]
  have hmeets : (Clocked.system sampleSetup).Meets
      (fun s label => NoOverlap s.world label ∧ Clocked.SpacedBy 2000000000000 s label)
      ⟨started recoveredShared, ⟨0⟩, fun _ => none⟩ shutdownSample :=
    (Clocked.system sampleSetup).meets_of_forall (fun s label hlabel =>
      ⟨hno s label hlabel, spacedBy_of_readings_le (hle label hlabel) s⟩) _
  exact ⟨s, _, hrun, lifetime_bounded sampleSetup ∅ sampleBuilds ∅ ∅ none _ recoveredShared (.ok 1)
    ⟨0⟩ 2000000000000 shutdownSample s _ hrec (fun _ _ => Nat.le_refl _) hmeets hrun, rfl⟩

end Lifetimes

end SteelProxy
