import SteelProxy.K8s.Stages

/-!
# Ticks

A tick takes a snapshot of the tracked instances and hands its entries to the handlers one after
the other. Whatever the answers are and however the `start_pr` calls interleave, the entries are
taken in the order of the snapshot, each once; a tick is never stuck before it ends or panics; and
it ends within six steps for an entry (`tick_takes_each_once`).
-/

set_option autoImplicit false

namespace SteelProxy

open SteelProxy.Library SteelProxy.Library.Transition

/-- The loop takes the entry of PR `n` at the clock reading `now`; PR `n` is no longer tracked. -/
inductive TickEvent where
  | taken (n : UInt32) (instance_ : PrInstance) (now : Instant)
  | forgotten (n : UInt32)
  deriving DecidableEq, Repr

/-- The entry that was taken. -/
def TickEvent.entry : TickEvent → Option (UInt32 × PrInstance)
  | .taken n instance_ _ => some (n, instance_)
  | .forgotten _ => none

/-- The removal of a tracked instance. -/
def Event.forgotten : Event → Option TickEvent
  | .removed n (some _) => some (.forgotten n)
  | _ => none

/-- The step is one of the loop within a tick. -/
def Label.withinTick : Label → Bool
  | .start _ _ => false
  | .tick _ => false
  | .advance _ => true
  | .resume _ => true

/-- The step is the tick of the interval. -/
def Label.isTick : Label → Bool
  | .tick _ => true
  | _ => false

/-- The number of answers a handler still waits for, at most. -/
def HandlerPc.left : HandlerPc → Nat
  | .buildUrl _ _ => 2
  | .buildStatus _ _ _ => 1
  | .deleteDeployment _ => 5
  | .settle _ => 4
  | .createDeployment _ => 3
  | .deleteService => 2
  | .createService => 1
  | .checkReady _ _ _ _ _ => 3
  | .register _ _ _ _ _ => 2
  | .persist _ _ => 1
  | .unregister _ => 1
  | .tearDownDeployment => 2
  | .tearDownService => 1

namespace LoopState

/-- The entries of the snapshot that are not taken yet. -/
def pending : LoopState → List (UInt32 × PrInstance)
  | .waiting => []
  | .next rest => rest
  | .running _ _ rest => rest
  | .panicked => []

/-- The number of steps to the end of the tick, at most. -/
def left : LoopState → Nat
  | .waiting => 0
  | .next rest => 6 * rest.length + 1
  | .running _ pc rest => pc.left + (6 * rest.length + 1)
  | .panicked => 0

end LoopState

namespace Ticks

open SteelProxy.Lifecycle

/-- The entry that a step takes. -/
def takes (w : World) : Label → List TickEvent
  | .advance now =>
      match w.loop with
      | .next ((n, instance_) :: _) => [.taken n instance_ now]
      | _ => []
  | _ => []

/-- The entry that a step takes, and the PRs it forgets. -/
def observe (setup : Setup) (w : World) (label : Label) : List TickEvent :=
  takes w label ++
    match Lifecycle.step setup w label with
    | none => []
    | some (_, t) => t.filterMap Event.forgotten

/-- The lifecycle loop with what concerns its ticks. -/
def system (setup : Setup) : System World Label TickEvent :=
  (Lifecycle.system setup).observed (observe setup)

/-! ## The length of a handler -/

theorem left_pos (pc : HandlerPc) : 0 < pc.left := by
  cases pc <;> simp [HandlerPc.left]

section Handlers

variable {setup : Setup} {sh : Shared} {n : UInt32} {o : Outcome}

theorem left_le_of_dispatched {i : PrInstance} {now : Instant} (h : Dispatched setup sh n i now o)
    {pc : HandlerPc} (hflow : o.flow = .await pc) : pc.left ≤ 5 := by
  cases h with
  | building startedAt queueUrl hstate => cases hflow; simp [HandlerPc.left]
  | deploying imageTag hstate => cases hflow; simp [HandlerPc.left]
  | starting deploymentName address port startedAt hstate => cases hflow; simp [HandlerPc.left]
  | expired deploymentName address port readyAt shutdownAt message hstate hlate =>
      cases hflow
      simp [HandlerPc.left]
  | shuttingDown deploymentName hstate => cases hflow; simp [HandlerPc.left]
  | _ => cases hflow

theorem left_lt_of_resumed {pc pc' : HandlerPc} {answer : Answer}
    (h : Resumed setup sh n pc answer o) (hflow : o.flow = .await pc') : pc'.left < pc.left := by
  -- no handler waits at the same `await` twice
  cases h with
  | buildUrl commitHashShort queueUrl answer =>
      simp only [handleBuildingUrl] at hflow
      split at hflow <;> cases hflow
      simp [HandlerPc.left]
  | buildStatus commitHashShort queueUrl buildUrl answer =>
      simp only [handleBuildingStatus] at hflow
      split at hflow <;> cases hflow
  | noDeploymentClient imageTag hclient => cases hflow
  | deploymentDeleted imageTag answer =>
      cases answer with
      | ok u => cases hflow; simp [HandlerPc.left]
      | error e => cases hflow; simp [HandlerPc.left]
  | settled imageTag => cases hflow; simp [HandlerPc.left]
  | deploymentCreated imageTag answer =>
      cases answer with
      | ok u => cases hflow; simp [HandlerPc.left]
      | error e => cases hflow
  | noServiceClient hclient => cases hflow
  | serviceDeleted answer => cases hflow; simp [HandlerPc.left]
  | serviceCreated answer now =>
      simp only [createServiceCreated] at hflow
      cases answer with
      | error e => cases hflow
      | ok svc =>
          cases hport : svc.firstNodePort <;>
            · simp only [hport] at hflow
              cases hflow
  | noReadinessClient commitHash commitHashShort deploymentName address port hclient =>
      cases hflow
  | readinessChecked commitHash commitHashShort deploymentName address port answer =>
      simp only [handleStartingChecked] at hflow
      split at hflow <;> cases hflow
      simp [HandlerPc.left]
  | registered commitHash commitHashShort deploymentName address port now readyAt =>
      simp only [handleStartingRegistered] at hflow
      split at hflow <;> cases hflow
      simp [HandlerPc.left]
  | persisted commitHash commitHashShort answer =>
      cases answer <;> cases hflow
  | unregistered deploymentName now readyAt => cases hflow
  | noTearDownClient hclient => cases hflow
  | deploymentTornDown answer =>
      simp only [deleteInstanceDeployment] at hflow
      cases answer with
      | ok u => cases hflow; simp [HandlerPc.left]
      | error e =>
          dsimp only at hflow
          split at hflow <;> cases hflow
          simp [HandlerPc.left]
  | serviceTornDown answer =>
      simp only [deleteInstanceService] at hflow
      cases answer with
      | ok u => cases hflow
      | error e =>
          dsimp only at hflow
          split at hflow <;> cases hflow

/-- Every `await` has an answer. -/
theorem exists_resume (setup : Setup) (sh : Shared) (n : UInt32) (pc : HandlerPc) :
    ∃ answer o, resume setup sh n pc answer = some o := by
  cases pc with
  | buildUrl commitHashShort queueUrl => exact ⟨.queueItem .failed, _, rfl⟩
  | buildStatus commitHashShort queueUrl buildUrl => exact ⟨.build .failed, _, rfl⟩
  | deleteDeployment imageTag => exact ⟨.deleted (.ok ()), _, rfl⟩
  | settle imageTag => exact ⟨.slept, _, rfl⟩
  | createDeployment imageTag => exact ⟨.deploymentCreated (.ok ()), _, rfl⟩
  | deleteService => exact ⟨.deleted (.ok ()), _, rfl⟩
  | createService => exact ⟨.serviceCreated (.ok ⟨none⟩) ⟨0⟩, _, rfl⟩
  | checkReady commitHash commitHashShort deploymentName address port =>
      exact ⟨.deploymentRead (.ok ⟨none⟩), _, rfl⟩
  | register commitHash commitHashShort deploymentName address port =>
      exact ⟨.registryLocked ⟨0⟩ ⟨0⟩, _, rfl⟩
  | persist commitHash commitHashShort => exact ⟨.persisted (.error ""), _, rfl⟩
  | unregister deploymentName => exact ⟨.registryLocked ⟨0⟩ ⟨0⟩, _, rfl⟩
  | tearDownDeployment => exact ⟨.deleted (.ok ()), _, rfl⟩
  | tearDownService => exact ⟨.deleted (.ok ()), _, rfl⟩

end Handlers

/-! ## Steps -/

section Steps

variable {setup : Setup} {w w' : World} {label : Label} {t : List Event}

theorem left_afterFlow_lt {n : UInt32} {rest : List (UInt32 × PrInstance)} {flow : Flow} {k : Nat}
    (hpos : 0 < k) (hawait : ∀ pc, flow = .await pc → pc.left < k) :
    (afterFlow n rest flow).left < k + (6 * rest.length + 1) := by
  cases flow with
  | await pc =>
      have hlt := hawait pc rfl
      show pc.left + (6 * rest.length + 1) < _
      omega
  | done =>
      show 6 * rest.length + 1 < _
      omega
  | panicked =>
      show 0 < _
      omega

theorem pending_afterFlow {n : UInt32} {rest : List (UInt32 × PrInstance)} {flow : Flow}
    (h : afterFlow n rest flow ≠ .panicked) : (afterFlow n rest flow).pending = rest := by
  cases flow with
  | await pc => rfl
  | done => rfl
  | panicked => exact absurd rfl h

/-- Every step of the loop within a tick shortens it, and no call lengthens it. -/
theorem left_step (hlabel : label.isTick = false)
    (hstep : Lifecycle.step setup w label = some (w', t)) :
    w'.loop.left + (if label.withinTick then 1 else 0) ≤ w.loop.left := by
  cases label with
  | start id label =>
      obtain ⟨o, -, rfl, -⟩ := step_start_iff.1 hstep
      exact Nat.le_refl _
  | tick snapshot => cases hlabel
  | advance now =>
      rcases step_advance_iff.1 hstep with ⟨hloop, rfl, -⟩ | ⟨n, i, rest, hloop, rfl, -⟩
      · rw [hloop]
        exact Nat.le_refl _
      · rw [hloop]
        have hflow := fun pc => @left_le_of_dispatched setup w.shared n _ i now
          (dispatched_dispatch setup w.shared n i now) pc
        have hlt := @left_afterFlow_lt n rest _ 6 (by decide)
          (fun pc h => Nat.lt_succ_of_le (hflow pc h))
        show (afterFlow n rest (dispatch setup w.shared n i now).flow).left + 1 ≤
          6 * (rest.length + 1) + 1
        omega
  | resume answer =>
      obtain ⟨n, pc, rest, o, hloop, ho, rfl, -⟩ := step_resume_iff.1 hstep
      rw [hloop]
      have hlt := @left_afterFlow_lt n rest o.flow pc.left (left_pos pc)
        (fun pc' h => left_lt_of_resumed (resumed_of_resume ho) h)
      exact hlt

/-- The entries of the snapshot that are not taken yet lose the one that a step takes. -/
theorem takes_step (hlabel : label.isTick = false)
    (hstep : Lifecycle.step setup w label = some (w', t)) :
    ∃ rest, w.loop.pending = (takes w label).filterMap TickEvent.entry ++ rest ∧
      (w'.loop ≠ .panicked → w'.loop.pending = rest) := by
  cases label with
  | start id label =>
      obtain ⟨o, -, rfl, -⟩ := step_start_iff.1 hstep
      exact ⟨_, rfl, fun _ => rfl⟩
  | tick snapshot => cases hlabel
  | advance now =>
      rcases step_advance_iff.1 hstep with ⟨hloop, rfl, -⟩ | ⟨n, i, rest, hloop, rfl, -⟩
      · refine ⟨[], ?_, fun _ => rfl⟩
        simp only [takes, hloop]
        rfl
      · refine ⟨rest, ?_, pending_afterFlow⟩
        simp only [takes, hloop]
        rfl
  | resume answer =>
      obtain ⟨n, pc, rest, o, hloop, ho, rfl, -⟩ := step_resume_iff.1 hstep
      refine ⟨rest, ?_, pending_afterFlow⟩
      rw [hloop]
      rfl

/-- A panic is the end of the loop. -/
theorem panicked_step (hpanicked : w.loop = .panicked)
    (hstep : Lifecycle.step setup w label = some (w', t)) : w'.loop = .panicked := by
  cases label with
  | start id label =>
      obtain ⟨o, -, rfl, -⟩ := step_start_iff.1 hstep
      exact hpanicked
  | _ =>
      simp only [Lifecycle.step, hpanicked] at hstep
      cases hstep

/-- The loop never gets stuck within a tick. -/
theorem exists_step (setup : Setup) (w : World) (hwaiting : w.loop ≠ .waiting)
    (hpanicked : w.loop ≠ .panicked) :
    ∃ label q, label.withinTick = true ∧ Lifecycle.step setup w label = some q := by
  cases hloop : w.loop with
  | waiting => exact absurd hloop hwaiting
  | next rest =>
      cases rest with
      | nil => exact ⟨.advance ⟨0⟩, _, rfl, by simp only [Lifecycle.step, hloop]; rfl⟩
      | cons e rest => exact ⟨.advance ⟨0⟩, _, rfl, by simp only [Lifecycle.step, hloop]; rfl⟩
  | running n pc rest =>
      obtain ⟨answer, o, ho⟩ := exists_resume setup w.shared n pc
      exact ⟨.resume answer, _, rfl, step_resume_iff.2 ⟨n, pc, rest, o, hloop, ho, rfl, rfl⟩⟩
  | panicked => exact absurd hloop hpanicked

end Steps

/-! ## Runs -/

theorem entry_forgotten (t : List Event) :
    (t.filterMap Event.forgotten).filterMap TickEvent.entry = [] := by
  rw [List.filterMap_filterMap, List.filterMap_eq_nil_iff]
  intro e _
  cases e with
  | removed n old => cases old <;> rfl
  | _ => rfl

/-- The entries of a step are those that it takes. -/
theorem entries_observe (setup : Setup) (w : World) (label : Label) :
    (observe setup w label).filterMap TickEvent.entry =
      (takes w label).filterMap TickEvent.entry := by
  rw [observe, List.filterMap_append]
  cases Lifecycle.step setup w label with
  | none => simp
  | some q =>
      simp only [entry_forgotten]
      exact List.append_nil _

/-- What was taken of a snapshot, and is pending, make it up; a panic drops the rest. -/
structure Taken (snapshot : List (UInt32 × PrInstance)) (w : World) (tr : List TickEvent) :
    Prop where
  inOrder : tr.filterMap TickEvent.entry <+: snapshot
  all : w.loop ≠ .panicked → tr.filterMap TickEvent.entry ++ w.loop.pending = snapshot

theorem taken_step {setup : Setup} {snapshot : List (UInt32 × PrInstance)} {w w' : World}
    {tr t : List TickEvent} {label : Label} (h : Taken snapshot w tr)
    (hlabel : label.isTick = false) (hstep : (system setup).step w label = some (w', t)) :
    Taken snapshot w' (tr ++ t) := by
  obtain ⟨⟨t₀, hloop⟩, rfl⟩ := System.step_observed_iff _ |>.1 hstep
  obtain ⟨rest, hsplit, hpending⟩ := takes_step hlabel hloop
  have hentries : (tr ++ observe setup w label).filterMap TickEvent.entry =
      tr.filterMap TickEvent.entry ++ (takes w label).filterMap TickEvent.entry := by
    rw [List.filterMap_append, entries_observe]
  by_cases hpanicked : w.loop = .panicked
  · -- a dead loop takes nothing
    rw [hpanicked] at hsplit
    obtain ⟨hnone, -⟩ := List.append_eq_nil_iff.1 hsplit.symm
    rw [hnone, List.append_nil] at hentries
    refine ⟨?_, fun hrunning => absurd (panicked_step hpanicked hloop) hrunning⟩
    rw [hentries]
    exact h.inOrder
  · have hall := h.all hpanicked
    rw [hsplit, ← List.append_assoc, ← hentries] at hall
    exact ⟨⟨rest, hall⟩, fun hrunning => by rw [hpending hrunning, hall]⟩

/-- What holds `steps` steps of the loop after a tick that took `snapshot`. -/
structure TickRun (setup : Setup) (snapshot : List (UInt32 × PrInstance)) (tr : List TickEvent)
    (steps : Nat) (w : World) : Prop where
  taken : Taken snapshot w tr
  bounded : w.loop.left + steps ≤ 6 * snapshot.length + 1
  enabled : w.loop ≠ .waiting → w.loop ≠ .panicked →
    ∃ label q, label.withinTick = true ∧ Lifecycle.step setup w label = some q

/-- From a tick to the next one the loop takes the entries of the snapshot, which are the tracked
instances, in order and each once, all of them unless it panics; it is never stuck before it waits
again or panics; and it makes at most six steps for an entry and one to end. -/
theorem tick_takes_each_once (setup : Setup) (w w' : World)
    (snapshot : List (UInt32 × PrInstance)) (labels : List Label) (tr : List TickEvent)
    (hlabels : ∀ l ∈ labels, l.isTick = false)
    (hrun : (system setup).exec w (.tick snapshot :: labels) = some (w', tr)) :
    snapshot.Perm (K8sManager.getInstancesSnapshot w.shared.instances) ∧
      TickRun setup snapshot tr (labels.countP Label.withinTick) w' := by
  obtain ⟨m, t₁, t₂, hfirst, hrest, rfl⟩ := System.exec_cons_iff _ |>.1 hrun
  obtain ⟨⟨t₀, htick⟩, rfl⟩ := System.step_observed_iff _ |>.1 hfirst
  have hloop : Lifecycle.step setup w (.tick snapshot) = some (m, t₀) := htick
  obtain ⟨-, hperm, rfl, rfl⟩ := step_tick_iff.1 hloop
  have hmeets : (system setup).Meets (fun _ l => l.isTick = false)
      { w with loop := .next snapshot } labels :=
    System.meets_of_forall _ (fun _ => hlabels) _
  have h0 : Taken snapshot { w with loop := .next snapshot }
      (observe setup w (.tick snapshot)) := by
    have hnone : (observe setup w (.tick snapshot)).filterMap TickEvent.entry = [] := by
      rw [entries_observe]
      rfl
    exact ⟨by rw [hnone]; exact List.nil_prefix, fun _ => by rw [hnone]; rfl⟩
  have htaken := System.exec_invariant (system setup)
    (fun s tr label s' t h hlabel hstep => taken_step h hlabel hstep) h0 hmeets hrest
  have hbounded := System.countP_le_potential (fun w => w.loop.left) Label.withinTick
    (fun _ _ _ _ _ _ _ => trivial)
    (fun s label s' t _ hlabel hstep => by
      obtain ⟨⟨t₀, hloop⟩, -⟩ := System.step_observed_iff _ |>.1 hstep
      exact left_step hlabel hloop)
    trivial hmeets hrest
  exact ⟨hperm, htaken, hbounded, exists_step setup w'⟩

/-- PR 8 in `Failed`. -/
def failedSample : PrInstance := ⟨8, "fedcba9876543210", "fedcba9", .failed "Build timeout"⟩

/-- The loop with PR 7 in `Building` and PR 8 in `Failed`. -/
def twoTracked : World :=
  started { sampleWorld.shared with
    instances := AList.insert 8 failedSample (AList.insert 7 buildingSample ∅) }

/-- A tick that polls PR 7, while a call of PR 9 begins, and forgets PR 8. -/
def tickSample : List Label :=
  [.advance ⟨1⟩, .resume (.queueItem (.ok none)), .start 0 (.call 9), .advance ⟨2⟩, .advance ⟨3⟩]

/-- The tick takes both entries and ends after four of its thirteen steps. -/
theorem tick_takes_each_once_sample :
    ∃ w', (system sampleSetup).exec twoTracked
        (.tick [(7, buildingSample), (8, failedSample)] :: tickSample) =
          some (w', [.taken 7 buildingSample ⟨1⟩, .taken 8 failedSample ⟨2⟩, .forgotten 8]) ∧
      TickRun sampleSetup [(7, buildingSample), (8, failedSample)]
        [.taken 7 buildingSample ⟨1⟩, .taken 8 failedSample ⟨2⟩, .forgotten 8] 4 w' := by
  have hevents : ((system sampleSetup).exec twoTracked
      (.tick [(7, buildingSample), (8, failedSample)] :: tickSample)).map Prod.snd =
        some [.taken 7 buildingSample ⟨1⟩, .taken 8 failedSample ⟨2⟩, .forgotten 8] := by
    decide +kernel
  obtain ⟨w', hrun⟩ := (system sampleSetup).exists_exec_of_events hevents
  exact ⟨w', hrun, (tick_takes_each_once sampleSetup twoTracked w' _ tickSample _ (by decide)
    hrun).2⟩

end Ticks

end SteelProxy
