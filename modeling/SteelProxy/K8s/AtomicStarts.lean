import SteelProxy.BuildStore
import SteelProxy.Library.Simulation
import SteelProxy.K8s.Agreement

/-!
# `start_pr` as one step

`start_pr` checks the tracked instances, the registry and the table, each before another `await`,
and writes at its very end. As long as the calls of one PR do not overlap, none of its findings is
out of date when it writes: nobody else tracks the PR, registers its backend or writes its row
meanwhile. So a call takes effect in one step, its last one: every interleaving of the calls with
the lifecycle loop is, up to its broadcasts, a run of a loop to which PRs are started at once
(`starts_atomic`).
-/

set_option autoImplicit false

namespace SteelProxy

open SteelProxy.Library SteelProxy.Library.Transition

/-- Why a PR is not started: it is tracked, a backend has its name, or a request has failed. -/
inductive Refusal where
  | tracked
  | registered
  | failed (error : String)
  deriving DecidableEq, Repr

/-- What a `start_pr` call comes to. -/
inductive StartResult where
  | refused (refusal : Refusal)
  | cached (commitHash commitHashShort : String)
  | queued (commitHash commitHashShort queueUrl : String) (now : Instant)
  deriving DecidableEq, Repr

/-- A whole `start_pr` call, or a step of the loop. -/
inductive AtomicLabel where
  | start (id : Nat) (n : UInt32) (result : StartResult)
  | loop (label : Label)

/-- The PR of a call that has passed the check of the registry. -/
def StartCall.checked : StartCall → Option UInt32
  | .github n => some n
  | .database n _ _ => some n
  | .decided n _ _ _ => some n
  | .jenkins n _ _ => some n
  | _ => none

/-- The error that the caller of `start_pr` is told. -/
def Refusal.error (n : UInt32) : Refusal → String
  | .tracked => s!"PR #{n} is already being built or running"
  | .registered => s!"PR #{n} instance already exists"
  | .failed error => error

/-- The stores call for the refusal. -/
def Refusal.Justified (sh : Shared) (n : UInt32) : Refusal → Prop
  | .tracked => (sh.instances.lookup n).isSome = true
  | .registered => sh.backends.contains (backendName n) = true
  | .failed _ => True

instance (sh : Shared) (n : UInt32) (refusal : Refusal) : Decidable (refusal.Justified sh n) := by
  cases refusal <;> unfold Refusal.Justified <;> infer_instance

namespace AtomicStarts

/-- PR `n` is neither tracked nor registered. -/
def Startable (sh : Shared) (n : UInt32) : Prop :=
  sh.instances.lookup n = none ∧ sh.backends.contains (backendName n) = false

instance (sh : Shared) (n : UInt32) : Decidable (Startable sh n) :=
  inferInstanceAs (Decidable (_ ∧ _))

/-- PR `n` is tracked as `i`. -/
def track (w : World) (n : UInt32) (i : PrInstance) : World :=
  { w with shared := { w.shared with instances := w.shared.instances.insert n i } }

/-- A PR is started at once: with the cached image exactly if the table has a build of the commit,
and otherwise with a build that Jenkins has accepted. -/
def startPr (w : World) (id : Nat) (n : UInt32) : StartResult → Option (World × List Event)
  | .refused refusal =>
      if refusal.Justified w.shared n then some (w, [.returned id (some (refusal.error n))])
      else none
  | .cached commitHash commitHashShort =>
      if Startable w.shared n ∧ w.shared.builds.existsWithCommit n commitHashShort = true then
        some (track w n (.newDeploying n commitHash commitHashShort (imageTagOf n commitHashShort)),
          [.inserted n none, .returned id none])
      else
        none
  | .queued commitHash commitHashShort queueUrl now =>
      if Startable w.shared n ∧ w.shared.builds.existsWithCommit n commitHashShort = false then
        some (track w n (.newBuilding n commitHash commitHashShort queueUrl now),
          [.triggered n commitHashShort queueUrl, .inserted n none, .returned id none])
      else
        none

/-- One step: a PR is started, or the loop goes on. -/
def step (setup : Setup) (w : World) : AtomicLabel → Option (World × List Event)
  | .start id n result => startPr w id n result
  | .loop (.start _ _) => none
  | .loop label => Lifecycle.step setup w label

/-- The loop to which PRs are started at once. -/
def system (setup : Setup) : System World AtomicLabel Event := ⟨step setup⟩

/-- The world without the calls under way. -/
def settled (w : World) : World := { w with calls := fun _ => .idle }

/-- The events other than broadcasts. -/
def effects (tr : List Event) : List Event :=
  tr.filter fun
    | .broadcast _ => false
    | _ => true

theorem effects_append (tr t : List Event) : effects (tr ++ t) = effects tr ++ effects t :=
  List.filter_append ..

/-! ## The findings of a call stay true -/

/-- What the calls have found out is still so. -/
structure UpToDate (w : World) : Prop where
  unregistered : ∀ id n, (w.calls id).checked = some n →
    w.shared.backends.contains (backendName n) = false
  decided : ∀ id n commitHash commitHashShort existingBuild,
    w.calls id = .decided n commitHash commitHashShort existingBuild →
      w.shared.builds.existsWithCommit n commitHashShort = existingBuild
  missed : ∀ id n commitHash commitHashShort, w.calls id = .jenkins n commitHash commitHashShort →
    w.shared.builds.existsWithCommit n commitHashShort = false

theorem upToDate_of_fresh {w : World} (h : Lifecycle.Fresh w) : UpToDate w where
  unregistered := by
    intro id n hid
    rw [h.1 id] at hid
    cases hid
  decided := by
    intro id n commitHash commitHashShort existingBuild hid
    rw [h.1 id] at hid
    cases hid
  missed := by
    intro id n commitHash commitHashShort hid
    rw [h.1 id] at hid
    cases hid

/-- The stores look the same to a call of PR `n`. -/
structure SameFor (n : UInt32) (sh sh' : Shared) : Prop where
  contains : sh'.backends.contains (backendName n) = sh.backends.contains (backendName n)
  exists_ : ∀ commitHashShort,
    sh'.builds.existsWithCommit n commitHashShort = sh.builds.existsWithCommit n commitHashShort

theorem sameFor_refl (n : UInt32) (sh : Shared) : SameFor n sh sh := ⟨rfl, fun _ => rfl⟩

theorem sameFor_of_eq {n : UInt32} {sh sh' : Shared} (hback : sh'.backends = sh.backends)
    (hbuilds : sh'.builds = sh.builds) : SameFor n sh sh' :=
  ⟨by rw [hback], fun _ => by rw [hbuilds]⟩

section Pieces

variable {setup : Setup} {sh : Shared} {n k : UInt32} {i : PrInstance} {overflow : Prop}
  {o : Outcome}

theorem staticBackends_of_effect (h : Lifecycle.EndpointEffect sh n i overflow o) :
    o.shared.backends.staticBackends = sh.backends.staticBackends := by
  cases h with
  | kept hinst hback => rw [hback]
  | moved state hold hnew hinst hback => rw [hback]
  | dropped hold hinst hback => rw [hback]
  | registered state address port hnew hinst hback =>
      rw [hback]
      rfl
  | unregistered state hnew hinst hback =>
      rw [hback]
      rfl
  | overflowed address port hoverflow hback =>
      rw [hback]
      rfl

/-- The handler of PR `n` registers and unregisters no other PR. -/
theorem contains_of_effect (h : Lifecycle.EndpointEffect sh n i overflow o) (hk : k ≠ n) :
    o.shared.backends.contains (backendName k) = sh.backends.contains (backendName k) := by
  have hdynamic : o.shared.backends.dynamicBackends.lookup (backendName k) =
      sh.backends.dynamicBackends.lookup (backendName k) := h.backendOf_of_ne hk
  rw [BackendRegistry.contains, BackendRegistry.contains, hdynamic, staticBackends_of_effect h]

theorem existsWithCommit_congr {t t' : PrBuilds} (h : t'.getByPr k = t.getByPr k)
    (commitHashShort : String) :
    t'.existsWithCommit k commitHashShort = t.existsWithCommit k commitHashShort := by
  rw [Bool.eq_iff_iff, PrBuilds.existsWithCommit_iff_getByPr, PrBuilds.existsWithCommit_iff_getByPr,
    h]

theorem builds_of_dispatched {now : Instant} (h : Lifecycle.Dispatched setup sh n i now o) :
    o.shared.builds = sh.builds := by
  cases h <;> rfl

/-- The handler of PR `n` writes no row of another PR. -/
theorem getByPr_of_resumed {pc : HandlerPc} {answer : Answer}
    (h : Lifecycle.Resumed setup sh n pc answer o) (hk : k ≠ n) :
    o.shared.builds.getByPr k = sh.builds.getByPr k := by
  -- only the piece after the registration writes a row
  cases h with
  | buildUrl commitHashShort queueUrl answer =>
      simp only [Lifecycle.handleBuildingUrl]
      split <;> rfl
  | buildStatus commitHashShort queueUrl buildUrl answer =>
      simp only [Lifecycle.handleBuildingStatus]
      split <;> rfl
  | deploymentDeleted imageTag answer =>
      cases answer <;> simp [Lifecycle.createDeploymentDeleted, Shared.withClient]
  | deploymentCreated imageTag answer => cases answer <;> rfl
  | serviceDeleted answer => simp [Lifecycle.createServiceDeleted, Shared.withClient]
  | serviceCreated answer now =>
      simp only [Lifecycle.createServiceCreated]
      split
      · rfl
      · split <;> rfl
  | noReadinessClient commitHash commitHashShort deploymentName address port hclient =>
      simp only [Lifecycle.handleStartingChecked]
      split <;> rfl
  | readinessChecked commitHash commitHashShort deploymentName address port answer =>
      simp only [Lifecycle.handleStartingChecked]
      split <;> rfl
  | registered commitHash commitHashShort deploymentName address port now readyAt =>
      simp only [Lifecycle.handleStartingRegistered]
      split <;> rfl
  | persisted commitHash commitHashShort answer =>
      cases answer with
      | ok now =>
          exact @BuildStatement.getByPr_execute_of_ne sh.builds k
            (.upsert n ⟨commitHash, commitHashShort, imageTagOf n commitHashShort, "Ready", none⟩
              now) hk
      | error e => rfl
  | deploymentTornDown answer =>
      simp only [Lifecycle.deleteInstanceDeployment]
      split
      · simp [Shared.withClient]
      · split <;> simp [Lifecycle.cleanUpFailed, Lifecycle.untracked, Shared.untrack,
          Shared.withClient]
  | serviceTornDown answer =>
      simp only [Lifecycle.deleteInstanceService]
      split
      · simp [Lifecycle.untracked, Shared.untrack]
      · split <;> simp [Lifecycle.cleanUpFailed, Lifecycle.untracked, Shared.untrack]
  | _ => rfl

end Pieces

section Steps

variable {setup : Setup} {w w' : World} {label : Label} {t : List Event}

/-- A step of the loop does not disturb the calls of a PR that is not tracked. -/
theorem sameFor_step (hcoh : Lifecycle.Coherent w) (hstart : ∀ id start, label ≠ .start id start)
    (hstep : Lifecycle.step setup w label = some (w', t)) {n : UInt32}
    (hn : w.shared.instances.lookup n = none) : SameFor n w.shared w'.shared := by
  cases label with
  | start id start => exact absurd rfl (hstart id start)
  | tick snapshot =>
      obtain ⟨-, -, rfl, rfl⟩ := Lifecycle.step_tick_iff.1 hstep
      exact sameFor_refl n _
  | advance now =>
      rcases Lifecycle.step_advance_iff.1 hstep with ⟨-, rfl, rfl⟩ | ⟨m, i, rest, -, rfl, rfl⟩
      · exact sameFor_refl n _
      · have hdispatched := Lifecycle.dispatched_dispatch setup w.shared m i now
        exact sameFor_of_eq (Lifecycle.backends_of_dispatched hdispatched)
          (builds_of_dispatched hdispatched)
  | resume answer =>
      obtain ⟨m, pc, rest, o, hloop, ho, rfl, rfl⟩ := Lifecycle.step_resume_iff.1 hstep
      obtain ⟨i, hi, hpc⟩ := hcoh.lookup_running hloop
      -- the handler runs for a tracked PR
      have hne : n ≠ m := by
        rintro rfl
        rw [hi] at hn
        cases hn
      have hresumed := Lifecycle.resumed_of_resume ho
      refine ⟨contains_of_effect (Lifecycle.endpointEffect_of_resumed hresumed hpc) hne, ?_⟩
      exact existsWithCommit_congr (getByPr_of_resumed hresumed hne)

theorem pending_of_checked {call : StartCall} {n : UInt32} (h : call.checked = some n) :
    call.pending = some n := by
  cases call with
  | idle => cases h
  | registry m => cases h
  | _ => exact h

theorem upToDate_loop (hcoh : Lifecycle.Coherent w) (h : UpToDate w)
    (hstart : ∀ id start, label ≠ .start id start)
    (hstep : Lifecycle.step setup w label = some (w', t)) : UpToDate w' := by
  have hsame : ∀ id n, (w.calls id).checked = some n →
      SameFor n w.shared w'.shared := fun id n hid =>
    sameFor_step hcoh hstart hstep (hcoh.untracked id n (pending_of_checked hid))
  have hcalls := Lifecycle.calls_of_step hstart hstep
  refine ⟨?_, ?_, ?_⟩
  · intro id n hid
    rw [hcalls] at hid
    rw [(hsame id n hid).contains]
    exact h.unregistered id n hid
  · intro id n commitHash commitHashShort existingBuild hid
    rw [hcalls] at hid
    rw [(hsame id n (by rw [hid]; rfl)).exists_]
    exact h.decided id n commitHash commitHashShort existingBuild hid
  · intro id n commitHash commitHashShort hid
    rw [hcalls] at hid
    rw [(hsame id n (by rw [hid]; rfl)).exists_]
    exact h.missed id n commitHash commitHashShort hid

/-- What the call that goes on has found out is so. -/
theorem upToDate_stepped {sh : Shared} {id : Nat} {call : StartCall} {label : StartLabel}
    {o : StartPr.Outcome} (h : StartPr.Stepped setup sh id call label o)
    (hcall : ∀ n, call.checked = some n → sh.backends.contains (backendName n) = false)
    (hdecided : ∀ n commitHash commitHashShort existingBuild,
      call = .decided n commitHash commitHashShort existingBuild →
        sh.builds.existsWithCommit n commitHashShort = existingBuild) :
    (∀ n, o.call.checked = some n → sh.backends.contains (backendName n) = false) ∧
      (∀ n commitHash commitHashShort existingBuild,
        o.call = .decided n commitHash commitHashShort existingBuild →
          sh.builds.existsWithCommit n commitHashShort = existingBuild) ∧
      ∀ n commitHash commitHashShort, o.call = .jenkins n commitHash commitHashShort →
        sh.builds.existsWithCommit n commitHashShort = false := by
  cases h with
  | bailed error => exact ⟨by rintro _ ⟨⟩, by rintro _ _ _ _ ⟨⟩, by rintro _ _ _ ⟨⟩⟩
  | begun n huntracked => exact ⟨by rintro _ ⟨⟩, by rintro _ _ _ _ ⟨⟩, by rintro _ _ _ ⟨⟩⟩
  | registryChecked n habsent =>
      exact ⟨by rintro _ ⟨⟩; exact habsent, by rintro _ _ _ _ ⟨⟩, by rintro _ _ _ ⟨⟩⟩
  | commitReceived n answer commitHash commitHashShort hcommit =>
      exact ⟨hcall, by rintro _ _ _ _ ⟨⟩, by rintro _ _ _ ⟨⟩⟩
  | buildsQueried n commitHash commitHashShort =>
      exact ⟨hcall, by rintro _ _ _ _ ⟨⟩; rfl, by rintro _ _ _ ⟨⟩⟩
  | cached n commitHash commitHashShort =>
      exact ⟨by rintro _ ⟨⟩, by rintro _ _ _ _ ⟨⟩, by rintro _ _ _ ⟨⟩⟩
  | missed n commitHash commitHashShort =>
      refine ⟨hcall, by rintro _ _ _ _ ⟨⟩, ?_⟩
      rintro _ _ _ ⟨⟩
      exact hdecided n commitHash commitHashShort false rfl
  | queued n commitHash commitHashShort queueUrl answer now =>
      exact ⟨by rintro _ ⟨⟩, by rintro _ _ _ _ ⟨⟩, by rintro _ _ _ ⟨⟩⟩

theorem upToDate_start {id : Nat} {start : StartLabel} (h : UpToDate w)
    (hstep : Lifecycle.step setup w (.start id start) = some (w', t)) : UpToDate w' := by
  obtain ⟨o, ho, rfl, rfl⟩ := Lifecycle.step_start_iff.1 hstep
  have hstepped := StartPr.stepped_of_step ho
  have hshared := Lifecycle.stepped_shared hstepped
  have hback : o.shared.backends = w.shared.backends := by rw [hshared]
  have hbuilds : o.shared.builds = w.shared.builds := by rw [hshared]
  obtain ⟨hchecked, hdecided, hmissed⟩ :=
    upToDate_stepped hstepped (h.unregistered id) (h.decided id)
  refine ⟨?_, ?_, ?_⟩
  · intro id' n hid
    simp only [hback]
    by_cases hsame : id' = id
    · subst hsame
      exact hchecked n (by simpa using hid)
    · exact h.unregistered id' n (by simpa [hsame] using hid)
  · intro id' n commitHash commitHashShort existingBuild hid
    simp only [hbuilds]
    by_cases hsame : id' = id
    · subst hsame
      exact hdecided n commitHash commitHashShort existingBuild (by simpa using hid)
    · exact h.decided id' n commitHash commitHashShort existingBuild (by simpa [hsame] using hid)
  · intro id' n commitHash commitHashShort hid
    simp only [hbuilds]
    by_cases hsame : id' = id
    · subst hsame
      exact hmissed n commitHash commitHashShort (by simpa using hid)
    · exact h.missed id' n commitHash commitHashShort (by simpa [hsame] using hid)

/-! ## A call as one step -/

/-- The system of whole calls goes from `w` to `w'`, with the same events but for broadcasts. -/
def Simulated (setup : Setup) (w w' : World) (t : List Event) : Prop :=
  ∃ labels t', (system setup).exec (settled w) labels = some (settled w', t') ∧
    effects t' = effects t

/-- The world after a piece of the call numbered `id`. -/
def afterPiece (w : World) (id : Nat) (o : StartPr.Outcome) : World :=
  { w with shared := o.shared, calls := Function.update w.calls id o.call }

/-- A piece that only suspends the call, with a broadcast at most. -/
theorem exec_suspended {o : StartPr.Outcome} {id : Nat} (hshared : o.shared = w.shared)
    (hevents : effects o.events = []) :
    Simulated setup w (afterPiece w id o) o.events := by
  refine ⟨[], [], ?_, hevents.symm⟩
  rw [afterPiece, hshared]
  rfl

/-- A piece with which the call is refused. -/
theorem exec_refused {id : Nat} {n : UInt32} {refusal : Refusal}
    (h : refusal.Justified w.shared n) :
    let o := StartPr.bail w.shared id (refusal.error n)
    Simulated setup w (afterPiece w id o) o.events := by
  have hstep : (system setup).step (settled w) (.start id n (.refused refusal)) =
      some (settled w, [.returned id (some (refusal.error n))]) := if_pos h
  exact ⟨_, _, (system setup).exec_singleton_iff.2 hstep, rfl⟩

theorem simulates_begin (id : Nat) (n : UInt32) :
    let o := StartPr.begin_ setup w.shared id n
    Simulated setup w (afterPiece w id o) o.events := by
  unfold StartPr.begin_
  split
  · split
    · rename_i htracked
      exact @exec_refused setup w id n .tracked htracked
    · exact exec_suspended rfl rfl
  · exact @exec_refused setup w id n (.failed _) trivial

theorem simulates_checkRegistry (id : Nat) (n : UInt32) :
    let o := StartPr.checkRegistry w.shared id n
    Simulated setup w (afterPiece w id o) o.events := by
  unfold StartPr.checkRegistry
  split
  · rename_i hregistered
    exact @exec_refused setup w id n .registered hregistered
  · exact exec_suspended rfl rfl

/-- The call deploys the cached image. -/
theorem simulates_deployCached {id : Nat} {n : UInt32} {commitHash commitHashShort : String}
    (hstartable : Startable w.shared n)
    (hexists : w.shared.builds.existsWithCommit n commitHashShort = true) :
    let o := StartPr.deployCached w.shared id n commitHash commitHashShort
    Simulated setup w (afterPiece w id o) o.events := by
  have hstep : (system setup).step (settled w) (.start id n (.cached commitHash commitHashShort)) =
      some (track (settled w) n
        (.newDeploying n commitHash commitHashShort (imageTagOf n commitHashShort)),
          [.inserted n none, .returned id none]) := if_pos ⟨hstartable, hexists⟩
  refine ⟨_, _, (system setup).exec_singleton_iff.2 hstep, ?_⟩
  simp [effects, StartPr.deployCached, hstartable.1]

/-- Jenkins has accepted the build of the call. -/
theorem simulates_trackBuild {id : Nat} {n : UInt32}
    {commitHash commitHashShort queueUrl : String} {now : Instant}
    (hstartable : Startable w.shared n)
    (hmissed : w.shared.builds.existsWithCommit n commitHashShort = false) :
    let o := StartPr.trackBuild w.shared id n commitHash commitHashShort queueUrl now
    Simulated setup w (afterPiece w id o) o.events := by
  have hstep : (system setup).step (settled w)
      (.start id n (.queued commitHash commitHashShort queueUrl now)) =
        some (track (settled w) n (.newBuilding n commitHash commitHashShort queueUrl now),
          [.triggered n commitHashShort queueUrl, .inserted n none, .returned id none]) :=
    if_pos ⟨hstartable, hmissed⟩
  refine ⟨_, _, (system setup).exec_singleton_iff.2 hstep, ?_⟩
  simp [effects, StartPr.trackBuild, hstartable.1]

/-- Every piece of a call is no step or the whole call. -/
theorem simulates_start {id : Nat} {start : StartLabel} (hcoh : Lifecycle.Coherent w)
    (h : UpToDate w) (hstep : Lifecycle.step setup w (.start id start) = some (w', t)) :
    Simulated setup w w' t := by
  obtain ⟨o, ho, rfl, rfl⟩ := Lifecycle.step_start_iff.1 hstep
  -- at its end the call may write: its PR can be started
  have hstartable : ∀ n, (w.calls id).checked = some n → Startable w.shared n := fun n hn =>
    ⟨hcoh.untracked id n (pending_of_checked hn), h.unregistered id n hn⟩
  cases hcall : w.calls id with
  | idle =>
      rw [hcall] at ho
      cases start with
      -- a refusal ends the call at once, everything else only suspends it
      | call n =>
          cases ho
          exact simulates_begin id n
      | _ => cases ho
  | registry n =>
      rw [hcall] at ho
      cases start with
      | registryLocked =>
          cases ho
          exact simulates_checkRegistry id n
      | _ => cases ho
  | github n =>
      rw [hcall] at ho
      cases start with
      | githubAnswered answer =>
          cases ho
          unfold StartPr.receiveCommit
          cases GitHubClient.getPrHeadCommit answer with
          | error e => exact @exec_refused setup w id n (.failed e) trivial
          | ok commit => exact exec_suspended rfl rfl
      | _ => cases ho
  | database n commitHash commitHashShort =>
      rw [hcall] at ho
      cases start with
      | buildsQueried error =>
          cases ho
          cases error with
          | some e => exact @exec_refused setup w id n (.failed e) trivial
          | none => exact exec_suspended rfl rfl
      | _ => cases ho
  | decided n commitHash commitHashShort existingBuild =>
      have hdecided := h.decided id n commitHash commitHashShort existingBuild hcall
      have hn := hstartable n (by rw [hcall]; rfl)
      rw [hcall] at ho
      cases start with
      | buildsResumed =>
          cases ho
          cases existingBuild with
          -- the call ends here: this is the place of the whole call
          | true => exact simulates_deployCached hn hdecided
          | false => exact exec_suspended rfl rfl
      | _ => cases ho
  | jenkins n commitHash commitHashShort =>
      have hmissed := h.missed id n commitHash commitHashShort hcall
      have hn := hstartable n (by rw [hcall]; rfl)
      rw [hcall] at ho
      cases start with
      | jenkinsAnswered answer now =>
          cases ho
          unfold StartPr.receiveQueueUrl
          cases JenkinsClient.triggerBuild setup.jenkins answer with
          | error e => exact @exec_refused setup w id n (.failed e) trivial
          | ok queueUrl => exact simulates_trackBuild hn hmissed
      | _ => cases ho

/-- The loop goes on as before. -/
theorem simulates_loop (hstart : ∀ id start, label ≠ .start id start)
    (hstep : Lifecycle.step setup w label = some (w', t)) : Simulated setup w w' t := by
  have hloop : (system setup).step (settled w) (.loop label) = some (settled w', t) := by
    have hsettled := Lifecycle.step_withCalls (fun _ => .idle) hstart hstep
    cases label with
    | start id start => exact absurd rfl (hstart id start)
    | _ => exact hsettled
  exact ⟨_, t, (system setup).exec_singleton_iff.2 hloop, rfl⟩

theorem simulates_step (hcoh : Lifecycle.Coherent w) (h : UpToDate w)
    (hstep : Lifecycle.step setup w label = some (w', t)) :
    UpToDate w' ∧ Simulated setup w w' t := by
  by_cases hcall : ∃ id start, label = .start id start
  · obtain ⟨id, start, rfl⟩ := hcall
    exact ⟨upToDate_start h hstep, simulates_start hcoh h hstep⟩
  · have hstart : ∀ id start, label ≠ .start id start := fun id start heq =>
      hcall ⟨id, start, heq⟩
    exact ⟨upToDate_loop hcoh h hstart hstep, simulates_loop hstart hstep⟩

theorem Simulated.append {w₁ w₂ w₃ : World} {tr t : List Event} (h : Simulated setup w₁ w₂ tr)
    (h' : Simulated setup w₂ w₃ t) : Simulated setup w₁ w₃ (tr ++ t) := by
  obtain ⟨labels, tr', hrun, htr⟩ := h
  obtain ⟨labels', t', hrun', ht⟩ := h'
  refine ⟨labels ++ labels', tr' ++ t', ?_, ?_⟩
  · exact (system setup).exec_append_iff.2 ⟨settled w₂, tr', t', hrun, hrun', rfl⟩
  · rw [effects_append, effects_append, htr, ht]

end Steps

/-! ## Runs -/

/-- Every interleaving of the loop with `start_pr` calls of which no two of one PR overlap is, on
the stores, the loop and the events other than broadcasts, a run in which every call is one step:
it is made with the findings of the call, at its end. -/
theorem starts_atomic (setup : Setup) (w w' : World) (labels : List Label) (tr : List Event)
    (hfresh : Lifecycle.Fresh w)
    (hmeets : (Lifecycle.system setup).Meets Lifecycle.NoOverlap w labels)
    (hrun : (Lifecycle.system setup).exec w labels = some (w', tr)) :
    Simulated setup w w' tr := by
  have hinv : Lifecycle.Coherent w' ∧ UpToDate w' ∧ Simulated setup w w' ([] ++ tr) := by
    refine @System.exec_invariant _ _ _ (Lifecycle.system setup) Lifecycle.NoOverlap
      (fun w' tr => Lifecycle.Coherent w' ∧ UpToDate w' ∧ Simulated setup w w' tr) ?_ labels w w' []
      tr ⟨Lifecycle.coherent_of_fresh hfresh, upToDate_of_fresh hfresh, [], [], rfl, rfl⟩ hmeets
      hrun
    rintro s tr label s' t ⟨hcoh, huptodate, hsimulated⟩ hno hstep
    obtain ⟨huptodate', hnext⟩ := simulates_step hcoh huptodate hstep
    exact ⟨Lifecycle.coherent_step hcoh hno hstep, huptodate', hsimulated.append hnext⟩
  exact hinv.2.2

/-- Two calls start PR 7 and PR 8, piece by piece. -/
def interleavedSample : List Label :=
  [.start 0 (.call 7), .start 1 (.call 8), .start 1 .registryLocked, .start 0 .registryLocked,
    .start 0 (.githubAnswered (.ok "0123456789abcdef")),
    .start 1 (.githubAnswered (.ok "fedcba9876543210")), .start 0 (.buildsQueried none),
    .start 1 (.buildsQueried none), .start 1 .buildsResumed, .start 0 .buildsResumed,
    Lifecycle.sampleTrigger 1 "q/1/"]

theorem meets_interleavedSample :
    (Lifecycle.system Lifecycle.sampleSetup).Meets Lifecycle.NoOverlap
      (Lifecycle.started Recovery.sampleStartUp) interleavedSample :=
  Lifecycle.noOverlap_of_apartBelow (k := 2) (fun _ _ => rfl) (by decide +kernel)

/-- PR 7 was deployed from its cached build, PR 8 has been queued. -/
theorem starts_atomic_interleavedSample :
    ∃ w tr, (Lifecycle.system Lifecycle.sampleSetup).exec
        (Lifecycle.started Recovery.sampleStartUp) interleavedSample = some (w, tr) ∧
      Simulated Lifecycle.sampleSetup (Lifecycle.started Recovery.sampleStartUp) w tr ∧
      effects tr = [.inserted 7 none, .returned 0 none, .triggered 8 "fedcba9" "q/1/",
        .inserted 8 none, .returned 1 none] := by
  have heffects : ((Lifecycle.system Lifecycle.sampleSetup).exec
      (Lifecycle.started Recovery.sampleStartUp) interleavedSample).map
        (fun result => effects result.2) =
          some [.inserted 7 none, .returned 0 none, .triggered 8 "fedcba9" "q/1/",
            .inserted 8 none, .returned 1 none] := by decide +kernel
  obtain ⟨⟨w, tr⟩, hrun, htr⟩ := Option.map_eq_some_iff.1 heffects
  exact ⟨w, tr, hrun, starts_atomic Lifecycle.sampleSetup _ w interleavedSample tr
    (Lifecycle.fresh_started _) meets_interleavedSample hrun, htr⟩

end AtomicStarts

end SteelProxy
