import SteelProxy.K8s.Lifecycle

/-!
# Builds followed to their end

The polls of the lifecycle loop for building instances, under what Jenkins reports: in each poll,
an answer for the queue item and a status for every build. A build URL that the queue item
answers is used in that poll and not stored, so that a later poll reaches the build only through
the queue item. A found build is followed to its end exactly in the runs in which the queue item
keeps answering builds of the same outcome (`builds_followed_iff`).
-/

set_option autoImplicit false

namespace SteelProxy

open SteelProxy.Library SteelProxy.Library.Transition

/-- What happens to a building instance of PR `n`: its queue item answered a build URL; a poll
ended, in which Jenkins reported `builds`, with the tracked instance before and after. -/
inductive PollEvent where
  | found (n : UInt32) (instance_ : PrInstance) (buildUrl : String)
  | polled (n : UInt32) (instance_ : PrInstance) (builds : String → HttpAnswer BuildJson)
      (before after : Option PrInstance)

/-- The loop, with the snapshot entry of the running handler, the builds as Jenkins reports them
in the current poll, and the build URLs found so far. -/
structure Polling where
  world : World
  entry : Option (UInt32 × PrInstance)
  builds : String → HttpAnswer BuildJson
  found : List (UInt32 × PrInstance × String)

/-- One step: a step that does not ask Jenkins about a build, the answer for a queue item with
what Jenkins reports of the builds, or its report of the build that was asked for. -/
inductive PollLabel where
  | step (label : Label)
  | queueItem (answer : HttpAnswer (Option String)) (builds : String → HttpAnswer BuildJson)
  | build

namespace BuildFollowing

/-- The entry that the loop takes next. -/
def nextEntry : LoopState → Option (UInt32 × PrInstance)
  | .next (entry :: _) => some entry
  | _ => none

/-- A step apart from the answers of Jenkins about builds. -/
def stepOther (setup : Setup) (s : Polling) : Label → Option (Polling × List PollEvent)
  | .resume (.queueItem _) => none
  | .resume (.build _) => none
  | .advance now =>
      (Lifecycle.step setup s.world (.advance now)).map fun result =>
        ({ s with world := result.1, entry := nextEntry s.world.loop }, [])
  | label =>
      (Lifecycle.step setup s.world label).map fun result => ({ s with world := result.1 }, [])

/-- The queue item answers: the poll goes on with a build URL, or ends. -/
def stepQueueItem (setup : Setup) (s : Polling) (answer : HttpAnswer (Option String))
    (builds : String → HttpAnswer BuildJson) : Option (Polling × List PollEvent) :=
  match s.entry, Lifecycle.step setup s.world (.resume (.queueItem answer)) with
  | some (n, instance_), some (w, _) =>
      match JenkinsClient.getBuildUrl answer with
      | .ok (some url) =>
          some ({ s with world := w, builds := builds, found := s.found ++ [(n, instance_, url)] },
            [.found n instance_ url])
      | _ =>
          some ({ s with world := w, builds := builds },
            [.polled n instance_ builds (s.world.shared.instances.lookup n)
              (w.shared.instances.lookup n)])
  | _, _ => none

/-- Jenkins reports the build that was asked for, and the poll ends. -/
def stepBuild (setup : Setup) (s : Polling) : Option (Polling × List PollEvent) :=
  match s.entry, s.world.loop with
  | some (n, instance_), .running _ (.buildStatus _ _ url) _ =>
      (Lifecycle.step setup s.world (.resume (.build (s.builds url)))).map fun result =>
        ({ s with world := result.1 },
          [.polled n instance_ s.builds (s.world.shared.instances.lookup n)
            (result.1.shared.instances.lookup n)])
  | _, _ => none

/-- One step of the loop under what Jenkins reports. -/
def step (setup : Setup) (s : Polling) : PollLabel → Option (Polling × List PollEvent)
  | .step label => stepOther setup s label
  | .queueItem answer builds => stepQueueItem setup s answer builds
  | .build => stepBuild setup s

/-- The loop as a transition system. -/
def system (setup : Setup) : System Polling PollLabel PollEvent := ⟨step setup⟩

/-- The loop before its first tick. -/
def start (shared : Shared) : Polling := ⟨Lifecycle.started shared, none, fun _ => .failed, []⟩

/-! ## Following a build -/

/-- A final status moves the instance: a success to `Deploying` with its image tag, a failure to
`Failed`. -/
def Follows (n : UInt32) (instance_ : PrInstance) (after : Option PrInstance) :
    Except String BuildStatus → Prop
  | .ok .success =>
      after = some { instance_ with
        state := .deploying (imageTagOf n instance_.commitHashShort) }
  | .ok (.failed _) => ∃ reason, after = some { instance_ with state := .failed reason }
  | _ => True

/-- A poll after which the instance was still building follows every build found for it. -/
def Followed (pre : List PollEvent) : PollEvent → Prop
  | .found _ _ _ => True
  | .polled n instance_ builds before after =>
      before = some instance_ → ∀ url, .found n instance_ url ∈ pre →
        Follows n instance_ after (JenkinsClient.getBuildStatus (builds url))

/-- What the poll makes of a final status is also made of the status that is seen; a vanished
build counts as failed. -/
def SameOutcome (seen : Except String BuildStatus) : Except String BuildStatus → Prop
  | .ok .success => seen = .ok .success
  | .ok (.failed _) => (∃ reason, seen = .ok (.failed reason)) ∨ seen = .ok .notFound
  | _ => True

/-- The status is no final result. -/
def Pending : Except String BuildStatus → Prop
  | .ok .success => False
  | .ok (.failed _) => False
  | _ => True

/-- A poll of a tracked instance in which Jenkins reports a final result for a build found before:
the queue item answers a build, and Jenkins reports the same outcome for it. -/
def QueueItemKept (s : Polling) : PollLabel → Prop
  | .queueItem answer builds =>
      ∀ n instance_, s.entry = some (n, instance_) →
        s.world.shared.instances.lookup n = some instance_ →
          (∃ url, JenkinsClient.getBuildUrl answer = .ok (some url)) ∨
            ∀ url, (n, instance_, url) ∈ s.found →
              Pending (JenkinsClient.getBuildStatus (builds url))
  | .build =>
      ∀ n instance_ m commitHashShort queueUrl seen rest, s.entry = some (n, instance_) →
        s.world.loop = .running m (.buildStatus commitHashShort queueUrl seen) rest →
          s.world.shared.instances.lookup n = some instance_ →
            ∀ url, (n, instance_, url) ∈ s.found →
              SameOutcome (JenkinsClient.getBuildStatus (s.builds seen))
                (JenkinsClient.getBuildStatus (s.builds url))
  | _ => True

/-- The PR, the commit and the queue URL of the poll in progress. -/
def poll : LoopState → Option (UInt32 × String × String)
  | .running n (.buildUrl commitHashShort queueUrl) _ => some (n, commitHashShort, queueUrl)
  | .running n (.buildStatus commitHashShort queueUrl _) _ => some (n, commitHashShort, queueUrl)
  | _ => none

/-- A poll works on a building entry of the snapshot, and the build URLs found so far are those of
the events. -/
structure Polls (s : Polling) (tr : List PollEvent) : Prop where
  found : ∀ n instance_ url, (n, instance_, url) ∈ s.found ↔ .found n instance_ url ∈ tr
  asks : ∀ n commitHashShort queueUrl, poll s.world.loop = some (n, commitHashShort, queueUrl) →
    ∃ instance_ startedAt, s.entry = some (n, instance_) ∧
      instance_.commitHashShort = commitHashShort ∧
      instance_.state = .building startedAt (some queueUrl)

theorem polls_start (shared : Shared) : Polls (start shared) [] where
  found := by simp [start]
  asks := by simp [start, Lifecycle.started, poll]

/-! ## The handlers -/

section Handlers

variable {setup : Setup} {sh : Shared} {n m : UInt32} {instance_ : PrInstance} {now : Instant}
  {rest : List (UInt32 × PrInstance)} {commitHashShort queueUrl : String}

/-- A poll begins with a building entry. -/
theorem poll_of_dispatched {o : Outcome}
    (h : Lifecycle.Dispatched setup sh n instance_ now o)
    (hpoll : poll (Lifecycle.afterFlow n rest o.flow) = some (m, commitHashShort, queueUrl)) :
    m = n ∧ instance_.commitHashShort = commitHashShort ∧
      ∃ startedAt, instance_.state = .building startedAt (some queueUrl) := by
  cases h with
  | building startedAt url hstate =>
      cases hpoll
      exact ⟨rfl, rfl, startedAt, hstate⟩
  | _ => cases hpoll

/-- No poll is in progress after an answer that is not about a build. -/
theorem poll_resume {pc : HandlerPc} {answer : Answer} {o : Outcome}
    (h : Lifecycle.resume setup sh n pc answer = some o)
    (hqueue : ∀ item, answer ≠ .queueItem item) (hbuild : ∀ build, answer ≠ .build build) :
    poll (Lifecycle.afterFlow n rest o.flow) = none := by
  cases Lifecycle.resumed_of_resume h with
  | buildUrl _ _ item => exact absurd rfl (hqueue item)
  | buildStatus _ _ _ build => exact absurd rfl (hbuild build)
  | noDeploymentClient imageTag hclient => rfl
  | deploymentDeleted imageTag answer => cases answer <;> rfl
  | settled imageTag => rfl
  | deploymentCreated imageTag answer => cases answer <;> rfl
  | noServiceClient hclient => rfl
  | serviceDeleted answer => rfl
  | serviceCreated answer now =>
      cases answer with
      | error e => rfl
      | ok svc =>
          simp only [Lifecycle.createServiceCreated]
          cases svc.firstNodePort <;> rfl
  | noReadinessClient commitHash commitHashShort deploymentName address port hclient =>
      simp only [Lifecycle.handleStartingChecked]
      split <;> rfl
  | readinessChecked commitHash commitHashShort deploymentName address port answer =>
      simp only [Lifecycle.handleStartingChecked]
      split <;> rfl
  | registered commitHash commitHashShort deploymentName address port now readyAt =>
      simp only [Lifecycle.handleStartingRegistered]
      split <;> rfl
  | persisted commitHash commitHashShort answer => cases answer <;> rfl
  | unregistered deploymentName now readyAt => rfl
  | noTearDownClient hclient => rfl
  | deploymentTornDown answer =>
      cases answer with
      | ok u => rfl
      | error e =>
          simp only [Lifecycle.deleteInstanceDeployment]
          split <;> rfl
  | serviceTornDown answer =>
      cases answer with
      | ok u => rfl
      | error e =>
          simp only [Lifecycle.deleteInstanceService]
          split <;> rfl

/-- A poll that leaves the instance building follows no final result. -/
theorem follows_unchanged_iff {startedAt : Instant} {status : Except String BuildStatus}
    (hstate : instance_.state = .building startedAt (some queueUrl)) :
    Follows n instance_ (some instance_) status ↔ Pending status := by
  have hne : ∀ state, (∀ startedAt url, state ≠ InstanceState.building startedAt url) →
      some instance_ ≠ some { instance_ with state := state } := by
    intro state hnot heq
    have hstate' := congrArg PrInstance.state (Option.some.inj heq)
    rw [hstate] at hstate'
    exact hnot startedAt (some queueUrl) hstate'.symm
  cases status with
  | error error => simp [Follows, Pending]
  | ok status =>
      cases status with
      | success => simp only [Follows, Pending, iff_false]; exact hne _ (by simp)
      | failed reason =>
          simp only [Follows, Pending, iff_false, not_exists]
          intro reason'
          exact hne _ (by simp)
      | _ => simp [Follows, Pending]

/-- The end of a poll that has seen a build follows the builds of the same outcome. -/
theorem follows_handled_iff {startedAt : Instant} {url : String} {answer : HttpAnswer BuildJson}
    {status : Except String BuildStatus} (hlookup : sh.instances.lookup n = some instance_)
    (hstate : instance_.state = .building startedAt (some queueUrl))
    (hcommit : instance_.commitHashShort = commitHashShort) :
    Follows n instance_
        ((Lifecycle.handleBuildingStatus sh n commitHashShort queueUrl url
          answer).shared.instances.lookup n) status ↔
      SameOutcome (JenkinsClient.getBuildStatus answer) status := by
  -- the poll leaves the instance building unless it has seen a final result
  have hunchanged : ∀ seen, seen ≠ .ok .success → (∀ reason, seen ≠ .ok (.failed reason)) →
      seen ≠ .ok .notFound →
        (Follows n instance_ (sh.instances.lookup n) status ↔ SameOutcome seen status) := by
    intro seen hsuccess hfailed hgone
    rw [hlookup, follows_unchanged_iff hstate]
    cases status with
    | error error => simp [Pending, SameOutcome]
    | ok status => cases status <;> simp [Pending, SameOutcome, hsuccess, hfailed, hgone]
  subst hcommit
  rw [Lifecycle.handleBuildingStatus]
  cases hseen : JenkinsClient.getBuildStatus answer with
  | error error => exact hunchanged _ (by simp) (by simp) (by simp)
  | ok seen =>
      cases seen with
      | success =>
          dsimp only
          rw [Shared.lookup_setState hlookup]
          cases status with
          | error error => simp [Follows, SameOutcome]
          | ok status => cases status <;> simp [Follows, SameOutcome]
      | failed reason =>
          dsimp only
          rw [Shared.lookup_setState hlookup]
          cases status with
          | error error => simp [Follows, SameOutcome]
          | ok status => cases status <;> simp [Follows, SameOutcome]
      | notFound =>
          dsimp only
          rw [Shared.lookup_setState hlookup]
          cases status with
          | error error => simp [Follows, SameOutcome]
          | ok status => cases status <;> simp [Follows, SameOutcome]
      | building => exact hunchanged _ (by simp) (by simp) (by simp)
      | queued => exact hunchanged _ (by simp) (by simp) (by simp)

end Handlers

/-! ## Steps -/

section Steps

variable {setup : Setup} {s s' : Polling} {tr t : List PollEvent} {label : PollLabel}

/-- Steps that do not ask Jenkins about a build keep the invariant. -/
theorem Polls.stepOther {label : Label} (h : Polls s tr)
    (hstep : stepOther setup s label = some (s', t)) : Polls s' tr ∧ t = [] := by
  -- a step that leaves the entry alone and no new poll in progress
  have hkept : ∀ {w}, (poll w.loop = poll s.world.loop ∨ poll w.loop = none) →
      Polls { s with world := w } tr := by
    intro w hpoll
    refine ⟨h.found, ?_⟩
    intro n commitHashShort queueUrl hasks
    rcases hpoll with hpoll | hpoll
    · exact h.asks n commitHashShort queueUrl (hpoll.symm.trans hasks)
    · exact absurd (hpoll.symm.trans hasks) (by simp)
  cases label with
  | start id label =>
      obtain ⟨⟨w, events⟩, hlifecycle, heq⟩ := Option.map_eq_some_iff.1 hstep
      cases heq
      obtain ⟨o, -, rfl, -⟩ := Lifecycle.step_start_iff.1 hlifecycle
      exact ⟨hkept (Or.inl rfl), rfl⟩
  | tick snapshot =>
      obtain ⟨⟨w, events⟩, hlifecycle, heq⟩ := Option.map_eq_some_iff.1 hstep
      cases heq
      obtain ⟨-, -, rfl, -⟩ := Lifecycle.step_tick_iff.1 hlifecycle
      exact ⟨hkept (Or.inr rfl), rfl⟩
  | advance now =>
      obtain ⟨⟨w, events⟩, hlifecycle, heq⟩ := Option.map_eq_some_iff.1 hstep
      cases heq
      refine ⟨⟨h.found, ?_⟩, rfl⟩
      intro n commitHashShort queueUrl hasks
      rcases Lifecycle.step_advance_iff.1 hlifecycle with
        ⟨-, rfl, -⟩ | ⟨m, instance_, rest, hloop, rfl, -⟩
      · cases hasks
      · have hdispatched :=
          Lifecycle.dispatched_dispatch setup s.world.shared m instance_ now
        obtain ⟨rfl, hcommit, startedAt, hstate⟩ := poll_of_dispatched hdispatched hasks
        exact ⟨instance_, startedAt, by rw [hloop, nextEntry], hcommit, hstate⟩
  | resume answer =>
      have hqueue : ∀ item, answer ≠ .queueItem item := by
        rintro item rfl
        cases hstep
      have hbuild : ∀ build, answer ≠ .build build := by
        rintro build rfl
        cases hstep
      obtain ⟨⟨w, events⟩, hlifecycle, heq⟩ : ∃ result,
          Lifecycle.step setup s.world (.resume answer) = some result ∧
            ({ s with world := result.1 }, []) = (s', t) := by
        cases answer with
        | queueItem item => exact absurd rfl (hqueue item)
        | build build => exact absurd rfl (hbuild build)
        | _ => exact Option.map_eq_some_iff.1 hstep
      cases heq
      obtain ⟨n, pc, rest, o, -, hresume, rfl, -⟩ := Lifecycle.step_resume_iff.1 hlifecycle
      exact ⟨hkept (Or.inr (poll_resume hresume hqueue hbuild)), rfl⟩

/-- A poll that ends without a build URL leaves the stores as they were, so it follows the found
builds exactly when none of them is reported final. -/
theorem Polls.ended {w : World} {n : UInt32} {instance_ : PrInstance} {startedAt : Instant}
    {queueUrl : String} {answer : HttpAnswer (Option String)}
    {builds : String → HttpAnswer BuildJson} (h : Polls s tr)
    (hentry : s.entry = some (n, instance_))
    (hstate : instance_.state = .building startedAt (some queueUrl))
    (hnone : ∀ url, JenkinsClient.getBuildUrl answer ≠ .ok (some url))
    (hpoll : poll w.loop = none) :
    Polls ⟨w, some (n, instance_), builds, s.found⟩
        (tr ++ [.polled n instance_ builds (s.world.shared.instances.lookup n)
          (s.world.shared.instances.lookup n)]) ∧
      (Justified (fun pre => Followed (tr ++ pre))
          [.polled n instance_ builds (s.world.shared.instances.lookup n)
            (s.world.shared.instances.lookup n)] ↔
        QueueItemKept s (.queueItem answer builds)) := by
  refine ⟨⟨by simp [h.found], ?_⟩, ?_⟩
  · intro n commitHashShort queueUrl hasks
    rw [hpoll] at hasks
    cases hasks
  rw [justified_singleton_iff, List.append_nil]
  simp only [Followed, QueueItemKept, hentry, Option.some.injEq, Prod.mk.injEq, hnone,
    exists_false, false_or, h.found]
  constructor
  · rintro hfollowed _ _ ⟨rfl, rfl⟩ hlookup url hfound
    have hfollows := hfollowed hlookup url hfound
    rwa [hlookup, follows_unchanged_iff hstate] at hfollows
  · intro hpending hlookup url hfound
    rw [hlookup, follows_unchanged_iff hstate]
    exact hpending n instance_ ⟨rfl, rfl⟩ hlookup url hfound

/-- The answer for a queue item keeps the invariant. A poll that ends without a build URL follows
the found builds exactly when none of them is reported final. -/
theorem Polls.stepQueueItem {answer : HttpAnswer (Option String)}
    {builds : String → HttpAnswer BuildJson} (h : Polls s tr)
    (hstep : stepQueueItem setup s answer builds = some (s', t)) :
    Polls s' (tr ++ t) ∧
      (Justified (fun pre => Followed (tr ++ pre)) t ↔
        QueueItemKept s (.queueItem answer builds)) := by
  unfold BuildFollowing.stepQueueItem at hstep
  cases hentry : s.entry with
  | none => simp [hentry] at hstep
  | some entry =>
      obtain ⟨n, instance_⟩ := entry
      cases hlifecycle : Lifecycle.step setup s.world (.resume (.queueItem answer)) with
      | none => simp [hentry, hlifecycle] at hstep
      | some result =>
          obtain ⟨w, events⟩ := result
          simp only [hentry, hlifecycle] at hstep
          obtain ⟨m, pc, rest, o, hloop, hresume, rfl, -⟩ := Lifecycle.step_resume_iff.1 hlifecycle
          cases Lifecycle.resumed_of_resume hresume with
          | buildUrl commitHashShort queueUrl _ =>
              -- the poll is that of the snapshot's entry
              have hasks := h.asks m commitHashShort queueUrl (by rw [hloop, poll])
              obtain ⟨instance', startedAt, heq, hcommit, hstate⟩ := hasks
              rw [hentry, Option.some.injEq, Prod.mk.injEq] at heq
              obtain ⟨rfl, rfl⟩ := heq
              cases hurl : JenkinsClient.getBuildUrl answer with
              | error error =>
                  simp only [hurl, Option.some.injEq, Prod.mk.injEq] at hstep
                  obtain ⟨rfl, rfl⟩ := hstep
                  have hnone : ∀ url, JenkinsClient.getBuildUrl answer ≠ .ok (some url) := by
                    simp [hurl]
                  rw [Lifecycle.handleBuildingUrl, hurl]
                  refine h.ended hentry hstate hnone ?_
                  rfl
              | ok url =>
                  cases url with
                  | none =>
                      simp only [hurl, Option.some.injEq, Prod.mk.injEq] at hstep
                      obtain ⟨rfl, rfl⟩ := hstep
                      have hnone : ∀ url, JenkinsClient.getBuildUrl answer ≠ .ok (some url) := by
                        simp [hurl]
                      rw [Lifecycle.handleBuildingUrl, hurl]
                      refine h.ended hentry hstate hnone ?_
                      rfl
                  | some url =>
                      simp only [hurl, Option.some.injEq, Prod.mk.injEq] at hstep
                      obtain ⟨rfl, rfl⟩ := hstep
                      rw [Lifecycle.handleBuildingUrl, hurl]
                      refine ⟨⟨?_, ?_⟩, ?_⟩
                      · simp [h.found]
                      · intro n commitHashShort queueUrl hasks
                        cases hasks
                        exact ⟨instance_, startedAt, rfl, hcommit, hstate⟩
                      · rw [justified_singleton_iff]
                        exact iff_of_true trivial fun _ _ _ _ => Or.inl ⟨url, hurl⟩

/-- The report on the build keeps the invariant, and the poll follows the found builds exactly
when they have the outcome of this one. -/
theorem Polls.stepBuild (h : Polls s tr) (hstep : stepBuild setup s = some (s', t)) :
    Polls s' (tr ++ t) ∧
      (Justified (fun pre => Followed (tr ++ pre)) t ↔ QueueItemKept s .build) := by
  unfold BuildFollowing.stepBuild at hstep
  split at hstep
  · rename_i n instance_ m commitHashShort queueUrl url rest hentry hloop
    obtain ⟨⟨w, events⟩, hlifecycle, heq⟩ := Option.map_eq_some_iff.1 hstep
    cases heq
    obtain ⟨m', pc, rest', o, hloop', hresume, rfl, -⟩ := Lifecycle.step_resume_iff.1 hlifecycle
    rw [hloop, LoopState.running.injEq] at hloop'
    obtain ⟨rfl, rfl, rfl⟩ := hloop'
    obtain ⟨instance', startedAt, heq, hcommit, hstate⟩ :=
      h.asks m commitHashShort queueUrl (by rw [hloop, poll])
    rw [hentry, Option.some.injEq, Prod.mk.injEq] at heq
    obtain ⟨rfl, rfl⟩ := heq
    cases Lifecycle.resumed_of_resume hresume with
    | buildStatus _ _ _ _ =>
        refine ⟨⟨?_, ?_⟩, ?_⟩
        · simp [h.found]
        · intro m commitHashShort queueUrl hasks
          rw [Lifecycle.handleBuildingStatus] at hasks
          cases hseen : JenkinsClient.getBuildStatus (s.builds url) with
          | error error =>
              rw [hseen] at hasks
              cases hasks
          | ok seen =>
              rw [hseen] at hasks
              cases seen <;> cases hasks
        · rw [justified_singleton_iff, List.append_nil]
          simp only [Followed, QueueItemKept, hentry, hloop, Option.some.injEq, Prod.mk.injEq,
            LoopState.running.injEq, HandlerPc.buildStatus.injEq, h.found]
          constructor
          · rintro hfollowed _ _ _ _ _ _ _ ⟨rfl, rfl⟩ ⟨rfl, ⟨rfl, rfl, rfl⟩, rfl⟩ hlookup u hfound
            exact (follows_handled_iff hlookup hstate hcommit).1 (hfollowed hlookup u hfound)
          · intro hkept hlookup u hfound
            exact (follows_handled_iff hlookup hstate hcommit).2
              (hkept n instance_ n commitHashShort queueUrl url rest ⟨rfl, rfl⟩
                ⟨rfl, ⟨rfl, rfl, rfl⟩, rfl⟩ hlookup u hfound)
  · cases hstep

/-- One step keeps the invariant, and its events follow the found builds exactly when it meets the
condition. -/
theorem polls_step (h : Polls s tr) (hstep : (system setup).step s label = some (s', t)) :
    Polls s' (tr ++ t) ∧
      (Justified (fun pre => Followed (tr ++ pre)) t ↔ QueueItemKept s label) := by
  cases label with
  | step label =>
      obtain ⟨hpolls, rfl⟩ := h.stepOther hstep
      rw [List.append_nil]
      exact ⟨hpolls, iff_of_true justified_nil trivial⟩
  | queueItem answer builds => exact h.stepQueueItem hstep
  | build => exact h.stepBuild hstep

end Steps

/-! ## Runs -/

/-- In every run of the loop with `start_pr` calls, under any reports of Jenkins, every build that
was found for an instance is followed to its end if and only if, whenever a found build is
reported final at a poll, the queue item answers a build of the same outcome. -/
theorem builds_followed_iff (setup : Setup) (shared : Shared) (labels : List PollLabel)
    (s : Polling) (tr : List PollEvent)
    (hrun : (system setup).exec (start shared) labels = some (s, tr)) :
    Justified Followed tr ↔ (system setup).Meets QueueItemKept (start shared) labels :=
  @justified_iff_meets _ _ _ Followed (system setup) QueueItemKept Polls
    (fun _ _ _ _ _ h hstep => polls_step h hstep) _ _ _ [] tr (polls_start shared) hrun

/-- The queue item of the build of PR 7. -/
def sampleQueue : String := "https://jenkins.example.com/queue/item/1/"

/-- The building instance of PR 7. -/
def sampleBuilding : PrInstance :=
  .newBuilding 7 "0123456789abcdef" "0123456" sampleQueue ⟨0⟩

/-- PR 7 is started, and at the first tick its queue item answers a build that is running. -/
def foundSample : List PollLabel :=
  (Lifecycle.sampleChecks 0 7 "0123456789abcdef" ++ [Lifecycle.sampleTrigger 0 sampleQueue]).map
      .step ++
    [.step (.tick [(7, sampleBuilding)]), .step (.advance ⟨0⟩),
      .queueItem (.ok (some "https://jenkins.example.com/job/steel/12/"))
        fun _ => .ok ⟨some true, none⟩,
      .build, .step (.advance ⟨0⟩)]

/-- At the next tick the queue item still answers the build, which has succeeded. -/
def followedSample : List PollLabel :=
  foundSample ++
    [.step (.tick [(7, sampleBuilding)]), .step (.advance ⟨0⟩),
      .queueItem (.ok (some "https://jenkins.example.com/job/steel/12/"))
        fun _ => .ok ⟨some false, some "SUCCESS"⟩,
      .build, .step (.advance ⟨0⟩)]

/-- Every queue item answers a build, and Jenkins reports all builds alike. -/
def ReportsAlike : PollLabel → Prop
  | .queueItem answer builds =>
      (∃ url, JenkinsClient.getBuildUrl answer = .ok (some url)) ∧
        ∃ report, builds = fun _ => report
  | _ => True

theorem queueItemKept_of_reportsAlike {setup : Setup} {shared : Shared}
    {labels : List PollLabel} (h : ∀ label ∈ labels, ReportsAlike label) :
    (system setup).Meets QueueItemKept (start shared) labels := by
  have hmeets : (system setup).Meets (fun _ label => ReportsAlike label) (start shared) labels :=
    (system setup).meets_of_forall (fun _ label hlabel => h label hlabel) _
  refine @System.Meets.mono_of_invariant _ _ _ (system setup) (fun _ => ReportsAlike) QueueItemKept
    (fun s => ∃ report, s.builds = fun _ => report) ?_ ?_ _ _ ⟨.failed, rfl⟩ hmeets
  · rintro s label ⟨report, hbuilds⟩ halike
    cases label with
    | step label => trivial
    | queueItem answer builds => exact fun _ _ _ _ => Or.inl halike.1
    | build =>
        intro n instance_ m commitHashShort queueUrl seen rest _ _ _ url _
        -- the build that is asked for is reported as every other one
        rw [hbuilds]
        cases JenkinsClient.getBuildStatus report with
        | error error => trivial
        | ok status =>
            cases status with
            | success => rfl
            | failed reason => exact Or.inl ⟨reason, rfl⟩
            | _ => trivial
  · rintro s label s' t ⟨report, hbuilds⟩ halike hstep
    cases label with
    | step label =>
        have hsame : s'.builds = s.builds := by
          simp only [system, BuildFollowing.step, stepOther] at hstep
          split at hstep
          · cases hstep
          · cases hstep
          · obtain ⟨result, -, heq⟩ := Option.map_eq_some_iff.1 hstep
            cases heq
            rfl
          · obtain ⟨result, -, heq⟩ := Option.map_eq_some_iff.1 hstep
            cases heq
            rfl
        exact ⟨report, hsame.trans hbuilds⟩
    | queueItem answer builds =>
        obtain ⟨-, report', hreport⟩ := halike
        simp only [system, BuildFollowing.step, stepQueueItem] at hstep
        split at hstep
        · split at hstep <;> cases hstep <;> exact ⟨report', hreport⟩
        · cases hstep
    | build =>
        simp only [system, BuildFollowing.step, stepBuild] at hstep
        split at hstep
        · obtain ⟨result, -, heq⟩ := Option.map_eq_some_iff.1 hstep
          cases heq
          exact ⟨report, hbuilds⟩
        · cases hstep

/-- PR 7 is deployed once the build that was found for it has succeeded. -/
theorem builds_followed_followedSample :
    ∃ s tr, (system Lifecycle.sampleSetup).exec (start Lifecycle.sampleWorld.shared)
        followedSample = some (s, tr) ∧
      s.world.shared.instances.lookup 7 =
        some { sampleBuilding with state := .deploying "pr-7-0123456" } ∧
      Justified Followed tr := by
  have hdeployed : ((system Lifecycle.sampleSetup).exec (start Lifecycle.sampleWorld.shared)
      followedSample).map (fun result => result.1.world.shared.instances.lookup 7) =
        some (some { sampleBuilding with state := .deploying "pr-7-0123456" }) := by
    decide +kernel
  obtain ⟨⟨s, tr⟩, hrun, hs⟩ := Option.map_eq_some_iff.1 hdeployed
  refine ⟨s, tr, hrun, hs, (builds_followed_iff _ _ followedSample s tr hrun).2 ?_⟩
  refine queueItemKept_of_reportsAlike ?_
  intro label hlabel
  simp only [followedSample, foundSample, Lifecycle.sampleChecks, Lifecycle.sampleTrigger,
    List.map_cons, List.map_nil, List.cons_append, List.nil_append, List.mem_cons,
    List.not_mem_nil, or_false] at hlabel
  rcases hlabel with rfl | rfl | rfl | rfl | rfl | rfl | rfl | rfl | rfl | rfl | rfl | rfl | rfl |
    rfl | rfl | rfl <;> first | trivial | exact ⟨⟨_, rfl⟩, _, rfl⟩

/-- At the next tick the queue item is gone and the build has succeeded. -/
def lostSample : List PollLabel :=
  foundSample ++
    [.step (.tick [(7, sampleBuilding)]), .step (.advance ⟨0⟩),
      .queueItem (.status 404 "404 Not Found" "") fun _ => .ok ⟨some false, some "SUCCESS"⟩]

/-- A build was found, and a later poll in which it has succeeded does not deploy its image. -/
def lostBuild : List PollEvent → Bool
  | [.found n instance_ url, _, .polled m instance' builds before after] =>
      decide (m = n ∧ instance' = instance_ ∧ before = some instance_ ∧
        after ≠ some { instance_ with
          state := .deploying (imageTagOf n instance_.commitHashShort) }) &&
        match JenkinsClient.getBuildStatus (builds url) with
        | .ok .success => true
        | _ => false
  | _ => false

theorem not_followed_of_lostBuild {tr : List PollEvent} (h : lostBuild tr = true) :
    ¬ Justified Followed tr := by
  intro hfollowed
  unfold lostBuild at h
  split at h
  · rename_i n instance_ url e m instance' builds before after
    rw [Bool.and_eq_true, decide_eq_true_iff] at h
    obtain ⟨⟨rfl, rfl, rfl, hafter⟩, hsuccess⟩ := h
    have hpolled := hfollowed [.found m instance' url, e]
      (.polled m instance' builds (some instance') after) [] rfl rfl url (by simp)
    split at hsuccess
    · rename_i hstatus
      rw [hstatus] at hpolled
      exact hafter hpolled
    · cases hsuccess
  · cases h

/-- The successful build is not followed once its queue item is gone. -/
theorem build_lost_with_queue_item :
    ∃ s tr, (system Lifecycle.sampleSetup).exec (start Lifecycle.sampleWorld.shared) lostSample =
        some (s, tr) ∧ ¬ Justified Followed tr := by
  have hlost : ((system Lifecycle.sampleSetup).exec (start Lifecycle.sampleWorld.shared)
      lostSample).any (fun result => lostBuild result.2) = true := by decide +kernel
  cases hrun : (system Lifecycle.sampleSetup).exec (start Lifecycle.sampleWorld.shared)
      lostSample with
  | none =>
      rw [hrun] at hlost
      cases hlost
  | some result =>
      rw [hrun, Option.any_some] at hlost
      exact ⟨result.1, result.2, rfl, not_followed_of_lostBuild hlost⟩

end BuildFollowing

end SteelProxy
