import SteelProxy.K8s.CommitIdentity
import SteelProxy.K8s.Stages

/-!
# The requests to GitHub and Jenkins

The requests that `GitHubClient` and `JenkinsClient` send, and what is answered to them, as events
of the lifecycle loop with its `start_pr` calls. Every request is accounted for by the events
before it (`requests_accounted`): the head commit is looked up for the PR of the call, the build is
triggered for the commit that GitHub named, and Jenkins is asked about the queue item and the build
that it has named itself. A request is what the code builds and hands to `send`: its redirects,
which reqwest follows before `send` returns, are part of it here.
-/

set_option autoImplicit false

namespace SteelProxy

open SteelProxy.Library SteelProxy.Library.Transition

/-! ## Requests -/

/-- The method of a request. -/
inductive HttpMethod where
  | get
  | post
  deriving DecidableEq, Repr

/-- A request: its method and URL, the headers that are set by hand, the arguments of
`basic_auth`, and the form. -/
structure HttpRequest where
  method : HttpMethod
  url : String
  headers : List (String × String)
  basicAuth : Option (String × Option String)
  form : List (String × String)
  deriving DecidableEq, Repr

/-- `config::GitHubConfig`. -/
structure GitHubConfig where
  owner : String
  repo : String
  token : Option String
  deriving DecidableEq, Repr

/-- The fields of `config::JenkinsConfig` that only the requests read. -/
structure JenkinsAccount where
  jobName : String
  username : String
  apiToken : String
  deriving DecidableEq, Repr

/-- What the two clients are configured with. -/
structure Accounts where
  jenkins : JenkinsAccount
  github : GitHubConfig

namespace GitHubClient

/-- The URL of a pull request. -/
def pullUrl (config : GitHubConfig) (n : UInt32) : String :=
  s!"https://api.github.com/repos/{config.owner}/{config.repo}/pulls/{n}"

/-- The request of `GitHubClient::get_pr_head_commit`. -/
def prHeadRequest (config : GitHubConfig) (n : UInt32) : HttpRequest where
  method := .get
  url := pullUrl config n
  headers := [("User-Agent", "steel-proxy"), ("Accept", "application/vnd.github+json")] ++
    config.token.toList.map fun token => ("Authorization", s!"Bearer {token}")
  basicAuth := none
  form := []

end GitHubClient

namespace JenkinsClient

/-- The URL that triggers a build. -/
def jobUrl (config : JenkinsConfig) (account : JenkinsAccount) : String :=
  s!"{config.url}/job/{account.jobName}/buildWithParameters"

/-- The queue URL when Jenkins names none. -/
def defaultQueueUrl (config : JenkinsConfig) : String := s!"{config.url}/queue/"

/-- The API of a queue item or a build. -/
def apiUrl (url : String) : String := s!"{url}api/json"

/-- The request of `JenkinsClient::trigger_build`. -/
def triggerRequest (config : JenkinsConfig) (account : JenkinsAccount) (n : UInt32)
    (commitHashShort : String) : HttpRequest where
  method := .post
  url := jobUrl config account
  headers := []
  basicAuth := some (account.username, some account.apiToken)
  form := [("PR_NUMBER", s!"{n}"), ("COMMIT_HASH", commitHashShort)]

/-- The request of `JenkinsClient::get_build_url` and `JenkinsClient::get_build_status`. -/
def pollRequest (account : JenkinsAccount) (url : String) : HttpRequest where
  method := .get
  url := apiUrl url
  headers := []
  basicAuth := some (account.username, some account.apiToken)
  form := []

end JenkinsClient

/-- A request of a `start_pr` call, or of the handler of a PR. -/
inductive ServiceRequest where
  | prHead (id : Nat) (n : UInt32)
  | triggerBuild (id : Nat) (n : UInt32) (commitHashShort : String)
  | buildUrl (n : UInt32) (queueUrl : String)
  | buildStatus (n : UInt32) (queueUrl buildUrl : String)
  deriving DecidableEq, Repr

/-- The request as it is built. -/
def ServiceRequest.http (setup : Setup) (accounts : Accounts) : ServiceRequest → HttpRequest
  | .prHead _ n => GitHubClient.prHeadRequest accounts.github n
  | .triggerBuild _ n commitHashShort =>
      JenkinsClient.triggerRequest setup.jenkins accounts.jenkins n commitHashShort
  | .buildUrl _ queueUrl => JenkinsClient.pollRequest accounts.jenkins queueUrl
  | .buildStatus _ _ url => JenkinsClient.pollRequest accounts.jenkins url

/-- A `start_pr` call begins, a request is sent, GitHub names the head commit, Jenkins accepts a
build and may name its queue item, or Jenkins names the build of a queue item. -/
inductive ServiceEvent where
  | called (id : Nat) (n : UInt32)
  | asked (request : ServiceRequest)
  | headNamed (id : Nat) (commitHash : String)
  | queued (id : Nat) (n : UInt32) (location : Option String)
  | buildNamed (n : UInt32) (queueUrl buildUrl : String)
  deriving DecidableEq, Repr

/-- The request that a `start_pr` call waits for. -/
def StartCall.request (id : Nat) : StartCall → Option ServiceRequest
  | .github n => some (.prHead id n)
  | .jenkins n _ commitHashShort => some (.triggerBuild id n commitHashShort)
  | _ => none

/-- The request that the handler of PR `n` waits for. -/
def HandlerPc.request (n : UInt32) : HandlerPc → Option ServiceRequest
  | .buildUrl _ queueUrl => some (.buildUrl n queueUrl)
  | .buildStatus _ queueUrl url => some (.buildStatus n queueUrl url)
  | _ => none

/-- The request that the loop waits for. -/
def LoopState.request : LoopState → Option ServiceRequest
  | .running n pc _ => pc.request n
  | _ => none

/-- The queue location of an accepted build. -/
def HttpAnswer.accepted : HttpAnswer (Option String) → Option (Option String)
  | .ok location => some location
  | .badBody _ => some none
  | _ => none

namespace Requests

/-- The events of a step that are told by its label. -/
def heard (w : World) : Label → List ServiceEvent
  | .start id (.call n) =>
      match w.calls id with
      | .idle => [.called id n]
      | _ => []
  | .start id (.githubAnswered (.ok commitHash)) =>
      match w.calls id with
      | .github _ => [.headNamed id commitHash]
      | _ => []
  | .start id (.jenkinsAnswered answer _) =>
      match w.calls id with
      | .jenkins n _ _ => answer.accepted.toList.map (.queued id n)
      | _ => []
  | .resume (.queueItem (.ok (some url))) =>
      match w.loop with
      | .running n (.buildUrl _ queueUrl) _ => [.buildNamed n queueUrl url]
      | _ => []
  | _ => []

/-- The request that the task of a label has sent when its step ends. -/
def sent (w : World) : Label → Option ServiceRequest
  | .start id _ => (w.calls id).request id
  | .tick _ => none
  | .advance _ => w.loop.request
  | .resume _ => w.loop.request

/-- The events of a step: what is heard, then the request that is handed to `send`. -/
def observe (setup : Setup) (w : World) (label : Label) : List ServiceEvent :=
  heard w label ++
    match Lifecycle.step setup w label with
    | none => []
    | some (w', _) => (sent w' label).toList.map .asked

/-- The loop and the `start_pr` calls, with these events. -/
def system (setup : Setup) : System World Label ServiceEvent :=
  (Lifecycle.system setup).observed (observe setup)

/-! ## What accounts for an event -/

/-- The PR for which the call numbered `id` was made. -/
def calledBy (id : Nat) : ServiceEvent → Option UInt32
  | .called id' n => if id' = id then some n else none
  | _ => none

/-- The head commit that GitHub has named to the call numbered `id`. -/
def headOf (id : Nat) : ServiceEvent → Option String
  | .headNamed id' commitHash => if id' = id then some commitHash else none
  | _ => none

/-- Jenkins has accepted a build for PR `n` under this queue URL. -/
def QueuedFor (setup : Setup) (tr : List ServiceEvent) (n : UInt32) (queueUrl : String) : Prop :=
  ∃ id location, .queued id n location ∈ tr ∧
    queueUrl = location.getD (JenkinsClient.defaultQueueUrl setup.jenkins)

/-- What has to come before an event: a lookup is for the PR of its call, a build for the PR of its
call and the commit that GitHub named to it, Jenkins is asked about a queue item of the PR that it
has accepted and about the build that it has named for it, and answers follow their requests. -/
def Accounted (setup : Setup) (pre : List ServiceEvent) : ServiceEvent → Prop
  | .called _ _ => True
  | .asked (.prHead id n) => lastOf (calledBy id) pre = some n
  | .asked (.triggerBuild id n commitHashShort) =>
      lastOf (calledBy id) pre = some n ∧
        ∃ commitHash, lastOf (headOf id) pre = some commitHash ∧
          commitHashShort = shortHash commitHash
  | .asked (.buildUrl n queueUrl) => QueuedFor setup pre n queueUrl
  | .asked (.buildStatus n queueUrl buildUrl) => .buildNamed n queueUrl buildUrl ∈ pre
  | .headNamed id _ => ∃ n, .asked (.prHead id n) ∈ pre
  | .queued id n _ => ∃ commitHashShort, .asked (.triggerBuild id n commitHashShort) ∈ pre
  | .buildNamed n queueUrl _ => .asked (.buildUrl n queueUrl) ∈ pre

/-! ## The invariant -/

/-- What is known of the call numbered `id` when it stands at `call`. -/
def CallAccounted (tr : List ServiceEvent) (id : Nat) : StartCall → Prop
  | .idle => True
  | .registry n => lastOf (calledBy id) tr = some n
  | .github n => lastOf (calledBy id) tr = some n
  | .database n commitHash commitHashShort =>
      lastOf (calledBy id) tr = some n ∧ lastOf (headOf id) tr = some commitHash ∧
        commitHashShort = shortHash commitHash
  | .decided n commitHash commitHashShort _ =>
      lastOf (calledBy id) tr = some n ∧ lastOf (headOf id) tr = some commitHash ∧
        commitHashShort = shortHash commitHash
  | .jenkins n commitHash commitHashShort =>
      lastOf (calledBy id) tr = some n ∧ lastOf (headOf id) tr = some commitHash ∧
        commitHashShort = shortHash commitHash

/-- An instance in `Building` polls a queue item of its PR. -/
def InstanceAccounted (setup : Setup) (tr : List ServiceEvent) (n : UInt32) (i : PrInstance) :
    Prop :=
  ∀ startedAt queueUrl, i.state = .building startedAt (some queueUrl) →
    QueuedFor setup tr n queueUrl

/-- The entries of the snapshot that the loop has still to take are accounted for. -/
def LoopAccounted (setup : Setup) (tr : List ServiceEvent) : LoopState → Prop
  | .next rest => ∀ e ∈ rest, InstanceAccounted setup tr e.1 e.2
  | .running _ _ rest => ∀ e ∈ rest, InstanceAccounted setup tr e.1 e.2
  | _ => True

/-- Calls, instances and the loop are accounted for by the events, the requests they wait for have
been sent, and every event is accounted for. -/
structure Accounting (setup : Setup) (w : World) (tr : List ServiceEvent) : Prop where
  calls : ∀ id, CallAccounted tr id (w.calls id)
  waiting : ∀ id r, (w.calls id).request id = some r → .asked r ∈ tr
  instances : ∀ n i, w.shared.instances.lookup n = some i → InstanceAccounted setup tr n i
  loop : LoopAccounted setup tr w.loop
  running : ∀ r, w.loop.request = some r → .asked r ∈ tr
  justified : Justified (Accounted setup) tr

section Traces

variable {setup : Setup} {tr t : List ServiceEvent} {n : UInt32} {i : PrInstance}

theorem QueuedFor.mono {queueUrl : String} (h : QueuedFor setup tr n queueUrl)
    (t : List ServiceEvent) : QueuedFor setup (tr ++ t) n queueUrl := by
  obtain ⟨id, location, hmem, hurl⟩ := h
  exact ⟨id, location, List.mem_append_left _ hmem, hurl⟩

theorem InstanceAccounted.mono (h : InstanceAccounted setup tr n i) (t : List ServiceEvent) :
    InstanceAccounted setup (tr ++ t) n i :=
  fun startedAt queueUrl hstate => (h startedAt queueUrl hstate).mono t

theorem instanceAccounted_of_stage (h : i.state.stage ≠ .building) :
    InstanceAccounted setup tr n i := by
  intro startedAt queueUrl hstate
  rw [hstate] at h
  exact absurd rfl h

theorem LoopAccounted.mono {loop : LoopState} (h : LoopAccounted setup tr loop)
    (t : List ServiceEvent) : LoopAccounted setup (tr ++ t) loop := by
  cases loop with
  | waiting => trivial
  | next rest => exact fun e he => (h e he).mono t
  | running n pc rest => exact fun e he => (h e he).mono t
  | panicked => trivial

/-- Events that tell nothing of a call leave what is known of it. -/
theorem CallAccounted.mono {id : Nat} {call : StartCall} (h : CallAccounted tr id call)
    (hcalled : ∀ e ∈ t, calledBy id e = none) (hhead : ∀ e ∈ t, headOf id e = none) :
    CallAccounted (tr ++ t) id call := by
  have hlast : lastOf (calledBy id) (tr ++ t) = lastOf (calledBy id) tr :=
    lastOf_append_of_forall_none hcalled
  have hlast' : lastOf (headOf id) (tr ++ t) = lastOf (headOf id) tr :=
    lastOf_append_of_forall_none hhead
  cases call with
  | idle => trivial
  | registry n =>
      simp only [CallAccounted, hlast]
      exact h
  | github n =>
      simp only [CallAccounted, hlast]
      exact h
  | database n commitHash commitHashShort =>
      simp only [CallAccounted, hlast, hlast']
      exact h
  | decided n commitHash commitHashShort existingBuild =>
      simp only [CallAccounted, hlast, hlast']
      exact h
  | jenkins n commitHash commitHashShort =>
      simp only [CallAccounted, hlast, hlast']
      exact h

end Traces

/-! ## Pieces -/

section Pieces

variable {setup : Setup} {sh : Shared} {n : UInt32} {i : PrInstance} {o : Outcome}
  {pc pc' : HandlerPc} {r : ServiceRequest}

theorem triggerBuild_eq_ok_iff {config : JenkinsConfig} {answer : HttpAnswer (Option String)}
    {queueUrl : String} :
    JenkinsClient.triggerBuild config answer = .ok queueUrl ↔
      ∃ location, answer.accepted = some location ∧
        queueUrl = location.getD (JenkinsClient.defaultQueueUrl config) := by
  cases answer with
  | failed => simp [JenkinsClient.triggerBuild, HttpAnswer.accepted]
  | status code display body => simp [JenkinsClient.triggerBuild, HttpAnswer.accepted]
  | badBody error =>
      simp [JenkinsClient.triggerBuild, HttpAnswer.accepted, JenkinsClient.defaultQueueUrl,
        eq_comm]
  | ok location =>
      simp [JenkinsClient.triggerBuild, HttpAnswer.accepted, JenkinsClient.defaultQueueUrl,
        eq_comm]

/-- A handler that is started asks Jenkins about the queue item of its entry alone. -/
theorem request_of_dispatched {now : Instant} (h : Lifecycle.Dispatched setup sh n i now o)
    (hflow : o.flow = .await pc) (hr : pc.request n = some r) :
    ∃ startedAt queueUrl, i.state = .building startedAt (some queueUrl) ∧
      r = .buildUrl n queueUrl := by
  cases h with
  | building startedAt queueUrl hstate =>
      cases hflow
      cases hr
      exact ⟨startedAt, queueUrl, hstate, rfl⟩
  | buildTimedOut startedAt queueUrl message hstate hlate => cases hflow
  | notQueued startedAt hstate => cases hflow
  | deploying imageTag hstate =>
      cases hflow
      cases hr
  | startTimedOut deploymentName address port startedAt message hstate hlate => cases hflow
  | starting deploymentName address port startedAt hstate =>
      cases hflow
      cases hr
  | expired deploymentName address port readyAt shutdownAt message hstate hlate =>
      cases hflow
      cases hr
  | ready deploymentName address port readyAt shutdownAt hstate => cases hflow
  | shuttingDown deploymentName hstate =>
      cases hflow
      cases hr
  | failed reason hstate => cases hflow

/-- A handler that goes on asks Jenkins about the build that it has just named. -/
theorem request_of_resumed {answer : Answer} (h : Lifecycle.Resumed setup sh n pc answer o)
    (hflow : o.flow = .await pc') (hr : pc'.request n = some r) :
    ∃ commitHashShort queueUrl url, pc = .buildUrl commitHashShort queueUrl ∧
      answer = .queueItem (.ok (some url)) ∧ r = .buildStatus n queueUrl url := by
  cases h with
  | buildUrl commitHashShort queueUrl answer =>
      cases answer with
      | ok url =>
          -- a queue item without a build is asked about again by the next tick
          cases url with
          | none => cases hflow
          | some url =>
              cases hflow
              cases hr
              exact ⟨commitHashShort, queueUrl, url, rfl, rfl, rfl⟩
      | failed => cases hflow
      | status code display body => cases hflow
      | badBody error => cases hflow
  | buildStatus commitHashShort queueUrl buildUrl answer =>
      simp only [Lifecycle.handleBuildingStatus] at hflow
      split at hflow <;> cases hflow
  | noDeploymentClient imageTag hclient => cases hflow
  | deploymentDeleted imageTag answer =>
      cases answer <;> cases hflow <;> cases hr
  | settled imageTag =>
      cases hflow
      cases hr
  | deploymentCreated imageTag answer =>
      cases answer <;> cases hflow
      cases hr
  | noServiceClient hclient => cases hflow
  | serviceDeleted answer =>
      cases hflow
      cases hr
  | serviceCreated answer now =>
      simp only [Lifecycle.createServiceCreated] at hflow
      split at hflow
      · cases hflow
      · split at hflow <;> cases hflow
  | noReadinessClient commitHash commitHashShort deploymentName address port hclient =>
      simp only [Lifecycle.handleStartingChecked] at hflow
      split at hflow <;> cases hflow
      cases hr
  | readinessChecked commitHash commitHashShort deploymentName address port answer =>
      simp only [Lifecycle.handleStartingChecked] at hflow
      split at hflow <;> cases hflow
      cases hr
  | registered commitHash commitHashShort deploymentName address port now readyAt =>
      simp only [Lifecycle.handleStartingRegistered] at hflow
      split at hflow <;> cases hflow
      cases hr
  | persisted commitHash commitHashShort answer =>
      simp only [Lifecycle.handleStartingPersisted] at hflow
      split at hflow <;> cases hflow
  | unregistered deploymentName now readyAt => cases hflow
  | noTearDownClient hclient => cases hflow
  | deploymentTornDown answer =>
      simp only [Lifecycle.deleteInstanceDeployment] at hflow
      split at hflow
      · cases hflow
        cases hr
      · split at hflow <;> cases hflow
        cases hr
  | serviceTornDown answer =>
      simp only [Lifecycle.deleteInstanceService] at hflow
      split at hflow
      · cases hflow
      · split at hflow <;> cases hflow

end Pieces

/-! ## Steps -/

section Steps

variable {setup : Setup} {w w' : World} {tr t : List ServiceEvent} {label : Label}
  {t₀ : List Event} {id : Nat}

theorem observe_of_step (hstep : Lifecycle.step setup w label = some (w', t₀)) :
    observe setup w label = heard w label ++ (sent w' label).toList.map .asked := by
  simp only [observe, hstep]

/-- An event that is accounted for is added to the trace. -/
theorem justified_append_one (h : Justified (Accounted setup) tr) {e : ServiceEvent}
    (he : Accounted setup tr e) : Justified (Accounted setup) (tr ++ [e]) := by
  rw [justified_append_iff, justified_singleton_iff, List.append_nil]
  exact ⟨h, he⟩

/-- A request that is accounted for, if there is one, is added to the trace. -/
theorem justified_append_sent (h : Justified (Accounted setup) tr) {r? : Option ServiceRequest}
    (hr : ∀ r, r? = some r → Accounted setup tr (.asked r)) :
    Justified (Accounted setup) (tr ++ r?.toList.map .asked) := by
  cases r? with
  | none => simpa using h
  | some r => exact justified_append_one h (hr r rfl)

/-- A request tells nothing of a call. -/
theorem lastOf_append_sent {β : Type} {f : ServiceEvent → Option β}
    (hf : ∀ r, f (.asked r) = none) (r? : Option ServiceRequest) :
    ∀ e ∈ r?.toList.map ServiceEvent.asked, f e = none := by
  intro e he
  obtain ⟨r, -, rfl⟩ := List.mem_map.1 he
  exact hf r

/-! ### Calls -/

/-- `Heard w id label t`: the call numbered `id` going on with `label` in `w` hears the events
`t`. -/
inductive Heard (w : World) (id : Nat) : StartLabel → List ServiceEvent → Prop where
  | nothing (label : StartLabel) : Heard w id label []
  | called (n : UInt32) (hcall : w.calls id = .idle) : Heard w id (.call n) [.called id n]
  | head (n : UInt32) (commitHash : String) (hcall : w.calls id = .github n) :
      Heard w id (.githubAnswered (.ok commitHash)) [.headNamed id commitHash]
  | queued (n : UInt32) (commitHash commitHashShort : String)
      (answer : HttpAnswer (Option String)) (now : Instant) (location : Option String)
      (hcall : w.calls id = .jenkins n commitHash commitHashShort)
      (haccepted : answer.accepted = some location) :
      Heard w id (.jenkinsAnswered answer now) [.queued id n location]

theorem heard_start (w : World) (id : Nat) (label : StartLabel) :
    Heard w id label (heard w (.start id label)) := by
  cases label with
  | call n =>
      simp only [heard]
      split
      · rename_i hcall
        exact .called n hcall
      · exact .nothing _
  | registryLocked => exact .nothing _
  | githubAnswered answer =>
      cases answer with
      | ok commitHash =>
          simp only [heard]
          split
          · rename_i n hcall
            exact .head n commitHash hcall
          · exact .nothing _
      | _ => exact .nothing _
  | buildsQueried error => exact .nothing _
  | buildsResumed => exact .nothing _
  | jenkinsAnswered answer now =>
      simp only [heard]
      split
      · rename_i n commitHash commitHashShort hcall
        cases haccepted : answer.accepted with
        | none => exact .nothing _
        | some location =>
            exact .queued n commitHash commitHashShort answer now location hcall haccepted
      · exact .nothing _

/-- What one call hears tells nothing of another. -/
theorem Heard.of_ne {label : StartLabel} (h : Heard w id label t) {id' : Nat} (hne : id ≠ id') :
    ∀ e ∈ t, calledBy id' e = none ∧ headOf id' e = none := by
  cases h with
  | nothing => simp
  | called n hcall => simp [calledBy, headOf, hne]
  | head n commitHash hcall => simp [calledBy, headOf, hne]
  | queued n commitHash commitHashShort answer now location => simp [calledBy, headOf]

/-- What a call hears follows its request. -/
theorem Accounting.heard (h : Accounting setup w tr) {label : StartLabel}
    (hheard : Heard w id label t) : Justified (Accounted setup) (tr ++ t) := by
  cases hheard with
  | nothing =>
      rw [List.append_nil]
      exact h.justified
  | called n hcall => exact justified_append_one h.justified trivial
  | head n commitHash hcall =>
      exact justified_append_one h.justified ⟨n, h.waiting id _ (by rw [hcall]; rfl)⟩
  | queued n commitHash commitHashShort answer now location hcall =>
      exact justified_append_one h.justified
        ⟨commitHashShort, h.waiting id _ (by rw [hcall]; rfl)⟩

/-- Where a call stands after a piece of it. -/
theorem Accounting.of_stepped (h : Accounting setup w tr) {label : StartLabel}
    {o : StartPr.Outcome} (hs : StartPr.Stepped setup w.shared id (w.calls id) label o) :
    CallAccounted (tr ++ Requests.heard w (.start id label)) id o.call := by
  have hcall := h.calls id
  generalize hcalls : w.calls id = call at hs hcall
  cases hs with
  | bailed error => trivial
  | begun n huntracked =>
      simp only [Requests.heard, hcalls]
      simp [CallAccounted, lastOf_append_one, calledBy]
  | registryChecked n habsent =>
      simp only [Requests.heard, List.append_nil]
      exact hcall
  | commitReceived n answer commitHash commitHashShort hcommit =>
      obtain ⟨rfl, rfl⟩ := getPrHeadCommit_eq_ok_iff.1 hcommit
      simp only [Requests.heard, hcalls]
      refine ⟨?_, by simp [lastOf_append_one, headOf], rfl⟩
      have hcalled : lastOf (calledBy id) tr = some n := hcall
      simpa [lastOf_append_one, calledBy] using hcalled
  | buildsQueried n commitHash commitHashShort =>
      simp only [Requests.heard, List.append_nil]
      exact hcall
  | cached n commitHash commitHashShort => trivial
  | missed n commitHash commitHashShort =>
      simp only [Requests.heard, List.append_nil]
      exact hcall
  | queued n commitHash commitHashShort queueUrl answer now hqueued => trivial

/-- The request of a call is accounted for by what is known of it. -/
theorem CallAccounted.request {call : StartCall} (h : CallAccounted tr id call)
    {r : ServiceRequest} (hr : call.request id = some r) : Accounted setup tr (.asked r) := by
  cases call with
  | github n =>
      cases hr
      exact h
  | jenkins n commitHash commitHashShort =>
      cases hr
      exact ⟨h.1, commitHash, h.2⟩
  | _ => cases hr

/-- A call inserts an instance that is to be deployed, or one that polls the queue item of its own
build. -/
theorem Accounting.instances_of_stepped (h : Accounting setup w tr) {label : StartLabel}
    {o : StartPr.Outcome} (hs : StartPr.Stepped setup w.shared id (w.calls id) label o)
    {n : UInt32} {i : PrInstance} (hi : o.shared.instances.lookup n = some i) :
    InstanceAccounted setup (tr ++ Requests.heard w (.start id label)) n i := by
  generalize hcalls : w.calls id = call at hs
  cases hs with
  | cached m commitHash commitHashShort =>
      by_cases hn : n = m
      · subst hn
        simp only [StartPr.deployCached, K8sManager.createDeployingInstance, AList.lookup_insert,
          Option.some.injEq] at hi
        subst hi
        exact instanceAccounted_of_stage (by simp [PrInstance.newDeploying, InstanceState.stage])
      · simp only [StartPr.deployCached, K8sManager.createDeployingInstance,
          AList.lookup_insert_ne hn] at hi
        exact (h.instances n i hi).mono _
  | queued m commitHash commitHashShort queueUrl answer now hqueued =>
      by_cases hn : n = m
      · subst hn
        simp only [StartPr.trackBuild, K8sManager.createBuildingInstance, AList.lookup_insert,
          Option.some.injEq] at hi
        subst hi
        -- the queue item that Jenkins has just named, or the default one
        obtain ⟨location, haccepted, rfl⟩ := triggerBuild_eq_ok_iff.1 hqueued
        rintro startedAt url ⟨⟩
        refine ⟨id, location, ?_, rfl⟩
        simp [Requests.heard, hcalls, haccepted]
      · simp only [StartPr.trackBuild, K8sManager.createBuildingInstance,
          AList.lookup_insert_ne hn] at hi
        exact (h.instances n i hi).mono _
  | _ => exact (h.instances n i hi).mono _

theorem accounting_start {label : StartLabel} (h : Accounting setup w tr)
    (hstep : Lifecycle.step setup w (.start id label) = some (w', t₀)) :
    Accounting setup w' (tr ++ observe setup w (.start id label)) := by
  rw [observe_of_step hstep, ← List.append_assoc]
  obtain ⟨o, ho, rfl, -⟩ := Lifecycle.step_start_iff.1 hstep
  have hs := StartPr.stepped_of_step ho
  have hheard := heard_start w id label
  have hcall := h.of_stepped hs
  have hsent : sent { w with shared := o.shared, calls := Function.update w.calls id o.call }
      (.start id label) = o.call.request id := by
    simp [sent]
  rw [hsent]
  have hcalled := @lastOf_append_sent UInt32 (calledBy id) (fun _ => rfl) (o.call.request id)
  have hhead := @lastOf_append_sent String (headOf id) (fun _ => rfl) (o.call.request id)
  refine ⟨?_, ?_, ?_, (h.loop.mono _).mono _, ?_, ?_⟩
  · intro id'
    by_cases hid : id' = id
    · subst hid
      simp only [Function.update_self]
      exact hcall.mono hcalled hhead
    · -- what is heard and asked by this call tells nothing of the others
      simp only [Function.update_of_ne hid]
      have hother := hheard.of_ne (Ne.symm hid)
      exact ((h.calls id').mono (fun e he => (hother e he).1) fun e he => (hother e he).2).mono
        (lastOf_append_sent (fun _ => rfl) _) (lastOf_append_sent (fun _ => rfl) _)
  · intro id' r hr
    by_cases hid : id' = id
    -- the request that the call waits for is the one it has just sent
    · subst hid
      simp only [Function.update_self] at hr
      simp [hr]
    · simp only [Function.update_of_ne hid] at hr
      exact List.mem_append_left _ (List.mem_append_left _ (h.waiting id' r hr))
  · exact fun n i hi => (h.instances_of_stepped hs hi).mono _
  · exact fun r hr => List.mem_append_left _ (List.mem_append_left _ (h.running r hr))
  · exact justified_append_sent (h.heard hheard) fun r hr => hcall.request hr

/-! ### The loop -/

/-- No handler puts an instance in `Building`. -/
theorem Accounting.instances_of_stageEffect (h : Accounting setup w tr) {m : UInt32}
    {stage : Stage} {o : Outcome} (heff : Lifecycle.StageEffect w.shared m stage o)
    {n : UInt32} {i : PrInstance} (hi : o.shared.instances.lookup n = some i) :
    InstanceAccounted setup tr n i := by
  cases heff with
  | kept hinst =>
      rw [hinst] at hi
      exact h.instances n i hi
  | advanced state hinst hnext =>
      rw [hinst, K8sManager.lookup_updateInstanceState] at hi
      by_cases hn : n = m
      · rw [if_pos hn] at hi
        obtain ⟨j, -, rfl⟩ := Option.map_eq_some_iff.1 hi
        refine instanceAccounted_of_stage ?_
        -- no arrow leads to `Building`
        intro hbuilding
        have hstage : state.stage = .building := hbuilding
        rw [hstage] at hnext
        cases hnext
      · rw [if_neg hn] at hi
        exact h.instances n i hi
  | forgotten hfinal hinst =>
      rw [hinst, K8sManager.lookup_removeInstance] at hi
      by_cases hn : n = m
      · rw [if_pos hn] at hi
        cases hi
      · rw [if_neg hn] at hi
        exact h.instances n i hi

/-- A piece of a handler: what is heard by it and the request that it sends are accounted for. -/
theorem Accounting.of_piece (h : Accounting setup w tr) {n : UInt32} {stage : Stage}
    {o : Outcome} {rest : List (UInt32 × PrInstance)}
    (heff : Lifecycle.StageEffect w.shared n stage o)
    (hrest : ∀ e ∈ rest, InstanceAccounted setup tr e.1 e.2)
    (hcalled : ∀ id, ∀ e ∈ t, calledBy id e = none ∧ headOf id e = none)
    (hjustified : Justified (Accounted setup) (tr ++ t))
    (hsent : ∀ pc r, o.flow = .await pc → pc.request n = some r →
      Accounted setup (tr ++ t) (.asked r)) :
    Accounting setup ⟨o.shared, w.calls, Lifecycle.afterFlow n rest o.flow⟩
      ((tr ++ t) ++ (Lifecycle.afterFlow n rest o.flow).request.toList.map .asked) where
  calls id' := ((h.calls id').mono (fun e he => (hcalled id' e he).1)
    fun e he => (hcalled id' e he).2).mono (lastOf_append_sent (fun _ => rfl) _)
      (lastOf_append_sent (fun _ => rfl) _)
  waiting id' r hr := List.mem_append_left _ (List.mem_append_left _ (h.waiting id' r hr))
  instances m i hi := ((h.instances_of_stageEffect heff hi).mono _).mono _
  loop := by
    have hentries : ∀ e ∈ rest, InstanceAccounted setup
        ((tr ++ t) ++ (Lifecycle.afterFlow n rest o.flow).request.toList.map .asked) e.1 e.2 :=
      fun e he => ((hrest e he).mono _).mono _
    cases hflow : o.flow with
    | await pc => rw [hflow] at hentries; exact hentries
    | done => rw [hflow] at hentries; exact hentries
    | panicked => trivial
  running r hr := List.mem_append_right _ (by
    dsimp only at hr
    rw [hr]
    exact List.mem_singleton_self _)
  justified := by
    refine justified_append_sent hjustified ?_
    intro r hr
    cases hflow : o.flow with
    | await pc =>
        rw [hflow] at hr
        exact hsent pc r hflow hr
    | done =>
        rw [hflow] at hr
        cases hr
    | panicked =>
        rw [hflow] at hr
        cases hr

theorem accounting_advance {now : Instant} (h : Accounting setup w tr)
    (hstep : Lifecycle.step setup w (.advance now) = some (w', t₀)) :
    Accounting setup w' (tr ++ observe setup w (.advance now)) := by
  rw [observe_of_step hstep, ← List.append_assoc]
  have hloop := h.loop
  rcases Lifecycle.step_advance_iff.1 hstep with ⟨-, rfl, -⟩ | ⟨n, i, rest, hnext, rfl, -⟩
  · -- the tick ends
    simp only [heard, sent, LoopState.request, Option.toList_none, List.map_nil, List.append_nil]
    exact ⟨h.calls, h.waiting, h.instances, trivial, fun r hr => (by cases hr), h.justified⟩
  · rw [hnext] at hloop
    have hentry := hloop (n, i) List.mem_cons_self
    have hdispatched := Lifecycle.dispatched_dispatch setup w.shared n i now
    have hjustified : Justified (Accounted setup) (tr ++ heard w (.advance now)) := by
      simp only [heard, List.append_nil]
      exact h.justified
    refine h.of_piece (Lifecycle.stageEffect_of_dispatched hdispatched)
      (fun e he => hloop e (List.mem_cons_of_mem _ he)) (by simp [heard]) hjustified ?_
    intro pc r hflow hr
    -- the handler asks about the queue item of the entry, not of the tracked instance
    obtain ⟨startedAt, queueUrl, hstate, rfl⟩ := request_of_dispatched hdispatched hflow hr
    exact (hentry startedAt queueUrl hstate).mono []

theorem accounting_resume {answer : Answer} (h : Accounting setup w tr)
    (hstep : Lifecycle.step setup w (.resume answer) = some (w', t₀)) :
    Accounting setup w' (tr ++ observe setup w (.resume answer)) := by
  rw [observe_of_step hstep, ← List.append_assoc]
  have hloop := h.loop
  obtain ⟨n, pc, rest, o, hrunning, ho, rfl, -⟩ := Lifecycle.step_resume_iff.1 hstep
  rw [hrunning] at hloop
  have hresumed := Lifecycle.resumed_of_resume ho
  -- Jenkins names the build of the queue item that it was asked about
  have hheard : (∀ id, ∀ e ∈ heard w (.resume answer), calledBy id e = none ∧ headOf id e = none) ∧
      Justified (Accounted setup) (tr ++ heard w (.resume answer)) := by
    unfold heard
    split
    · rename_i heq
      cases heq
    · rename_i heq
      cases heq
    · rename_i heq
      cases heq
    · split
      · rename_i m commitHashShort queueUrl rest' hpc
        refine ⟨by simp [calledBy, headOf], justified_append_one h.justified ?_⟩
        exact h.running _ (by rw [hpc]; rfl)
      · exact ⟨by simp, by rw [List.append_nil]; exact h.justified⟩
    · exact ⟨by simp, by rw [List.append_nil]; exact h.justified⟩
  refine h.of_piece (Lifecycle.stageEffect_of_resumed hresumed) hloop hheard.1 hheard.2 ?_
  intro pc' r hflow hr
  obtain ⟨commitHashShort, queueUrl, url, rfl, rfl, rfl⟩ := request_of_resumed hresumed hflow hr
  simp [Accounted, heard, hrunning]

theorem accounting_step (h : Accounting setup w tr)
    (hstep : Lifecycle.step setup w label = some (w', t₀)) :
    Accounting setup w' (tr ++ observe setup w label) := by
  cases label with
  | start id label => exact accounting_start h hstep
  | tick snapshot =>
      rw [observe_of_step hstep]
      obtain ⟨-, hperm, rfl, -⟩ := Lifecycle.step_tick_iff.1 hstep
      simp only [heard, sent, Option.toList_none, List.map_nil, List.append_nil]
      refine ⟨h.calls, h.waiting, h.instances, ?_, fun r hr => (by cases hr), h.justified⟩
      intro e he
      exact h.instances e.1 e.2 ((KeyedMap.mem_pairs_iff _ e.1 e.2).1 (hperm.mem_iff.1 he))
  | advance now => exact accounting_advance h hstep
  | resume answer => exact accounting_resume h hstep

end Steps

theorem accounting_started {setup : Setup} {sh : Shared} (h : Recovery.AllReady sh.instances) :
    Accounting setup (Lifecycle.started sh) [] where
  calls _ := trivial
  waiting id r hr := by cases hr
  instances n i hi := by
    refine instanceAccounted_of_stage fun hbuilding => ?_
    have hready := h n i hi
    cases hstate : i.state with
    | ready deploymentName address port readyAt shutdownAt =>
        rw [hstate] at hbuilding
        cases hbuilding
    | _ =>
        rw [hstate] at hready
        cases hready
  loop := trivial
  running r hr := by cases hr
  justified := justified_nil

/-! ## Runs -/

section Runs

variable {setup : Setup} {staticBackends : KeyedMap String BackendServer} {builds : PrBuilds}
  {deployments : KeyedMap String String} {services : KeyedMap String (Option Int32)}
  {loadError : Option String} {answers : PrBuild → RowAnswers} {sh : Shared}
  {result : Except String Nat} {labels : List Label} {w : World} {tr : List ServiceEvent}

/-- After any recovery, every run keeps its accounts. -/
theorem accounting_exec
    (hrec : Recovery.recoverFromDb setup.kubernetes loadError answers
      (Shared.startUp staticBackends builds deployments services) = some (sh, result))
    (hrun : (system setup).exec (Lifecycle.started sh) labels = some (w, tr)) :
    Accounting setup w tr := by
  have hready : Recovery.AllReady sh.instances :=
    Recovery.allReady_recoverFromDb (fun n i hi => by cases hi) hrec
  refine @System.exec_invariant _ _ _ (system setup) (fun _ _ => True) (Accounting setup) ?_
    labels (Lifecycle.started sh) w [] tr (accounting_started hready)
    (System.meets_of_forall _ (by simp) _) hrun
  intro w tr label w' t h _ hstep
  obtain ⟨⟨t₀, hlifecycle⟩, rfl⟩ := (System.step_observed_iff _).1 hstep
  exact accounting_step h hlifecycle

end Runs

/-- After any recovery, in every interleaving of the loop and the `start_pr` calls, every request
and every answer is accounted for by what came before it. -/
theorem requests_accounted (setup : Setup) (staticBackends : KeyedMap String BackendServer)
    (builds : PrBuilds) (deployments : KeyedMap String String)
    (services : KeyedMap String (Option Int32)) (loadError : Option String)
    (answers : PrBuild → RowAnswers) (sh : Shared) (result : Except String Nat)
    (labels : List Label) (w : World) (tr : List ServiceEvent)
    (hrec : Recovery.recoverFromDb setup.kubernetes loadError answers
      (Shared.startUp staticBackends builds deployments services) = some (sh, result))
    (hrun : (system setup).exec (Lifecycle.started sh) labels = some (w, tr)) :
    Justified (Accounted setup) tr :=
  (accounting_exec hrec hrun).justified

/-- The call numbered 0 has PR 7 built, and the next tick asks Jenkins about it. -/
def buildSample : List Label :=
  Lifecycle.sampleChecks 0 7 "0123456789abcdef" ++
    [Lifecycle.sampleTrigger 0 "https://jenkins.example.com/queue/item/1/",
      .tick [(7, .newBuilding 7 "0123456789abcdef" "0123456"
        "https://jenkins.example.com/queue/item/1/" ⟨0⟩)],
      .advance ⟨0⟩, .resume (.queueItem (.ok (some "https://jenkins.example.com/job/steel/1/")))]

/-- The events of this run. -/
def buildTrace : List ServiceEvent :=
  [.called 0 7, .asked (.prHead 0 7), .headNamed 0 "0123456789abcdef",
    .asked (.triggerBuild 0 7 "0123456"),
    .queued 0 7 (some "https://jenkins.example.com/queue/item/1/"),
    .asked (.buildUrl 7 "https://jenkins.example.com/queue/item/1/"),
    .buildNamed 7 "https://jenkins.example.com/queue/item/1/"
      "https://jenkins.example.com/job/steel/1/",
    .asked (.buildStatus 7 "https://jenkins.example.com/queue/item/1/"
      "https://jenkins.example.com/job/steel/1/")]

/-- The stores when the proxy starts with an empty table. -/
def emptyStart : Shared := .startUp ∅ .empty ∅ ∅

theorem exec_buildSample :
    ∃ w, (system Lifecycle.sampleSetup).exec (Lifecycle.started emptyStart) buildSample =
      some (w, buildTrace) := by
  have hevents : ((system Lifecycle.sampleSetup).exec (Lifecycle.started emptyStart)
      buildSample).map Prod.snd = some buildTrace := by decide +kernel
  exact System.exists_exec_of_events _ hevents

theorem requests_accounted_buildSample :
    Justified (Accounted Lifecycle.sampleSetup) buildTrace := by
  obtain ⟨w, hrun⟩ := exec_buildSample
  exact requests_accounted Lifecycle.sampleSetup ∅ .empty ∅ ∅ none (fun _ => Recovery.unreachable)
    emptyStart (.ok 0) buildSample w buildTrace rfl hrun

end Requests

end SteelProxy
