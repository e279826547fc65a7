import SteelProxy.Library.Transition
import SteelProxy.K8s.Handlers

/-!
# `start_pr` calls interleaved with the lifecycle loop

The lifecycle loop and any number of `ProxyServer::start_pr` calls as one transition system. A
label is one task running from one `await` to the next with the answer it was waiting for, so a
run is an interleaving at the await points with arbitrary answers. Between two handlers the loop
has a step of its own; the interleavings of the program are among those of the model.
-/

set_option autoImplicit false

namespace SteelProxy

open SteelProxy.Library SteelProxy.Library.Transition

/-- The `await` at which a `start_pr` call is suspended; `idle` is a call that has not been made
or has returned. `decided` is a finished query whose result the call has not yet seen. -/
inductive StartCall where
  | idle
  | registry (n : UInt32)
  | github (n : UInt32)
  | database (n : UInt32) (commitHash commitHashShort : String)
  | decided (n : UInt32) (commitHash commitHashShort : String) (existingBuild : Bool)
  | jenkins (n : UInt32) (commitHash commitHashShort : String)
  deriving DecidableEq, Repr

/-- The PR of a call that is past its first checks and has not returned. -/
def StartCall.pending : StartCall → Option UInt32
  | .idle => none
  | .registry n => some n
  | .github n => some n
  | .database n _ _ => some n
  | .decided n _ _ _ => some n
  | .jenkins n _ _ => some n

/-- What happens to a `start_pr` call. -/
inductive StartLabel where
  | call (n : UInt32)
  | registryLocked
  | githubAnswered (answer : HttpAnswer String)
  | buildsQueried (error : Option String)
  | buildsResumed
  | jenkinsAnswered (answer : HttpAnswer (Option String)) (now : Instant)

/-- The position of the lifecycle loop: waiting for a tick, between two snapshot entries, inside
the handler of one entry, or dead after a panic. -/
inductive LoopState where
  | waiting
  | next (rest : List (UInt32 × PrInstance))
  | running (n : UInt32) (pc : HandlerPc) (rest : List (UInt32 × PrInstance))
  | panicked
  deriving DecidableEq, Repr

/-- The stores, the `start_pr` calls by number, and the loop. -/
structure World where
  shared : Shared
  calls : Nat → StartCall
  loop : LoopState

/-- One step: a `start_pr` call goes on, a tick takes a snapshot in some order, the loop takes
the next entry of the snapshot, or the running handler gets its answer. -/
inductive Label where
  | start (id : Nat) (label : StartLabel)
  | tick (snapshot : List (UInt32 × PrInstance))
  | advance (now : Instant)
  | resume (answer : Answer)

namespace StartPr

/-- The stores, the call and the events after a piece of `start_pr`. -/
structure Outcome where
  shared : Shared
  call : StartCall
  events : List Event

/-- `start_pr` returns an error. -/
def bail (sh : Shared) (id : Nat) (error : String) : Outcome :=
  ⟨sh, .idle, [.returned id (some error)]⟩

/-- `start_pr` up to the registry lock. -/
def begin_ (setup : Setup) (sh : Shared) (id : Nat) (n : UInt32) : Outcome :=
  if setup.githubConfigured then
    -- checked here only: nothing claims the PR before the instance is inserted after the awaits
    if K8sManager.hasInstance sh.instances n then
      bail sh id s!"PR #{n} is already being built or running"
    else
      ⟨sh, .registry n, []⟩
  else
    bail sh id "GitHub not configured"

/-- `start_pr` with the registry read lock, up to the GitHub lookup. -/
def checkRegistry (sh : Shared) (id : Nat) (n : UInt32) : Outcome :=
  if sh.backends.contains (backendName n) then
    bail sh id s!"PR #{n} instance already exists"
  else
    ⟨sh, .github n, [.broadcast s!"§7[Proxy] Fetching PR #{n} info from GitHub..."]⟩

/-- `start_pr` after the GitHub lookup, up to the database query. -/
def receiveCommit (sh : Shared) (id : Nat) (n : UInt32) (answer : HttpAnswer String) : Outcome :=
  match GitHubClient.getPrHeadCommit answer with
  -- the `?` of every await returns before a store is changed
  | .error e => bail sh id e
  | .ok (commitHash, commitHashShort) => ⟨sh, .database n commitHash commitHashShort, []⟩

/-- The database executes `exists_with_commit`, or fails. -/
def queryBuilds (sh : Shared) (id : Nat) (n : UInt32) (commitHash commitHashShort : String) :
    Option String → Outcome
  | some e => bail sh id e
  | none =>
      ⟨sh, .decided n commitHash commitHashShort
        (sh.builds.existsWithCommit n commitHashShort), []⟩

/-- The branch of `start_pr` that deploys the cached image. -/
def deployCached (sh : Shared) (id : Nat) (n : UInt32) (commitHash commitHashShort : String) :
    Outcome :=
  ⟨{ sh with
      instances := K8sManager.createDeployingInstance sh.instances n commitHash commitHashShort },
    .idle,
    [.broadcast s!"§a[Proxy] PR #{n} already built for commit {commitHashShort}. Deploying...",
      .inserted n (sh.instances.lookup n), .returned id none]⟩

/-- The end of `start_pr` once Jenkins has accepted the build. -/
def trackBuild (sh : Shared) (id : Nat) (n : UInt32)
    (commitHash commitHashShort queueUrl : String) (now : Instant) : Outcome :=
  ⟨{ sh with
      instances := K8sManager.createBuildingInstance sh.instances n commitHash commitHashShort
        queueUrl now },
    .idle,
    [.triggered n commitHashShort queueUrl, .inserted n (sh.instances.lookup n),
      .broadcast s!"§a[Proxy] PR #{n} build queued. You will be notified when it's ready.",
      .returned id none]⟩

/-- `start_pr` after the query: deploy the cached image, or go on to Jenkins. -/
def receiveBuilds (sh : Shared) (id : Nat) (n : UInt32) (commitHash commitHashShort : String)
    (existingBuild : Bool) : Outcome :=
  if existingBuild then
    deployCached sh id n commitHash commitHashShort
  else
    ⟨sh, .jenkins n commitHash commitHashShort,
      [.broadcast s!"§e[Proxy] Building PR #{n} (commit {commitHashShort})..."]⟩

/-- `start_pr` after `trigger_build`. -/
def receiveQueueUrl (setup : Setup) (sh : Shared) (id : Nat) (n : UInt32)
    (commitHash commitHashShort : String) (answer : HttpAnswer (Option String)) (now : Instant) :
    Outcome :=
  match JenkinsClient.triggerBuild setup.jenkins answer with
  | .error e => bail sh id e
  | .ok queueUrl => trackBuild sh id n commitHash commitHashShort queueUrl now

/-- One piece of the call numbered `id`; `none` when the call does not wait for this. -/
def step (setup : Setup) (sh : Shared) (id : Nat) (call : StartCall) (label : StartLabel) :
    Option Outcome :=
  match label with
  | .call n =>
      match call with
      | .idle => some (begin_ setup sh id n)
      | _ => none
  | .registryLocked =>
      match call with
      | .registry n => some (checkRegistry sh id n)
      | _ => none
  | .githubAnswered answer =>
      match call with
      | .github n => some (receiveCommit sh id n answer)
      | _ => none
  | .buildsQueried error =>
      match call with
      | .database n commitHash commitHashShort =>
          some (queryBuilds sh id n commitHash commitHashShort error)
      | _ => none
  | .buildsResumed =>
      match call with
      | .decided n commitHash commitHashShort existingBuild =>
          some (receiveBuilds sh id n commitHash commitHashShort existingBuild)
      | _ => none
  | .jenkinsAnswered answer now =>
      match call with
      | .jenkins n commitHash commitHashShort =>
          some (receiveQueueUrl setup sh id n commitHash commitHashShort answer now)
      | _ => none

/-- `Stepped setup sh id call label o`: the call numbered `id`, suspended as `call`, goes on with
`label` to the outcome `o`. A call that fails leaves the stores unchanged. -/
inductive Stepped (setup : Setup) (sh : Shared) (id : Nat) :
    StartCall → StartLabel → Outcome → Prop where
  | bailed (call : StartCall) (label : StartLabel) (error : String) :
      Stepped setup sh id call label (bail sh id error)
  | begun (n : UInt32) (huntracked : sh.instances.lookup n = none) :
      Stepped setup sh id .idle (.call n) ⟨sh, .registry n, []⟩
  | registryChecked (n : UInt32) (habsent : sh.backends.contains (backendName n) = false) :
      Stepped setup sh id (.registry n) .registryLocked
        ⟨sh, .github n, [.broadcast s!"§7[Proxy] Fetching PR #{n} info from GitHub..."]⟩
  | commitReceived (n : UInt32) (answer : HttpAnswer String)
      (commitHash commitHashShort : String)
      (hcommit : GitHubClient.getPrHeadCommit answer = .ok (commitHash, commitHashShort)) :
      Stepped setup sh id (.github n) (.githubAnswered answer)
        ⟨sh, .database n commitHash commitHashShort, []⟩
  | buildsQueried (n : UInt32) (commitHash commitHashShort : String) :
      Stepped setup sh id (.database n commitHash commitHashShort) (.buildsQueried none)
        ⟨sh, .decided n commitHash commitHashShort
          (sh.builds.existsWithCommit n commitHashShort), []⟩
  | cached (n : UInt32) (commitHash commitHashShort : String) :
      Stepped setup sh id (.decided n commitHash commitHashShort true) .buildsResumed
        (deployCached sh id n commitHash commitHashShort)
  | missed (n : UInt32) (commitHash commitHashShort : String) :
      Stepped setup sh id (.decided n commitHash commitHashShort false) .buildsResumed
        ⟨sh, .jenkins n commitHash commitHashShort,
          [.broadcast s!"§e[Proxy] Building PR #{n} (commit {commitHashShort})..."]⟩
  | queued (n : UInt32) (commitHash commitHashShort queueUrl : String)
      (answer : HttpAnswer (Option String)) (now : Instant)
      (hqueued : JenkinsClient.triggerBuild setup.jenkins answer = .ok queueUrl) :
      Stepped setup sh id (.jenkins n commitHash commitHashShort) (.jenkinsAnswered answer now)
        (trackBuild sh id n commitHash commitHashShort queueUrl now)

theorem stepped_begin {setup : Setup} {sh : Shared} {id : Nat} {n : UInt32} :
    Stepped setup sh id .idle (.call n) (begin_ setup sh id n) := by
  unfold begin_
  split
  · split
    · exact .bailed _ _ _
    · rename_i huntracked
      simp only [K8sManager.hasInstance, Bool.not_eq_true, Option.isSome_eq_false_iff,
        Option.isNone_iff_eq_none] at huntracked
      exact .begun n huntracked
  · exact .bailed _ _ _

theorem stepped_checkRegistry {setup : Setup} {sh : Shared} {id : Nat} {n : UInt32} :
    Stepped setup sh id (.registry n) .registryLocked (checkRegistry sh id n) := by
  unfold checkRegistry
  split
  · exact .bailed _ _ _
  · rename_i habsent
    exact .registryChecked n (by simpa using habsent)

theorem stepped_receiveCommit {setup : Setup} {sh : Shared} {id : Nat} {n : UInt32}
    {answer : HttpAnswer String} :
    Stepped setup sh id (.github n) (.githubAnswered answer) (receiveCommit sh id n answer) := by
  unfold receiveCommit
  cases h : GitHubClient.getPrHeadCommit answer with
  | error e => exact .bailed _ _ _
  | ok commit => exact .commitReceived n answer commit.1 commit.2 h

theorem stepped_receiveQueueUrl {setup : Setup} {sh : Shared} {id : Nat} {n : UInt32}
    {commitHash commitHashShort : String} {answer : HttpAnswer (Option String)} {now : Instant} :
    Stepped setup sh id (.jenkins n commitHash commitHashShort) (.jenkinsAnswered answer now)
      (receiveQueueUrl setup sh id n commitHash commitHashShort answer now) := by
  unfold receiveQueueUrl
  cases h : JenkinsClient.triggerBuild setup.jenkins answer with
  | error e => exact .bailed _ _ _
  | ok queueUrl => exact .queued n commitHash commitHashShort queueUrl answer now h

/-- `StartPr.step` does nothing that `Stepped` does not list. -/
theorem stepped_of_step {setup : Setup} {sh : Shared} {id : Nat} {call : StartCall}
    {label : StartLabel} {o : Outcome} (h : step setup sh id call label = some o) :
    Stepped setup sh id call label o := by
  cases label with
  | call n =>
      cases call with
      | idle => cases h; exact stepped_begin
      | _ => cases h
  | registryLocked =>
      cases call with
      | registry n => cases h; exact stepped_checkRegistry
      | _ => cases h
  | githubAnswered answer =>
      cases call with
      | github n => cases h; exact stepped_receiveCommit
      | _ => cases h
  | buildsQueried error =>
      cases call with
      | database n commitHash commitHashShort =>
          cases h
          cases error with
          | none => exact .buildsQueried n commitHash commitHashShort
          | some e => exact .bailed _ _ _
      | _ => cases h
  | buildsResumed =>
      cases call with
      | decided n commitHash commitHashShort existingBuild =>
          cases h
          cases existingBuild with
          | true => exact .cached n commitHash commitHashShort
          | false => exact .missed n commitHash commitHashShort
      | _ => cases h
  | jenkinsAnswered answer now =>
      cases call with
      | jenkins n commitHash commitHashShort => cases h; exact stepped_receiveQueueUrl
      | _ => cases h

end StartPr

namespace Lifecycle

/-- The position of the loop after a piece of the handler of PR `n`. -/
def afterFlow (n : UInt32) (rest : List (UInt32 × PrInstance)) : Flow → LoopState
  | .await pc => .running n pc rest
  | .done => .next rest
  | .panicked => .panicked

/-- One step of `run_lifecycle_loop` or of a `start_pr` call. -/
def step (setup : Setup) (w : World) (label : Label) : Option (World × List Event) :=
  match label with
  | .start id label =>
      match StartPr.step setup w.shared id (w.calls id) label with
      | none => none
      | some o =>
          some ({ w with shared := o.shared, calls := Function.update w.calls id o.call },
            o.events)
  | .tick snapshot =>
      match w.loop with
      | .waiting =>
          -- the source lists a hash map, so every order of its entries is possible
          if snapshot.Perm (K8sManager.getInstancesSnapshot w.shared.instances) then
            some ({ w with loop := .next snapshot }, [])
          else
            none
      | _ => none
  | .advance now =>
      match w.loop with
      | .next [] => some ({ w with loop := .waiting }, [])
      | .next ((n, instance_) :: rest) =>
          let o := dispatch setup w.shared n instance_ now
          some ({ w with shared := o.shared, loop := afterFlow n rest o.flow }, o.events)
      | _ => none
  | .resume answer =>
      match w.loop with
      | .running n pc rest =>
          match resume setup w.shared n pc answer with
          | none => none
          | some o =>
              some ({ w with shared := o.shared, loop := afterFlow n rest o.flow }, o.events)
      | _ => none

/-- The lifecycle loop with the `start_pr` calls. -/
def system (setup : Setup) : System World Label Event := ⟨step setup⟩

/-- The handler of PR `n` is in progress. -/
def InHandler (w : World) (n : UInt32) : Prop :=
  ∃ pc rest, w.loop = .running n pc rest

/-- The loop waits for its first tick and no `start_pr` call has been made. -/
def Fresh (w : World) : Prop :=
  (∀ id, w.calls id = .idle) ∧ w.loop = .waiting

/-- The loop and the calls at their start, over the stores `sh`. -/
def started (sh : Shared) : World := ⟨sh, fun _ => .idle, .waiting⟩

theorem fresh_started (sh : Shared) : Fresh (started sh) := ⟨fun _ => rfl, rfl⟩

/-! ## A sample configuration -/

/-- The defaults of `config.rs` with a local registry. -/
def sampleSetup : Setup where
  kubernetes := ⟨"localhost:5000/steel", 30, "steel-server", "127.0.0.1"⟩
  jenkins := ⟨"https://jenkins.example.com", 15⟩
  githubConfigured := true

/-- A proxy that has recovered nothing. -/
def sampleWorld : World := started (Shared.startUp ∅ PrBuilds.empty ∅ ∅)

theorem fresh_sampleWorld : Fresh sampleWorld := fresh_started _

/-- The call numbered `id` checks PR `n` and goes on to Jenkins. -/
def sampleChecks (id : Nat) (n : UInt32) (sha : String) : List Label :=
  [.start id (.call n), .start id .registryLocked, .start id (.githubAnswered (.ok sha)),
    .start id (.buildsQueried none), .start id .buildsResumed]

/-- Jenkins accepts the build of the call numbered `id`. -/
def sampleTrigger (id : Nat) (queueUrl : String) : Label :=
  .start id (.jenkinsAnswered (.ok (some queueUrl)) ⟨0⟩)

/-- The handler of a deploying instance creates the deployment and a service on NodePort 30007,
and the tick ends. -/
def sampleDeploy : List Label :=
  [.advance ⟨0⟩, .resume (.deleted (.error ⟨some 404, "not found"⟩)),
    .resume (.deploymentCreated (.ok ())), .resume (.deleted (.error ⟨some 404, "not found"⟩)),
    .resume (.serviceCreated (.ok ⟨some (some [⟨some 30007⟩])⟩) ⟨0⟩), .advance ⟨0⟩]

/-- The handler of a starting instance finds it ready and registers it. -/
def sampleRegister : List Label :=
  [.advance ⟨0⟩, .resume (.deploymentRead (.ok ⟨some 1⟩)), .resume (.registryLocked ⟨0⟩ ⟨0⟩)]

/-! ## What a step can do -/

variable {setup : Setup} {w w' : World} {t : List Event}

theorem step_start_iff {id : Nat} {label : StartLabel} :
    step setup w (.start id label) = some (w', t) ↔
      ∃ o, StartPr.step setup w.shared id (w.calls id) label = some o ∧
        w' = { w with shared := o.shared, calls := Function.update w.calls id o.call } ∧
        t = o.events := by
  simp only [step]
  cases h : StartPr.step setup w.shared id (w.calls id) label with
  | none => simp
  | some o =>
      simp only [Option.some.injEq, Prod.mk.injEq, exists_eq_left']
      exact and_congr eq_comm eq_comm

theorem step_tick_iff {snapshot : List (UInt32 × PrInstance)} :
    step setup w (.tick snapshot) = some (w', t) ↔
      w.loop = .waiting ∧
        snapshot.Perm (K8sManager.getInstancesSnapshot w.shared.instances) ∧
        w' = { w with loop := .next snapshot } ∧ t = [] := by
  simp only [step]
  cases hloop : w.loop with
  | waiting =>
      by_cases hperm : snapshot.Perm (K8sManager.getInstancesSnapshot w.shared.instances)
      · simp only [hperm, if_true, Option.some.injEq, Prod.mk.injEq, true_and]
        exact and_congr eq_comm eq_comm
      · simp [hperm]
  | next rest => simp
  | running n pc rest => simp
  | panicked => simp

theorem step_advance_iff {now : Instant} :
    step setup w (.advance now) = some (w', t) ↔
      (w.loop = .next [] ∧ w' = { w with loop := .waiting } ∧ t = []) ∨
        ∃ n instance_ rest, w.loop = .next ((n, instance_) :: rest) ∧
          w' = { w with
            shared := (dispatch setup w.shared n instance_ now).shared
            loop := afterFlow n rest (dispatch setup w.shared n instance_ now).flow } ∧
          t = (dispatch setup w.shared n instance_ now).events := by
  simp only [step]
  cases hloop : w.loop with
  | waiting => simp
  | next rest =>
      cases rest with
      | nil =>
          simp only [Option.some.injEq, Prod.mk.injEq, true_and]
          constructor
          · rintro ⟨rfl, rfl⟩
            exact Or.inl ⟨rfl, rfl⟩
          · rintro (⟨rfl, rfl⟩ | ⟨n, instance_, rest, h, -⟩)
            · exact ⟨rfl, rfl⟩
            · simp at h
      | cons e rest =>
          rcases e with ⟨n, instance_⟩
          simp only [Option.some.injEq, Prod.mk.injEq]
          -- only the second alternative is possible: the list of remaining entries is not empty
          constructor
          · rintro ⟨rfl, rfl⟩
            exact Or.inr ⟨n, instance_, rest, rfl, rfl, rfl⟩
          · rintro (⟨h, -⟩ | ⟨n', instance', rest', h, rfl, rfl⟩)
            · simp at h
            · simp only [LoopState.next.injEq, List.cons.injEq, Prod.mk.injEq] at h
              obtain ⟨⟨rfl, rfl⟩, rfl⟩ := h
              exact ⟨rfl, rfl⟩
  | running n pc rest => simp
  | panicked => simp

theorem step_resume_iff {answer : Answer} :
    step setup w (.resume answer) = some (w', t) ↔
      ∃ n pc rest o, w.loop = .running n pc rest ∧
        resume setup w.shared n pc answer = some o ∧
        w' = { w with shared := o.shared, loop := afterFlow n rest o.flow } ∧ t = o.events := by
  simp only [step]
  cases hloop : w.loop with
  | waiting => simp
  | next rest => simp
  | running n pc rest =>
      constructor
      · intro hstep
        cases h : resume setup w.shared n pc answer with
        | none => simp [h] at hstep
        | some o =>
            simp only [h, Option.some.injEq, Prod.mk.injEq] at hstep
            obtain ⟨rfl, rfl⟩ := hstep
            exact ⟨n, pc, rest, o, rfl, h, rfl, rfl⟩
      · rintro ⟨n', pc', rest', o, heq, ho, rfl, rfl⟩
        simp only [LoopState.running.injEq] at heq
        obtain ⟨rfl, rfl, rfl⟩ := heq
        simp [ho]
  | panicked => simp

/-- After a piece the loop is in a handler only if the piece awaits. -/
theorem afterFlow_eq_running_iff {n k : UInt32} {rest rest' : List (UInt32 × PrInstance)}
    {flow : Flow} {pc : HandlerPc} :
    afterFlow n rest flow = .running k pc rest' ↔ flow = .await pc ∧ n = k ∧ rest = rest' := by
  cases flow with
  | await pc' =>
      simp only [afterFlow, LoopState.running.injEq, Flow.await.injEq]
      exact and_left_comm
  | done => simp [afterFlow]
  | panicked => simp [afterFlow]

/-- The loop does not read the calls. -/
theorem step_withCalls {label : Label} (calls : Nat → StartCall)
    (hstart : ∀ id start, label ≠ .start id start)
    (hstep : step setup w label = some (w', t)) :
    step setup { w with calls := calls } label = some ({ w' with calls := calls }, t) := by
  cases label with
  | start id start => exact absurd rfl (hstart id start)
  | tick snapshot =>
      obtain ⟨hloop, hperm, rfl, rfl⟩ := step_tick_iff.1 hstep
      exact step_tick_iff.2 ⟨hloop, hperm, rfl, rfl⟩
  | advance now =>
      rcases step_advance_iff.1 hstep with ⟨hloop, rfl, rfl⟩ | ⟨n, i, rest, hloop, rfl, rfl⟩
      · exact step_advance_iff.2 (Or.inl ⟨hloop, rfl, rfl⟩)
      · exact step_advance_iff.2 (Or.inr ⟨n, i, rest, hloop, rfl, rfl⟩)
  | resume answer =>
      obtain ⟨n, pc, rest, o, hloop, ho, rfl, rfl⟩ := step_resume_iff.1 hstep
      exact step_resume_iff.2 ⟨n, pc, rest, o, hloop, ho, rfl, rfl⟩

/-- The loop moves no call. -/
theorem calls_of_step {label : Label} (hstart : ∀ id start, label ≠ .start id start)
    (hstep : step setup w label = some (w', t)) : w'.calls = w.calls := by
  have hsame := step_withCalls w.calls hstart hstep
  rw [hstep] at hsame
  simp only [Option.some.injEq, Prod.mk.injEq, and_true] at hsame
  rw [hsame]

end Lifecycle

end SteelProxy
