import SteelProxy.K8s.ClusterEffects
import SteelProxy.K8s.Manifests
import SteelProxy.K8s.Recovery

/-!
# The commit of a cached build

A row of `pr_builds` stores the full hash of its commit, but `exists_with_commit`, the image tag
and the Jenkins parameter know a commit by the first seven characters of its hash. What a skipped
build says about the cached row is therefore agreement on these characters
(`skips_sound_short`): two commits of a PR that differ later are one commit to the cache
(`colliding_commit_cached`).

The stores, the handlers and the calls carry hashes beside their short forms. That the two belong
together is an invariant of every run (`Known`), from any table that upserts of `handle_starting`
have left and through recovery.
-/

set_option autoImplicit false

namespace SteelProxy

open SteelProxy.Library SteelProxy.Library.Transition

/-! ## Short hashes -/

/-- The first seven characters of a hash. -/
def shortHash (commitHash : String) : String := String.ofList (commitHash.toList.take 7)

/-- The hashes have the same first seven characters. -/
def SameShort (h h' : String) : Prop := shortHash h = shortHash h'

theorem getPrHeadCommit_eq_ok_iff {answer : HttpAnswer String}
    {commitHash commitHashShort : String} :
    GitHubClient.getPrHeadCommit answer = .ok (commitHash, commitHashShort) ↔
      answer = .ok commitHash ∧ commitHashShort = shortHash commitHash := by
  cases answer with
  | failed => simp [GitHubClient.getPrHeadCommit]
  | status code display body => simp [GitHubClient.getPrHeadCommit]
  | badBody error => simp [GitHubClient.getPrHeadCommit]
  | ok sha =>
      simp only [GitHubClient.getPrHeadCommit, Except.ok.injEq, Prod.mk.injEq, HttpAnswer.ok.injEq]
      constructor
      · rintro ⟨rfl, rfl⟩
        exact ⟨rfl, rfl⟩
      · rintro ⟨rfl, rfl⟩
        exact ⟨rfl, rfl⟩

/-! ## Tables written by `handle_starting` -/

/-- An upsert of `handle_starting`: the PR, the full hash of the instance, and the clock. -/
structure Persisted where
  n : UInt32
  commitHash : String
  now : String

/-- The upsert of `handle_starting`. -/
def PrBuilds.persist (t : PrBuilds) (u : Persisted) : PrBuilds :=
  t.upsert u.n u.commitHash (shortHash u.commitHash) (imageTagOf u.n (shortHash u.commitHash))
    "Ready" none u.now

/-- The table after a sequence of these upserts. -/
def PrBuilds.persisted (history : List Persisted) : PrBuilds :=
  history.foldl PrBuilds.persist PrBuilds.empty

namespace CommitIdentity

/-- The short hash and the image tag of a row are those of its commit. -/
def RowKnown (row : PrBuild) : Prop :=
  row.commitHashShort = shortHash row.commitHash ∧
    ∀ n, row.prNumber = prNumberAsI64 n → row.imageTag = imageTagOf n (shortHash row.commitHash)

/-- All rows of the table are known. -/
def TableKnown (builds : PrBuilds) : Prop :=
  ∀ row ∈ builds.rows, RowKnown row

theorem TableKnown.persist {builds : PrBuilds} (h : TableKnown builds) (u : Persisted) :
    TableKnown (builds.persist u) := by
  intro row hrow
  rcases PrBuilds.mem_rows_upsert hrow with ⟨hold, -⟩ | ⟨hnumber, hhash, hshort, htag, -⟩
  · exact h row hold
  · refine ⟨by rw [hshort, hhash], ?_⟩
    intro n hn
    have hnu : n = u.n := prNumberAsI64_injective (hn.symm.trans hnumber)
    rw [htag, hhash, hnu]

theorem tableKnown_persisted (history : List Persisted) :
    TableKnown (PrBuilds.persisted history) := by
  have hfold : ∀ (builds : PrBuilds), TableKnown builds →
      TableKnown (history.foldl PrBuilds.persist builds) := by
    induction history with
    | nil => exact fun _ h => h
    | cons u history ih => exact fun builds h => ih _ (h.persist u)
  apply hfold
  intro row hrow
  cases hrow

theorem TableKnown.delete {builds : PrBuilds} (h : TableKnown builds) (n : UInt32) :
    TableKnown (builds.delete n) :=
  fun row hrow => h row ((builds.mem_rows_delete_iff n row).1 hrow).1

/-! ## Tracked instances and handlers -/

/-- The short hash of the instance is that of its commit. -/
def InstanceKnown (i : PrInstance) : Prop := i.commitHashShort = shortHash i.commitHash

/-- All tracked instances are known. -/
def InstancesKnown (m : Instances) : Prop :=
  ∀ n i, m.lookup n = some i → InstanceKnown i

/-- The hashes that a suspended handler holds belong together. -/
def PcKnown : HandlerPc → Prop
  | .checkReady commitHash commitHashShort _ _ _ => commitHashShort = shortHash commitHash
  | .register commitHash commitHashShort _ _ _ => commitHashShort = shortHash commitHash
  | .persist commitHash commitHashShort => commitHashShort = shortHash commitHash
  | _ => True

section Instances

variable {m : Instances}

theorem InstancesKnown.insert (h : InstancesKnown m) (n : UInt32) {i : PrInstance}
    (hi : InstanceKnown i) : InstancesKnown (AList.insert n i m) := by
  intro k j hj
  by_cases hk : k = n
  · subst hk
    rw [AList.lookup_insert, Option.some.injEq] at hj
    exact hj ▸ hi
  · rw [AList.lookup_insert_ne hk] at hj
    exact h k j hj

/-- No piece of a handler changes the hashes of an instance. -/
theorem InstancesKnown.of_effect {sh : Shared} {n : UInt32} {o : Outcome}
    (h : InstancesKnown sh.instances) (heff : Lifecycle.InstanceEffect sh n o) :
    InstancesKnown o.shared.instances := by
  intro k j hj
  rcases heff.change with hsame | ⟨state, hupdate⟩ | ⟨hremove, -, -⟩
  · rw [hsame] at hj
    exact h k j hj
  · rw [hupdate, K8sManager.lookup_updateInstanceState] at hj
    split at hj
    · obtain ⟨i, hi, rfl⟩ := Option.map_eq_some_iff.1 hj
      exact h n i hi
    · exact h k j hj
  · rw [hremove, K8sManager.lookup_removeInstance] at hj
    split at hj
    · cases hj
    · exact h k j hj

end Instances

/-- A piece of a handler writes at most an upsert of a hash with its short form, and suspends
with hashes that belong together. -/
structure PieceKnown (sh : Shared) (o : Outcome) : Prop where
  builds : o.shared.builds = sh.builds ∨ ∃ u, o.shared.builds = sh.builds.persist u
  flow : ∀ pc, o.flow = .await pc → PcKnown pc

section Pieces

variable {setup : Setup} {sh sh' : Shared} {n : UInt32} {events : List Event}

theorem PieceKnown.of_done (hrows : sh'.builds = sh.builds) :
    PieceKnown sh ⟨sh', .done, events⟩ :=
  ⟨Or.inl hrows, by simp⟩

theorem PieceKnown.of_await {pc : HandlerPc} (hrows : sh'.builds = sh.builds) (hpc : PcKnown pc) :
    PieceKnown sh ⟨sh', .await pc, events⟩ := by
  refine ⟨Or.inl hrows, ?_⟩
  intro pc' heq
  cases heq
  exact hpc

theorem pieceKnown_of_dispatched {i : PrInstance} {now : Instant} {o : Outcome}
    (h : Lifecycle.Dispatched setup sh n i now o) (hi : InstanceKnown i) : PieceKnown sh o := by
  cases h with
  | buildTimedOut => exact .of_done rfl
  | notQueued => exact .of_done rfl
  | building => exact .of_await rfl trivial
  | deploying => exact .of_await rfl trivial
  | startTimedOut => exact .of_done rfl
  | starting => exact .of_await rfl hi
  | expired => exact .of_await rfl trivial
  | ready => exact .of_done rfl
  | shuttingDown => exact .of_await rfl trivial
  | failed => exact .of_done rfl

theorem pieceKnown_handleStartingChecked {commitHash commitHashShort : String}
    (deploymentName address : String) (port : UInt16) (call : KubeCall Deployment)
    (hrows : sh'.builds = sh.builds) (hknown : commitHashShort = shortHash commitHash) :
    PieceKnown sh (Lifecycle.handleStartingChecked sh' n commitHash commitHashShort deploymentName
      address port call) := by
  simp only [Lifecycle.handleStartingChecked]
  split
  · exact .of_await hrows hknown
  · exact .of_done hrows
  · exact .of_done hrows

theorem pieceKnown_of_resumed {pc : HandlerPc} {answer : Answer} {o : Outcome}
    (h : Lifecycle.Resumed setup sh n pc answer o) (hpc : PcKnown pc) : PieceKnown sh o := by
  cases h with
  | buildUrl commitHashShort queueUrl answer =>
      simp only [Lifecycle.handleBuildingUrl]
      split
      · exact .of_await rfl trivial
      · exact .of_done rfl
      · exact .of_done rfl
  | buildStatus commitHashShort queueUrl buildUrl answer =>
      simp only [Lifecycle.handleBuildingStatus]
      split <;> exact .of_done rfl
  | noDeploymentClient imageTag hclient => exact .of_done rfl
  | deploymentDeleted imageTag answer =>
      cases answer with
      | ok u => exact .of_await (by simp) trivial
      | error e => exact .of_await (by simp) trivial
  | settled imageTag => exact .of_await rfl trivial
  | deploymentCreated imageTag answer =>
      cases answer with
      | ok u => exact .of_await rfl trivial
      | error e => exact .of_done rfl
  | noServiceClient hclient => exact .of_done rfl
  | serviceDeleted answer => exact .of_await (by simp) trivial
  | serviceCreated answer now =>
      simp only [Lifecycle.createServiceCreated]
      cases answer with
      | error e => exact .of_done rfl
      | ok svc =>
          dsimp only
          split <;> exact .of_done rfl
  | noReadinessClient commitHash commitHashShort deploymentName address port hclient =>
      exact pieceKnown_handleStartingChecked _ _ _ _ rfl hpc
  | readinessChecked commitHash commitHashShort deploymentName address port answer =>
      exact pieceKnown_handleStartingChecked _ _ _ _ rfl hpc
  | registered commitHash commitHashShort deploymentName address port now readyAt =>
      simp only [Lifecycle.handleStartingRegistered]
      split
      · exact ⟨Or.inl rfl, by simp⟩
      · exact .of_await rfl hpc
  | persisted commitHash commitHashShort answer =>
      cases answer with
      | error e => exact .of_done rfl
      | ok now =>
          -- the only write of a row, with the hash and the short hash of the handler
          rw [show commitHashShort = shortHash commitHash from hpc]
          exact ⟨Or.inr ⟨⟨n, commitHash, now⟩, rfl⟩, by simp [Lifecycle.handleStartingPersisted]⟩
  | unregistered deploymentName now readyAt => exact .of_done rfl
  | noTearDownClient hclient => exact .of_done rfl
  | deploymentTornDown answer =>
      simp only [Lifecycle.deleteInstanceDeployment]
      cases answer with
      | ok u => exact .of_await (by simp) trivial
      | error e =>
          dsimp only
          split
          · exact .of_await (by simp) trivial
          · exact .of_done (by simp [Shared.untrack])
  | serviceTornDown answer =>
      simp only [Lifecycle.deleteInstanceService]
      cases answer with
      | ok u => exact .of_done (by simp [Shared.untrack])
      | error e =>
          dsimp only
          split
          · exact .of_done (by simp [Shared.untrack])
          · exact .of_done (by simp [Shared.untrack])

theorem TableKnown.of_piece {o : Outcome} (h : TableKnown sh.builds) (hpiece : PieceKnown sh o) :
    TableKnown o.shared.builds := by
  rcases hpiece.builds with hsame | ⟨u, hupsert⟩
  · rw [hsame]
    exact h
  · rw [hupsert]
    exact h.persist u

end Pieces

/-! ## Recovery -/

/-- The stores hold hashes that belong together. -/
structure SharedKnown (sh : Shared) : Prop where
  rows : TableKnown sh.builds
  instances : InstancesKnown sh.instances

theorem sharedKnown_startUp (staticBackends : KeyedMap String BackendServer)
    (history : List Persisted) (deployments : KeyedMap String String)
    (services : KeyedMap String (Option Int32)) :
    SharedKnown (Shared.startUp staticBackends (PrBuilds.persisted history) deployments services)
    where
  rows := tableKnown_persisted history
  instances := by
    intro n i hi
    cases hi

/-- A recovered instance takes both hashes from its row. -/
theorem SharedKnown.recoverBuild {config : KubernetesConfig} {a : RowAnswers} {r r' : Recovery}
    {build : PrBuild} (h : SharedKnown r.shared) (hbuild : RowKnown build)
    (hstep : Recovery.recoverBuild config a r build = some r') : SharedKnown r'.shared := by
  cases Recovery.recovered_of_recoverBuild hstep with
  | ready deployment svc nodePort hcall hready hservice hport hrecover =>
      obtain ⟨shutdownAt, -, rfl⟩ := Recovery.recoverReady_eq_some_iff.1 hrecover
      exact ⟨h.rows, h.instances.insert _ hbuild.1⟩
  | deferred deployment hcall hready => exact ⟨h.rows, h.instances⟩
  | removed hreport =>
      simp only [Recovery.deleteBuild]
      split
      · exact ⟨h.rows.delete _, h.instances⟩
      · exact ⟨h.rows, h.instances⟩

theorem SharedKnown.recoverFromDb {config : KubernetesConfig} {loadError : Option String}
    {answers : PrBuild → RowAnswers} {sh sh' : Shared} {result : Except String Nat}
    (h : SharedKnown sh)
    (hrec : Recovery.recoverFromDb config loadError answers sh = some (sh', result)) :
    SharedKnown sh' := by
  rcases Recovery.exec_of_recoverFromDb hrec with rfl | ⟨count, t, hrun⟩
  · exact h
  · -- the rows were loaded before the loop, so the deletes of earlier rows do not matter
    have hmeets : (Recovery.system config answers).Meets (fun _ build => RowKnown build) ⟨sh, 0⟩
        sh.builds.getActiveBuilds :=
      System.meets_of_forall _ (fun _ build hmem => h.rows build (List.mem_filter.1 hmem).1) _
    exact System.exec_state_invariant (Recovery.system config answers)
      (fun r => SharedKnown r.shared)
      (fun r build r' _ hr hbuild hstep =>
        hr.recoverBuild hbuild (Recovery.step_eq_some_iff.1 hstep).1) h hmeets hrun

/-! ## Skipped builds -/

/-- What a call of `start_pr` learns and does on its way past Jenkins: the head commit that GitHub
answers, the table on which `exists_with_commit` runs, and the instance tracked for a skipped
build. -/
inductive SkipEvent where
  | head (id : Nat) (n : UInt32) (commitHash : String)
  | queried (id : Nat) (builds : PrBuilds)
  | skipped (id : Nat) (n : UInt32) (instance_ : PrInstance)
  deriving DecidableEq

/-- What the call numbered `id` learns when it goes on with a label. -/
def learned (w : World) (id : Nat) : StartLabel → List SkipEvent
  | .githubAnswered (.ok commitHash) =>
      match w.calls id with
      | .github n => [.head id n commitHash]
      | _ => []
  | .buildsQueried none =>
      match w.calls id with
      | .database _ _ _ => [.queried id w.shared.builds]
      | _ => []
  | _ => []

/-- The builds that a piece of the call numbered `id` skips: it inserts an instance that deploys,
and the call is over without one to Jenkins. -/
def skipped (id : Nat) (o : StartPr.Outcome) : List SkipEvent :=
  if o.call = .idle then
    o.events.flatMap fun event =>
      match event with
      | .inserted n _ =>
          match o.shared.instances.lookup n with
          | some instance_ =>
              match instance_.state with
              | .deploying _ => [.skipped id n instance_]
              | _ => []
          | none => []
      | _ => []
  else
    []

/-- The events of a step. -/
def observe (setup : Setup) (w : World) : Label → List SkipEvent
  | .start id label =>
      learned w id label ++
        ((StartPr.step setup w.shared id (w.calls id) label).toList.flatMap (skipped id))
  | _ => []

/-- The loop and the `start_pr` calls, with these events. -/
def system (setup : Setup) : System World Label SkipEvent :=
  (Lifecycle.system setup).observed (observe setup)

/-- The PR and the head commit of the call numbered `id`. -/
def headOf (id : Nat) : SkipEvent → Option (UInt32 × String)
  | .head id' n commitHash => if id' = id then some (n, commitHash) else none
  | _ => none

/-- The table that the call numbered `id` has queried. -/
def queriedBy (id : Nat) : SkipEvent → Option PrBuilds
  | .queried id' builds => if id' = id then some builds else none
  | _ => none

/-- The table has a `Ready` row of PR `n` whose full hash agrees with `commitHash`. -/
def CachedFor (agree : String → String → Prop) (builds : PrBuilds) (n : UInt32)
    (commitHash : String) : Prop :=
  ∃ row ∈ builds.rows, row.prNumber = prNumberAsI64 n ∧ row.state = "Ready" ∧
    agree row.commitHash commitHash

/-- A call skips the build of the head commit of its PR, and the table that it queried has this
commit, up to `agree`. -/
def SkipSound (agree : String → String → Prop) (pre : List SkipEvent) : SkipEvent → Prop
  | .skipped id n instance_ =>
      lastOf (headOf id) pre = some (n, instance_.commitHash) ∧
        ∃ builds, lastOf (queriedBy id) pre = some builds ∧
          CachedFor agree builds n instance_.commitHash
  | _ => True

/-- The image `imageTag` is that of the commit `commitHash` of PR `n`: a queried table says so, or
a skipped build of the commit deploys it. -/
def ImageFor (tr : List SkipEvent) (n : UInt32) (imageTag commitHash : String) : Prop :=
  (∃ id builds row, .queried id builds ∈ tr ∧ row ∈ builds.rows ∧
      row.prNumber = prNumberAsI64 n ∧ row.commitHash = commitHash ∧ row.imageTag = imageTag) ∨
    ∃ id instance_, .skipped id n instance_ ∈ tr ∧ instance_.commitHash = commitHash ∧
      instance_.state = .deploying imageTag

/-- Commits of one PR with the same cached image agree. -/
def ImagesShared (agree : String → String → Prop) (tr : List SkipEvent) : Prop :=
  ∀ n imageTag h h', ImageFor tr n imageTag h → ImageFor tr n imageTag h' → agree h h'

/-! ## The invariant of a run -/

/-- Recorded tables are known, and a skipped build deploys the image of its short hash. -/
def EventKnown : SkipEvent → Prop
  | .queried _ builds => TableKnown builds
  | .skipped _ n instance_ =>
      instance_.state = .deploying (imageTagOf n (shortHash instance_.commitHash))
  | .head _ _ _ => True

/-- The call numbered `id` carries its head commit with its short hash, and a hit in the table
that it has queried is a row with the same short hash. -/
def CallKnown (tr : List SkipEvent) (id : Nat) : StartCall → Prop
  | .database n commitHash commitHashShort =>
      commitHashShort = shortHash commitHash ∧ lastOf (headOf id) tr = some (n, commitHash)
  | .decided n commitHash commitHashShort existingBuild =>
      commitHashShort = shortHash commitHash ∧ lastOf (headOf id) tr = some (n, commitHash) ∧
        (existingBuild = true → ∃ builds, lastOf (queriedBy id) tr = some builds ∧
          CachedFor SameShort builds n commitHash)
  | .jenkins _ commitHash commitHashShort => commitHashShort = shortHash commitHash
  | _ => True

/-- The entries of the snapshot and the running handler are known. -/
def LoopKnown : LoopState → Prop
  | .next rest => ∀ e ∈ rest, InstanceKnown e.2
  | .running _ pc rest => PcKnown pc ∧ ∀ e ∈ rest, InstanceKnown e.2
  | _ => True

/-- Hashes belong together everywhere, and skipped builds are sound for short hashes. -/
structure Known (w : World) (tr : List SkipEvent) : Prop where
  shared : SharedKnown w.shared
  calls : ∀ id, CallKnown tr id (w.calls id)
  loop : LoopKnown w.loop
  events : ∀ e ∈ tr, EventKnown e
  sound : Justified (SkipSound SameShort) tr

theorem known_started {sh : Shared} (h : SharedKnown sh) : Known (Lifecycle.started sh) [] where
  shared := h
  calls := fun _ => trivial
  loop := trivial
  events := by simp
  sound := justified_nil

section Steps

variable {setup : Setup} {w w' : World} {tr t : List SkipEvent}

/-- A hit of `exists_with_commit` is a row with the same short hash. -/
theorem TableKnown.cachedFor {builds : PrBuilds} (h : TableKnown builds) {n : UInt32}
    {commitHash : String} (hexists : builds.existsWithCommit n (shortHash commitHash) = true) :
    CachedFor SameShort builds n commitHash := by
  obtain ⟨row, hrow, hnumber, hshort, hready⟩ := (builds.existsWithCommit_iff n _).1 hexists
  exact ⟨row, hrow, hnumber, hready, (h row hrow).1.symm.trans hshort⟩

/-- Events of other calls leave a call known. -/
theorem CallKnown.mono {id : Nat} {call : StartCall} (h : CallKnown tr id call)
    (hhead : ∀ e ∈ t, headOf id e = none) (hqueried : ∀ e ∈ t, queriedBy id e = none) :
    CallKnown (tr ++ t) id call := by
  have hlast : lastOf (headOf id) (tr ++ t) = lastOf (headOf id) tr :=
    lastOf_append_of_forall_none hhead
  have hlast' : lastOf (queriedBy id) (tr ++ t) = lastOf (queriedBy id) tr :=
    lastOf_append_of_forall_none hqueried
  cases call with
  | database n commitHash commitHashShort =>
      simp only [CallKnown, hlast]
      exact h
  | decided n commitHash commitHashShort existingBuild =>
      simp only [CallKnown, hlast, hlast']
      exact h
  | jenkins n commitHash commitHashShort => exact h
  | _ => trivial

/-- `Observed w id label t`: the call numbered `id` going on with `label` in `w` has the events
`t`. -/
inductive Observed (w : World) (id : Nat) : StartLabel → List SkipEvent → Prop where
  | nothing (label : StartLabel) : Observed w id label []
  | head (n : UInt32) (commitHash : String) (hcall : w.calls id = .github n) :
      Observed w id (.githubAnswered (.ok commitHash)) [.head id n commitHash]
  | queried (n : UInt32) (commitHash commitHashShort : String)
      (hcall : w.calls id = .database n commitHash commitHashShort) :
      Observed w id (.buildsQueried none) [.queried id w.shared.builds]
  | skipped (n : UInt32) (commitHash commitHashShort : String)
      (hcall : w.calls id = .decided n commitHash commitHashShort true) :
      Observed w id .buildsResumed
        [.skipped id n (.newDeploying n commitHash commitHashShort
          (imageTagOf n commitHashShort))]

theorem observed_learned (w : World) (id : Nat) (label : StartLabel) :
    Observed w id label (learned w id label) := by
  cases label with
  | githubAnswered answer =>
      cases answer with
      | ok commitHash =>
          simp only [learned]
          split
          · rename_i n hcall
            exact .head n commitHash hcall
          · exact .nothing _
      | _ => exact .nothing _
  | buildsQueried error =>
      cases error with
      | none =>
          simp only [learned]
          split
          · rename_i n commitHash commitHashShort hcall
            exact .queried n commitHash commitHashShort hcall
          · exact .nothing _
      | some e => exact .nothing _
  | _ => exact .nothing _

/-- The one piece that skips a build is that of a call for a cached commit. -/
theorem skipped_of_stepped {sh : Shared} {id : Nat} {call : StartCall} {label : StartLabel}
    {o : StartPr.Outcome} (hs : StartPr.Stepped setup sh id call label o) :
    skipped id o = [] ∨ ∃ n commitHash commitHashShort,
      call = .decided n commitHash commitHashShort true ∧ label = .buildsResumed ∧
        skipped id o = [.skipped id n (.newDeploying n commitHash commitHashShort
          (imageTagOf n commitHashShort))] := by
  cases hs with
  | cached n commitHash commitHashShort =>
      refine Or.inr ⟨n, commitHash, commitHashShort, rfl, rfl, ?_⟩
      simp [skipped, StartPr.deployCached, K8sManager.createDeployingInstance,
        PrInstance.newDeploying]
  | queued n commitHash commitHashShort queueUrl answer now hqueued =>
      -- the instance of a triggered build is not deployed yet
      left
      simp [skipped, StartPr.trackBuild, K8sManager.createBuildingInstance,
        PrInstance.newBuilding]
  | _ => exact Or.inl rfl

/-- A piece of a call has no events that `Observed` does not list. -/
theorem observed_of_step {id : Nat} {label : StartLabel} {o : StartPr.Outcome}
    (ho : StartPr.step setup w.shared id (w.calls id) label = some o) :
    Observed w id label (observe setup w (.start id label)) := by
  simp only [observe, ho, Option.toList_some, List.flatMap_singleton]
  rcases skipped_of_stepped (StartPr.stepped_of_step ho) with
    hskipped | ⟨n, commitHash, commitHashShort, hcall, rfl, hskipped⟩
  · rw [hskipped, List.append_nil]
    exact observed_learned w id label
  · rw [hskipped]
    exact .skipped n commitHash commitHashShort hcall

/-- The events of a call are read as events of no other call. -/
theorem Observed.of_ne {id id' : Nat} {label : StartLabel} (h : Observed w id label t)
    (hne : id ≠ id') : ∀ e ∈ t, headOf id' e = none ∧ queriedBy id' e = none := by
  cases h with
  | nothing => simp
  | head n commitHash hcall => simp [headOf, queriedBy, hne]
  | queried n commitHash commitHashShort hcall => simp [headOf, queriedBy, hne]
  | skipped n commitHash commitHashShort hcall => simp [headOf, queriedBy]

/-- The events of a call are known and sound. -/
theorem Known.of_observed (h : Known w tr) {id : Nat} {label : StartLabel}
    (hobs : Observed w id label t) :
    (∀ e ∈ tr ++ t, EventKnown e) ∧ Justified (SkipSound SameShort) (tr ++ t) := by
  have hcall := h.calls id
  have hone : ∀ e, EventKnown e → SkipSound SameShort tr e →
      (∀ e' ∈ tr ++ [e], EventKnown e') ∧ Justified (SkipSound SameShort) (tr ++ [e]) := by
    intro e hknown hsound
    refine ⟨?_, ?_⟩
    · rw [List.forall_mem_append, List.forall_mem_singleton]
      exact ⟨h.events, hknown⟩
    · rw [justified_append_iff, justified_singleton_iff, List.append_nil]
      exact ⟨h.sound, hsound⟩
  cases hobs with
  | nothing =>
      rw [List.append_nil]
      exact ⟨h.events, h.sound⟩
  | head n commitHash _ => exact hone _ trivial trivial
  | queried n commitHash commitHashShort _ => exact hone _ h.shared.rows trivial
  | skipped n commitHash commitHashShort hdecided =>
      rw [hdecided] at hcall
      obtain ⟨rfl, hhead, hqueried⟩ := hcall
      exact hone _ rfl ⟨hhead, hqueried rfl⟩

/-- The position of a call after a piece of it. -/
theorem Known.of_step (h : Known w tr) {id : Nat} {label : StartLabel} {o : StartPr.Outcome}
    (ho : StartPr.step setup w.shared id (w.calls id) label = some o) :
    CallKnown (tr ++ observe setup w (.start id label)) id o.call := by
  have hcall := h.calls id
  have hs := StartPr.stepped_of_step ho
  simp only [observe, ho, Option.toList_some, List.flatMap_singleton]
  generalize hcalls : w.calls id = call at hs hcall
  cases hs with
  | bailed error => trivial
  | begun n huntracked => trivial
  | registryChecked n habsent => trivial
  | commitReceived n answer commitHash commitHashShort hcommit =>
      obtain ⟨rfl, rfl⟩ := getPrHeadCommit_eq_ok_iff.1 hcommit
      simp only [learned, hcalls]
      exact ⟨rfl, by simp [skipped, lastOf_append_one, headOf]⟩
  | buildsQueried n commitHash commitHashShort =>
      obtain ⟨rfl, hhead⟩ := hcall
      simp only [learned, hcalls]
      refine ⟨rfl, ?_, ?_⟩
      · simpa [skipped, lastOf_append_one, headOf] using hhead
      · intro hexists
        exact ⟨w.shared.builds, by simp [skipped, lastOf_append_one, queriedBy],
          h.shared.rows.cachedFor hexists⟩
  | cached n commitHash commitHashShort => trivial
  | missed n commitHash commitHashShort => exact hcall.1
  | queued n commitHash commitHashShort queueUrl answer now hqueued => trivial

/-- A piece of a call tracks only instances whose hashes belong together. -/
theorem Known.sharedKnown_of_stepped (h : Known w tr) {id : Nat} {label : StartLabel}
    {o : StartPr.Outcome}
    (hs : StartPr.Stepped setup w.shared id (w.calls id) label o) : SharedKnown o.shared := by
  have hcall := h.calls id
  generalize w.calls id = call at hs hcall
  cases hs with
  | cached n commitHash commitHashShort =>
      exact ⟨h.shared.rows, h.shared.instances.insert n hcall.1⟩
  | queued n commitHash commitHashShort queueUrl answer now hqueued =>
      exact ⟨h.shared.rows, h.shared.instances.insert n hcall⟩
  | _ => exact h.shared

theorem known_start {id : Nat} {label : StartLabel} {t₀ : List Event} (h : Known w tr)
    (hstep : Lifecycle.step setup w (.start id label) = some (w', t₀)) :
    Known w' (tr ++ observe setup w (.start id label)) := by
  obtain ⟨o, ho, rfl, -⟩ := Lifecycle.step_start_iff.1 hstep
  have hobs := observed_of_step ho
  obtain ⟨hevents, hsound⟩ := h.of_observed hobs
  refine ⟨h.sharedKnown_of_stepped (StartPr.stepped_of_step ho), ?_, h.loop, hevents, hsound⟩
  intro id'
  by_cases hid : id' = id
  · subst hid
    simp only [Function.update_self]
    exact h.of_step ho
  · simp only [Function.update_of_ne hid]
    have hother := hobs.of_ne (Ne.symm hid)
    exact (h.calls id').mono (fun e he => (hother e he).1) fun e he => (hother e he).2

/-- A piece of the handler of PR `n`. -/
theorem Known.of_piece (h : Known w tr) {n : UInt32} {rest : List (UInt32 × PrInstance)}
    {o : Outcome} (heff : Lifecycle.InstanceEffect w.shared n o)
    (hpiece : PieceKnown w.shared o) (hrest : ∀ e ∈ rest, InstanceKnown e.2) :
    Known ⟨o.shared, w.calls, Lifecycle.afterFlow n rest o.flow⟩ tr where
  shared := ⟨h.shared.rows.of_piece hpiece, h.shared.instances.of_effect heff⟩
  calls := h.calls
  loop := by
    cases hflow : o.flow with
    | await pc => exact ⟨hpiece.flow pc hflow, hrest⟩
    | done => exact hrest
    | panicked => trivial
  events := h.events
  sound := h.sound

/-- One step keeps the invariant. -/
theorem known_step {label : Label} (h : Known w tr)
    (hstep : (system setup).step w label = some (w', t)) : Known w' (tr ++ t) := by
  obtain ⟨⟨t₀, hlifecycle⟩, rfl⟩ := System.step_observed_iff _ |>.1 hstep
  change Lifecycle.step setup w label = some (w', t₀) at hlifecycle
  cases label with
  | start id label => exact known_start h hlifecycle
  | tick snapshot =>
      obtain ⟨-, hperm, rfl, -⟩ := Lifecycle.step_tick_iff.1 hlifecycle
      simp only [observe, List.append_nil]
      refine ⟨h.shared, h.calls, ?_, h.events, h.sound⟩
      rintro ⟨n, i⟩ hmem
      exact h.shared.instances n i ((KeyedMap.mem_pairs_iff _ n i).1 (hperm.mem_iff.1 hmem))
  | advance now =>
      simp only [observe, List.append_nil]
      rcases Lifecycle.step_advance_iff.1 hlifecycle with
        ⟨-, rfl, -⟩ | ⟨n, i, rest, hloop, rfl, -⟩
      · exact ⟨h.shared, h.calls, trivial, h.events, h.sound⟩
      · have hnext := h.loop
        rw [hloop, LoopKnown, List.forall_mem_cons] at hnext
        have hdispatched := Lifecycle.dispatched_dispatch setup w.shared n i now
        exact h.of_piece (Lifecycle.instanceEffect_of_dispatched hdispatched)
          (pieceKnown_of_dispatched hdispatched hnext.1) hnext.2
  | resume answer =>
      obtain ⟨n, pc, rest, o, hloop, hresume, rfl, -⟩ := Lifecycle.step_resume_iff.1 hlifecycle
      have hrunning := h.loop
      rw [hloop] at hrunning
      have hres := Lifecycle.resumed_of_resume hresume
      simp only [observe, List.append_nil]
      exact h.of_piece (Lifecycle.instanceEffect_of_resumed hres)
        (pieceKnown_of_resumed hres hrunning.1) hrunning.2

end Steps

/-! ## Runs -/

/-- The image of a commit is named by its short hash. -/
theorem imageTag_of_imageFor {tr : List SkipEvent} (hevents : ∀ e ∈ tr, EventKnown e)
    {n : UInt32} {imageTag commitHash : String} (h : ImageFor tr n imageTag commitHash) :
    imageTag = imageTagOf n (shortHash commitHash) := by
  rcases h with ⟨id, builds, row, hmem, hrow, hnumber, rfl, rfl⟩ | ⟨id, i, hmem, rfl, hstate⟩
  · exact (hevents _ hmem row hrow).2 n hnumber
  · have hknown : i.state = .deploying (imageTagOf n (shortHash i.commitHash)) := hevents _ hmem
    rw [hknown, InstanceState.deploying.injEq] at hstate
    exact hstate.symm

theorem imagesShared_of_events {tr : List SkipEvent} (hevents : ∀ e ∈ tr, EventKnown e) :
    ImagesShared SameShort tr := by
  intro n imageTag h h' himage himage'
  have htag := imageTag_of_imageFor hevents himage
  rw [imageTag_of_imageFor hevents himage'] at htag
  exact (imageTagOf_inj htag).2.symm

/-- From any table that upserts of `handle_starting` have left, through recovery and in every run
of the loop with `start_pr` calls: a skipped build has a `Ready` row of its PR whose commit agrees
with the head commit on the first seven characters, and so do two commits of a PR with the same
cached image. -/
theorem skips_sound_short (setup : Setup) (staticBackends : KeyedMap String BackendServer)
    (history : List Persisted) (deployments : KeyedMap String String)
    (services : KeyedMap String (Option Int32)) (loadError : Option String)
    (answers : PrBuild → RowAnswers) (sh : Shared) (result : Except String Nat)
    (labels : List Label) (w : World) (tr : List SkipEvent)
    (hrec : Recovery.recoverFromDb setup.kubernetes loadError answers
      (Shared.startUp staticBackends (PrBuilds.persisted history) deployments services) =
        some (sh, result))
    (hrun : (system setup).exec (Lifecycle.started sh) labels = some (w, tr)) :
    Justified (SkipSound SameShort) tr ∧ ImagesShared SameShort tr := by
  have hstart := sharedKnown_startUp staticBackends history deployments services
  have h0 := known_started (hstart.recoverFromDb hrec)
  have hmeets : (system setup).Meets (fun _ _ => True) (Lifecycle.started sh) labels :=
    System.meets_of_forall _ (fun _ _ _ => trivial) _
  have hinv := System.exec_invariant (system setup)
    (fun _ _ _ _ _ h _ hstep => known_step h hstep) h0 hmeets hrun
  exact ⟨hinv.sound, imagesShared_of_events hinv.events⟩

/-- PR 7 was deployed for a commit in an earlier run. -/
def storedCommit : List Persisted := [⟨7, "0123456789abcdef", "2026-01-01 00:00:00"⟩]

/-- The stores of the next run. -/
def storedSample : Shared := Shared.startUp ∅ (PrBuilds.persisted storedCommit) ∅ ∅

/-- The pod of the row is not ready yet. -/
def startingPod : RowAnswers :=
  { Recovery.unreachable with deployment := .ok ⟨some 0⟩ }

/-- PR 7 is started for a head commit that differs from the stored one after seven characters. -/
def collidingStart : List Label :=
  Lifecycle.sampleChecks 0 7 "0123456fedcba987"

/-- The instance that this tracks. -/
def collidingInstance : PrInstance :=
  ⟨7, "0123456fedcba987", "0123456", .deploying "pr-7-0123456"⟩

/-- The events of this call. -/
def collidingEvents : List SkipEvent :=
  [.head 0 7 "0123456fedcba987", .queried 0 storedSample.builds, .skipped 0 7 collidingInstance]

theorem recovered_storedSample :
    Recovery.recoverFromDb Lifecycle.sampleSetup.kubernetes none (fun _ => startingPod)
      storedSample = some ({ storedSample with clientReady := true }, .ok 0) := by rfl

theorem exec_collidingStart :
    ∃ w, (system Lifecycle.sampleSetup).exec
      (Lifecycle.started { storedSample with clientReady := true }) collidingStart =
        some (w, collidingEvents) :=
  System.exists_exec_of_events _ (by decide +kernel)

/-- The build of PR 7 is skipped, and the cached commit agrees on seven characters. -/
theorem skips_sound_short_collidingStart :
    ∃ w, (system Lifecycle.sampleSetup).exec
        (Lifecycle.started { storedSample with clientReady := true }) collidingStart =
          some (w, collidingEvents) ∧
      Justified (SkipSound SameShort) collidingEvents ∧
        ImagesShared SameShort collidingEvents := by
  obtain ⟨w, hrun⟩ := exec_collidingStart
  exact ⟨w, hrun, skips_sound_short Lifecycle.sampleSetup ∅ storedCommit ∅ ∅ none
    (fun _ => startingPod) _ (.ok 0) collidingStart w collidingEvents recovered_storedSample hrun⟩

/-- The head commit is not that of the cached row, and its build is skipped all the same: it is
deployed with the image of the other commit. -/
theorem colliding_commit_cached :
    ∃ w, (system Lifecycle.sampleSetup).exec
        (Lifecycle.started { storedSample with clientReady := true }) collidingStart =
          some (w, collidingEvents) ∧
      ¬ Justified (SkipSound Eq) collidingEvents ∧ ¬ ImagesShared Eq collidingEvents := by
  obtain ⟨w, hrun⟩ := exec_collidingStart
  -- the only row of the queried table
  have hrows : ∃ row, storedSample.builds.rows = [row] ∧ row.prNumber = prNumberAsI64 7 ∧
      row.commitHash = "0123456789abcdef" ∧ row.imageTag = "pr-7-0123456" :=
    ⟨_, rfl, rfl, rfl, by decide⟩
  obtain ⟨row, hrow, hnumber, hhash, htag⟩ := hrows
  refine ⟨w, hrun, ?_, ?_⟩
  · intro hsound
    obtain ⟨-, builds, hqueried, row', hrow', -, -, hagree⟩ :=
      hsound [.head 0 7 "0123456fedcba987", .queried 0 storedSample.builds]
        (.skipped 0 7 collidingInstance) [] rfl
    have hbuilds : some storedSample.builds = some builds := hqueried
    cases hbuilds
    rw [hrow, List.mem_singleton] at hrow'
    rw [hrow', hhash] at hagree
    exact absurd hagree (by decide)
  · intro hshared
    have hstored : ImageFor collidingEvents 7 "pr-7-0123456" "0123456789abcdef" := by
      refine Or.inl ⟨0, storedSample.builds, row, by simp [collidingEvents], ?_, hnumber, hhash,
        htag⟩
      rw [hrow]
      exact List.mem_singleton_self row
    have hskipped : ImageFor collidingEvents 7 "pr-7-0123456" "0123456fedcba987" :=
      Or.inr ⟨0, collidingInstance, by simp [collidingEvents], rfl, rfl⟩
    exact absurd (hshared 7 _ _ _ hstored hskipped) (by decide)

end CommitIdentity

end SteelProxy
