import SteelProxy.K8s.Coherence
import SteelProxy.K8s.TimerEvents
import SteelProxy.Library.Text

/-!
# What a step does to the timers

For a row of the recovery, the dispatch of an entry, a resumed handler and a piece of a call: its
events are exact exactly when its timers fit, and it leaves the times held by the tracked
instances (`Timed`) those of the events.
-/

set_option autoImplicit false

namespace SteelProxy.Timers

open SteelProxy.Lifecycle SteelProxy.Library SteelProxy.Library.Transition

/-! ## Recovery -/

section Recovery

variable {setup : Setup} {config : KubernetesConfig} {a : RowAnswers} {r r' : Recovery}
  {build : PrBuild} {tr : List TimerEvent}

/-- A row with an endpoint is made `Ready`; any other leaves the instances alone. -/
theorem recoverBuild_cases (config : KubernetesConfig) (a : RowAnswers) (r : Recovery)
    (build : PrBuild) :
    (∃ address port, foundEndpoint config a r.shared = some (address, port) ∧
      Recovery.recoverBuild config a r build =
        Recovery.recoverReady config a { r with shared := Recovery.afterClient a r.shared }
          (prNumberAsU32 build.prNumber) build address port) ∨
      (foundEndpoint config a r.shared = none ∧
        ∃ r', Recovery.recoverBuild config a r build = some r' ∧
          r'.shared.instances = r.shared.instances) := by
  have hdelete : ∀ sh n, (Recovery.deleteBuild a sh n).instances = sh.instances := by
    intro sh n
    simp only [Recovery.deleteBuild]
    split <;> rfl
  simp only [Recovery.recoverBuild, foundEndpoint]
  cases K8sManager.isDeploymentReady (Recovery.deploymentCall a r.shared) with
  | error e => exact Or.inr ⟨rfl, _, rfl, hdelete _ _⟩
  | ok ready =>
      cases ready with
      | false => exact Or.inr ⟨rfl, _, rfl, rfl⟩
      | true =>
          cases K8sManager.getServiceInfo config (.answered a.service) with
          | error e => exact Or.inr ⟨rfl, _, rfl, hdelete _ _⟩
          | ok endpoint =>
              cases endpoint with
              | none => exact Or.inr ⟨rfl, _, rfl, hdelete _ _⟩
              | some e => exact Or.inl ⟨e.1, e.2, rfl, rfl⟩

theorem shutdownOf_recoverReady {n : UInt32} {address : String} {port : UInt16}
    (h : Recovery.recoverReady config a r n build address port = some r') :
    shutdownOf r'.shared n = a.now.addSecs (config.instanceTimeoutMinutes * 60) := by
  obtain ⟨shutdownAt, hsum, rfl⟩ := Recovery.recoverReady_eq_some_iff.1 h
  rw [shutdownOf_eq (AList.lookup_insert _), hsum]
  rfl

theorem lookup_recoverReady_of_ne {n k : UInt32} {address : String} {port : UInt16}
    (h : Recovery.recoverReady config a r n build address port = some r') (hk : k ≠ n) :
    r'.shared.instances.lookup k = r.shared.instances.lookup k := by
  obtain ⟨shutdownAt, -, rfl⟩ := Recovery.recoverReady_eq_some_iff.1 h
  exact AList.lookup_insert_ne hk

/-- A recovered instance is `Ready`, so it has neither left `Ready` nor timed out. -/
theorem moves_recoverReady {sh : Shared} {n : UInt32} {address : String} {port : UInt16}
    (h : Recovery.recoverReady config a r n build address port = some r') :
    moves n false sh r'.shared = [] := by
  obtain ⟨shutdownAt, -, rfl⟩ := Recovery.recoverReady_eq_some_iff.1 h
  apply moves_eq_nil
  · exact Or.inr (by rw [shutdownOf_eq (AList.lookup_insert _)]; rfl)
  · refine Or.inr ?_
    rw [hasTimedOut_iff (AList.lookup_insert _)]
    intro hstate
    cases hstate

/-- The only timer of a row is the shutdown time as the code computes it. -/
theorem recoverEvents_eq (setup : Setup) (a : RowAnswers) (r : Recovery) (build : PrBuild) :
    recoverEvents setup a r build =
      if (foundEndpoint setup.kubernetes a r.shared).isSome then
        [.deadline (prNumberAsU32 build.prNumber) a.now
          (a.now.addSecs (setup.kubernetes.instanceTimeoutMinutes * 60))]
      else
        [] := by
  simp only [recoverEvents]
  rcases recoverBuild_cases setup.kubernetes a r build with
    ⟨address, port, hfound, hbuild⟩ | ⟨hfound, r', hbuild, hinst⟩
  · rw [hbuild, hfound]
    cases hready : Recovery.recoverReady setup.kubernetes a
        { r with shared := Recovery.afterClient a r.shared } (prNumberAsU32 build.prNumber) build
        address port with
    | none =>
        simp only [Recovery.recoverReady] at hready
        cases hsum : a.now.addSecs (setup.kubernetes.instanceTimeoutMinutes * 60) with
        | none => rfl
        | some shutdownAt =>
            rw [hsum] at hready
            cases hready
    | some r' =>
        dsimp only
        rw [shutdownOf_recoverReady hready, moves_recoverReady hready]
  · rw [hbuild, hfound]
    exact moves_of_lookup_eq (by rw [hinst])

theorem justified_recoverEvents_iff :
    Justified (fun pre => Exact setup (tr ++ pre)) (recoverEvents setup a r build) ↔
      ((foundEndpoint setup.kubernetes a r.shared).isSome → ShutdownFits setup a.now) := by
  rw [recoverEvents_eq]
  split
  · rename_i hfound
    rw [justified_singleton_iff, Exact, addSecs_timeout_iff]
    exact ⟨fun hfits _ => hfits, fun hfits => hfits hfound⟩
  · rename_i hfound
    exact iff_of_true justified_nil fun h => absurd h hfound

theorem timed_recoverBuild (h : Timed setup r.shared tr)
    (hfits : (foundEndpoint setup.kubernetes a r.shared).isSome → ShutdownFits setup a.now)
    (hbuild : Recovery.recoverBuild setup.kubernetes a r build = some r') :
    Timed setup r'.shared (tr ++ recoverEvents setup a r build) := by
  rw [recoverEvents_eq]
  rcases recoverBuild_cases setup.kubernetes a r build with
    ⟨address, port, hfound, heq⟩ | ⟨hfound, r'', heq, hinst⟩
  · rw [heq] at hbuild
    have hexact := addSecs_timeout_iff.2 (hfits (by rw [hfound]; rfl))
    have hshutdown := (shutdownOf_recoverReady hbuild).trans hexact
    rw [hfound, Option.isSome_some, if_pos rfl]
    refine h.update (n := prNumberAsU32 build.prNumber) ?_ ?_ ?_
    · intro k hk
      have hlookup := lookup_recoverReady_of_ne hbuild hk
      exact hlookup
    · intro e he
      rw [List.mem_singleton.1 he]
      rfl
    · exact .of_deadline hshutdown _
  · rw [heq] at hbuild
    cases hbuild
    rw [hfound, if_neg (by simp), List.append_nil]
    exact h.congr hinst

end Recovery

/-! ## Pieces of a handler -/

/-- What a piece of the handler of PR `n` does to the times of `n`, other than registering it.
`late` is the case of the build timeout. -/
inductive TimerEffect (sh : Shared) (n : UInt32) (late : Prop) (o : Outcome) : Prop where
  | kept (hinst : o.shared.instances = sh.instances)
  | moved (state : InstanceState) (hready : state.shutdownTime = none)
      (hbuilding : state.buildStart = none) (hreason : state = .failed "Build timeout" → late)
      (hinst : o.shared.instances = K8sManager.updateInstanceState sh.instances n state)
  | dropped (hinst : o.shared.instances = K8sManager.removeInstance sh.instances n)

section TimerEffect

variable {setup : Setup} {sh : Shared} {n : UInt32} {late : Prop} {o : Outcome}
  {tr t : List TimerEvent}

/-- A piece that does not keep the instances leaves no time of PR `n`. -/
theorem TimerEffect.times (h : TimerEffect sh n late o) :
    o.shared.instances = sh.instances ∨
      (shutdownOf o.shared n = none ∧ buildStartOf o.shared n = none) := by
  cases h with
  | kept hinst => exact Or.inl hinst
  | moved state hready hbuilding hreason hinst =>
      right
      rw [shutdownOf, buildStartOf, lookup_of_updated hinst]
      cases sh.instances.lookup n with
      | none => exact ⟨rfl, rfl⟩
      | some i => exact ⟨hready, hbuilding⟩
  | dropped hinst =>
      right
      rw [shutdownOf, buildStartOf, lookup_of_removed hinst]
      exact ⟨rfl, rfl⟩

theorem TimerEffect.not_hasTimedOut (h : TimerEffect sh n late o) (hlate : ¬ late) :
    buildStartOf sh n = none ∨ ¬ HasTimedOut o.shared n := by
  cases h with
  | kept hinst =>
      cases hstart : buildStartOf sh n with
      | none => exact Or.inl rfl
      | some startedAt =>
          right
          rw [HasTimedOut, hinst]
          exact Timers.not_hasTimedOut (by rw [hstart]; rfl)
  | moved state hready hbuilding hreason hinst =>
      exact Or.inr (not_hasTimedOut_of_updated hinst fun hstate => hlate (hreason hstate))
  | dropped hinst => exact Or.inr (not_hasTimedOut_of_untracked (lookup_of_removed hinst))

/-- A piece on an instance that is not `Ready`, and not late, moves nothing. -/
theorem TimerEffect.moves_eq_nil (h : TimerEffect sh n late o) (hready : shutdownOf sh n = none)
    (hlate : ¬ late) {inTick : Bool} : moves n inTick sh o.shared = [] :=
  Timers.moves_eq_nil (Or.inl hready) (h.not_hasTimedOut hlate)

/-- The times stay those of the events, as long as no event records a new one. -/
theorem TimerEffect.timedAt (h : TimerEffect sh n late o) (htimed : TimedAt setup sh tr n)
    (hready : lastOf (readyTime n) (tr ++ t) = lastOf (readyTime n) tr)
    (hcreation : lastOf (creationTime n) (tr ++ t) = lastOf (creationTime n) tr) :
    TimedAt setup o.shared (tr ++ t) n := by
  rcases h.times with hinst | ⟨hnone, hstart⟩
  · exact htimed.congr (by rw [hinst]) hready hcreation
  · exact .of_none hnone hstart

end TimerEffect

/-! ## Dispatch -/

section Dispatch

variable {setup : Setup} {sh : Shared} {n : UInt32} {i : PrInstance} {now : Instant} {o : Outcome}
  {tr : List TimerEvent}

/-- The entry is that of a building instance which is late as the code computes it. -/
def LateEntry (setup : Setup) (i : PrInstance) (now : Instant) : Prop :=
  ∃ startedAt, i.state.buildStart = some startedAt ∧
    startedAt.elapsedExceeds now (JenkinsClient.buildTimeout setup.jenkins) = true

theorem timerEffect_of_dispatched (h : Dispatched setup sh n i now o) :
    TimerEffect sh n (LateEntry setup i now) o := by
  cases h with
  | buildTimedOut startedAt queueUrl message hstate hlate =>
      exact .moved _ rfl rfl (fun _ => ⟨startedAt, by rw [hstate]; rfl, hlate⟩) rfl
  | startTimedOut deploymentName address port startedAt message hstate hlate =>
      exact .moved _ rfl rfl (fun hreason => by cases hreason) rfl
  | failed reason hstate => exact .dropped rfl
  | _ => exact .kept rfl

/-- The dispatch of a `Ready` entry changes no store. -/
theorem shared_of_dispatched_ready (h : Dispatched setup sh n i now o)
    (hready : i.state.shutdownTime.isSome) : o.shared = sh := by
  cases h with
  | buildTimedOut startedAt queueUrl message hstate hlate =>
      rw [hstate] at hready
      cases hready
  | startTimedOut deploymentName address port startedAt message hstate hlate =>
      rw [hstate] at hready
      cases hready
  | failed reason hstate =>
      rw [hstate] at hready
      cases hready
  | _ => rfl

/-- The entry of the snapshot is `Ready` with the shutdown time of a `Ready` instance. -/
def Matches (sh : Shared) (n : UInt32) (i : PrInstance) : Prop :=
  ∀ shutdownAt, shutdownOf sh n = some shutdownAt → i.state.shutdownTime = some shutdownAt

theorem moves_dispatch_eq_nil (hmatches : Matches sh n i) (hlate : ¬ LateEntry setup i now) :
    moves n true sh (dispatch setup sh n i now).shared = [] := by
  have hdispatched := dispatched_dispatch setup sh n i now
  cases hready : shutdownOf sh n with
  | none => exact (timerEffect_of_dispatched hdispatched).moves_eq_nil hready hlate
  | some shutdownAt =>
      apply moves_of_lookup_eq
      rw [shared_of_dispatched_ready hdispatched (by rw [hmatches shutdownAt hready]; rfl)]

/-- A late entry times out the tracked instance, if that is building. -/
theorem moves_dispatch_of_late (hmatches : Matches sh n i) (hlate : LateEntry setup i now) :
    moves n true sh (dispatch setup sh n i now).shared =
      if (buildStartOf sh n).isSome then [.timedOut n] else [] := by
  obtain ⟨startedAt, hstart, hexceeds⟩ := hlate
  cases hstate : i.state with
  | building startedAt' queueUrl =>
      rw [hstate] at hstart
      cases hstart
      have hshared : (dispatch setup sh n i now).shared =
          sh.setState n (.failed "Build timeout") := by
        simp only [dispatch, hstate, handleBuilding, hexceeds, if_true]
      have hready : shutdownOf sh n = none := by
        apply Option.eq_none_iff_forall_ne_some.2
        intro shutdownAt hsome
        have hentry := hmatches shutdownAt hsome
        rw [hstate] at hentry
        cases hentry
      rw [hshared, moves, if_neg (by rw [hready]; simp)]
      cases htracked : sh.instances.lookup n with
      | none => rw [buildStartOf, htracked, Option.bind_none]; simp
      | some j =>
          have htimeout : HasTimedOut (sh.setState n (.failed "Build timeout")) n := by
            rw [hasTimedOut_iff (Shared.lookup_setState htracked _)]
          simp only [htimeout, and_true]
  | _ =>
      rw [hstate] at hstart
      cases hstart

theorem eq_of_mem_polls {e : TimerEvent} (h : e ∈ polls setup i) :
    e = .buildTimeout (JenkinsClient.buildTimeout setup.jenkins) := by
  simp only [polls] at h
  split at h
  · exact List.mem_singleton.1 h
  · cases h

theorem concerns_dispatchEvents : ∀ e ∈ dispatchEvents setup sh n i now, Concerns n e := by
  intro e he
  rcases List.mem_cons.1 he with rfl | he
  · rfl
  · rcases List.mem_append.1 he with he | he
    · rw [eq_of_mem_polls he]
      trivial
    · exact concerns_moves e he

/-- A check is the last one until the next. -/
theorem lastOf_append_checked (tr : List TimerEvent) (now : Instant) {t : List TimerEvent}
    (h : ∀ e ∈ t, Unread n e) :
    lastOf (readyTime n) (tr ++ .checked n now :: t) = lastOf (readyTime n) tr ∧
      lastOf (creationTime n) (tr ++ .checked n now :: t) = lastOf (creationTime n) tr ∧
        lastOf (checkTime n) (tr ++ .checked n now :: t) = some now := by
  rw [List.append_cons]
  obtain ⟨hready, hcreation, hcheck⟩ :=
    lastOf_append_of_unread (tr ++ [.checked n now]) h
  rw [hready, hcreation, hcheck, lastOf_append_one, lastOf_append_one, lastOf_append_one]
  exact ⟨rfl, rfl, by rw [checkTime_checked, Option.some_or]⟩

theorem lastOf_dispatchEvents :
    lastOf (readyTime n) (tr ++ dispatchEvents setup sh n i now) = lastOf (readyTime n) tr ∧
      lastOf (creationTime n) (tr ++ dispatchEvents setup sh n i now) =
        lastOf (creationTime n) tr ∧
          lastOf (checkTime n) (tr ++ dispatchEvents setup sh n i now) = some now := by
  apply lastOf_append_checked
  intro e he
  rcases List.mem_append.1 he with he | he
  · rw [eq_of_mem_polls he]
    exact ⟨rfl, rfl, rfl⟩
  · exact unread_moves e he

/-- What a late build must meet: the tracked instance is late as well. -/
theorem justified_moves_dispatch_iff (now : Instant) (htimed : TimedAt setup sh tr n)
    (hmatches : Matches sh n i)
    (hfits : 60 * setup.jenkins.buildTimeoutMinutes.toNat < 2 ^ 64) {startedAt : Instant}
    (hstart : i.state.buildStart = some startedAt) {t : List TimerEvent}
    (hunread : ∀ e ∈ t, Unread n e) :
    Justified (fun pre => Exact setup (tr ++ .checked n now :: t ++ pre))
        (moves n true sh (dispatch setup sh n i now).shared) ↔
      (buildTimeout setup < now.nanos - startedAt.nanos → ∀ trackedSince,
        buildStartOf sh n = some trackedSince →
          buildTimeout setup < now.nanos - trackedSince.nanos) := by
  have hlate : LateEntry setup i now ↔ buildTimeout setup < now.nanos - startedAt.nanos := by
    rw [← elapsedExceeds_buildTimeout_iff hfits, LateEntry, hstart]
    simp
  by_cases hexceeds : buildTimeout setup < now.nanos - startedAt.nanos
  · rw [moves_dispatch_of_late hmatches (hlate.2 hexceeds)]
    cases htracked : buildStartOf sh n with
    | none =>
        apply iff_of_true justified_nil
        intro _ trackedSince h
        cases h
    | some trackedSince =>
        -- the creation of the tracked instance is the last one recorded, and this check the last
        obtain ⟨-, hcreation, hcheck⟩ := lastOf_append_checked tr now hunread
        rw [htimed.building trackedSince htracked] at hcreation
        rw [Option.isSome_some, if_pos rfl, justified_singleton_iff, List.append_nil, Exact,
          hcreation, hcheck]
        simp [hexceeds]
  · rw [moves_dispatch_eq_nil hmatches fun h => hexceeds (hlate.1 h)]
    exact iff_of_true justified_nil fun h => absurd h hexceeds

theorem justified_dispatchEvents_iff (htimed : TimedAt setup sh tr n)
    (hmatches : Matches sh n i) :
    Justified (fun pre => Exact setup (tr ++ pre)) (dispatchEvents setup sh n i now) ↔
      ∀ startedAt, i.state.buildStart = some startedAt →
        BuildTimeoutFits setup sh n startedAt now := by
  rw [dispatchEvents, justified_cons_iff,
    and_iff_right (show Exact setup (tr ++ []) (.checked n now) from trivial), polls]
  cases hstart : i.state.buildStart with
  | none =>
      have hlate : ¬ LateEntry setup i now := by
        rintro ⟨startedAt, h, -⟩
        rw [hstart] at h
        cases h
      rw [moves_dispatch_eq_nil hmatches hlate]
      apply iff_of_true justified_nil
      intro startedAt h
      cases h
  | some startedAt =>
      rw [Option.isSome_some, if_pos rfl, List.singleton_append, justified_cons_iff, Exact,
        JenkinsClient.buildTimeout, toNat_mul_sixty_eq_iff]
      simp only [Option.some.injEq, forall_eq', BuildTimeoutFits]
      apply and_congr_right
      intro hfits
      have hunread : ∀ e ∈ [TimerEvent.buildTimeout (setup.jenkins.buildTimeoutMinutes * 60)],
          Unread n e := by
        intro e he
        rw [List.mem_singleton.1 he]
        exact ⟨rfl, rfl, rfl⟩
      have hmoves := justified_moves_dispatch_iff now htimed hmatches hfits hstart hunread
      simpa only [List.append_assoc, List.cons_append, List.nil_append] using hmoves

end Dispatch

/-! ## Resumption -/

section Resume

variable {setup : Setup} {sh : Shared} {n : UInt32} {pc : HandlerPc} {answer : Answer}
  {o : Outcome} {tr : List TimerEvent}

/-- No outcome of a build is reported as `Build timeout`. -/
theorem getBuildStatus_ne_buildTimeout (answer : HttpAnswer BuildJson) :
    JenkinsClient.getBuildStatus answer ≠ .ok (.failed "Build timeout") := by
  intro h
  simp only [JenkinsClient.getBuildStatus] at h
  split at h
  · cases h
  · split at h <;> cases h
  · cases h
  · split at h
    · cases h
    · -- the results that end a build: four by name, and any other with its own text
      split at h
      · cases h
      · simp at h
      · simp at h
      · simp at h
      · cases h
      · simp only [Except.ok.injEq, BuildStatus.failed.injEq] at h
        exact Text.append_ne (by decide) h

theorem timerEffect_deploymentFailed {error : String} :
    TimerEffect sh n False (deploymentFailed sh n error) := by
  refine .moved (.failed s!"Deployment failed: {error}") rfl rfl ?_ rfl
  intro hreason
  rw [InstanceState.failed.injEq] at hreason
  exact Text.append_ne (by decide) hreason

theorem timerEffect_serviceFailed {sh' : Shared} (h : sh'.instances = sh.instances)
    {error : String} : TimerEffect sh n False (serviceFailed sh' n error) := by
  refine .moved (.failed s!"Service creation failed: {error}") rfl rfl ?_ ?_
  · intro hreason
    rw [InstanceState.failed.injEq] at hreason
    exact Text.append_ne (by decide) hreason
  · rw [← h]
    rfl

theorem timerEffect_untracked {sh' : Shared} (h : sh'.instances = sh.instances)
    {events : List Event} : TimerEffect sh n False (untracked sh' n events) := by
  apply TimerEffect.dropped
  rw [← h]
  rfl

theorem timerEffect_handleStartingChecked {sh' : Shared} (h : sh'.instances = sh.instances)
    (commitHash commitHashShort deploymentName address : String) (port : UInt16)
    (call : KubeCall Deployment) :
    TimerEffect sh n False (handleStartingChecked sh' n commitHash commitHashShort deploymentName
      address port call) := by
  simp only [handleStartingChecked]
  split <;> exact .kept h

/-- Except where the shutdown time is computed, a resumed handler keeps the times of its PR or
leaves none, and never reports a build timeout. -/
theorem timerEffect_of_resumed (h : Resumed setup sh n pc answer o)
    (hclock : registerClock pc answer = none) : TimerEffect sh n False o := by
  cases h with
  | buildUrl commitHashShort queueUrl answer =>
      simp only [handleBuildingUrl]
      split <;> exact .kept rfl
  | buildStatus commitHashShort queueUrl buildUrl answer =>
      simp only [handleBuildingStatus]
      split
      · exact .moved _ rfl rfl (fun hreason => by cases hreason) rfl
      · rename_i reason hstatus
        refine .moved _ rfl rfl ?_ rfl
        intro hreason
        rw [InstanceState.failed.injEq] at hreason
        rw [hreason] at hstatus
        exact getBuildStatus_ne_buildTimeout answer hstatus
      · exact .kept rfl
      · exact .kept rfl
      · exact .moved _ rfl rfl (fun hreason => by simp at hreason) rfl
      · exact .kept rfl
  | noDeploymentClient imageTag hclient => exact timerEffect_deploymentFailed
  | deploymentDeleted imageTag answer =>
      cases answer with
      | ok u => exact .kept (by simp [createDeploymentDeleted])
      | error e => exact .kept (by simp [createDeploymentDeleted])
  | settled imageTag => exact .kept rfl
  | deploymentCreated imageTag answer =>
      cases answer with
      | ok u => exact .kept rfl
      | error e => exact timerEffect_deploymentFailed
  | noServiceClient hclient => exact timerEffect_serviceFailed rfl
  | serviceDeleted answer => exact .kept (by simp [createServiceDeleted])
  | serviceCreated answer now =>
      simp only [createServiceCreated]
      split
      · exact timerEffect_serviceFailed rfl
      · split
        · exact timerEffect_serviceFailed (by rfl)
        · exact .moved _ rfl rfl (fun hreason => by cases hreason) rfl
  | noReadinessClient commitHash commitHashShort deploymentName address port hclient =>
      exact timerEffect_handleStartingChecked rfl _ _ _ _ _ _
  | readinessChecked commitHash commitHashShort deploymentName address port answer =>
      exact timerEffect_handleStartingChecked (by rfl) _ _ _ _ _ _
  | registered commitHash commitHashShort deploymentName address port now readyAt => cases hclock
  | persisted commitHash commitHashShort answer =>
      cases answer with
      | ok now => exact .kept rfl
      | error e => exact .kept rfl
  | unregistered deploymentName now readyAt =>
      exact .moved _ rfl rfl (fun hreason => by cases hreason) rfl
  | noTearDownClient hclient => exact timerEffect_untracked rfl
  | deploymentTornDown answer =>
      simp only [deleteInstanceDeployment]
      split
      · exact .kept (by simp)
      · split
        · exact .kept (by simp)
        · exact timerEffect_untracked (by simp)
  | serviceTornDown answer =>
      simp only [deleteInstanceService]
      split
      · exact timerEffect_untracked (by simp)
      · split
        · exact timerEffect_untracked (by simp)
        · exact timerEffect_untracked (by simp)

/-- What a handler may be suspended at while the instance of its PR is `Ready`: the upsert that
follows the registration, or the registry lock of a shutdown that is due. -/
def ReadyHandler (n : UInt32) (tr : List TimerEvent) (shutdownAt : Instant) : HandlerPc → Prop
  | .persist _ _ => True
  | .unregister _ =>
      ∃ now, lastOf (checkTime n) tr = some now ∧ shutdownAt.nanos ≤ now.nanos
  | _ => False

theorem done_of_resumed_ready {shutdownAt : Instant} (h : Resumed setup sh n pc answer o)
    (hpc : ReadyHandler n tr shutdownAt pc) : o.flow = .done := by
  cases h with
  | persisted commitHash commitHashShort answer => cases answer <;> rfl
  | unregistered deploymentName now readyAt => rfl
  | _ => cases hpc

/-- The registration computes the shutdown time and makes the instance `Ready`, or panics and
leaves it as it was. -/
theorem handleStartingRegistered_cases (setup : Setup) (sh : Shared) (n : UInt32)
    (commitHash commitHashShort deploymentName address : String) (port : UInt16)
    (now readyAt : Instant) :
    (∃ shutdownAt,
      now.addSecs (setup.kubernetes.instanceTimeoutMinutes * 60) = some shutdownAt ∧
        (handleStartingRegistered setup sh n commitHash commitHashShort deploymentName address port
          now readyAt).shared.instances =
            K8sManager.updateInstanceState sh.instances n
              (.ready deploymentName address port readyAt shutdownAt)) ∨
      (now.addSecs (setup.kubernetes.instanceTimeoutMinutes * 60) = none ∧
        (handleStartingRegistered setup sh n commitHash commitHashShort deploymentName address port
          now readyAt).shared.instances = sh.instances) := by
  simp only [handleStartingRegistered]
  cases hsum : now.addSecs (setup.kubernetes.instanceTimeoutMinutes * 60) with
  | none => exact Or.inr ⟨rfl, rfl⟩
  | some shutdownAt => exact Or.inl ⟨shutdownAt, rfl, rfl⟩

section Registered

variable {commitHash commitHashShort deploymentName address : String} {port : UInt16}
  {now readyAt : Instant}

/-- The shutdown time of a tracked instance that becomes `Ready` is the sum that the code
computes. -/
theorem shutdownOf_registered (htracked : (sh.instances.lookup n).isSome)
    (hready : shutdownOf sh n = none)
    (ho : o = handleStartingRegistered setup sh n commitHash commitHashShort deploymentName address
      port now readyAt) :
    shutdownOf o.shared n = now.addSecs (setup.kubernetes.instanceTimeoutMinutes * 60) := by
  subst ho
  rcases handleStartingRegistered_cases setup sh n commitHash commitHashShort deploymentName
    address port now readyAt with ⟨shutdownAt, hsum, hinst⟩ | ⟨hsum, hinst⟩
  · obtain ⟨i, hi⟩ := Option.isSome_iff_exists.1 htracked
    have hlookup := lookup_of_updated hinst
    rw [hi, Option.map_some] at hlookup
    rw [shutdownOf_eq hlookup, hsum]
    rfl
  · rw [hsum, ← hready]
    exact shutdownOf_of_eq hinst n

theorem moves_registered (hready : shutdownOf sh n = none)
    (ho : o = handleStartingRegistered setup sh n commitHash commitHashShort deploymentName address
      port now readyAt) : moves n true sh o.shared = [] := by
  subst ho
  rcases handleStartingRegistered_cases setup sh n commitHash commitHashShort deploymentName
    address port now readyAt with ⟨shutdownAt, -, hinst⟩ | ⟨-, hinst⟩
  · refine moves_eq_nil (Or.inl hready) (Or.inr (not_hasTimedOut_of_updated hinst ?_))
    intro hstate
    cases hstate
  · exact moves_of_lookup_eq (by rw [hinst])

end Registered

/-- The clock reading of a registration belongs to a handler that registers. -/
theorem resumed_of_registerClock {now : Instant} (h : resume setup sh n pc answer = some o)
    (hclock : registerClock pc answer = some now) :
    ∃ commitHash commitHashShort deploymentName address port readyAt,
      pc = .register commitHash commitHashShort deploymentName address port ∧
        o = handleStartingRegistered setup sh n commitHash commitHashShort deploymentName address
          port now readyAt := by
  cases pc with
  | register commitHash commitHashShort deploymentName address port =>
      cases answer with
      | registryLocked now' readyAt =>
          cases hclock
          cases h
          exact ⟨commitHash, commitHashShort, deploymentName, address, port, readyAt, rfl, rfl⟩
      | _ => cases hclock
  | _ => cases hclock

theorem resumeEvents_eq (h : resume setup sh n pc answer = some o) :
    resumeEvents setup sh n pc answer =
      deadlines n o (registerClock pc answer) ++ moves n true sh o.shared := by
  simp only [resumeEvents, h]

/-- Registering emits the sum that the code computes, and nothing else. -/
theorem resumeEvents_of_registerClock {now : Instant} (h : resume setup sh n pc answer = some o)
    (hclock : registerClock pc answer = some now) (htracked : (sh.instances.lookup n).isSome)
    (hready : ∀ shutdownAt, shutdownOf sh n = some shutdownAt → ReadyHandler n tr shutdownAt pc) :
    shutdownOf sh n = none ∧
      shutdownOf o.shared n = now.addSecs (setup.kubernetes.instanceTimeoutMinutes * 60) ∧
        resumeEvents setup sh n pc answer = [.deadline n now (shutdownOf o.shared n)] := by
  obtain ⟨commitHash, commitHashShort, deploymentName, address, port, readyAt, rfl, ho⟩ :=
    resumed_of_registerClock h hclock
  -- a handler that is about to register works on an instance that is not `Ready`
  have hnone : shutdownOf sh n = none :=
    Option.eq_none_iff_forall_ne_some.2 fun shutdownAt hsome => hready shutdownAt hsome
  refine ⟨hnone, shutdownOf_registered htracked hnone ho, ?_⟩
  rw [resumeEvents_eq h, hclock, moves_registered hnone ho, deadlines, List.append_nil]

/-- Between its registration and its removal an instance moves only from `Ready` on, when its
shutdown time is due. -/
theorem justified_moves_resume (htimed : TimedAt setup sh tr n)
    (h : Resumed setup sh n pc answer o) (hclock : registerClock pc answer = none)
    (hready : ∀ shutdownAt, shutdownOf sh n = some shutdownAt → ReadyHandler n tr shutdownAt pc) :
    Justified (fun pre => Exact setup (tr ++ pre)) (moves n true sh o.shared) := by
  cases hsome : shutdownOf sh n with
  | none =>
      rw [(timerEffect_of_resumed h hclock).moves_eq_nil hsome id]
      exact justified_nil
  | some shutdownAt =>
      have hpc := hready shutdownAt hsome
      cases h with
      | persisted commitHash commitHashShort answer =>
          rw [moves_of_lookup_eq (by cases answer <;> rfl)]
          exact justified_nil
      | unregistered deploymentName now readyAt =>
          obtain ⟨now, hcheck, hdue⟩ := hpc
          obtain ⟨readyAt, hreadyAt, rfl⟩ := htimed.ready shutdownAt hsome
          have hgone :
              shutdownOf (handleReadyUnregistered sh n deploymentName).shared n = none := by
            have hinst : (handleReadyUnregistered sh n deploymentName).shared.instances =
                K8sManager.updateInstanceState sh.instances n (.shuttingDown deploymentName) := rfl
            rw [shutdownOf, lookup_of_updated hinst]
            cases sh.instances.lookup n <;> rfl
          rw [moves_of_left (by rw [hsome]; rfl) hgone, justified_singleton_iff, List.append_nil]
          exact ⟨rfl, readyAt, now, hreadyAt, hcheck, hdue⟩
      | _ => exact absurd hpc id

theorem justified_resumeEvents_iff (htimed : TimedAt setup sh tr n)
    (h : resume setup sh n pc answer = some o) (htracked : (sh.instances.lookup n).isSome)
    (hready : ∀ shutdownAt, shutdownOf sh n = some shutdownAt → ReadyHandler n tr shutdownAt pc) :
    Justified (fun pre => Exact setup (tr ++ pre)) (resumeEvents setup sh n pc answer) ↔
      ∀ now, registerClock pc answer = some now → ShutdownFits setup now := by
  cases hclock : registerClock pc answer with
  | none =>
      rw [resumeEvents_eq h, hclock, deadlines, List.nil_append]
      apply iff_of_true
      · exact justified_moves_resume htimed (resumed_of_resume h) hclock hready
      · intro now hnow
        cases hnow
  | some now =>
      obtain ⟨-, hsum, hevents⟩ := resumeEvents_of_registerClock h hclock htracked hready
      rw [hevents, hsum, justified_singleton_iff, Exact, addSecs_timeout_iff]
      simp

theorem concerns_resumeEvents (h : resume setup sh n pc answer = some o) :
    ∀ e ∈ resumeEvents setup sh n pc answer, Concerns n e := by
  intro e he
  rw [resumeEvents_eq h] at he
  rcases List.mem_append.1 he with he | he
  · cases hclock : registerClock pc answer with
    | none =>
        rw [hclock] at he
        cases he
    | some now =>
        rw [hclock] at he
        rw [List.mem_singleton.1 he]
        rfl
  · exact concerns_moves e he

/-- The times of the PR after a resumed handler, if the shutdown time that it computes fits. -/
theorem timedAt_resume (htimed : TimedAt setup sh tr n)
    (h : resume setup sh n pc answer = some o) (htracked : (sh.instances.lookup n).isSome)
    (hready : ∀ shutdownAt, shutdownOf sh n = some shutdownAt → ReadyHandler n tr shutdownAt pc)
    (hfits : ∀ now, registerClock pc answer = some now → ShutdownFits setup now) :
    TimedAt setup o.shared (tr ++ resumeEvents setup sh n pc answer) n := by
  cases hclock : registerClock pc answer with
  | none =>
      have hunread : ∀ e ∈ resumeEvents setup sh n pc answer, Unread n e := by
        rw [resumeEvents_eq h, hclock, deadlines, List.nil_append]
        exact unread_moves
      obtain ⟨hreadyAt, hcreation, -⟩ := lastOf_append_of_unread tr hunread
      exact (timerEffect_of_resumed (resumed_of_resume h) hclock).timedAt htimed hreadyAt hcreation
  | some now =>
      obtain ⟨-, hsum, hevents⟩ := resumeEvents_of_registerClock h hclock htracked hready
      rw [hevents]
      exact .of_deadline (hsum.trans (addSecs_timeout_iff.2 (hfits now hclock))) _

end Resume

/-! ## Calls -/

section Calls

variable {setup : Setup} {sh : Shared} {id : Nat} {call : StartCall} {label : StartLabel}
  {o : StartPr.Outcome} {n : UInt32} {tr : List TimerEvent}

/-- What a piece of a call does to the times: it leaves the instances alone, or inserts one that
is not `Ready`, and is `Building` from the clock reading of the label if at all. -/
inductive CallEffect (setup : Setup) (sh : Shared) (call : StartCall) (label : StartLabel)
    (o : StartPr.Outcome) : Prop where
  | kept (hinserted : insertedBy setup call label = none)
      (hinst : o.shared.instances = sh.instances)
  | inserted (n : UInt32) (i : PrInstance) (hinserted : insertedBy setup call label = some n)
      (hready : i.state.shutdownTime = none) (hreason : i.state ≠ .failed "Build timeout")
      (hcreations : creations n label = (i.state.buildStart.map (.created n)).toList)
      (hinst : o.shared.instances = sh.instances.insert n i)

theorem callEffect_of_step (h : StartPr.step setup sh id call label = some o) :
    CallEffect setup sh call label o := by
  cases label with
  | call n =>
      cases call with
      | idle =>
          cases h
          refine .kept rfl ?_
          unfold StartPr.begin_
          split
          · split <;> rfl
          · rfl
      | _ => cases h
  | registryLocked =>
      cases call with
      | registry n =>
          cases h
          refine .kept rfl ?_
          unfold StartPr.checkRegistry
          split <;> rfl
      | _ => cases h
  | githubAnswered answer =>
      cases call with
      | github n =>
          cases h
          refine .kept rfl ?_
          unfold StartPr.receiveCommit
          split <;> rfl
      | _ => cases h
  | buildsQueried error =>
      cases call with
      | database n commitHash commitHashShort =>
          cases h
          refine .kept rfl ?_
          cases error <;> rfl
      | _ => cases h
  | buildsResumed =>
      cases call with
      | decided n commitHash commitHashShort existingBuild =>
          cases h
          cases existingBuild with
          | true => exact .inserted n _ rfl rfl (fun hreason => by cases hreason) rfl rfl
          | false => exact .kept rfl rfl
      | _ => cases h
  | jenkinsAnswered answer now =>
      cases call with
      | jenkins n commitHash commitHashShort =>
          cases h
          cases hqueued : JenkinsClient.triggerBuild setup.jenkins answer with
          | error e =>
              refine .kept ?_ ?_
              · simp only [insertedBy, hqueued, Except.isOk, Except.toBool]
                rfl
              · simp only [StartPr.receiveQueueUrl, hqueued]
                rfl
          | ok queueUrl =>
              refine .inserted n
                (PrInstance.newBuilding n commitHash commitHashShort queueUrl now) ?_ rfl
                (fun hreason => by cases hreason) rfl ?_
              · simp only [insertedBy, hqueued, Except.isOk, Except.toBool, if_true]
              · simp only [StartPr.receiveQueueUrl, hqueued]
                rfl
      | _ => cases h

/-- The events of a call that inserts the instance `i`. -/
theorem startEvents_of_inserted {w : World} {i : PrInstance}
    (h : StartPr.step setup w.shared id (w.calls id) label = some o)
    (hinserted : insertedBy setup (w.calls id) label = some n)
    (hcreations : creations n label = (i.state.buildStart.map (.created n)).toList) :
    startEvents setup w id label =
      moves n false w.shared o.shared ++ (i.state.buildStart.map (.created n)).toList := by
  simp only [startEvents, hinserted, h, hcreations]

theorem startEvents_of_kept {w : World} (hinserted : insertedBy setup (w.calls id) label = none) :
    startEvents setup w id label = [] := by
  simp only [startEvents, hinserted]

theorem concerns_created {startedAt : Option Instant} :
    ∀ e ∈ (startedAt.map (TimerEvent.created n)).toList, Concerns n e := by
  intro e he
  obtain ⟨now, -, rfl⟩ := Option.map_eq_some_iff.1 (Option.mem_toList.1 he)
  rfl

theorem justified_created {startedAt : Option Instant} {tr : List TimerEvent} :
    Justified (fun pre => Exact setup (tr ++ pre))
      (startedAt.map (TimerEvent.created n)).toList := by
  cases startedAt with
  | none => exact justified_nil
  | some now => exact justified_singleton_iff.2 trivial

/-- An insertion moves a `Ready` instance of its PR, and no other. -/
theorem moves_inserted {sh' : Shared} {i : PrInstance} (hready : i.state.shutdownTime = none)
    (hreason : i.state ≠ .failed "Build timeout")
    (hinst : sh'.instances = sh.instances.insert n i) :
    moves n false sh sh' = if (shutdownOf sh n).isSome then [.left n false] else [] := by
  have hlookup : sh'.instances.lookup n = some i := by rw [hinst, AList.lookup_insert]
  cases hsome : shutdownOf sh n with
  | none =>
      refine moves_eq_nil (Or.inl hsome) (Or.inr ?_)
      rw [hasTimedOut_iff hlookup]
      exact hreason
  | some shutdownAt =>
      exact moves_of_left (by rw [hsome]; rfl) (by rw [shutdownOf_eq hlookup, hready])

theorem justified_startEvents_iff {w : World}
    (h : StartPr.step setup w.shared id (w.calls id) label = some o) :
    Justified (fun pre => Exact setup (tr ++ pre)) (startEvents setup w id label) ↔
      ∀ n, insertedBy setup (w.calls id) label = some n → shutdownOf w.shared n = none := by
  cases callEffect_of_step h with
  | kept hinserted hinst =>
      rw [startEvents_of_kept hinserted]
      apply iff_of_true justified_nil
      intro n hn
      rw [hinserted] at hn
      cases hn
  | inserted n i hinserted hready hreason hcreations hinst =>
      rw [startEvents_of_inserted h hinserted hcreations, moves_inserted hready hreason hinst,
        hinserted]
      simp only [Option.some.injEq, forall_eq']
      cases shutdownOf w.shared n with
      | none => exact iff_of_true justified_created rfl
      | some shutdownAt =>
          -- the instance leaves `Ready` outside a tick
          rw [Option.isSome_some, if_pos rfl, List.singleton_append, justified_cons_iff]
          exact iff_of_false (fun hjust => by cases hjust.1.1) (by simp)

theorem timed_start {w : World} (htimed : Timed setup w.shared tr)
    (h : StartPr.step setup w.shared id (w.calls id) label = some o)
    (hfits : ∀ n, insertedBy setup (w.calls id) label = some n → shutdownOf w.shared n = none) :
    Timed setup o.shared (tr ++ startEvents setup w id label) := by
  cases callEffect_of_step h with
  | kept hinserted hinst =>
      rw [startEvents_of_kept hinserted, List.append_nil]
      exact htimed.congr hinst
  | inserted n i hinserted hready hreason hcreations hinst =>
      have hlookup : o.shared.instances.lookup n = some i := by rw [hinst, AList.lookup_insert]
      rw [startEvents_of_inserted h hinserted hcreations, moves_inserted hready hreason hinst,
        hfits n hinserted]
      refine htimed.update (n := n) ?_ concerns_created ?_
      · intro k hk
        rw [hinst, AList.lookup_insert_ne hk]
      · refine ⟨?_, ?_⟩
        · intro shutdownAt hs
          rw [shutdownOf_eq hlookup, hready] at hs
          cases hs
        · intro startedAt hstart
          rw [buildStartOf_eq hlookup] at hstart
          rw [hstart, Option.isSome_none, if_neg Bool.false_ne_true, List.nil_append,
            Option.map_some, Option.toList_some, lastOf_append_one, creationTime_created,
            Option.some_or]

end Calls

end SteelProxy.Timers
