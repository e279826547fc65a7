import SteelProxy.K8s.Notices

/-!
# No PR disappears silently

A PR is removed from tracking in `Failed` or `ShuttingDown`, some ticks after it got there. In
every run after a recovery, a PR that is removed was announced to end since it was started last: by
a broadcast that says what has failed, or that its time is over. The one exception is a build that
Jenkins does not find: `handle_building` gives it up without a broadcast (`ends_announced`).
-/

set_option autoImplicit false

namespace SteelProxy

open SteelProxy.Library SteelProxy.Library.Transition

/-- `Failed` and `ShuttingDown`, from which a PR is only removed. -/
def InstanceState.ending : InstanceState → Bool
  | .failed _ => true
  | .shuttingDown _ => true
  | _ => false

namespace Lifecycle

/-- The broadcasts that announce the end of PR `n`. -/
inductive EndNotice (n : UInt32) : String → Prop where
  | buildTimedOut (minutes : UInt64) :
      EndNotice n s!"§c[Proxy] PR #{n} build timed out after {minutes} minutes"
  | buildFailed (reason : String) : EndNotice n s!"§c[Proxy] PR #{n} build failed: {reason}"
  | deploymentFailed (error : String) : EndNotice n s!"§c[Proxy] Failed to deploy PR #{n}: {error}"
  | serviceFailed (error : String) :
      EndNotice n s!"§c[Proxy] Failed to create service for PR #{n}: {error}"
  | startTimedOut : EndNotice n s!"§c[Proxy] PR #{n} startup timed out"
  | expired : EndNotice n (expiryNotice n)

/-- The end of PR `n` is announced, or Jenkins has not found its build. -/
inductive Ended (n : UInt32) : Event → Prop where
  | announced (message : String) (h : EndNotice n message) : Ended n (.broadcast message)
  | buildNotFound (queueUrl buildUrl : String) :
      Ended n (.buildReported n queueUrl buildUrl .notFound)

/-- PR `n` is started. -/
def IsInserted (n : UInt32) : Event → Prop
  | .inserted m _ => m = n
  | _ => False

/-- The end of PR `n` was announced since it was started last. -/
def EndTold (n : UInt32) (tr : List Event) : Prop :=
  (∃ e ∈ tr, Ended n e) ∧ ¬ Open (IsInserted n) (Ended n) tr

section EndTold

variable {n : UInt32} {tr t : List Event}

/-- The announcement holds until the PR is started again. -/
theorem EndTold.append (h : EndTold n tr) (ht : ∀ e ∈ t, ¬ IsInserted n e) :
    EndTold n (tr ++ t) := by
  obtain ⟨⟨e, he, hended⟩, hclosed⟩ := h
  refine ⟨⟨e, List.mem_append_left _ he, hended⟩, ?_⟩
  rw [open_append_iff]
  rintro (⟨hopen, -⟩ | ⟨pre, a, post, rfl, ha, -⟩)
  · exact hclosed hopen
  · exact ht a (by simp) ha

/-- An announcement closes every start before it. -/
theorem endTold_of_mem {e : Event} (he : e ∈ t) (hended : Ended n e)
    (ht : ∀ e ∈ t, ¬ IsInserted n e) : EndTold n (tr ++ t) := by
  refine ⟨⟨e, List.mem_append_right _ he, hended⟩, ?_⟩
  rw [open_append_iff]
  rintro (⟨-, hnone⟩ | ⟨pre, a, post, rfl, ha, -⟩)
  · exact hnone e he hended
  · exact ht a (by simp) ha

end EndTold

/-! ## The pieces of a handler -/

/-- The events remove no PR. -/
def NoRemoval (events : List Event) : Prop := ∀ k, ∀ e ∈ events, ¬ IsRemoved k e

/-- What a piece of the handler of PR `n`, whose instance is `i`, does about the end of `n`;
`announced` says that the end was announced before. -/
inductive EndEffect (sh : Shared) (n : UInt32) (i : PrInstance) (announced : Prop) (o : Outcome) :
    Prop where
  | kept (hinst : o.shared.instances = sh.instances) (hevents : NoRemoval o.events)
      (hflow : ∀ deploymentName, o.flow ≠ .await (.unregister deploymentName))
  | moved (state : InstanceState)
      (hinst : o.shared.instances = K8sManager.updateInstanceState sh.instances n state)
      (hevents : NoRemoval o.events)
      (hflow : ∀ deploymentName, o.flow ≠ .await (.unregister deploymentName))
      (hstate : state.ending = true → announced ∨ ∃ e ∈ o.events, Ended n e)
  | expiring (hinst : o.shared.instances = sh.instances)
      (hevents : o.events = [.broadcast (expiryNotice n)])
  | forgotten (before : List Event) (hold : i.state.ending = true)
      (hinst : o.shared.instances = K8sManager.removeInstance sh.instances n)
      (hbefore : NoRemoval before)
      (hevents : o.events = before ++ [.removed n (sh.instances.lookup n)]) (hflow : o.flow = .done)

section EndEffect

variable {setup : Setup} {sh : Shared} {n : UInt32} {i : PrInstance} {announced : Prop}
  {o : Outcome}

theorem noRemoval_nil : NoRemoval [] := fun _ _ he => by cases he

theorem noRemoval_cons_iff {e : Event} {events : List Event} :
    NoRemoval (e :: events) ↔ (∀ k, ¬ IsRemoved k e) ∧ NoRemoval events := by
  simp only [NoRemoval, List.forall_mem_cons, forall_and]

theorem noRemoval_broadcast (message : String) : NoRemoval [.broadcast message] :=
  noRemoval_cons_iff.2 ⟨fun _ => id, noRemoval_nil⟩

theorem endEffect_dispatch (now : Instant) :
    EndEffect sh n i False (dispatch setup sh n i now) := by
  simp only [dispatch]
  cases hstate : i.state with
  | building startedAt buildUrl =>
      simp only [handleBuilding]
      split
      · refine .moved _ rfl (noRemoval_broadcast _) (by simp) fun _ => Or.inr ?_
        exact ⟨_, List.mem_singleton_self _, .announced _ (.buildTimedOut _)⟩
      · cases buildUrl with
        | none => exact .kept rfl noRemoval_nil (by simp)
        | some queueUrl => exact .kept rfl noRemoval_nil (by simp)
  | deploying imageTag => exact .kept rfl noRemoval_nil (by simp [handleDeploying])
  | starting deploymentName address port startedAt =>
      simp only [handleStarting]
      split
      · refine .moved _ rfl (noRemoval_broadcast _) (by simp) fun _ => Or.inr ?_
        exact ⟨_, List.mem_singleton_self _, .announced _ .startTimedOut⟩
      · exact .kept rfl noRemoval_nil (by simp)
  | ready deploymentName address port readyAt shutdownAt =>
      simp only [handleReady]
      split
      · exact .expiring rfl rfl
      · exact .kept rfl noRemoval_nil (by simp)
  | shuttingDown deploymentName => exact .kept rfl noRemoval_nil (by simp [handleShuttingDown])
  | failed reason => exact .forgotten [] (by rw [hstate]; rfl) rfl noRemoval_nil rfl rfl

theorem endEffect_deploymentFailed (error : String) :
    EndEffect sh n i announced (deploymentFailed sh n error) := by
  refine .moved _ rfl (noRemoval_broadcast _) (by simp [deploymentFailed]) fun _ => Or.inr ?_
  exact ⟨_, List.mem_singleton_self _, .announced _ (.deploymentFailed error)⟩

/-- The service may have been created before its call failed. -/
theorem endEffect_serviceFailed {sh' : Shared} (hinst : sh'.instances = sh.instances)
    (error : String) : EndEffect sh n i announced (serviceFailed sh' n error) := by
  refine .moved (.failed s!"Service creation failed: {error}") ?_ (noRemoval_broadcast _)
    (by simp [serviceFailed]) fun _ => Or.inr ?_
  · simp only [serviceFailed, Shared.setState, hinst]
  · exact ⟨_, List.mem_singleton_self _, .announced _ (.serviceFailed error)⟩

theorem endEffect_cleanUpFailed {sh' : Shared} (hinst : sh'.instances = sh.instances)
    (hold : i.state.ending = true) (error : String) :
    EndEffect sh n i announced (cleanUpFailed sh' n error) := by
  refine .forgotten [.broadcast s!"§c[Proxy] Failed to clean up PR #{n}: {error}"] hold ?_
    (noRemoval_broadcast _) ?_ rfl
  · simp only [cleanUpFailed, untracked, Shared.untrack, hinst]
  · simp only [cleanUpFailed, untracked, hinst]

theorem endEffect_untracked {sh' : Shared} (hinst : sh'.instances = sh.instances)
    (hold : i.state.ending = true) : EndEffect sh n i announced (untracked sh' n []) := by
  refine .forgotten [] hold ?_ noRemoval_nil ?_ rfl
  · simp only [untracked, Shared.untrack, hinst]
  · simp only [untracked, hinst]

theorem endEffect_handleStartingChecked (commitHash commitHashShort deploymentName
    address : String) (port : UInt16) (call : KubeCall Deployment) {sh' : Shared}
    (hinst : sh'.instances = sh.instances) :
    EndEffect sh n i announced (handleStartingChecked sh' n commitHash commitHashShort
      deploymentName address port call) := by
  simp only [handleStartingChecked]
  split
  · exact .kept hinst (noRemoval_cons_iff.2 ⟨fun _ => id, noRemoval_nil⟩) (by simp)
  · exact .kept hinst noRemoval_nil (by simp)
  · exact .kept hinst noRemoval_nil (by simp)

theorem endEffect_of_resumed {pc : HandlerPc} {answer : Answer}
    (h : Resumed setup sh n pc answer o) (hpc : PcMatches i pc) :
    EndEffect sh n i (∃ deploymentName, pc = .unregister deploymentName) o := by
  cases h with
  | buildUrl commitHashShort queueUrl answer =>
      simp only [handleBuildingUrl]
      split <;> exact .kept rfl noRemoval_nil (by simp)
  | buildStatus commitHashShort queueUrl buildUrl answer =>
      have hreported : ∀ status, NoRemoval [.buildReported n queueUrl buildUrl status] := fun _ =>
        noRemoval_cons_iff.2 ⟨fun _ => id, noRemoval_nil⟩
      have hboth : ∀ status message,
          NoRemoval [.buildReported n queueUrl buildUrl status, .broadcast message] := fun _ _ =>
        noRemoval_cons_iff.2 ⟨fun _ => id, noRemoval_broadcast _⟩
      simp only [handleBuildingStatus]
      split
      · refine .moved _ rfl (hboth _ _) (by simp) ?_
        intro hending
        cases hending
      · refine .moved _ rfl (hboth _ _) (by simp) fun _ => Or.inr ?_
        exact ⟨_, List.mem_cons_of_mem _ (List.mem_singleton_self _), .announced _ (.buildFailed _)⟩
      · exact .kept rfl (hreported _) (by simp)
      · exact .kept rfl (hreported _) (by simp)
      · -- given up without a broadcast
        refine .moved _ rfl (hreported _) (by simp) fun _ => Or.inr ?_
        exact ⟨_, List.mem_singleton_self _, .buildNotFound _ _⟩
      · exact .kept rfl noRemoval_nil (by simp)
  | noDeploymentClient imageTag hclient => exact endEffect_deploymentFailed _
  | deploymentDeleted imageTag answer =>
      cases answer with
      | ok u =>
          exact .kept (by simp [createDeploymentDeleted]) noRemoval_nil
            (by simp [createDeploymentDeleted])
      | error e =>
          exact .kept (by simp [createDeploymentDeleted]) noRemoval_nil
            (by simp [createDeploymentDeleted])
  | settled imageTag => exact .kept rfl noRemoval_nil (by simp)
  | deploymentCreated imageTag answer =>
      cases answer with
      | ok u =>
          exact .kept rfl (noRemoval_cons_iff.2 ⟨fun _ => id, noRemoval_nil⟩)
            (by simp [createDeploymentCreated])
      | error e => exact endEffect_deploymentFailed _
  | noServiceClient hclient => exact endEffect_serviceFailed rfl _
  | serviceDeleted answer =>
      exact .kept (by simp [createServiceDeleted]) noRemoval_nil (by simp [createServiceDeleted])
  | serviceCreated answer now =>
      simp only [createServiceCreated]
      cases answer with
      | error e => exact endEffect_serviceFailed rfl _
      | ok svc =>
          cases hport : svc.firstNodePort with
          | none =>
              simp only [hport]
              exact @endEffect_serviceFailed sh n i _ _ (by rfl) _
          | some nodePort =>
              simp only [hport]
              refine .moved _ rfl noRemoval_nil (by simp) ?_
              intro hending
              cases hending
  | noReadinessClient commitHash commitHashShort deploymentName address port hclient =>
      exact endEffect_handleStartingChecked _ _ _ _ _ _ rfl
  | readinessChecked commitHash commitHashShort deploymentName address port answer =>
      exact endEffect_handleStartingChecked _ _ _ _ _ _ rfl
  | registered commitHash commitHashShort deploymentName address port now readyAt =>
      simp only [handleStartingRegistered]
      split
      · exact .kept rfl noRemoval_nil (by simp)
      · refine .moved _ rfl noRemoval_nil (by simp) ?_
        intro hending
        cases hending
  | persisted commitHash commitHashShort answer =>
      cases answer with
      | ok now =>
          exact .kept rfl (noRemoval_cons_iff.2 ⟨fun _ => id, noRemoval_broadcast _⟩)
            (by simp [handleStartingPersisted])
      | error e => exact .kept rfl (noRemoval_broadcast _) (by simp [handleStartingPersisted])
  | unregistered deploymentName now readyAt =>
      exact .moved _ rfl noRemoval_nil (by simp [handleReadyUnregistered])
        fun _ => Or.inl ⟨deploymentName, rfl⟩
  | noTearDownClient hclient =>
      obtain ⟨name, hstate⟩ := hpc
      exact endEffect_cleanUpFailed rfl (by rw [hstate]; rfl) _
  | deploymentTornDown answer =>
      obtain ⟨name, hstate⟩ := hpc
      simp only [deleteInstanceDeployment]
      cases answer with
      | ok u => exact .kept (by simp) noRemoval_nil (by simp)
      | error e =>
          dsimp only
          split
          · exact .kept (by simp) noRemoval_nil (by simp)
          · exact endEffect_cleanUpFailed (by simp) (by rw [hstate]; rfl) _
  | serviceTornDown answer =>
      obtain ⟨name, hstate⟩ := hpc
      simp only [deleteInstanceService]
      cases answer with
      | ok u => exact endEffect_untracked (by simp) (by rw [hstate]; rfl)
      | error e =>
          dsimp only
          split
          · exact endEffect_untracked (by simp) (by rw [hstate]; rfl)
          · exact endEffect_cleanUpFailed (by simp) (by rw [hstate]; rfl) _

end EndEffect

/-! ## Runs -/

/-- The end of every PR that comes to an end has been announced, and so was that of every PR that
was removed. -/
structure EndsTold (w : World) (tr : List Event) : Prop where
  ending : ∀ n i, w.shared.instances.lookup n = some i → i.state.ending = true → EndTold n tr
  expiring : ∀ n deploymentName rest, w.loop = .running n (.unregister deploymentName) rest →
    EndTold n tr
  justified : Justified (fun pre e => ∀ n, IsRemoved n e → EndTold n pre) tr

section Steps

variable {setup : Setup} {w w' : World} {label : Label} {tr t : List Event}

theorem justified_of_noRemoval (h : NoRemoval t) :
    Justified (fun pre e => ∀ n, IsRemoved n e → EndTold n (tr ++ pre)) t := by
  rintro pre e post rfl n hremoved
  exact absurd hremoved (h n e (by simp))

/-- A piece of the handler of PR `m`. -/
theorem EndsTold.of_effect {m : UInt32} {i : PrInstance} {announced : Prop} {o : Outcome}
    {rest : List (UInt32 × PrInstance)} (h : EndsTold w tr)
    (hi : w.shared.instances.lookup m = some i) (heff : EndEffect w.shared m i announced o)
    (hinst : InstanceEffect w.shared m o) (hannounced : announced → EndTold m tr) :
    EndsTold { w with shared := o.shared, loop := afterFlow m rest o.flow } (tr ++ o.events) := by
  have hins : ∀ k, ∀ e ∈ o.events, ¬ IsInserted k e := by
    intro k e he hinserted
    cases e with
    | inserted n old => exact hinst.noStart _ he trivial
    | _ => exact hinserted
  refine ⟨?_, ?_, ?_⟩
  · intro k j hj hending
    by_cases hk : k = m
    · subst hk
      cases heff with
      | kept hsame hevents hflow =>
          rw [hsame] at hj
          exact (h.ending k j hj hending).append (hins k)
      | moved state hmoved hevents hflow hstate =>
          rw [hmoved, K8sManager.lookup_updateInstanceState, if_pos rfl, hi, Option.map_some,
            Option.some.injEq] at hj
          subst hj
          -- announced before the piece, or by the piece itself
          rcases hstate hending with hbefore | ⟨e, he, hended⟩
          · exact (hannounced hbefore).append (hins k)
          · exact endTold_of_mem he hended (hins k)
      | expiring hsame hevents =>
          rw [hsame] at hj
          exact (h.ending k j hj hending).append (hins k)
      | forgotten before hold hremoved hbefore hevents hflow =>
          rw [hremoved, K8sManager.lookup_removeInstance, if_pos rfl] at hj
          cases hj
    · rw [hinst.lookup_of_ne hk] at hj
      exact (h.ending k j hj hending).append (hins k)
  · intro k deploymentName rest' hloop
    obtain ⟨hflow, rfl, -⟩ := afterFlow_eq_running_iff.1 hloop
    cases heff with
    | kept hsame hevents hnot => exact absurd hflow (hnot deploymentName)
    | moved state hmoved hevents hnot hstate => exact absurd hflow (hnot deploymentName)
    | expiring hsame hevents =>
        refine endTold_of_mem (e := .broadcast (expiryNotice m)) ?_ (.announced _ .expired) (hins m)
        rw [hevents]
        exact List.mem_singleton_self _
    | forgotten before hold hremoved hbefore hevents hdone =>
        rw [hdone] at hflow
        cases hflow
  · rw [justified_append_iff]
    refine ⟨h.justified, ?_⟩
    cases heff with
    | kept hsame hevents hflow => exact justified_of_noRemoval hevents
    | moved state hmoved hevents hflow hstate => exact justified_of_noRemoval hevents
    | expiring hsame hevents =>
        rw [hevents]
        exact justified_of_noRemoval (noRemoval_broadcast _)
    | forgotten before hold hremoved hbefore hevents hflow =>
        rw [hevents, justified_append_iff, justified_singleton_iff]
        -- the removed PR was at its end, so its end had been told before the piece
        refine ⟨justified_of_noRemoval hbefore, fun n hn => ?_⟩
        rw [hi] at hn
        cases hn
        rw [List.append_nil]
        refine (h.ending m i hi hold).append fun e he => ?_
        exact hins m e (by rw [hevents]; exact List.mem_append_left _ he)

/-- What a piece of a call starts is not at its end, and it removes nothing. -/
theorem stepped_endings {sh : Shared} {id : Nat} {call : StartCall} {label : StartLabel}
    {o : StartPr.Outcome} (h : StartPr.Stepped setup sh id call label o) :
    NoRemoval o.events ∧ (∀ k, ∀ e ∈ o.events, IsInserted k e → call.pending = some k) ∧
      (o.shared.instances = sh.instances ∨
        ∃ n i, o.shared.instances = sh.instances.insert n i ∧ i.state.ending = false) := by
  have hnone : ∀ {events : List Event}, (∀ k, ∀ e ∈ events, ¬ IsInserted k e) →
      ∀ k, ∀ e ∈ events, IsInserted k e → call.pending = some k := fun hnot k e he hins =>
    absurd hins (hnot k e he)
  cases h with
  | bailed error =>
      refine ⟨?_, hnone ?_, Or.inl rfl⟩ <;> simp [NoRemoval, StartPr.bail, IsRemoved, IsInserted]
  | begun n huntracked =>
      refine ⟨?_, hnone ?_, Or.inl rfl⟩ <;> simp [NoRemoval]
  | registryChecked n habsent =>
      refine ⟨?_, hnone ?_, Or.inl rfl⟩ <;> simp [NoRemoval, IsRemoved, IsInserted]
  | commitReceived n answer commitHash commitHashShort hcommit =>
      refine ⟨?_, hnone ?_, Or.inl rfl⟩ <;> simp [NoRemoval]
  | buildsQueried n commitHash commitHashShort =>
      refine ⟨?_, hnone ?_, Or.inl rfl⟩ <;> simp [NoRemoval]
  | cached n commitHash commitHashShort =>
      refine ⟨?_, ?_, Or.inr ⟨n, _, rfl, rfl⟩⟩
      · simp [NoRemoval, StartPr.deployCached, IsRemoved]
      · simp [StartPr.deployCached, IsInserted, StartCall.pending]
  | missed n commitHash commitHashShort =>
      refine ⟨?_, hnone ?_, Or.inl rfl⟩ <;> simp [NoRemoval, IsRemoved, IsInserted]
  | queued n commitHash commitHashShort queueUrl answer now =>
      refine ⟨?_, ?_, Or.inr ⟨n, _, rfl, rfl⟩⟩
      · simp [NoRemoval, StartPr.trackBuild, IsRemoved]
      · simp [StartPr.trackBuild, IsInserted, StartCall.pending]

theorem endsTold_start {id : Nat} {o : StartPr.Outcome} {start : StartLabel} (hcoh : Coherent w)
    (h : EndsTold w tr) (hstepped : StartPr.Stepped setup w.shared id (w.calls id) start o) :
    EndsTold { w with shared := o.shared, calls := Function.update w.calls id o.call }
      (tr ++ o.events) := by
  obtain ⟨hremoval, hinserted, hinst⟩ := stepped_endings hstepped
  -- the PR of a call in flight is not tracked
  have hkeep : ∀ k j, w.shared.instances.lookup k = some j → j.state.ending = true →
      EndTold k (tr ++ o.events) := by
    intro k j hj hending
    refine (h.ending k j hj hending).append fun e he hins => ?_
    rw [hcoh.untracked id k (hinserted k e he hins)] at hj
    cases hj
  refine ⟨?_, ?_, ?_⟩
  · intro k j hj hending
    rcases hinst with hsame | ⟨n, i, hnew, hinitial⟩
    · rw [hsame] at hj
      exact hkeep k j hj hending
    · rw [hnew, KeyedMap.lookup_insert_ite] at hj
      split at hj
      -- the PR that the call starts is in its first stage
      · cases hj
        rw [hinitial] at hending
        cases hending
      · exact hkeep k j hj hending
  · intro k deploymentName rest hloop
    obtain ⟨j, hj, -⟩ := hcoh.lookup_running hloop
    refine (h.expiring k deploymentName rest hloop).append fun e he hins => ?_
    rw [hcoh.untracked id k (hinserted k e he hins)] at hj
    cases hj
  · rw [justified_append_iff]
    exact ⟨h.justified, justified_of_noRemoval hremoval⟩

theorem endsTold_step (hcoh : Coherent w) (h : EndsTold w tr)
    (hstep : step setup w label = some (w', t)) : EndsTold w' (tr ++ t) := by
  cases label with
  | start id label =>
      obtain ⟨o, ho, rfl, rfl⟩ := step_start_iff.1 hstep
      exact endsTold_start hcoh h (StartPr.stepped_of_step ho)
  | tick snapshot =>
      obtain ⟨-, -, rfl, rfl⟩ := step_tick_iff.1 hstep
      rw [List.append_nil]
      exact ⟨h.ending, (by rintro n deploymentName rest ⟨⟩), h.justified⟩
  | advance now =>
      rcases step_advance_iff.1 hstep with ⟨-, rfl, rfl⟩ | ⟨m, i, rest, hloop, rfl, rfl⟩
      · rw [List.append_nil]
        exact ⟨h.ending, (by rintro n deploymentName rest ⟨⟩), h.justified⟩
      · exact h.of_effect (hcoh.lookup_next hloop) (endEffect_dispatch now)
          (instanceEffect_of_dispatched (dispatched_dispatch setup w.shared m i now)) False.elim
  | resume answer =>
      obtain ⟨m, pc, rest, o, hloop, ho, rfl, rfl⟩ := step_resume_iff.1 hstep
      obtain ⟨i, hi, hpc⟩ := hcoh.lookup_running hloop
      have hresumed := resumed_of_resume ho
      refine h.of_effect hi (endEffect_of_resumed hresumed hpc)
        (instanceEffect_of_resumed hresumed) ?_
      -- the expiry was broadcast before the handler waited for the registry
      rintro ⟨deploymentName, rfl⟩
      exact h.expiring m deploymentName rest hloop

end Steps

/-- In every run after a recovery in which calls of one PR do not overlap, a PR is only removed
when its end was announced, or its build not found, since it was started last. -/
theorem ends_announced (setup : Setup) (staticBackends : KeyedMap String BackendServer)
    (builds : PrBuilds) (deployments : KeyedMap String String)
    (services : KeyedMap String (Option Int32)) (loadError : Option String)
    (answers : PrBuild → RowAnswers) (sh : Shared) (result : Except String Nat)
    (labels : List Label) (w : World) (tr : List Event)
    (hrec : Recovery.recoverFromDb setup.kubernetes loadError answers
      (Shared.startUp staticBackends builds deployments services) = some (sh, result))
    (hmeets : (system setup).Meets NoOverlap (started sh) labels)
    (hrun : (system setup).exec (started sh) labels = some (w, tr)) :
    Justified (fun pre e => ∀ n, IsRemoved n e → EndTold n pre) tr := by
  have hready : Recovery.AllReady sh.instances :=
    Recovery.allReady_recoverFromDb (fun n i hi => by cases hi) hrec
  have hstart : EndsTold (started sh) [] := by
    refine ⟨?_, (by rintro n deploymentName rest ⟨⟩), justified_nil⟩
    intro n i hi hending
    have hendpoint := hready n i hi
    cases hstate : i.state with
    | ready deploymentName address port readyAt shutdownAt =>
        rw [hstate] at hending
        cases hending
    | _ =>
        rw [hstate] at hendpoint
        cases hendpoint
  have hinv : Coherent w ∧ EndsTold w ([] ++ tr) :=
    @System.exec_invariant _ _ _ (system setup) NoOverlap (fun w tr => Coherent w ∧ EndsTold w tr)
      (fun _ _ _ _ _ hinv hno hs =>
        ⟨coherent_step hinv.1 hno hs, endsTold_step hinv.1 hinv.2 hs⟩)
      labels (started sh) w [] tr ⟨coherent_of_fresh (fresh_started sh), hstart⟩ hmeets hrun
  exact hinv.2.justified

/-- PR 7 is shut down at its time and removed. -/
def removedSample : List Label :=
  expireSample ++
    [.advance ⟨0⟩, .tick [(7, { recoveredSample with state := .shuttingDown "steel-pr-7" })],
      .advance ⟨0⟩, .resume (.deleted (.ok ())), .resume (.deleted (.ok ()))]

theorem ends_announced_removedSample :
    ∃ w tr, (system sampleSetup).exec (started recoveredShared) removedSample = some (w, tr) ∧
      Justified (fun pre e => ∀ n, IsRemoved n e → EndTold n pre) tr ∧
      tr = [.broadcast "§e[Proxy] PR #7 is shutting down (timeout expired)",
        .removed 7 (some { recoveredSample with state := .shuttingDown "steel-pr-7" })] := by
  have hrec : Recovery.recoverFromDb sampleSetup.kubernetes none (fun _ => readyAnswers)
      Recovery.sampleStartUp = some (recoveredShared, .ok 1) := by rfl
  have hevents : ((system sampleSetup).exec (started recoveredShared) removedSample).map
      Prod.snd = some [.broadcast "§e[Proxy] PR #7 is shutting down (timeout expired)",
        .removed 7 (some { recoveredSample with state := .shuttingDown "steel-pr-7" })] := by rfl
  obtain ⟨w, hrun⟩ := (system sampleSetup).exists_exec_of_events hevents
  have hno : (system sampleSetup).Meets NoOverlap (started recoveredShared) removedSample :=
    (system sampleSetup).meets_of_forall (by simp [removedSample, expireSample, NoOverlap]) _
  exact ⟨w, _, hrun, ends_announced sampleSetup ∅ sampleBuilds ∅ ∅ none _ recoveredShared (.ok 1)
    removedSample w _ hrec hno hrun, rfl⟩

end Lifecycle

end SteelProxy
