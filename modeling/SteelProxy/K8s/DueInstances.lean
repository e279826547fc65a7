import SteelProxy.K8s.Ticks

/-!
# Instances do not linger

An entry is due when its handler has to move it on: a deploying, failed or shutting down instance
always, the others when their timer has run out at the clock reading of the tick. A tick that finds
a PR due takes it to a later stage or forgets it, so a PR is found due at most three times before
it is forgotten (`found_due_thrice`), whatever Jenkins, Kubernetes and the database answer. The
proof counts what is left: each stage has an allowance of later due dispatches, and the allowance
is paid when the handler of a due instance starts.
-/

set_option autoImplicit false

namespace SteelProxy

open SteelProxy.Library SteelProxy.Library.Transition

namespace PrInstance

/-- A tick at the clock reading `now` has to move the instance on. -/
def due (setup : Setup) (i : PrInstance) (now : Instant) : Bool :=
  match i.state with
  | .building startedAt _ => startedAt.elapsedExceeds now (JenkinsClient.buildTimeout setup.jenkins)
  | .deploying _ => true
  | .starting _ _ _ startedAt => startedAt.elapsedExceeds now 300
  | .ready _ _ _ _ shutdownAt => shutdownAt.nanos ≤ now.nanos
  | .shuttingDown _ => true
  | .failed _ => true

end PrInstance

namespace Stage

/-- The arrows along which a due instance is taken on. -/
inductive Departure : Stage → Stage → Prop where
  | buildTimedOut : Departure building failed
  | deployed : Departure deploying starting
  | deploymentFailed : Departure deploying failed
  | startTimedOut : Departure starting shuttingDown
  | expired : Departure ready shuttingDown

/-- How often a PR in this stage may still be found due. -/
def allowance : Stage → Nat
  | building => 3
  | deploying => 3
  | starting => 2
  | ready => 2
  | shuttingDown => 1
  | failed => 1

theorem allowance_le_three (stage : Stage) : stage.allowance ≤ 3 := by
  cases stage <;> decide

theorem allowance_pos (stage : Stage) : 0 < stage.allowance := by
  cases stage <;> decide

theorem Next.allowance_le {s s' : Stage} (h : Next s s') : s'.allowance ≤ s.allowance := by
  cases h <;> decide

theorem Departure.allowance_lt {s s' : Stage} (h : Departure s s') :
    s'.allowance < s.allowance := by
  cases h <;> decide

end Stage

/-- The handler takes its instance on before it ends, whatever it is answered. -/
def HandlerPc.departing : HandlerPc → Bool
  | .deleteDeployment _ => true
  | .settle _ => true
  | .createDeployment _ => true
  | .deleteService => true
  | .createService => true
  | .unregister _ => true
  | .tearDownDeployment => true
  | .tearDownService => true
  | _ => false

/-- The loop is in a handler of PR `n` that takes its instance on. -/
def LoopState.departs (n : UInt32) : LoopState → Bool
  | .running m pc _ => n = m && pc.departing
  | _ => false

namespace Ticks

open SteelProxy.Lifecycle

/-- The number of times PR `n` was found due since it was last forgotten, after an event. -/
def countDue (setup : Setup) (n : UInt32) (count : Nat) : TickEvent → Nat
  | .taken m i now => if m = n ∧ i.due setup now = true then count + 1 else count
  | .forgotten m => if m = n then 0 else count

/-- The number of times PR `n` was found due since it was last forgotten. -/
def dueSince (setup : Setup) (n : UInt32) (tr : List TickEvent) : Nat :=
  tr.foldl (countDue setup n) 0

/-- A PR that is found due was found due at most twice since it was last forgotten. -/
def AtMostThrice (setup : Setup) (pre : List TickEvent) : TickEvent → Prop
  | .taken n i now => i.due setup now = true → dueSince setup n pre ≤ 2
  | .forgotten _ => True

/-- How often PR `n` may still be found due; a handler that takes it on has been paid for. -/
def allowanceOf (w : World) (n : UInt32) : Nat :=
  match trackings w.shared n with
  | none => 3
  | some tracking => tracking.stage.allowance - if w.loop.departs n then 1 else 0

/-! ## Pieces of a handler -/

/-- A piece takes an instance on from `stage`, or is suspended in a handler that will. -/
inductive Departs (sh : Shared) (n : UInt32) (stage : Stage) (o : Outcome) : Prop where
  | advanced (state : InstanceState)
      (hinst : o.shared.instances = K8sManager.updateInstanceState sh.instances n state)
      (hdeparture : stage.Departure state.stage)
  | forgotten (hinst : o.shared.instances = K8sManager.removeInstance sh.instances n)
  | suspended (pc : HandlerPc) (hinst : o.shared.instances = sh.instances)
      (hflow : o.flow = .await pc) (hpc : pc.departing = true)

section Pieces

variable {setup : Setup} {sh : Shared} {n : UInt32} {i : PrInstance} {o : Outcome}

theorem departs_of_due {now : Instant} (h : i.due setup now = true) :
    Departs sh n i.state.stage (dispatch setup sh n i now) := by
  simp only [dispatch, PrInstance.due] at h ⊢
  cases hstate : i.state with
  | building startedAt buildUrl =>
      rw [hstate] at h
      simp only [handleBuilding, show Instant.elapsedExceeds _ _ _ = true from h, if_true]
      exact .advanced _ rfl .buildTimedOut
  | deploying imageTag => exact .suspended _ rfl rfl rfl
  | starting deploymentName address port startedAt =>
      rw [hstate] at h
      simp only [handleStarting, show Instant.elapsedExceeds _ _ _ = true from h, if_true]
      exact .advanced _ rfl .startTimedOut
  | ready deploymentName address port readyAt shutdownAt =>
      rw [hstate] at h
      simp only [handleReady, show shutdownAt.nanos ≤ now.nanos by simpa using h, if_true]
      exact .suspended _ rfl rfl rfl
  | shuttingDown deploymentName => exact .suspended _ rfl rfl rfl
  | failed reason => exact .forgotten rfl

theorem departs_of_resumed {pc : HandlerPc} {answer : Answer} (h : Resumed setup sh n pc answer o)
    (hpc : pc.departing = true) : Departs sh n pc.stage o := by
  cases h with
  | buildUrl commitHashShort queueUrl answer => cases hpc
  | buildStatus commitHashShort queueUrl buildUrl answer => cases hpc
  | noDeploymentClient imageTag hclient => exact .advanced _ rfl .deploymentFailed
  | deploymentDeleted imageTag answer =>
      cases answer with
      | ok u => exact .suspended _ (by simp [createDeploymentDeleted]) rfl rfl
      | error e => exact .suspended _ (by simp [createDeploymentDeleted]) rfl rfl
  | settled imageTag => exact .suspended _ rfl rfl rfl
  | deploymentCreated imageTag answer =>
      cases answer with
      | ok u => exact .suspended _ rfl rfl rfl
      | error e => exact .advanced _ rfl .deploymentFailed
  | noServiceClient hclient => exact .advanced _ rfl .deploymentFailed
  | serviceDeleted answer => exact .suspended _ (by simp [createServiceDeleted]) rfl rfl
  | serviceCreated answer now =>
      simp only [createServiceCreated]
      cases answer with
      | error e => exact .advanced _ rfl .deploymentFailed
      | ok svc =>
          cases hport : svc.firstNodePort with
          | none =>
              simp only [hport]
              exact .advanced _ rfl .deploymentFailed
          | some nodePort =>
              simp only [hport]
              exact .advanced _ rfl .deployed
  | noReadinessClient commitHash commitHashShort deploymentName address port hclient => cases hpc
  | readinessChecked commitHash commitHashShort deploymentName address port answer => cases hpc
  | registered commitHash commitHashShort deploymentName address port now readyAt => cases hpc
  | persisted commitHash commitHashShort answer => cases hpc
  | unregistered deploymentName now readyAt => exact .advanced _ rfl .expired
  | noTearDownClient hclient => exact .forgotten rfl
  | deploymentTornDown answer =>
      simp only [deleteInstanceDeployment]
      cases answer with
      | ok u => exact .suspended _ (by simp) rfl rfl
      | error e =>
          dsimp only
          split
          · exact .suspended _ (by simp) rfl rfl
          · exact .forgotten (by simp [cleanUpFailed, untracked, Shared.untrack])
  | serviceTornDown answer =>
      simp only [deleteInstanceService]
      cases answer with
      | ok u => exact .forgotten (by simp [untracked, Shared.untrack])
      | error e =>
          dsimp only
          split
          · exact .forgotten (by simp [untracked, Shared.untrack])
          · exact .forgotten (by simp [cleanUpFailed, untracked, Shared.untrack])

end Pieces

/-! ## The allowance after a piece -/

section Allowance

variable {w : World} {sh : Shared} {n : UInt32} {i : PrInstance} {o : Outcome}
  {calls : Nat → StartCall} {rest : List (UInt32 × PrInstance)}

theorem allowanceOf_of_none (h : w.shared.instances.lookup n = none) : allowanceOf w n = 3 := by
  rw [allowanceOf, trackings, h]
  rfl

theorem allowanceOf_of_some (h : w.shared.instances.lookup n = some i) :
    allowanceOf w n = i.state.stage.allowance - if w.loop.departs n then 1 else 0 := by
  rw [allowanceOf, trackings, h]
  rfl

theorem allowanceOf_le_three (w : World) (n : UInt32) : allowanceOf w n ≤ 3 := by
  cases h : w.shared.instances.lookup n with
  | none => exact Nat.le_of_eq (allowanceOf_of_none h)
  | some i =>
      rw [allowanceOf_of_some h]
      exact Nat.le_trans (Nat.sub_le _ _) i.state.stage.allowance_le_three

theorem allowanceOf_congr {w' : World}
    (hlookup : w'.shared.instances.lookup n = w.shared.instances.lookup n)
    (hdeparts : w'.loop.departs n = w.loop.departs n) : allowanceOf w' n = allowanceOf w n := by
  rw [allowanceOf, allowanceOf, trackings, trackings, hlookup, hdeparts]

theorem departs_afterFlow_of_ne {m : UInt32} {flow : Flow} (h : n ≠ m) :
    (afterFlow m rest flow).departs n = false := by
  cases flow with
  | await pc => simp [afterFlow, LoopState.departs, h]
  | done => rfl
  | panicked => rfl

theorem departs_afterFlow {flow : Flow} {pc : HandlerPc} (hflow : flow = .await pc)
    (hpc : pc.departing = true) : (afterFlow n rest flow).departs n = true := by
  simp [hflow, afterFlow, LoopState.departs, hpc]

theorem allowanceOf_le_of_stageEffect (hi : sh.instances.lookup n = some i)
    (h : StageEffect sh n i.state.stage o) :
    o.shared.instances.lookup n = none ∨
      allowanceOf ⟨o.shared, calls, afterFlow n rest o.flow⟩ n ≤ i.state.stage.allowance := by
  cases h with
  | kept hinst =>
      right
      rw [allowanceOf_of_some (show o.shared.instances.lookup n = some i by rw [hinst, hi])]
      exact Nat.sub_le _ _
  | advanced state hinst hnext =>
      right
      have hlookup : o.shared.instances.lookup n = some { i with state := state } := by
        rw [hinst, K8sManager.lookup_updateInstanceState, if_pos rfl, hi, Option.map_some]
      rw [allowanceOf_of_some hlookup]
      exact Nat.le_trans (Nat.sub_le _ _) hnext.allowance_le
  | forgotten hfinal hinst =>
      left
      rw [hinst, K8sManager.lookup_removeInstance, if_pos rfl]

theorem Departs.allowanceOf_lt (hi : sh.instances.lookup n = some i)
    (h : Departs sh n i.state.stage o) :
    o.shared.instances.lookup n = none ∨
      allowanceOf ⟨o.shared, calls, afterFlow n rest o.flow⟩ n < i.state.stage.allowance := by
  cases h with
  | advanced state hinst hdeparture =>
      right
      have hlookup : o.shared.instances.lookup n = some { i with state := state } := by
        rw [hinst, K8sManager.lookup_updateInstanceState, if_pos rfl, hi, Option.map_some]
      rw [allowanceOf_of_some hlookup]
      exact Nat.lt_of_le_of_lt (Nat.sub_le _ _) hdeparture.allowance_lt
  | forgotten hinst =>
      left
      rw [hinst, K8sManager.lookup_removeInstance, if_pos rfl]
  | suspended pc hinst hflow hpc =>
      right
      rw [allowanceOf_of_some (show o.shared.instances.lookup n = some i by rw [hinst, hi]),
        if_pos (departs_afterFlow hflow hpc)]
      exact Nat.sub_lt i.state.stage.allowance_pos (by decide)

end Allowance

/-! ## Counting -/

section Counting

variable {setup : Setup} {n : UInt32} {tr : List TickEvent} {t : List Event}

theorem foldl_forgotten_le (setup : Setup) (n : UInt32) (t : List Event) (count : Nat) :
    (t.filterMap Event.forgotten).foldl (countDue setup n) count ≤ count := by
  induction t generalizing count with
  | nil => exact Nat.le_refl _
  | cons e t ih =>
      cases h : e.forgotten with
      | none =>
          rw [List.filterMap_cons_none h]
          exact ih count
      | some event =>
          rw [List.filterMap_cons_some h, List.foldl_cons]
          refine Nat.le_trans (ih _) ?_
          -- the only events of a removal are those of forgetting
          cases e with
          | removed m old =>
              cases old with
              | none => cases h
              | some i =>
                  cases h
                  simp only [countDue]
                  split
                  · exact Nat.zero_le _
                  · exact Nat.le_refl _
          | _ => cases h

theorem foldl_forgotten_eq_zero (h : ∃ e ∈ t, IsRemoved n e) (count : Nat) :
    (t.filterMap Event.forgotten).foldl (countDue setup n) count = 0 := by
  induction t generalizing count with
  | nil => simp at h
  | cons e t ih =>
      obtain ⟨x, hx, hremoved⟩ := h
      rcases List.mem_cons.1 hx with rfl | hx
      · cases x with
        | removed m old =>
            cases old with
            | none => exact absurd hremoved id
            | some i =>
                have hm : m = n := hremoved
                have hcons : (Event.removed m (some i) :: t).filterMap Event.forgotten =
                    .forgotten m :: t.filterMap Event.forgotten := rfl
                rw [hcons, List.foldl_cons, countDue, if_pos hm]
                exact Nat.le_zero.1 (foldl_forgotten_le setup n t 0)
        | _ => exact absurd hremoved id
      · cases hf : e.forgotten with
        | none =>
            rw [List.filterMap_cons_none hf]
            exact ih ⟨x, hx, hremoved⟩ count
        | some event =>
            rw [List.filterMap_cons_some hf, List.foldl_cons]
            exact ih ⟨x, hx, hremoved⟩ _

theorem dueSince_observe {w w' : World} {label : Label}
    (hstep : Lifecycle.step setup w label = some (w', t)) :
    dueSince setup n (tr ++ observe setup w label) =
      (t.filterMap Event.forgotten).foldl (countDue setup n)
        ((takes w label).foldl (countDue setup n) (dueSince setup n tr)) := by
  rw [dueSince, List.foldl_append, observe, List.foldl_append, hstep]
  rfl

end Counting

/-! ## Steps -/

/-- The due dispatches since PR `n` was last forgotten, and those that are left to it. -/
def Paid (setup : Setup) (w : World) (tr : List TickEvent) (n : UInt32) : Prop :=
  dueSince setup n tr + allowanceOf w n ≤ 3

section Steps

variable {setup : Setup} {w w' : World} {label : Label} {t : List Event} {tr : List TickEvent}
  {n : UInt32}

/-- A step that forgets PR `n`, or pays for the due dispatches that it adds. -/
theorem Paid.pay {cost : Nat} (h : Paid setup w tr n)
    (hstep : Lifecycle.step setup w label = some (w', t))
    (htakes : (takes w label).foldl (countDue setup n) (dueSince setup n tr) =
      dueSince setup n tr + cost)
    (hpiece : (∃ e ∈ t, IsRemoved n e) ∨ allowanceOf w' n + cost ≤ allowanceOf w n) :
    Paid setup w' (tr ++ observe setup w label) n := by
  rw [Paid, dueSince_observe hstep, htakes]
  rcases hpiece with hremoved | hpaid
  · rw [foldl_forgotten_eq_zero hremoved, Nat.zero_add]
    exact allowanceOf_le_three w' n
  · have hle := foldl_forgotten_le setup n t (dueSince setup n tr + cost)
    rw [Paid] at h
    omega

theorem paid_start {id : Nat} {label : StartLabel} (hcoh : Coherent w) (h : Paid setup w tr n)
    (hstep : Lifecycle.step setup w (.start id label) = some (w', t)) :
    Paid setup w' (tr ++ observe setup w (.start id label)) n := by
  refine @Paid.pay setup w w' _ t tr n 0 h hstep rfl (Or.inr ?_)
  obtain ⟨o, ho, rfl, rfl⟩ := step_start_iff.1 hstep
  rcases stepped_instances (StartPr.stepped_of_step ho) with hinst | ⟨m, i, hm, -, hinst⟩
  · exact Nat.le_of_eq (allowanceOf_congr (by simp only [hinst]) rfl)
  · by_cases hn : n = m
    · -- the PR of a call in flight is not tracked, so nothing has been paid for it
      subst hn
      rw [allowanceOf_of_none (hcoh.untracked id n hm)]
      exact allowanceOf_le_three _ n
    · refine Nat.le_of_eq (allowanceOf_congr ?_ rfl)
      simp only [hinst, AList.lookup_insert_ne hn]

/-- The loop takes an entry of PR `m`. -/
theorem paid_advance {m : UInt32} {i : PrInstance} {rest : List (UInt32 × PrInstance)}
    {now : Instant} (hcoh : Coherent w) (h : Paid setup w tr n)
    (hloop : w.loop = .next ((m, i) :: rest)) (hi : w.shared.instances.lookup m = some i)
    (hstep : Lifecycle.step setup w (.advance now) =
      some (⟨(dispatch setup w.shared m i now).shared, w.calls,
        afterFlow m rest (dispatch setup w.shared m i now).flow⟩, t)) :
    Paid setup ⟨(dispatch setup w.shared m i now).shared, w.calls,
      afterFlow m rest (dispatch setup w.shared m i now).flow⟩
        (tr ++ observe setup w (.advance now)) n := by
  have hdispatched := dispatched_dispatch setup w.shared m i now
  by_cases hn : n = m
  · subst hn
    have hbefore : allowanceOf w n = i.state.stage.allowance := by
      rw [allowanceOf_of_some hi, hloop]
      rfl
    cases hdue : i.due setup now with
    | true =>
        -- the count goes up by one and the allowance down
        refine @Paid.pay setup w _ _ t tr n 1 h hstep ?_ ?_
        · simp [takes, hloop, countDue, hdue]
        · rcases (departs_of_due hdue).allowanceOf_lt hi with hnone | hlt
          · exact Or.inl (exists_removed_of_forgotten hcoh hstep hi hnone)
          · rw [hbefore]
            exact Or.inr (hlt)
    | false =>
        refine @Paid.pay setup w _ _ t tr n 0 h hstep ?_ ?_
        · simp [takes, hloop, countDue, hdue]
        · have heff := stageEffect_of_dispatched hdispatched
          rcases allowanceOf_le_of_stageEffect hi heff with hnone | hle
          · exact Or.inl (exists_removed_of_forgotten hcoh hstep hi hnone)
          · rw [hbefore]
            exact Or.inr hle
  -- an entry of another PR costs this one nothing
  · refine @Paid.pay setup w _ _ t tr n 0 h hstep ?_ (Or.inr (Nat.le_of_eq ?_))
    · simp [takes, hloop, countDue, Ne.symm hn]
    · refine allowanceOf_congr ?_ ?_
      · exact (instanceEffect_of_dispatched hdispatched).lookup_of_ne hn
      · rw [hloop]
        exact departs_afterFlow_of_ne hn

/-- The handler of PR `m` goes on. -/
theorem paid_resume {m : UInt32} {pc : HandlerPc} {rest : List (UInt32 × PrInstance)}
    {answer : Answer} {o : Outcome} {i : PrInstance} (hcoh : Coherent w) (h : Paid setup w tr n)
    (hloop : w.loop = .running m pc rest) (hi : w.shared.instances.lookup m = some i)
    (hpc : PcMatches i pc) (ho : resume setup w.shared m pc answer = some o)
    (hstep : Lifecycle.step setup w (.resume answer) =
      some (⟨o.shared, w.calls, afterFlow m rest o.flow⟩, t)) :
    Paid setup ⟨o.shared, w.calls, afterFlow m rest o.flow⟩
      (tr ++ observe setup w (.resume answer)) n := by
  have hres := resumed_of_resume ho
  refine @Paid.pay setup w _ _ t tr n 0 h hstep rfl ?_
  by_cases hn : n = m
  · subst hn
    cases hdeparting : pc.departing with
    | true =>
        have hdeparts := departs_of_resumed hres hdeparting
        rw [← stage_of_pcMatches hpc] at hdeparts
        rcases hdeparts.allowanceOf_lt hi with hnone | hlt
        · exact Or.inl (exists_removed_of_forgotten hcoh hstep hi hnone)
        · -- the due dispatch that started this handler is paid already
          have hpaid : w.loop.departs n = true := by simp [hloop, LoopState.departs, hdeparting]
          rw [allowanceOf_of_some hi, if_pos hpaid]
          exact Or.inr (Nat.le_sub_one_of_lt hlt)
    | false =>
        have heff := stageEffect_of_resumed hres
        rw [← stage_of_pcMatches hpc] at heff
        rcases allowanceOf_le_of_stageEffect hi heff with hnone | hle
        · exact Or.inl (exists_removed_of_forgotten hcoh hstep hi hnone)
        · have hpaid : w.loop.departs n = false := by simp [hloop, LoopState.departs, hdeparting]
          rw [allowanceOf_of_some hi, hpaid]
          exact Or.inr hle
  · refine Or.inr (Nat.le_of_eq (allowanceOf_congr ?_ ?_))
    · exact (instanceEffect_of_resumed hres).lookup_of_ne hn
    · rw [hloop, departs_afterFlow_of_ne hn]
      simp [LoopState.departs, hn]

theorem paid_step (hcoh : Coherent w) (h : Paid setup w tr n)
    (hstep : Lifecycle.step setup w label = some (w', t)) :
    Paid setup w' (tr ++ observe setup w label) n := by
  cases label with
  | start id label => exact paid_start hcoh h hstep
  | tick snapshot =>
      refine @Paid.pay setup w w' _ t tr n 0 h hstep rfl (Or.inr (Nat.le_of_eq ?_))
      obtain ⟨hloop, -, rfl, -⟩ := step_tick_iff.1 hstep
      refine allowanceOf_congr rfl ?_
      rw [hloop]
      rfl
  | advance now =>
      rcases step_advance_iff.1 hstep with ⟨hloop, hw', -⟩ | ⟨m, i, rest, hloop, rfl, -⟩
      · refine @Paid.pay setup w w' _ t tr n 0 h hstep ?_ (Or.inr (Nat.le_of_eq ?_))
        · simp [takes, hloop]
        · rw [hw']
          refine allowanceOf_congr rfl ?_
          rw [hloop]
          rfl
      · exact paid_advance hcoh h hloop (hcoh.lookup_next hloop) hstep
  | resume answer =>
      obtain ⟨m, pc, rest, o, hloop, ho, rfl, -⟩ := step_resume_iff.1 hstep
      obtain ⟨i, hi, hpc⟩ := hcoh.lookup_running hloop
      exact paid_resume hcoh h hloop hi hpc ho hstep

/-- A PR that is found due has an allowance left. -/
theorem justified_observe (hcoh : Coherent w) (h : ∀ n, Paid setup w tr n) :
    Justified (fun pre => AtMostThrice setup (tr ++ pre)) (observe setup w label) := by
  rw [observe, justified_append_iff]
  constructor
  · cases label with
    | advance now =>
        cases hloop : w.loop with
        | next rest =>
            cases rest with
            | nil => simp [takes, hloop]
            | cons e rest =>
                obtain ⟨n, i⟩ := e
                simp only [takes, hloop, justified_singleton_iff, List.append_nil]
                intro _
                have hn := h n
                have hpos := i.state.stage.allowance_pos
                rw [Paid, allowanceOf_of_some (hcoh.lookup_next hloop), hloop] at hn
                -- no handler is running, so nothing of the allowance is spoken for
                have hsum : dueSince setup n tr + i.state.stage.allowance ≤ 3 := hn
                omega
        | _ => simp [takes, hloop]
    | _ => simp [takes]
  · intro pre e post hsplit
    cases e with
    | forgotten n => trivial
    | taken n i now =>
        -- the events after the taken entry are those of forgetting
        have hmem : TickEvent.taken n i now ∈ pre ++ .taken n i now :: post := by simp
        rw [← hsplit] at hmem
        cases hs : Lifecycle.step setup w label with
        | none => simp [hs] at hmem
        | some q =>
            simp only [hs, List.mem_filterMap] at hmem
            obtain ⟨x, -, hx⟩ := hmem
            cases x with
            | removed m old => cases old <;> cases hx
            | _ => cases hx

end Steps

/-! ## Runs -/

/-- In every run in which calls of one PR do not overlap, a PR is found due at most three times
before it is forgotten: every tick that finds it due takes it to a later stage or forgets it. -/
theorem found_due_thrice (setup : Setup) (w w' : World) (labels : List Label)
    (tr : List TickEvent) (hfresh : Fresh w) (hmeets : (system setup).Meets NoOverlap w labels)
    (hrun : (system setup).exec w labels = some (w', tr)) :
    Justified (AtMostThrice setup) tr := by
  have h0 : (Coherent w ∧ ∀ n, Paid setup w [] n) ∧ Justified (AtMostThrice setup) [] := by
    refine ⟨⟨coherent_of_fresh hfresh, fun n => ?_⟩, justified_nil⟩
    rw [Paid, dueSince, List.foldl_nil, Nat.zero_add]
    exact allowanceOf_le_three w n
  have hinv := @System.exec_invariant _ _ _ (system setup) NoOverlap
    (fun w tr => (Coherent w ∧ ∀ n, Paid setup w tr n) ∧ Justified (AtMostThrice setup) tr)
    (by
      rintro s tr label s' t ⟨⟨hcoh, hpaid⟩, hjustified⟩ hno hstep
      obtain ⟨⟨t₀, hloop⟩, rfl⟩ := System.step_observed_iff _ |>.1 hstep
      refine ⟨⟨coherent_step hcoh hno hloop, fun n => paid_step hcoh (hpaid n) hloop⟩, ?_⟩
      exact justified_append_iff.2 ⟨hjustified, justified_observe hcoh hpaid⟩)
    labels w w' [] tr h0 hmeets hrun
  exact hinv.2

/-- PR 7, whose build times out, and the tick that forgets it. -/
def timeoutSample : List Label :=
  [.tick [(7, buildingSample)], .advance ⟨4000000000000⟩, .advance ⟨4000000000000⟩,
    .tick [(7, { buildingSample with state := .failed "Build timeout" })],
    .advance ⟨4000000000001⟩, .advance ⟨4000000000001⟩]

/-- PR 7 is found due once in `Building` and once in `Failed`. -/
theorem found_due_thrice_sample :
    Justified (AtMostThrice sampleSetup)
      [.taken 7 buildingSample ⟨4000000000000⟩,
        .taken 7 { buildingSample with state := .failed "Build timeout" } ⟨4000000000001⟩,
        .forgotten 7] := by
  have hevents : ((system sampleSetup).exec buildingWorld timeoutSample).map Prod.snd =
      some [.taken 7 buildingSample ⟨4000000000000⟩,
        .taken 7 { buildingSample with state := .failed "Build timeout" } ⟨4000000000001⟩,
        .forgotten 7] := by
    decide +kernel
  obtain ⟨w', hrun⟩ := (system sampleSetup).exists_exec_of_events hevents
  have hmeets : (system sampleSetup).Meets NoOverlap buildingWorld timeoutSample :=
    System.meets_of_forall _ (by simp [timeoutSample, NoOverlap]) _
  exact found_due_thrice sampleSetup buildingWorld w' timeoutSample _ fresh_buildingWorld hmeets
    hrun

end Ticks

end SteelProxy
