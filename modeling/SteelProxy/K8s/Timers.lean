import SteelProxy.K8s.Agreement
import SteelProxy.K8s.TimerEffects

/-!
# Exact timers

An instance is to leave `Ready` no earlier than its configured time after it became ready, and a
build is to time out only after its configured time. This holds of a run, together with the
values computed on the way, exactly when the products and sums of every step fit and no call
replaces an instance that the loop has in hand (`timers_exact_iff`). The configuration is not
checked, so a large number of minutes wraps to a small one (`wrapped_timeout_expires`) or ends in
a panic.
-/

set_option autoImplicit false

namespace SteelProxy.Timers

open SteelProxy.Lifecycle SteelProxy.Library SteelProxy.Library.Transition

/-! ## The loop -/

/-- The entries have distinct PRs, all tracked, and each matches a `Ready` instance. -/
def Listed (sh : Shared) (rest : List (UInt32 × PrInstance)) : Prop :=
  (rest.map Prod.fst).Nodup ∧
    ∀ k i, (k, i) ∈ rest → (sh.instances.lookup k).isSome ∧ Matches sh k i

/-- The entries to be handled are listed, and the running handler is one that a `Ready` instance
allows. -/
def LoopTimed (sh : Shared) (tr : List TimerEvent) : LoopState → Prop
  | .waiting => True
  | .next rest => Listed sh rest
  | .running n pc rest =>
      n ∉ rest.map Prod.fst ∧ Listed sh rest ∧ (sh.instances.lookup n).isSome ∧
        ∀ shutdownAt, shutdownOf sh n = some shutdownAt → ReadyHandler n tr shutdownAt pc
  | .panicked => True

section Loop

variable {setup : Setup} {sh sh' : Shared} {tr tr' : List TimerEvent} {n : UInt32}
  {rest : List (UInt32 × PrInstance)}

theorem listed_of_perm {snapshot : List (UInt32 × PrInstance)}
    (h : snapshot.Perm (K8sManager.getInstancesSnapshot sh.instances)) : Listed sh snapshot := by
  obtain ⟨hnodup, hcurrent⟩ := current_of_perm h
  refine ⟨hnodup, ?_⟩
  intro k i hk
  have hi := hcurrent k i hk
  refine ⟨by rw [hi]; rfl, ?_⟩
  intro shutdownAt hs
  rwa [shutdownOf_eq hi] at hs

theorem Listed.head {i : PrInstance} (h : Listed sh ((n, i) :: rest)) :
    (sh.instances.lookup n).isSome ∧ Matches sh n i :=
  h.2 n i List.mem_cons_self

theorem Listed.tail {i : PrInstance} (h : Listed sh ((n, i) :: rest)) :
    n ∉ rest.map Prod.fst ∧ Listed sh rest := by
  obtain ⟨hnodup, hentries⟩ := h
  rw [List.map_cons, List.nodup_cons] at hnodup
  exact ⟨hnodup.1, hnodup.2, fun k j hk => hentries k j (List.mem_cons_of_mem _ hk)⟩

/-- The entries stay listed when every tracked PR stays tracked and no instance becomes `Ready`
or changes its shutdown time. -/
theorem Listed.mono (h : Listed sh rest)
    (htracked : ∀ k, k ∈ rest.map Prod.fst → (sh.instances.lookup k).isSome →
      (sh'.instances.lookup k).isSome)
    (hready : ∀ k, k ∈ rest.map Prod.fst → ∀ shutdownAt, shutdownOf sh' k = some shutdownAt →
      shutdownOf sh k = some shutdownAt) : Listed sh' rest := by
  refine ⟨h.1, ?_⟩
  intro k i hk
  have hmem : k ∈ rest.map Prod.fst := List.mem_map.2 ⟨(k, i), hk, rfl⟩
  obtain ⟨hsome, hmatches⟩ := h.2 k i hk
  exact ⟨htracked k hmem hsome, fun shutdownAt hs => hmatches shutdownAt (hready k hmem _ hs)⟩

/-- A piece of the handler of another PR keeps the entries listed. -/
theorem Listed.frame (h : Listed sh rest) (hn : n ∉ rest.map Prod.fst)
    (hother : ∀ k, k ≠ n → sh'.instances.lookup k = sh.instances.lookup k) :
    Listed sh' rest := by
  have hne : ∀ k, k ∈ rest.map Prod.fst → k ≠ n := by
    rintro k hk rfl
    exact hn hk
  apply h.mono
  · intro k hk hsome
    rw [hother k (hne k hk)]
    exact hsome
  · intro k hk shutdownAt hs
    rwa [shutdownOf_congr (hother k (hne k hk))] at hs

/-- A piece that suspends the handler keeps its PR tracked. -/
theorem isSome_lookup_of_await {o : Outcome} (heff : InstanceEffect sh n o) {pc : HandlerPc}
    (hflow : o.flow = .await pc) (htracked : (sh.instances.lookup n).isSome) :
    (o.shared.instances.lookup n).isSome := by
  rcases heff.change with hinst | ⟨state, hinst⟩ | ⟨-, hdone, -⟩
  · rwa [hinst]
  · rw [hinst, K8sManager.isSome_lookup_updateInstanceState]
    exact htracked
  · rw [hdone] at hflow
    cases hflow

theorem loopTimed_afterFlow {o : Outcome} (heff : InstanceEffect sh n o)
    (hn : n ∉ rest.map Prod.fst) (hrest : Listed sh rest)
    (htracked : (sh.instances.lookup n).isSome)
    (hawait : ∀ pc, o.flow = .await pc → ∀ shutdownAt, shutdownOf o.shared n = some shutdownAt →
      ReadyHandler n tr shutdownAt pc) :
    LoopTimed o.shared tr (afterFlow n rest o.flow) := by
  have hrest' := hrest.frame hn fun k hk => heff.lookup_of_ne hk
  cases hflow : o.flow with
  | await pc => exact ⟨hn, hrest', isSome_lookup_of_await heff hflow htracked, hawait pc hflow⟩
  | done => exact hrest'
  | panicked => trivial

/-- The dispatch of a `Ready` entry suspends only at the registry lock of a shutdown that is
due. -/
theorem unregister_of_dispatched_ready {i : PrInstance} {now shutdownAt : Instant} {o : Outcome}
    {pc : HandlerPc} (h : Dispatched setup sh n i now o)
    (hready : i.state.shutdownTime = some shutdownAt) (hflow : o.flow = .await pc) :
    (∃ deploymentName, pc = .unregister deploymentName) ∧ shutdownAt.nanos ≤ now.nanos := by
  cases h with
  | expired deploymentName address port readyAt shutdownAt' message hstate hlate =>
      rw [hstate] at hready
      cases hready
      cases hflow
      exact ⟨⟨deploymentName, rfl⟩, hlate⟩
  | ready deploymentName address port readyAt shutdownAt' hstate => cases hflow
  | buildTimedOut startedAt queueUrl message hstate hlate => cases hflow
  | notQueued startedAt hstate => cases hflow
  | startTimedOut name address port startedAt message hstate hlate => cases hflow
  | failed reason hstate => cases hflow
  | building startedAt queueUrl hstate => rw [hstate] at hready; cases hready
  | deploying imageTag hstate => rw [hstate] at hready; cases hready
  | starting name address port startedAt hstate => rw [hstate] at hready; cases hready
  | shuttingDown name hstate => rw [hstate] at hready; cases hready

theorem loopTimed_dispatch {i : PrInstance} {now : Instant} (h : Listed sh ((n, i) :: rest)) :
    LoopTimed (dispatch setup sh n i now).shared (tr ++ dispatchEvents setup sh n i now)
      (afterFlow n rest (dispatch setup sh n i now).flow) := by
  have hdispatched := dispatched_dispatch setup sh n i now
  obtain ⟨htracked, hmatches⟩ := h.head
  obtain ⟨hn, hrest⟩ := h.tail
  apply loopTimed_afterFlow (instanceEffect_of_dispatched hdispatched) hn hrest htracked
  intro pc hflow shutdownAt hs
  rcases (timerEffect_of_dispatched hdispatched).times with hinst | ⟨hnone, -⟩
  · rw [shutdownOf_of_eq hinst] at hs
    obtain ⟨⟨deploymentName, rfl⟩, hdue⟩ :=
      unregister_of_dispatched_ready hdispatched (hmatches shutdownAt hs) hflow
    exact ⟨now, lastOf_dispatchEvents.2.2, hdue⟩
  · rw [hnone] at hs
    cases hs

theorem loopTimed_resume {pc : HandlerPc} {answer : Answer} {o : Outcome}
    (h : LoopTimed sh tr (.running n pc rest)) (ho : resume setup sh n pc answer = some o) :
    LoopTimed o.shared tr' (afterFlow n rest o.flow) := by
  obtain ⟨hn, hrest, htracked, hready⟩ := h
  have hresumed := resumed_of_resume ho
  apply loopTimed_afterFlow (instanceEffect_of_resumed hresumed) hn hrest htracked
  intro pc' hflow shutdownAt hs
  cases hclock : registerClock pc answer with
  | none =>
      rcases (timerEffect_of_resumed hresumed hclock).times with hinst | ⟨hnone, -⟩
      · -- a handler on a `Ready` instance ends with its next piece
        rw [shutdownOf_of_eq hinst] at hs
        rw [done_of_resumed_ready hresumed (hready shutdownAt hs)] at hflow
        cases hflow
      · rw [hnone] at hs
        cases hs
  | some now =>
      obtain ⟨commitHash, commitHashShort, deploymentName, address, port, readyAt, rfl, rfl⟩ :=
        resumed_of_registerClock ho hclock
      simp only [handleStartingRegistered] at hflow
      split at hflow
      · cases hflow
      · cases hflow
        trivial

theorem loopTimed_start {id : Nat} {call : StartCall} {label : StartLabel}
    {o : StartPr.Outcome} {loop : LoopState} (h : LoopTimed sh tr loop)
    (ho : StartPr.step setup sh id call label = some o)
    (hcheck : ∀ k, lastOf (checkTime k) tr' = lastOf (checkTime k) tr) :
    LoopTimed o.shared tr' loop := by
  -- an insertion keeps what is tracked, and the inserted instance is not `Ready`
  have hmono : ∀ k, ((sh.instances.lookup k).isSome → (o.shared.instances.lookup k).isSome) ∧
      ∀ shutdownAt, shutdownOf o.shared k = some shutdownAt →
        shutdownOf sh k = some shutdownAt := by
    intro k
    cases callEffect_of_step ho with
    | kept hinserted hinst =>
        rw [shutdownOf_of_eq hinst, hinst]
        exact ⟨fun hsome => hsome, fun _ hs => hs⟩
    | inserted n i hinserted hready hreason hcreations hinst =>
        by_cases hk : k = n
        · subst hk
          have hlookup : o.shared.instances.lookup k = some i := by
            rw [hinst, AList.lookup_insert]
          rw [shutdownOf_eq hlookup, hready, hlookup]
          exact ⟨fun _ => rfl, fun _ hs => by cases hs⟩
        · have hlookup : o.shared.instances.lookup k = sh.instances.lookup k := by
            rw [hinst, AList.lookup_insert_ne hk]
          rw [shutdownOf_congr hlookup, hlookup]
          exact ⟨fun hsome => hsome, fun _ hs => hs⟩
  have hlisted : ∀ rest, Listed sh rest → Listed o.shared rest := fun rest hrest =>
    hrest.mono (fun k _ => (hmono k).1) (fun k _ => (hmono k).2)
  cases loop with
  | waiting => trivial
  | next rest => exact hlisted rest h
  | running n pc rest =>
      obtain ⟨hn, hrest, htracked, hready⟩ := h
      refine ⟨hn, hlisted rest hrest, (hmono n).1 htracked, ?_⟩
      intro shutdownAt hs
      have hpc := hready shutdownAt ((hmono n).2 shutdownAt hs)
      cases pc with
      | persist commitHash commitHashShort => trivial
      | unregister deploymentName =>
          obtain ⟨now, hnow, hdue⟩ := hpc
          exact ⟨now, by rw [hcheck, hnow], hdue⟩
      | _ => exact hpc
  | panicked => trivial

variable {w w' : World} {t : List Event} {label : Label}

/-- A call records no check. -/
theorem lastOf_checkTime_startEvents {id : Nat} {label : StartLabel} (k : UInt32) :
    lastOf (checkTime k) (tr ++ startEvents setup w id label) = lastOf (checkTime k) tr := by
  apply lastOf_append_of_forall_none
  intro e he
  simp only [startEvents] at he
  split at he
  · cases he
  · split at he
    · cases he
    · rcases List.mem_append.1 he with he | he
      · exact (unread_moves (k := k) e he).2.2
      · cases label with
        | jenkinsAnswered answer now =>
            rw [List.mem_singleton.1 he]
            rfl
        | _ => cases he

/-- A step of the loop or of a call emits exact timers exactly when its timers fit. -/
theorem justified_loopEvents_iff (htimed : Timed setup w.shared tr)
    (hloop : LoopTimed w.shared tr w.loop) (hstep : step setup w label = some (w', t)) :
    Justified (fun pre => Exact setup (tr ++ pre)) (loopEvents setup w label) ↔
      LoopFits setup w label := by
  cases label with
  | start id label =>
      obtain ⟨o, ho, -, -⟩ := step_start_iff.1 hstep
      exact justified_startEvents_iff ho
  | tick snapshot => exact iff_of_true justified_nil trivial
  | advance now =>
      rcases step_advance_iff.1 hstep with ⟨hnext, -, -⟩ | ⟨n, i, rest, hnext, -, -⟩
      · simp only [loopEvents, LoopFits, hnext]
        exact iff_of_true justified_nil (by simp)
      · rw [hnext] at hloop
        simp only [loopEvents, LoopFits, hnext, justified_dispatchEvents_iff (htimed n)
          (Listed.head hloop).2]
        constructor
        · intro h n' i' rest' startedAt heq hstart
          cases heq
          exact h startedAt hstart
        · intro h startedAt hstart
          exact h n i rest startedAt rfl hstart
  | resume answer =>
      obtain ⟨n, pc, rest, o, hrunning, ho, -, -⟩ := step_resume_iff.1 hstep
      rw [hrunning] at hloop
      obtain ⟨-, -, htracked, hready⟩ := hloop
      simp only [loopEvents, LoopFits, hrunning,
        justified_resumeEvents_iff (htimed n) ho htracked hready]
      constructor
      · intro h n' pc' rest' now heq hclock
        cases heq
        exact h now hclock
      · intro h now hclock
        exact h n pc rest now rfl hclock

/-- A step whose timers fit keeps the times and the loop as they are to be. -/
theorem timed_step (htimed : Timed setup w.shared tr) (hloop : LoopTimed w.shared tr w.loop)
    (hfits : LoopFits setup w label) (hstep : step setup w label = some (w', t)) :
    Timed setup w'.shared (tr ++ loopEvents setup w label) ∧
      LoopTimed w'.shared (tr ++ loopEvents setup w label) w'.loop := by
  cases label with
  | start id label =>
      obtain ⟨o, ho, rfl, -⟩ := step_start_iff.1 hstep
      exact ⟨timed_start htimed ho hfits, loopTimed_start hloop ho lastOf_checkTime_startEvents⟩
  | tick snapshot =>
      obtain ⟨-, hperm, rfl, -⟩ := step_tick_iff.1 hstep
      rw [loopEvents, List.append_nil]
      exact ⟨htimed, listed_of_perm hperm⟩
  | advance now =>
      rcases step_advance_iff.1 hstep with ⟨hnext, rfl, -⟩ | ⟨n, i, rest, hnext, rfl, -⟩
      · simp only [loopEvents, hnext, List.append_nil]
        exact ⟨htimed, trivial⟩
      · rw [hnext] at hloop
        have hdispatched := dispatched_dispatch setup w.shared n i now
        have hlookup := fun k (hk : k ≠ n) =>
          (instanceEffect_of_dispatched hdispatched).lookup_of_ne hk
        obtain ⟨hreadyAt, hcreation, -⟩ := @lastOf_dispatchEvents setup w.shared n i now tr
        have hn := (timerEffect_of_dispatched hdispatched).timedAt (htimed n) hreadyAt hcreation
        simp only [loopEvents, hnext]
        exact ⟨htimed.update hlookup concerns_dispatchEvents hn, loopTimed_dispatch hloop⟩
  | resume answer =>
      obtain ⟨n, pc, rest, o, hrunning, ho, rfl, -⟩ := step_resume_iff.1 hstep
      rw [hrunning] at hloop
      have hlookup := fun k (hk : k ≠ n) =>
        (instanceEffect_of_resumed (resumed_of_resume ho)).lookup_of_ne hk
      have hn := timedAt_resume (htimed n) ho hloop.2.2.1 hloop.2.2.2 fun now hclock =>
        hfits n pc rest now hrunning hclock
      simp only [loopEvents, hrunning]
      exact ⟨htimed.update hlookup (concerns_resumeEvents ho) hn, loopTimed_resume hloop ho⟩

end Loop

/-! ## Runs -/

/-- The times of the tracked instances in a state of the process. -/
def Inv (setup : Setup) : Process → List TimerEvent → Prop
  | .loading sh, tr => Timed setup sh tr
  | .recovering r _, tr => Timed setup r.shared tr
  | .running w, tr => Timed setup w.shared tr ∧ LoopTimed w.shared tr w.loop
  | .panicked, _ => True

section Runs

variable {setup : Setup} {p p' : Process} {label : ProcessLabel} {tr : List TimerEvent}

theorem justified_observe_iff (hinv : Inv setup p tr) (h : Process.Stepped setup p label p') :
    Justified (fun pre => Exact setup (tr ++ pre)) (observe setup p label) ↔
      TimersFit setup p label := by
  cases h with
  | loaded sh error => exact iff_of_true justified_nil trivial
  | recovered r build rest answers => exact justified_recoverEvents_iff
  | spawned r => exact iff_of_true justified_nil trivial
  | stepped w w' label t hstep => exact justified_loopEvents_iff hinv.1 hinv.2 hstep

theorem inv_step (hinv : Inv setup p tr) (hfits : TimersFit setup p label)
    (h : Process.Stepped setup p label p') : Inv setup p' (tr ++ observe setup p label) := by
  cases h with
  | loaded sh error =>
      show Inv setup (Process.loaded sh error) (tr ++ [])
      rw [List.append_nil]
      cases error with
      | none => exact hinv
      | some error => exact ⟨hinv, trivial⟩
  | recovered r build rest answers =>
      cases hbuild : Recovery.recoverBuild setup.kubernetes answers r build with
      | none => trivial
      | some r' => exact timed_recoverBuild hinv hfits hbuild
  | spawned r =>
      show Inv setup (.running (started r.shared)) (tr ++ [])
      rw [List.append_nil]
      exact ⟨hinv, trivial⟩
  | stepped w w' label t hstep => exact timed_step hinv.1 hinv.2 hfits hstep

theorem stepped_of_system {t : List TimerEvent}
    (h : (system setup).step p label = some (p', t)) :
    Process.Stepped setup p label p' ∧ t = observe setup p label := by
  obtain ⟨⟨t₀, hstep⟩, rfl⟩ := System.step_observed_iff _ |>.1 h
  exact ⟨Process.stepped_of_step hstep, rfl⟩

theorem inv_startUp (setup : Setup) (staticBackends : KeyedMap String BackendServer)
    (builds : PrBuilds) (deployments : KeyedMap String String)
    (services : KeyedMap String (Option Int32)) :
    Inv setup (.loading (Shared.startUp staticBackends builds deployments services)) [] :=
  fun _ => .of_none rfl rfl

/-- The stores of a process that has not panicked. -/
def storesOf : Process → Option Shared
  | .loading sh => some sh
  | .recovering r _ => some r.shared
  | .running w => some w.shared
  | .panicked => none

/-- The moves of every PR in a step of the loop or of a call are among its events. -/
theorem moves_subset_loopEvents {w w' : World} {label : Label} {t : List Event}
    (h : step setup w label = some (w', t)) (k : UInt32) :
    ∃ inTick, moves k inTick w.shared w'.shared ⊆ loopEvents setup w label := by
  have hsame : ∀ sh : Shared, sh.instances.lookup k = w.shared.instances.lookup k →
      ∃ inTick, moves k inTick w.shared sh ⊆ loopEvents setup w label := by
    intro sh hlookup
    exact ⟨true, by rw [moves_of_lookup_eq hlookup]; exact List.nil_subset _⟩
  cases label with
  | start id label =>
      obtain ⟨o, ho, rfl, -⟩ := step_start_iff.1 h
      cases callEffect_of_step ho with
      | kept hinserted hinst => exact hsame _ (by rw [hinst])
      | inserted n i hinserted hready hreason hcreations hinst =>
          by_cases hk : k = n
          · subst hk
            refine ⟨false, ?_⟩
            rw [loopEvents, startEvents_of_inserted ho hinserted hcreations]
            exact List.subset_append_left _ _
          · exact hsame _ (by rw [hinst, AList.lookup_insert_ne hk])
  | tick snapshot =>
      obtain ⟨-, -, rfl, -⟩ := step_tick_iff.1 h
      exact hsame _ rfl
  | advance now =>
      rcases step_advance_iff.1 h with ⟨-, rfl, -⟩ | ⟨n, i, rest, hnext, rfl, -⟩
      · exact hsame _ rfl
      · by_cases hk : k = n
        · subst hk
          refine ⟨true, ?_⟩
          simp only [loopEvents, hnext, dispatchEvents]
          intro e he
          exact List.mem_cons_of_mem _ (List.mem_append_right _ he)
        · exact hsame _ ((instanceEffect_of_dispatched
            (dispatched_dispatch setup w.shared n i now)).lookup_of_ne hk)
  | resume answer =>
      obtain ⟨n, pc, rest, o, hrunning, ho, rfl, -⟩ := step_resume_iff.1 h
      by_cases hk : k = n
      · subst hk
        refine ⟨true, ?_⟩
        simp only [loopEvents, hrunning]
        rw [resumeEvents_eq ho]
        exact List.subset_append_right _ _
      · exact hsame _ ((instanceEffect_of_resumed (resumed_of_resume ho)).lookup_of_ne hk)

/-- The events miss no instance that leaves `Ready` and no build that times out: the moves of
every PR in a step are among the events of the step. -/
theorem moves_subset_observe {sh sh' : Shared} (h : Process.Stepped setup p label p')
    (hsh : storesOf p = some sh) (hsh' : storesOf p' = some sh') (k : UInt32) :
    ∃ inTick, moves k inTick sh sh' ⊆ observe setup p label := by
  have hsame : sh'.instances.lookup k = sh.instances.lookup k →
      ∃ inTick, moves k inTick sh sh' ⊆ observe setup p label := by
    intro hlookup
    exact ⟨true, by rw [moves_of_lookup_eq hlookup]; exact List.nil_subset _⟩
  cases h with
  | loaded sh₀ error =>
      cases hsh
      cases error <;> (cases hsh'; exact hsame rfl)
  | recovered r build rest answers =>
      cases hsh
      cases hbuild : Recovery.recoverBuild setup.kubernetes answers r build with
      | none =>
          rw [hbuild] at hsh'
          cases hsh'
      | some r' =>
          rw [hbuild] at hsh'
          cases hsh'
          rcases recoverBuild_cases setup.kubernetes answers r build with
            ⟨address, port, -, heq⟩ | ⟨-, r'', heq, hinst⟩
          · rw [heq] at hbuild
            by_cases hk : k = prNumberAsU32 build.prNumber
            · -- the recovered instance is `Ready` afterwards
              refine ⟨false, ?_⟩
              rw [hk, moves_recoverReady hbuild]
              exact List.nil_subset _
            · have hlookup := lookup_recoverReady_of_ne hbuild hk
              exact hsame hlookup
          · rw [heq] at hbuild
            cases hbuild
            exact hsame (by rw [hinst])
  | spawned r =>
      cases hsh
      cases hsh'
      exact hsame rfl
  | stepped w w' label t hstep =>
      cases hsh
      cases hsh'
      exact moves_subset_loopEvents hstep k

/-! ### Calls that do not overlap -/

/-- The shutdown time fits at every clock reading from which one may be computed, and calls of
one PR do not overlap. -/
def ClocksFit (setup : Setup) : Process → ProcessLabel → Prop
  | _, .recover answers => ShutdownFits setup answers.now
  | .running w, .step label =>
      NoOverlap w label ∧
        ∀ now readyAt, label = .resume (.registryLocked now readyAt) → ShutdownFits setup now
  | _, _ => True

/-- The loop and the calls are coherent once they run. -/
def RunsCoherent : Process → Prop
  | .running w => Coherent w
  | _ => True

theorem runsCoherent_step (hcoh : RunsCoherent p) (hfits : ClocksFit setup p label)
    (h : Process.Stepped setup p label p') : RunsCoherent p' := by
  cases h with
  | loaded sh error =>
      cases error with
      | none => trivial
      | some error => exact coherent_of_fresh (fresh_started sh)
  | recovered r build rest answers =>
      cases Recovery.recoverBuild setup.kubernetes answers r build <;> trivial
  | spawned r => exact coherent_of_fresh (fresh_started r.shared)
  | stepped w w' label t hstep => exact coherent_step hcoh hfits.1 hstep

theorem pending_of_insertedBy {call : StartCall} {label : StartLabel} {n : UInt32}
    (h : insertedBy setup call label = some n) : call.pending = some n := by
  simp only [insertedBy] at h
  split at h
  · exact h
  · split at h
    · exact h
    · cases h
  · cases h

/-- With a representable build timeout the timers of a coherent loop fit. -/
theorem timersFit_of_clocksFit (hbuild : 60 * setup.jenkins.buildTimeoutMinutes.toNat < 2 ^ 64)
    (hcoh : RunsCoherent p) (hfits : ClocksFit setup p label) : TimersFit setup p label := by
  cases p with
  | loading sh => trivial
  | recovering r rows =>
      cases rows with
      | nil => trivial
      | cons build rest =>
          cases label with
          | recover answers => exact fun _ => hfits
          | _ => trivial
  | running w =>
      cases label with
      | step label =>
          cases label with
          | start id label =>
              -- the PR of a call in flight is not tracked
              intro n hn
              have hnone := hcoh.untracked id n (pending_of_insertedBy hn)
              rw [shutdownOf, hnone, Option.bind_none]
          | tick snapshot => trivial
          | advance now =>
              -- the entry is the tracked instance
              intro n i rest startedAt hnext hstart
              refine ⟨hbuild, ?_⟩
              intro hlate trackedSince htracked
              rw [buildStartOf_eq (hcoh.lookup_next hnext), hstart] at htracked
              cases htracked
              exact hlate
          | resume answer =>
              intro n pc rest now hrunning hclock
              simp only [registerClock] at hclock
              split at hclock
              · cases hclock
                exact hfits.2 now _ rfl
              · cases hclock
      | _ => trivial
  | panicked => trivial

/-- In every run in which calls of one PR do not overlap, timeouts that fit are enough: the
timers of every step fit. -/
theorem meets_timersFit_of_clocksFit (sh : Shared) (labels : List ProcessLabel)
    (hbuild : 60 * setup.jenkins.buildTimeoutMinutes.toNat < 2 ^ 64)
    (hmeets : (system setup).Meets (ClocksFit setup) (.loading sh) labels) :
    (system setup).Meets (TimersFit setup) (.loading sh) labels := by
  have hkeep : ∀ p label p' t, RunsCoherent p → ClocksFit setup p label →
      (system setup).step p label = some (p', t) → RunsCoherent p' := by
    intro p label p' t hcoh hfits hstep
    exact runsCoherent_step hcoh hfits (stepped_of_system hstep).1
  have hfits : ∀ p label, RunsCoherent p → ClocksFit setup p label → TimersFit setup p label :=
    fun p label hcoh hclocks => timersFit_of_clocksFit hbuild hcoh hclocks
  exact System.Meets.mono_of_invariant hfits hkeep trivial hmeets

/-! ### The timers of every run -/

/-- In every run of the process the timers are exact if and only if the timers of every step
fit. -/
theorem timers_exact_iff (setup : Setup) (staticBackends : KeyedMap String BackendServer)
    (builds : PrBuilds) (deployments : KeyedMap String String)
    (services : KeyedMap String (Option Int32)) (labels : List ProcessLabel) (p : Process)
    (tr : List TimerEvent)
    (hrun : (system setup).exec
      (.loading (Shared.startUp staticBackends builds deployments services)) labels =
        some (p, tr)) :
    Justified (Exact setup) tr ↔
      (system setup).Meets (TimersFit setup)
        (.loading (Shared.startUp staticBackends builds deployments services)) labels := by
  have hjust : ∀ p tr label p' t, Inv setup p tr → (system setup).step p label = some (p', t) →
      (Justified (fun pre => Exact setup (tr ++ pre)) t ↔ TimersFit setup p label) := by
    intro p tr label p' t hinv hstep
    obtain ⟨hstepped, rfl⟩ := stepped_of_system hstep
    exact justified_observe_iff hinv hstepped
  have hkeep : ∀ p tr label p' t, Inv setup p tr → TimersFit setup p label →
      (system setup).step p label = some (p', t) → Inv setup p' (tr ++ t) := by
    intro p tr label p' t hinv hfits hstep
    obtain ⟨hstepped, rfl⟩ := stepped_of_system hstep
    exact inv_step hinv hfits hstepped
  exact @justified_iff_meets_while _ _ _ (Exact setup) (system setup) (TimersFit setup) (Inv setup)
    hjust hkeep labels _ p [] tr (inv_startUp setup staticBackends builds deployments services) hrun

/-- The default timeouts: PR 7 is recovered at 0 s and shut down at 1800 s. -/
def expireProcess : List ProcessLabel :=
  [.load none, .recover readyAnswers, .spawn] ++ expireSample.map .step

/-- The timers of this run. -/
def expireEvents : List TimerEvent :=
  [.deadline 7 ⟨0⟩ (some ⟨1800000000000⟩), .checked 7 ⟨1800000000000⟩, .left 7 true]

theorem timers_exact_expireProcess :
    ∃ p, (system sampleSetup).exec (.loading Recovery.sampleStartUp) expireProcess =
        some (p, expireEvents) ∧
      (system sampleSetup).Meets (TimersFit sampleSetup) (.loading Recovery.sampleStartUp)
        expireProcess := by
  have hevents : ((system sampleSetup).exec (.loading Recovery.sampleStartUp) expireProcess).map
      Prod.snd = some expireEvents := by rfl
  obtain ⟨p, hrun⟩ := System.exists_exec_of_events _ hevents
  refine ⟨p, hrun, (timers_exact_iff sampleSetup ∅ sampleBuilds ∅ ∅ expireProcess p expireEvents
    hrun).1 ?_⟩
  simp only [expireEvents, justified_cons_iff, justified_nil, and_true]
  exact ⟨rfl, trivial, rfl, ⟨0⟩, ⟨1800000000000⟩, rfl, rfl, by decide⟩

/-- An instance timeout of 307445734561825861 minutes, which is `2^64 + 44` seconds. -/
def wrappingTimeout : Setup :=
  { sampleSetup with
    kubernetes := { sampleSetup.kubernetes with instanceTimeoutMinutes := 307445734561825861 } }

/-- PR 7 is recovered at 0 s and, its timeout having wrapped, shut down at 44 s. -/
def wrappedProcess : List ProcessLabel :=
  [.load none, .recover readyAnswers, .spawn,
    .step (.tick [(7, { recoveredSample with
      state := .ready "steel-pr-7" "127.0.0.1" 30007 ⟨0⟩ ⟨44000000000⟩ })]),
    .step (.advance ⟨44000000000⟩), .step (.resume (.registryLocked ⟨0⟩ ⟨0⟩))]

/-- A timeout that a configuration file can contain, a non-negative TOML integer, wraps: the
instance is shut down early. -/
theorem wrapped_timeout_expires :
    ¬ ∀ (setup : Setup) (staticBackends : KeyedMap String BackendServer) (builds : PrBuilds)
      (deployments : KeyedMap String String) (services : KeyedMap String (Option Int32))
      (labels : List ProcessLabel) (p : Process) (tr : List TimerEvent),
      setup.kubernetes.instanceTimeoutMinutes.toNat < 2 ^ 63 →
        setup.jenkins.buildTimeoutMinutes.toNat < 2 ^ 63 →
          (system setup).exec
              (.loading (Shared.startUp staticBackends builds deployments services)) labels =
            some (p, tr) → Justified (Exact setup) tr := by
  intro hall
  have hevents : ((system wrappingTimeout).exec (.loading Recovery.sampleStartUp)
      wrappedProcess).map Prod.snd =
        some [.deadline 7 ⟨0⟩ (some ⟨44000000000⟩), .checked 7 ⟨44000000000⟩, .left 7 true] := by
    decide +kernel
  obtain ⟨p, hrun⟩ := System.exists_exec_of_events _ hevents
  have hjust := hall wrappingTimeout ∅ sampleBuilds ∅ ∅ wrappedProcess p _ (by decide) (by decide)
    hrun
  -- it leaves `Ready` 44 s after its recovery, long before its configured time
  obtain ⟨-, readyAt, now, hready, hcheck, hdue⟩ :=
    hjust [.deadline 7 ⟨0⟩ (some ⟨44000000000⟩), .checked 7 ⟨44000000000⟩] (.left 7 true) [] rfl
  cases hready
  cases hcheck
  exact absurd hdue (by decide)

end Runs

end SteelProxy.Timers
