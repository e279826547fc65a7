import SteelProxy.Library.Simulation
import SteelProxy.K8s.Agreement
import SteelProxy.Proxy.LockSafety

/-!
# The tasks refine the lifecycle

The tasks of the proxy, with their registry lock, against the lifecycle loop and its `start_pr`
calls, in which the registry is read and written in one step. A client task that is inside
`start_pr` is the call with its number; the logins, the forwarders, the lock and its queue have no
counterpart. Every step of the tasks is then one step of the lifecycle or none (`simulates`), so
that every interleaving of the tasks is one of the lifecycle (`refines_lifecycle`) and what holds
of its stores holds of those of the tasks (`tasks_registry_agrees`). What makes the single steps
sound is the lock: the registry is written by the loop alone, when it holds the only guard
(`registry_written_under_lock`).
-/

set_option autoImplicit false

namespace SteelProxy

open SteelProxy.Library SteelProxy.Library.Transition

/-- The `start_pr` call that a client task is in. -/
def ClientPc.call : ClientPc → StartCall
  | .starting _ _ call => call
  | _ => .idle

/-- What a task does with the registry. -/
def TaskId.access : TaskId → Access
  | .client _ => .read
  | .lifecycle => .write

namespace Tasks

/-- The stores, the `start_pr` calls and the loop of the tasks. -/
def view (s : Tasks) : World := ⟨s.shared, fun c => (s.clients c).call, s.loop⟩

/-- The PR of the `start_pr` call that a forwarder makes for a packet. -/
def begunCall (p : ProxySetup) (f : Forwarding) (packet : RawPacket) : Option UInt32 :=
  match f.run, f.forwarder.packetCommand p.ids packet with
  | .forwarding, some (.start prArg) =>
      if (StartPr.unconfigured p).isNone then Text.parseU32 prArg else none
  | _, _ => none

/-- The step of the lifecycle that a step of the tasks makes, if it makes one. -/
def lifecycleLabels (p : ProxySetup) (s : Tasks) : TaskLabel → List Label
  | .takes client (.client packet) =>
      match s.clients client with
      | .forwarding f => (begunCall p f packet).toList.map fun n => .start client (.call n)
      | _ => []
  | .answers client label => [.start client label]
  | .lifecycle label => [label]
  | .runs (.client client) _ _ =>
      match s.clients client with
      | .starting _ _ _ => [.start client .registryLocked]
      | _ => []
  | .runs .lifecycle now readyAt => [.resume (.registryLocked now readyAt)]
  | _ => []

/-! ## The view after the pieces of a client task -/

/-- The view after a piece of a client task, and the events of the lifecycle in it. -/
structure Shows (w : World) (events : List Event) (result : Tasks × List TaskEvent) : Prop where
  view : result.1.view = w
  events : result.2.filterMap TaskEvent.ofLifecycle = events

theorem filterMap_ofLifecycle_lifecycle (events : List Event) :
    (events.map TaskEvent.lifecycle).filterMap TaskEvent.ofLifecycle = events := by
  rw [List.filterMap_map]
  exact List.filterMap_some

theorem filterMap_ofLifecycle_forwarder (client : Nat) (events : List ForwardEvent) :
    (events.map (TaskEvent.forwarder client)).filterMap TaskEvent.ofLifecycle = [] := by
  rw [List.filterMap_map]
  exact List.filterMap_eq_nil_iff.2 fun _ _ => rfl

section Pieces

variable {p : ProxySetup} {s s' : Tasks} {client : Nat}

/-- The view with the task of a client at `call`. -/
def withCall (w : World) (client : Nat) (call : StartCall) : World :=
  { w with calls := Function.update w.calls client call }

theorem withCall_of_eq {w : World} {call : StartCall} (h : w.calls client = call) :
    withCall w client call = w := by
  subst h
  rw [withCall, Function.update_eq_self]

theorem view_setClient (s : Tasks) (client : Nat) (pc : ClientPc) :
    (s.setClient client pc).view = withCall s.view client pc.call := by
  simp only [view, setClient, withCall, World.mk.injEq, true_and, and_true]
  funext c
  by_cases hc : c = client
  · simp [hc]
  · simp [hc]

theorem view_askRegistry (s : Tasks) (client : Nat) (pc : ClientPc) :
    (s.askRegistry client pc).view = withCall s.view client pc.call :=
  view_setClient s client pc

/-- A client task goes on without an event. -/
theorem shows_setClient (s : Tasks) (client : Nat) {pc : ClientPc} {call : StartCall}
    (hcall : pc.call = call) :
    Shows (withCall s.view client call) [] (s.setClient client pc, []) := by
  subst hcall
  exact ⟨view_setClient s client pc, rfl⟩

theorem shows_askRegistry (s : Tasks) (client : Nat) {pc : ClientPc} {call : StartCall}
    (hcall : pc.call = call) :
    Shows (withCall s.view client call) [] (s.askRegistry client pc, []) := by
  subst hcall
  exact ⟨view_askRegistry s client pc, rfl⟩

theorem shows_afterHandler (s : Tasks) (f : Forwarding) (input : Input) :
    Shows (withCall s.view client .idle) [] (s.afterHandler p client f input) := by
  simp only [afterHandler]
  split
  · exact shows_setClient s client rfl
  · refine ⟨?_, filterMap_ofLifecycle_forwarder client _⟩
    rw [view_setClient]
    split <;> rfl

theorem shows_handle (s : Tasks) (f : Forwarding) (input : Input) :
    Shows (withCall s.view client .idle) [] (s.handle p client f input) := by
  simp only [handle]
  split
  · exact shows_setClient s client rfl
  · exact shows_afterHandler s f input

theorem shows_handlePacket (s : Tasks) (f : PacketForwarder) (packet : RawPacket)
    (started : Except String Unit) :
    Shows (withCall s.view client .idle) [] (s.handlePacket p client f packet started) :=
  shows_handle s _ _

theorem view_afterLookup (s : Tasks) (username : Option String) (uuid : Uuid)
    (backendName : String) :
    (s.afterLookup client username uuid backendName).view = withCall s.view client .idle := by
  simp only [afterLookup]
  split
  · exact view_setClient s client _
  · exact view_setClient s client _

theorem view_afterLogin (s : Tasks) (step : LoginStep) :
    (s.afterLogin p client step).view = withCall s.view client .idle := by
  cases step with
  | acknowledged username uuid => exact view_askRegistry _ client _
  | _ => exact view_setClient s client _

theorem view_afterPacket (s : Tasks) (state : LoginState) (packet : RawPacket) :
    (s.afterPacket p client state packet).view = withCall s.view client .idle := by
  simp only [afterPacket]
  split
  · exact view_setClient s client _
  · exact view_afterLogin s _

/-- The events of a piece of a `start_pr` call come first, and those of the handler to which it
returns are the forwarder's. -/
theorem shows_followStart (s : Tasks) (f : PacketForwarder) (packet : RawPacket)
    (o : StartPr.Outcome) :
    Shows (withCall { s.view with shared := o.shared } client o.call) o.events
      (s.followStart p client f packet o) := by
  have hnext : ∀ {next : Tasks × List TaskEvent},
      Shows (withCall { s.view with shared := o.shared } client o.call) [] next →
      Shows (withCall { s.view with shared := o.shared } client o.call) o.events
        (next.1, o.events.map .lifecycle ++ next.2) := by
    intro next h
    refine ⟨h.view, ?_⟩
    rw [List.filterMap_append, h.events, filterMap_ofLifecycle_lifecycle, List.append_nil]
  simp only [followStart]
  refine hnext ?_
  cases hcall : o.call with
  | idle => exact shows_handlePacket { s with shared := o.shared } f packet _
  | registry n => exact shows_askRegistry { s with shared := o.shared } client rfl
  | _ => exact shows_setClient { s with shared := o.shared } client rfl

theorem shows_afterConsult (s : Tasks) (f : PacketForwarder) (packet : RawPacket)
    (use : RegistryUse) :
    Shows (withCall s.view client .idle) [] (s.afterConsult p client f packet use) := by
  cases use with
  | listServers => exact shows_handlePacket (s.dropGuard (.client client)) f packet _
  | switchServer serverName =>
      simp only [afterConsult]
      split
      · exact shows_handlePacket
          { s.dropGuard (.client client) with
            pendingSwitches := s.pendingSwitches.insert f.playerUuid serverName } f packet _
      · exact shows_handlePacket (s.dropGuard (.client client)) f packet _
  | status searched => exact shows_setClient s client rfl

theorem shows_handleClientPacket_of_none (f : PacketForwarder) (packet : RawPacket)
    (h : begunCall p (.start f) packet = none) :
    Shows (withCall s.view client .idle) [] (s.handleClientPacket p client f packet) := by
  simp only [begunCall, Forwarding.start] at h
  simp only [handleClientPacket]
  cases hcommand : f.packetCommand p.ids packet with
  | none => exact shows_handlePacket s f packet _
  | some command =>
      rw [hcommand] at h
      cases command with
      | listServers => exact shows_askRegistry s client rfl
      | switchServer serverName => exact shows_askRegistry s client rfl
      | start prArg =>
          dsimp only at h ⊢
          cases hn : Text.parseU32 prArg with
          | none => exact shows_handlePacket s f packet _
          | some n =>
              cases hunconfigured : StartPr.unconfigured p with
              | none => simp [hunconfigured, hn] at h
              | some error => exact shows_handlePacket s f packet _
      | status prArg =>
          dsimp only
          split
          · exact shows_askRegistry s client rfl
          · exact shows_handlePacket s f packet _

theorem shows_handleClientPacket_of_some (f : PacketForwarder) (packet : RawPacket) {n : UInt32}
    (h : begunCall p (.start f) packet = some n) :
    Shows
      (withCall { s.view with shared := (StartPr.begin_ p.setup s.shared client n).shared } client
        (StartPr.begin_ p.setup s.shared client n).call)
      (StartPr.begin_ p.setup s.shared client n).events
      (s.handleClientPacket p client f packet) := by
  simp only [begunCall, Forwarding.start] at h
  simp only [handleClientPacket]
  cases hcommand : f.packetCommand p.ids packet with
  | none => simp [hcommand] at h
  | some command =>
      rw [hcommand] at h
      cases command with
      | start prArg =>
          dsimp only at h ⊢
          cases hunconfigured : StartPr.unconfigured p with
          | some error => simp [hunconfigured] at h
          | none =>
              rw [hunconfigured] at h
              rw [show Text.parseU32 prArg = some n from h]
              exact shows_followStart s f packet _
      | _ => cases h

end Pieces

/-! ## Steps -/

section Steps

variable {p : ProxySetup} {s : Tasks} {client : Nat} {result : Tasks × List TaskEvent}

/-- What the tasks show after a step is a run of the lifecycle on the view. -/
def Follows (p : ProxySetup) (s : Tasks) (labels : List Label)
    (result : Tasks × List TaskEvent) : Prop :=
  (Lifecycle.system p.setup).exec s.view labels =
    some (result.1.view, result.2.filterMap TaskEvent.ofLifecycle)

/-- A step of the tasks that leaves the view unchanged. -/
theorem Shows.follows_nil (h : Shows s.view [] result) : Follows p s [] result := by
  rw [Follows, h.view, h.events]
  rfl

/-- A piece of the `start_pr` call of a client task. -/
theorem Shows.follows_start {label : StartLabel} {o : StartPr.Outcome}
    (h : Shows (withCall { s.view with shared := o.shared } client o.call) o.events result)
    (ho : StartPr.step p.setup s.shared client (s.clients client).call label = some o) :
    Follows p s [.start client label] result :=
  (Lifecycle.system p.setup).exec_singleton_iff.2
    (Lifecycle.step_start_iff.2 ⟨o, ho, h.view, h.events⟩)

/-- A step of the loop. -/
theorem Shows.follows_loop {label : Label} {w : World} {events : List Event}
    (h : Shows { w with calls := s.view.calls } events result)
    (hstart : ∀ id start, label ≠ .start id start)
    (hstep : Lifecycle.step p.setup s.world label = some (w, events)) :
    Follows p s [label] result := by
  rw [Follows, h.view, h.events]
  exact (Lifecycle.system p.setup).exec_singleton_iff.2
    (Lifecycle.step_withCalls s.view.calls hstart hstep)

theorem view_afterLoop (s : Tasks) (w : World) :
    (s.afterLoop w).view = { w with calls := s.view.calls } := by
  simp only [afterLoop]
  split <;> rfl

/-- A forwarder handles what it selected. -/
theorem follows_afterSelect {f : Forwarding} {received : Received}
    (hpc : s.clients client = .forwarding f)
    (hselect : s.afterSelect p client f received = some result) :
    Follows p s (lifecycleLabels p s (.takes client received)) result := by
  have hidle : withCall s.view client .idle = s.view :=
    withCall_of_eq (by simp [view, hpc, ClientPc.call])
  -- every input but a packet of the player in the forwarding loop
  have hhandled : ∀ input, (if (Forwarding.step p.ids p.config f input).isSome then
      some (s.handle p client f input) else none) = some result → Follows p s [] result := by
    intro input h
    split at h
    · cases h
      exact Shows.follows_nil (hidle ▸ shows_handle s f input)
    · cases h
  obtain ⟨forwarder, run⟩ := f
  simp only [afterSelect] at hselect
  cases received with
  | client packet =>
      simp only [lifecycleLabels, hpc]
      cases run with
      | forwarding =>
          cases hselect
          cases hbegun : begunCall p ⟨forwarder, .forwarding⟩ packet with
          | none =>
              have hshows := @shows_handleClientPacket_of_none p s client forwarder packet hbegun
              rw [hidle] at hshows
              exact hshows.follows_nil
          | some n =>
              refine (shows_handleClientPacket_of_some forwarder packet hbegun).follows_start ?_
              rw [hpc]
              rfl
      | _ => exact hhandled _ hselect
  | _ => cases run <;> exact hhandled _ hselect

/-- A step of the tasks is a step of the lifecycle on the view, or none. -/
theorem follows_of_step {label : TaskLabel} (hstep : s.step p label = some result) :
    Follows p s (lifecycleLabels p s label) result := by
  -- a client task that is in no call before the step and after it
  have hidle : ∀ {s₀ : Tasks} {client : Nat} {result : Tasks × List TaskEvent},
      s₀.view = s.view → (s.clients client).call = .idle →
      Shows (withCall s₀.view client .idle) [] result → Follows p s [] result := by
    intro s₀ client result hview hcall hshows
    have hsame : withCall s₀.view client .idle = s.view := by
      rw [hview]
      exact withCall_of_eq hcall
    rw [hsame] at hshows
    exact hshows.follows_nil
  cases stepped_of_step hstep with
  | accepted client hpc => exact hidle rfl (by rw [hpc]; rfl) (shows_setClient s client rfl)
  | received client packet state hpc =>
      exact hidle rfl (by rw [hpc]; rfl) ⟨view_afterPacket s state packet, rfl⟩
  | replied client sent state packet hpc =>
      exact hidle rfl (by rw [hpc]; rfl) ⟨view_afterLogin s _, rfl⟩
  | connectFailed client connector backendName hpc =>
      exact hidle rfl (by rw [hpc]; rfl) (shows_setClient s client rfl)
  | connected client connector backendName threshold hpc =>
      exact hidle rfl (by rw [hpc]; rfl) (shows_setClient s client rfl)
  | selected client received f _ hpc hselect => exact follows_afterSelect hpc hselect
  | answered client label f packet call o hpc hlabel hcall =>
      refine (shows_followStart s f packet o).follows_start ?_
      rw [hpc]
      exact hcall
  | wrote client sent f input hpc =>
      exact hidle rfl (by rw [hpc]; rfl) (shows_afterHandler s f _)
  | wroteGuarded client sent f input hpc =>
      exact hidle rfl (by rw [hpc]; rfl) (shows_afterHandler (s.dropGuard (.client client)) f _)
  | looped label w events hconfigured hstart hlocked hloop =>
      have hshows : Shows { w with calls := s.view.calls } events
          (s.afterLoop w, events.map .lifecycle) :=
        ⟨view_afterLoop s w, filterMap_ofLifecycle_lifecycle events⟩
      exact hshows.follows_loop hstart hloop
  | granted lock hgrant =>
      have hshows : Shows s.view [] ({ s with lock := lock }, []) := ⟨rfl, rfl⟩
      exact hshows.follows_nil
  | lookedUp client username uuid backendName now readyAt hholds hpc =>
      simp only [lifecycleLabels, hpc]
      exact hidle rfl (by rw [hpc]; rfl)
        ⟨view_afterLookup (s.dropGuard (.client client)) username uuid backendName, rfl⟩
  | consulted client f packet use now readyAt hholds hpc =>
      simp only [lifecycleLabels, hpc]
      exact hidle rfl (by rw [hpc]; rfl) (shows_afterConsult s f packet use)
  | registryChecked client f packet n now readyAt hholds hpc =>
      simp only [lifecycleLabels, hpc]
      have hshows := @shows_followStart p client (s.dropGuard (.client client)) f packet
        (StartPr.checkRegistry s.shared client n)
      refine Shows.follows_start (o := StartPr.checkRegistry s.shared client n) hshows ?_
      rw [hpc]
      rfl
  -- the answer that ends an `await` of the registry comes from the lock
  | loopRan now readyAt w events hholds hloop =>
      have hshows : Shows { w with calls := s.view.calls } events
          ({ s.dropGuard .lifecycle with shared := w.shared, loop := w.loop },
            events.map .lifecycle) :=
        ⟨rfl, filterMap_ofLifecycle_lifecycle events⟩
      exact hshows.follows_loop (by intro id start; simp) hloop

/-- The tasks simulate the lifecycle, event for event. -/
theorem simulates (p : ProxySetup) :
    System.Simulates (system p) (Lifecycle.system p.setup) (fun _ => True) view
      (lifecycleLabels p) (fun t t' => t' = t.filterMap TaskEvent.ofLifecycle) where
  step _ _ _ _ _ hstep := ⟨trivial, _, follows_of_step hstep, rfl⟩
  nil := rfl
  append t u _ _ ht hu := by rw [ht, hu, List.filterMap_append]

end Steps

/-! ## Runs -/

/-- Every interleaving of the tasks, whatever the lock grants and the peers answer, is a run of
the lifecycle with its `start_pr` calls from the same stores to the stores, the calls and the loop
of the tasks, with the events that the tasks emit for it. -/
theorem refines_lifecycle (p : ProxySetup) (shared : Shared) (labels : List TaskLabel)
    (s : Tasks) (tr : List TaskEvent)
    (hrun : (system p).exec (start shared) labels = some (s, tr)) :
    (Lifecycle.system p.setup).exec (Lifecycle.started shared)
      ((system p).projected (lifecycleLabels p) (start shared) labels) =
        some (s.view, tr.filterMap TaskEvent.ofLifecycle) := by
  obtain ⟨tr', hlifecycle, rfl⟩ := (simulates p).exec trivial hrun
  exact hlifecycle

/-- A player of the backend starts PR 7, whose build Jenkins accepts. -/
def startSample : List TaskLabel :=
  loginSample 0 ++
    [.grants, .runs (.client 0) ⟨0⟩ ⟨0⟩, .connects 0 (some none), .takes 0 (.client ⟨3, []⟩),
      .written 0 true, .takes 0 (.client ⟨6, [7, 115, 116, 97, 114, 116, 32, 55]⟩), .grants,
      .runs (.client 0) ⟨0⟩ ⟨0⟩, .answers 0 (.githubAnswered (.ok "0123456789abcdef")),
      .answers 0 (.buildsQueried none), .answers 0 .buildsResumed,
      .answers 0 (.jenkinsAnswered (.ok (some "q/1/")) ⟨0⟩)]

/-- The login and the command of the player are one `start_pr` call of the lifecycle. -/
theorem refines_lifecycle_sample :
    ∃ (s : Tasks) (tr : List Event),
      (Lifecycle.system Lifecycle.sampleSetup).exec (Lifecycle.started sampleShared)
        (Lifecycle.sampleChecks 0 7 "0123456789abcdef" ++ [Lifecycle.sampleTrigger 0 "q/1/"]) =
          some (s.view, tr) ∧
      s.shared.instances.keys = [7] := by
  have hkeys : ((system sampleProxy).exec (start sampleShared) startSample).map
      (fun result => result.1.shared.instances.keys) = some [7] := by decide +kernel
  have hlabels : (system sampleProxy).projected (lifecycleLabels sampleProxy)
      (start sampleShared) startSample =
        Lifecycle.sampleChecks 0 7 "0123456789abcdef" ++ [Lifecycle.sampleTrigger 0 "q/1/"] := by
    rfl
  obtain ⟨⟨s, tr⟩, hrun, hs⟩ := Option.map_eq_some_iff.1 hkeys
  have hlifecycle := refines_lifecycle sampleProxy sampleShared startSample s tr hrun
  rw [hlabels] at hlifecycle
  exact ⟨s, tr.filterMap TaskEvent.ofLifecycle, hlifecycle, hs⟩

/-- A step of the tasks neither begins a call of a PR that another call is past the checks of, nor
registers a backend whose shutdown time cannot be represented. -/
def CallsApart (p : ProxySetup) (s : Tasks) (label : TaskLabel) : Prop :=
  ∀ l ∈ lifecycleLabels p s label,
    Lifecycle.NoOverlap s.view l ∧ Lifecycle.DeadlineFits p.setup s.view l

theorem length_lifecycleLabels_le (p : ProxySetup) (s : Tasks) (label : TaskLabel) :
    (lifecycleLabels p s label).length ≤ 1 := by
  cases label with
  | takes client received =>
      cases received with
      | client packet =>
          simp only [lifecycleLabels]
          split
          · rename_i f hpc
            cases begunCall p f packet <;> simp
          · simp
      | _ => simp [lifecycleLabels]
  | runs task now readyAt =>
      cases task with
      | client client =>
          simp only [lifecycleLabels]
          split <;> simp
      | lifecycle => simp [lifecycleLabels]
  | _ => simp [lifecycleLabels]

theorem meets_of_callsApart {p : ProxySetup} {s s' : Tasks} {label : TaskLabel}
    {t : List TaskEvent}
    (h : CallsApart p s label) (hstep : (system p).step s label = some (s', t)) :
    (Lifecycle.system p.setup).Meets
      (fun w l => Lifecycle.NoOverlap w l ∧ Lifecycle.DeadlineFits p.setup w l) s.view
      (lifecycleLabels p s label) := by
  have hrun : Follows p s (lifecycleLabels p s label) (s', t) := follows_of_step hstep
  -- there is one label at most, and its condition is about the state before it
  match hl : lifecycleLabels p s label, length_lifecycleLabels_le p s label with
  | [], _ => trivial
  | [l], _ =>
      rw [Follows, hl] at hrun
      exact ((Lifecycle.system p.setup).meets_cons_iff
        ((Lifecycle.system p.setup).exec_singleton_iff.1 hrun)).2
          ⟨h l (by rw [hl]; exact List.mem_singleton_self l), trivial⟩

/-- After any recovery, in every interleaving of the tasks in which calls of one PR do not overlap
and no shutdown time is unrepresentable, the registry of the tasks agrees with their tracked
instances. -/
theorem tasks_registry_agrees (p : ProxySetup) (staticBackends : KeyedMap String BackendServer)
    (builds : PrBuilds) (deployments : KeyedMap String String)
    (services : KeyedMap String (Option Int32)) (loadError : Option String)
    (answers : PrBuild → RowAnswers) (shared : Shared) (result : Except String Nat)
    (labels : List TaskLabel) (s : Tasks) (tr : List TaskEvent)
    (hrec : Recovery.recoverFromDb p.setup.kubernetes loadError answers
      (Shared.startUp staticBackends builds deployments services) = some (shared, result))
    (hmeets : (system p).Meets (CallsApart p) (start shared) labels)
    (hrun : (system p).exec (start shared) labels = some (s, tr)) :
    ∀ n, Lifecycle.RegistryAgreement s.shared n := by
  obtain ⟨tr', hlifecycle, -⟩ := (simulates p).exec trivial hrun
  have hmeets' := (simulates p).meets (fun s label s' t h hstep => meets_of_callsApart h hstep)
    trivial hmeets hrun
  have hstart : Lifecycle.Agrees (Lifecycle.started shared).shared :=
    Lifecycle.agrees_recoverFromDb
      (Lifecycle.agrees_startUp staticBackends builds deployments services) hrec
  obtain ⟨-, hagrees⟩ := Lifecycle.agrees_exec (Lifecycle.fresh_started shared) hstart hmeets'
    hlifecycle
  exact Lifecycle.registryAgreement_of_agrees hagrees

/-- The loop finds PR 7 expired, and is granted the registry. -/
def expireTasks : List TaskLabel :=
  [.lifecycle (.tick [(7, Lifecycle.recoveredSample)]), .lifecycle (.advance ⟨1800000000000⟩),
    .grants]

/-- The tasks shut the recovered PR 7 down. -/
theorem tasks_registry_agrees_sample :
    ∃ s tr, (system sampleProxy).exec (start Lifecycle.recoveredShared)
        (expireTasks ++ [.runs .lifecycle ⟨0⟩ ⟨0⟩]) = some (s, tr) ∧
      s.shared.backends.dynamicBackends.keys = [] ∧
      ∀ n, Lifecycle.RegistryAgreement s.shared n := by
  have hkeys : ((system sampleProxy).exec (start Lifecycle.recoveredShared)
      (expireTasks ++ [.runs .lifecycle ⟨0⟩ ⟨0⟩])).map
        (fun result => result.1.shared.backends.dynamicBackends.keys) = some [] := by
    decide +kernel
  obtain ⟨⟨s, tr⟩, hrun, hs⟩ := Option.map_eq_some_iff.1 hkeys
  have hrec : Recovery.recoverFromDb sampleProxy.setup.kubernetes none
      (fun _ => Lifecycle.readyAnswers) Recovery.sampleStartUp =
        some (Lifecycle.recoveredShared, .ok 1) := by rfl
  refine ⟨s, tr, hrun, hs, tasks_registry_agrees sampleProxy ∅ sampleBuilds ∅ ∅ none _
    Lifecycle.recoveredShared (.ok 1) _ s tr hrec ((system sampleProxy).meets_of_forall ?_ _) hrun⟩
  -- the loop registers nothing in this run, and no call begins
  intro s label hlabel l hl
  simp only [expireTasks, List.cons_append, List.nil_append, List.mem_cons, List.not_mem_nil,
    or_false] at hlabel
  rcases hlabel with rfl | rfl | rfl | rfl
  · cases List.mem_singleton.1 hl
    exact ⟨trivial, trivial⟩
  · cases List.mem_singleton.1 hl
    exact ⟨trivial, trivial⟩
  · cases hl
  · cases List.mem_singleton.1 hl
    refine ⟨trivial, ?_⟩
    intro n pc rest _
    cases pc with
    | register commitHash commitHashShort deploymentName address port =>
        show Instant.addSecs ⟨0⟩ (30 * 60) ≠ none
        decide
    | _ => exact id

/-! ## The guard of a write -/

section Writes

variable {p : ProxySetup} {s s' : Tasks} {client : Nat} {result : Tasks × List TaskEvent}

/-- A client task goes on: it may ask for the registry, to read it, and does not change it. -/
structure Turned (s : Tasks) (client : Nat) (s' : Tasks) : Prop where
  lock : s'.lock = s.lock ∨ s'.lock = s.lock.request (.client client) .read
  backends : s'.shared.backends = s.shared.backends

theorem turned_setClient (s : Tasks) (client : Nat) (pc : ClientPc) :
    Turned s client (s.setClient client pc) :=
  ⟨Or.inl rfl, rfl⟩

theorem turned_askRegistry (s : Tasks) (client : Nat) (pc : ClientPc) :
    Turned s client (s.askRegistry client pc) :=
  ⟨Or.inr rfl, rfl⟩

theorem turned_afterHandler (s : Tasks) (f : Forwarding) (input : Input) :
    Turned s client (s.afterHandler p client f input).1 := by
  simp only [afterHandler]
  split
  · exact turned_setClient s client _
  · exact turned_setClient s client _

theorem turned_handle (s : Tasks) (f : Forwarding) (input : Input) :
    Turned s client (s.handle p client f input).1 := by
  simp only [handle]
  split
  · exact turned_setClient s client _
  · exact turned_afterHandler s f input

theorem turned_handlePacket (s : Tasks) (f : PacketForwarder) (packet : RawPacket)
    (started : Except String Unit) :
    Turned s client (s.handlePacket p client f packet started).1 :=
  turned_handle s _ _

theorem turned_afterLookup (s : Tasks) (username : Option String) (uuid : Uuid)
    (backendName : String) :
    Turned s client (s.afterLookup client username uuid backendName) := by
  simp only [afterLookup]
  split
  · exact turned_setClient s client _
  · exact turned_setClient s client _

theorem turned_afterLogin (s : Tasks) (step : LoginStep) :
    Turned s client (s.afterLogin p client step) := by
  cases step with
  | acknowledged username uuid => exact ⟨Or.inr rfl, rfl⟩
  | _ => exact turned_setClient s client _

theorem turned_afterPacket (s : Tasks) (state : LoginState) (packet : RawPacket) :
    Turned s client (s.afterPacket p client state packet) := by
  simp only [afterPacket]
  split
  · exact turned_setClient s client _
  · exact turned_afterLogin s _

/-- A `start_pr` call changes the instances alone. -/
theorem turned_followStart {call : StartCall} {label : StartLabel} (s : Tasks)
    (f : PacketForwarder) (packet : RawPacket) {o : StartPr.Outcome}
    (ho : StartPr.Stepped p.setup s.shared client call label o) :
    Turned s client (s.followStart p client f packet o).1 := by
  have hbackends : o.shared.backends = s.shared.backends := by
    rw [Lifecycle.stepped_shared ho]
  have hturned : Turned { s with shared := o.shared } client
      (s.followStart p client f packet o).1 := by
    simp only [followStart]
    cases hcall : o.call with
    | idle => exact turned_handlePacket _ f packet _
    | registry n => exact turned_askRegistry _ client _
    | _ => exact turned_setClient _ client _
  exact ⟨hturned.lock, hturned.backends.trans hbackends⟩

theorem turned_afterConsult (s : Tasks) (f : PacketForwarder) (packet : RawPacket)
    (use : RegistryUse) :
    Turned s client (s.afterConsult p client f packet use).1 ∨
      Turned (s.dropGuard (.client client)) client (s.afterConsult p client f packet use).1 := by
  cases use with
  | listServers => exact Or.inr (turned_handlePacket _ f packet _)
  | switchServer serverName =>
      right
      simp only [afterConsult]
      split
      · have hturned := @turned_handlePacket p client
          { s.dropGuard (.client client) with
            pendingSwitches := s.pendingSwitches.insert f.playerUuid serverName } f packet
          (.ok ())
        exact ⟨hturned.lock, hturned.backends⟩
      · exact turned_handlePacket _ f packet _
  | status searched => exact Or.inl (turned_setClient s client _)

theorem turned_handleClientPacket (s : Tasks) (f : PacketForwarder) (packet : RawPacket) :
    Turned s client (s.handleClientPacket p client f packet).1 := by
  simp only [handleClientPacket]
  split
  · exact turned_handlePacket s f packet _
  · exact turned_askRegistry s client _
  · exact turned_askRegistry s client _
  · split
    · exact turned_handlePacket s f packet _
    · split
      · exact turned_handlePacket s f packet _
      · exact turned_followStart s f packet StartPr.stepped_begin
  · split
    · exact turned_askRegistry s client _
    · exact turned_handlePacket s f packet _

theorem turned_afterSelect {f : Forwarding} {received : Received}
    (hselect : s.afterSelect p client f received = some result) : Turned s client result.1 := by
  simp only [afterSelect] at hselect
  split at hselect
  · cases hselect
    exact turned_handleClientPacket s f.forwarder _
  · split at hselect
    · cases hselect
      exact turned_handle s f _
    · cases hselect

/-- The lock after a client task went on. -/
theorem Turned.fits (h : Turned s client s') (hfits : s.lock.Fits TaskId.access) :
    s'.lock.Fits TaskId.access := by
  rcases h.lock with hlock | hlock
  · rw [hlock]
    exact hfits
  · rw [hlock]
    exact hfits.request (.client client)

/-- A step of the tasks leaves the places at the lock as they should be, and changes the registry
only under the guard of the loop. -/
structure Written (s : Tasks) (label : TaskLabel) (s' : Tasks) : Prop where
  fits : s'.lock.Fits TaskId.access
  guarded : s'.shared.backends ≠ s.shared.backends →
    ∃ now readyAt, label = .runs .lifecycle now readyAt ∧ s.lock.guards = .writer .lifecycle

theorem Turned.written {label : TaskLabel} (h : Turned s client s')
    (hfits : s.lock.Fits TaskId.access) : Written s label s' :=
  ⟨h.fits hfits, fun hne => absurd h.backends hne⟩

/-- A client task drops its guard and goes on. -/
theorem Turned.written_of_dropGuard {label : TaskLabel}
    (h : Turned (s.dropGuard (.client client)) client s') (hfits : s.lock.Fits TaskId.access) :
    Written s label s' :=
  ⟨h.fits (hfits.release (.client client)), fun hne => absurd h.backends hne⟩

theorem backends_of_step {setup : Setup} {w w' : World} {label : Label} {t : List Event}
    (hstep : Lifecycle.step setup w label = some (w', t))
    (hlocked : ∀ now readyAt, label ≠ .resume (.registryLocked now readyAt)) :
    w'.shared.backends = w.shared.backends := by
  cases label with
  | start id label =>
      obtain ⟨o, ho, rfl, -⟩ := Lifecycle.step_start_iff.1 hstep
      rw [Lifecycle.stepped_shared (StartPr.stepped_of_step ho)]
  | tick snapshot =>
      obtain ⟨-, -, rfl, -⟩ := Lifecycle.step_tick_iff.1 hstep
      rfl
  | advance now =>
      rcases Lifecycle.step_advance_iff.1 hstep with ⟨-, rfl, -⟩ | ⟨n, i, rest, -, rfl, -⟩
      · rfl
      · exact Lifecycle.backends_of_dispatched
          (Lifecycle.dispatched_dispatch setup w.shared n i now)
  | resume answer =>
      obtain ⟨n, pc, rest, o, -, ho, rfl, -⟩ := Lifecycle.step_resume_iff.1 hstep
      refine Lifecycle.backends_of_resumed (Lifecycle.resumed_of_resume ho) ?_
      rintro now readyAt rfl
      exact hlocked now readyAt rfl

theorem written_step {label : TaskLabel} (hfits : s.lock.Fits TaskId.access)
    (hstep : s.step p label = some result) : Written s label result.1 := by
  cases stepped_of_step hstep with
  | accepted client hpc => exact (turned_setClient s client _).written hfits
  | received client packet state hpc => exact (turned_afterPacket s state packet).written hfits
  | replied client sent state packet hpc => exact (turned_afterLogin s _).written hfits
  | connectFailed client connector backendName hpc =>
      exact (turned_setClient s client _).written hfits
  | connected client connector backendName threshold hpc =>
      exact (turned_setClient s client _).written hfits
  | selected client received f _ hpc hselect => exact (turned_afterSelect hselect).written hfits
  | answered client label f packet call o hpc hlabel hcall =>
      exact (turned_followStart s _ _ (StartPr.stepped_of_step hcall)).written hfits
  | wrote client sent f input hpc => exact (turned_afterHandler s f _).written hfits
  | wroteGuarded client sent f input hpc =>
      exact (turned_afterHandler _ f _).written_of_dropGuard hfits
  | looped label w events hconfigured hstart hlocked hloop =>
      -- the loop may ask for the lock here, but writes only once it is granted
      have hbackends : w.shared.backends = s.shared.backends := backends_of_step hloop hlocked
      simp only [afterLoop]
      split
      · exact ⟨hfits.request .lifecycle, fun hne => absurd hbackends hne⟩
      · exact ⟨hfits, fun hne => absurd hbackends hne⟩
  | granted lock hgrant => exact ⟨hfits.grant hgrant, fun hne => absurd rfl hne⟩
  | lookedUp client username uuid backendName now readyAt hholds hpc =>
      exact (turned_afterLookup _ _ _ _).written_of_dropGuard hfits
  | consulted client f packet use now readyAt hholds hpc =>
      -- only the guard of a status command outlives the step
      rcases @turned_afterConsult p client s f packet use with hturned | hturned
      · exact hturned.written hfits
      · exact hturned.written_of_dropGuard hfits
  | registryChecked client f packet n now readyAt hholds hpc =>
      exact (turned_followStart (s.dropGuard (.client client)) _ _
        StartPr.stepped_checkRegistry).written_of_dropGuard hfits
  | loopRan now readyAt w events hholds hloop =>
      exact ⟨hfits.release .lifecycle,
        fun _ => ⟨now, readyAt, rfl, hfits.guards_eq_writer hholds rfl⟩⟩

end Writes

/-- In every interleaving of the tasks, a step changes the registry only if it is one of the loop
that holds the only guard: while a client task holds a guard, the registry stays as it is. -/
theorem registry_written_under_lock (p : ProxySetup) (shared : Shared) (labels : List TaskLabel)
    (s s' : Tasks) (label : TaskLabel) (tr t : List TaskEvent)
    (hrun : (system p).exec (start shared) labels = some (s, tr))
    (hstep : s.step p label = some (s', t)) (hne : s'.shared.backends ≠ s.shared.backends) :
    (∃ now readyAt, label = .runs .lifecycle now readyAt) ∧
      s.lock.guards = .writer .lifecycle ∧ ∀ client, ¬ s.lock.Holds (.client client) := by
  have hfits : s.lock.Fits TaskId.access := by
    refine (system p).exec_state_invariant (fun s => s.lock.Fits TaskId.access)
      (C := fun _ _ => True) ?_ (RwLock.fits_free _) ?_ hrun
    · intro s label s' t h _ hstep
      exact (written_step h hstep).fits
    · exact (system p).meets_of_forall (fun _ _ _ => trivial) _
  obtain ⟨now, readyAt, hlabel, hguards⟩ := (written_step hfits hstep).guarded hne
  refine ⟨⟨now, readyAt, hlabel⟩, hguards, fun client hholds => ?_⟩
  rw [RwLock.Holds, hguards] at hholds
  cases List.mem_singleton.1 hholds

/-- The loop unregisters PR 7. -/
theorem registry_written_under_lock_sample :
    ∃ s s' tr t, (system sampleProxy).exec (start Lifecycle.recoveredShared) expireTasks =
        some (s, tr) ∧
      s.step sampleProxy (.runs .lifecycle ⟨0⟩ ⟨0⟩) = some (s', t) ∧
      s.lock.guards = .writer .lifecycle := by
  have hrun : ((system sampleProxy).exec (start Lifecycle.recoveredShared) expireTasks).any
      (fun result => (result.1.step sampleProxy (.runs .lifecycle ⟨0⟩ ⟨0⟩)).any fun after =>
        decide (after.1.shared.backends.dynamicBackends.keys ≠
          result.1.shared.backends.dynamicBackends.keys)) = true := by decide +kernel
  obtain ⟨⟨s, tr⟩, hexec, hany⟩ := (Option.any_eq_true _ _).1 hrun
  obtain ⟨⟨s', t⟩, hstep, hne⟩ := (Option.any_eq_true _ _).1 hany
  have hbackends : s'.shared.backends ≠ s.shared.backends := by
    intro heq
    rw [heq] at hne
    simp at hne
  exact ⟨s, s', tr, t, hexec, hstep, (registry_written_under_lock sampleProxy
    Lifecycle.recoveredShared expireTasks s s' _ tr t hexec hstep hbackends).2.1⟩

end Tasks

end SteelProxy
