import SteelProxy.Proxy.Tasks

/-!
# The registry lock across `await`s

The reply of `/status` to a player who asks for an untracked PR is written with the registry guard
in scope. As long as no such command is received, no task holds a guard while it waits for
anything outside the proxy, in any reachable state of any interleaving; and then the guards that a
task waits for are dropped by steps that need no answer from outside, so that a client that stops
reading keeps no one waiting. The invariant is that the tasks with a place at the lock are those
that are at an `await` of the registry.
-/

set_option autoImplicit false

namespace SteelProxy

open SteelProxy.Library SteelProxy.Library.Transition

/-- The task is not between the lookup of `/status` and the end of its reply. -/
def ClientPc.Plain : ClientPc → Prop
  | .consulting _ _ (.status _) => False
  | .writing _ _ true => False
  | _ => True

namespace Tasks

/-- No task that holds a guard of the registry waits for anything outside the proxy. -/
def GuardsHeldBriefly (p : ProxySetup) (s : Tasks) : Prop :=
  ∀ t, s.lock.Holds t → s.peer p t = none

/-- Every task that waits for the registry comes to hold it by steps that wait for nothing outside
the proxy. -/
def RegistryServed (p : ProxySetup) (s : Tasks) : Prop :=
  ∀ t, s.awaitsRegistry t = true → ∃ labels s' tr, (∀ l ∈ labels, TaskLabel.Internal l) ∧
    (system p).exec s labels = some (s', tr) ∧ s'.lock.Holds t

/-- No status command is received that looks the PR up in the registry. -/
def NoStatusLookup (p : ProxySetup) (s : Tasks) : TaskLabel → Prop
  | .takes client (.client packet) =>
      ∀ f prArg, s.clients client = .forwarding ⟨f, .forwarding⟩ →
        f.packetCommand p.ids packet = some (.status prArg) → s.consultsStatus p prArg = false
  | _ => True

/-- The tasks with a place at the lock are those that await the registry, and no task is in the
reply of `/status`. -/
structure Orderly (s : Tasks) : Prop where
  places : ∀ t, t ∈ s.lock.tasks ↔ s.awaitsRegistry t = true
  plain : ∀ client, (s.clients client).Plain

/-! ## What the pieces of a client task do -/

/-- The task of a client goes on without the registry. -/
structure GoesOn (s : Tasks) (client : Nat) (s' : Tasks) : Prop where
  loop : s'.loop = s.loop
  lock : s'.lock = s.lock
  clients : ∃ pc, s'.clients = Function.update s.clients client pc ∧
    pc.awaitsRegistry = false ∧ pc.Plain

/-- The task of a client asks for the registry. -/
structure Asks (s : Tasks) (client : Nat) (s' : Tasks) : Prop where
  loop : s'.loop = s.loop
  lock : s'.lock = s.lock.request (.client client) .read
  clients : ∃ pc, s'.clients = Function.update s.clients client pc ∧
    pc.awaitsRegistry = true ∧ pc.Plain

section Pieces

variable {p : ProxySetup} {s : Tasks} {client : Nat} {pc : ClientPc}
  {result : Tasks × List TaskEvent}

theorem goesOn_setClient (hawaits : pc.awaitsRegistry = false) (hplain : pc.Plain) :
    GoesOn s client (s.setClient client pc) :=
  ⟨rfl, rfl, pc, rfl, hawaits, hplain⟩

theorem asks_askRegistry (hawaits : pc.awaitsRegistry = true) (hplain : pc.Plain) :
    Asks s client (s.askRegistry client pc) :=
  ⟨rfl, rfl, pc, rfl, hawaits, hplain⟩

theorem goesOn_afterHandler (f : Forwarding) (input : Input) :
    GoesOn s client (s.afterHandler p client f input).1 := by
  rw [afterHandler]
  cases Forwarding.step p.ids p.config f input with
  | none => exact goesOn_setClient rfl trivial
  | some result =>
      dsimp only
      split
      · exact goesOn_setClient rfl trivial
      · exact goesOn_setClient rfl trivial

theorem goesOn_handle (f : Forwarding) (input : Input) :
    GoesOn s client (s.handle p client f input).1 := by
  rw [handle]
  split
  · exact goesOn_setClient rfl trivial
  · exact goesOn_afterHandler f input

theorem goesOn_handlePacket (f : PacketForwarder) (packet : RawPacket)
    (started : Except String Unit) :
    GoesOn s client (s.handlePacket p client f packet started).1 :=
  goesOn_handle _ _

theorem goesOn_afterLookup (username : Option String) (uuid : Uuid) (backendName : String) :
    GoesOn s client (s.afterLookup client username uuid backendName) := by
  unfold afterLookup
  split
  · exact goesOn_setClient rfl trivial
  · exact goesOn_setClient rfl trivial

/-- A `start_pr` call that does not stop at the registry. -/
theorem goesOn_followStart (f : PacketForwarder) (packet : RawPacket) {o : StartPr.Outcome}
    (hcall : ∀ n, o.call ≠ .registry n) :
    GoesOn s client (s.followStart p client f packet o).1 := by
  obtain ⟨shared, call, events⟩ := o
  cases call with
  | idle =>
      -- the stores are not part of what `GoesOn` says
      have hgoes := @goesOn_handlePacket p { s with shared := shared } client f packet
        ((events.findSome? Event.returnedResult).getD (.ok ()))
      exact ⟨hgoes.loop, hgoes.lock, hgoes.clients⟩
  | registry n => exact absurd rfl (hcall n)
  | github n => exact ⟨rfl, rfl, _, rfl, rfl, trivial⟩
  | database n commitHash commitHashShort => exact ⟨rfl, rfl, _, rfl, rfl, trivial⟩
  | decided n commitHash commitHashShort existingBuild => exact ⟨rfl, rfl, _, rfl, rfl, trivial⟩
  | jenkins n commitHash commitHashShort => exact ⟨rfl, rfl, _, rfl, rfl, trivial⟩

/-- With the registry locked a call is past it. -/
theorem call_checkRegistry_ne (shared : Shared) (client : Nat) (n m : UInt32) :
    (StartPr.checkRegistry shared client n).call ≠ .registry m := by
  rw [StartPr.checkRegistry]
  split
  · simp [StartPr.bail]
  · simp

theorem followStart_goes (f : PacketForwarder) (packet : RawPacket) (o : StartPr.Outcome) :
    GoesOn s client (s.followStart p client f packet o).1 ∨
      Asks s client (s.followStart p client f packet o).1 := by
  by_cases hcall : ∃ n, o.call = .registry n
  · obtain ⟨shared, call, events⟩ := o
    obtain ⟨n, rfl⟩ := hcall
    exact Or.inr ⟨rfl, rfl, _, rfl, rfl, trivial⟩
  · exact Or.inl (goesOn_followStart f packet fun n hn => hcall ⟨n, hn⟩)

theorem afterLogin_goes (step : LoginStep) :
    GoesOn s client (s.afterLogin p client step) ∨ Asks s client (s.afterLogin p client step) := by
  cases step with
  | next state reply => exact Or.inl (goesOn_setClient rfl trivial)
  | acknowledged username uuid => exact Or.inr ⟨rfl, rfl, _, rfl, rfl, trivial⟩
  | finished reply => exact Or.inl (goesOn_setClient rfl trivial)
  | failed => exact Or.inl (goesOn_setClient rfl trivial)
  | panicked => exact Or.inl (goesOn_setClient rfl trivial)

theorem afterPacket_goes (state : LoginState) (packet : RawPacket) :
    GoesOn s client (s.afterPacket p client state packet) ∨
      Asks s client (s.afterPacket p client state packet) := by
  simp only [afterPacket]
  split
  · exact Or.inl (goesOn_setClient rfl trivial)
  · exact afterLogin_goes _

/-- A client packet that is no status command with a lookup. -/
theorem handleClientPacket_goes {f : PacketForwarder} {packet : RawPacket}
    (hstatus : ∀ prArg, f.packetCommand p.ids packet = some (.status prArg) →
      s.consultsStatus p prArg = false) :
    GoesOn s client (s.handleClientPacket p client f packet).1 ∨
      Asks s client (s.handleClientPacket p client f packet).1 := by
  rw [handleClientPacket]
  cases hcommand : f.packetCommand p.ids packet with
  | none => exact Or.inl (goesOn_handlePacket f packet _)
  | some command =>
      cases command with
      | listServers => exact Or.inr (asks_askRegistry rfl trivial)
      | switchServer serverName => exact Or.inr (asks_askRegistry rfl trivial)
      | start prArg =>
          dsimp only
          cases Text.parseU32 prArg with
          | none => exact Or.inl (goesOn_handlePacket f packet _)
          | some n =>
              dsimp only
              cases StartPr.unconfigured p with
              | none => exact followStart_goes f packet _
              | some error => exact Or.inl (goesOn_handlePacket f packet _)
      | status prArg =>
          dsimp only
          rw [if_neg (by simp [hstatus prArg hcommand])]
          exact Or.inl (goesOn_handlePacket f packet _)

theorem afterSelect_goes {f : Forwarding} {received : Received}
    (hcondition : NoStatusLookup p s (.takes client received))
    (hclient : s.clients client = .forwarding f)
    (h : s.afterSelect p client f received = some result) :
    GoesOn s client result.1 ∨ Asks s client result.1 := by
  unfold afterSelect at h
  split at h
  · rename_i packet hrun
    cases h
    obtain ⟨f, run⟩ := f
    cases hrun
    exact handleClientPacket_goes fun prArg hcommand => hcondition f prArg hclient hcommand
  · dsimp only at h
    split at h
    · cases h
      exact Or.inl (goesOn_handle f _)
    · cases h

/-- A command that has the registry goes on without it, unless it is a status command. -/
theorem goesOn_afterConsult (f : PacketForwarder) (packet : RawPacket) {use : RegistryUse}
    (hplain : (ClientPc.consulting f packet use).Plain) :
    GoesOn (s.dropGuard (.client client)) client (s.afterConsult p client f packet use).1 := by
  cases use with
  | listServers => exact goesOn_handlePacket f packet _
  | switchServer serverName =>
      simp only [afterConsult]
      split
      · -- the stored target is not part of what `GoesOn` says
        have hgoes := @goesOn_handlePacket p
          { s.dropGuard (.client client) with
            pendingSwitches := s.pendingSwitches.insert f.playerUuid serverName } client f packet
          (.ok ())
        exact ⟨hgoes.loop, hgoes.lock, hgoes.clients⟩
      · exact goesOn_handlePacket f packet _
  | status searched => exact absurd hplain id

end Pieces

/-! ## The invariant -/

section Invariant

variable {p : ProxySetup} {s s' : Tasks} {client : Nat} {label : TaskLabel} {t : TaskId}
  {result : Tasks × List TaskEvent}

theorem orderly_start (shared : Shared) : Orderly (start shared) where
  places t := by
    cases t with
    | client c => simp [start, RwLock.tasks, RwLock.free, Guards.holders, awaitsRegistry,
        ClientPc.awaitsRegistry]
    | lifecycle => simp [start, RwLock.tasks, RwLock.free, Guards.holders, awaitsRegistry,
        LoopState.awaitsRegistry]
  plain _ := trivial

/-- A task that awaits the registry waits for nothing else. -/
theorem peer_of_awaitsRegistry (h : s.awaitsRegistry t = true) : s.peer p t = none := by
  cases t with
  | client c =>
      simp only [awaitsRegistry] at h
      rw [peer]
      cases hpc : s.clients c with
      | lookup username uuid backendName => rfl
      | consulting f packet use => rfl
      | starting f packet call =>
          rw [hpc] at h
          cases call with
          | registry n => rfl
          | _ => cases h
      | _ =>
          rw [hpc] at h
          cases h
  | lifecycle =>
      simp only [awaitsRegistry] at h
      rw [peer]
      cases hloop : s.loop with
      | running n pc rest =>
          rw [hloop] at h
          cases pc with
          | register commitHash commitHashShort deploymentName address port => rfl
          | unregister deploymentName => rfl
          | _ => cases h
      | _ =>
          rw [hloop] at h
          cases h

theorem Orderly.guardsHeldBriefly (h : Orderly s) : GuardsHeldBriefly p s := by
  intro t hholds
  exact peer_of_awaitsRegistry ((h.places t).1 hholds.mem_tasks)

/-- The `await`s of the registry after a move of one client task. -/
theorem awaitsRegistry_of_update {pc : ClientPc} (hloop : s'.loop = s.loop)
    (hclients : s'.clients = Function.update s.clients client pc) (t : TaskId) :
    s'.awaitsRegistry t =
      if t = .client client then pc.awaitsRegistry else s.awaitsRegistry t := by
  cases t with
  | client c =>
      simp only [awaitsRegistry, hclients, Function.update_apply, TaskId.client.injEq]
      split <;> rfl
  | lifecycle => simp [awaitsRegistry, hloop]

theorem plain_of_update {pc : ClientPc} (h : ∀ c, (s.clients c).Plain) (hpc : pc.Plain)
    (hclients : s'.clients = Function.update s.clients client pc) (c : Nat) :
    (s'.clients c).Plain := by
  rw [hclients, Function.update_apply]
  split
  · exact hpc
  · exact h c

theorem Orderly.goesOn (h : Orderly s) (hawaits : s.awaitsRegistry (.client client) = false)
    (hgoes : GoesOn s client s') : Orderly s' := by
  obtain ⟨pc, hclients, hpc, hplain⟩ := hgoes.clients
  refine ⟨?_, plain_of_update h.plain hplain hclients⟩
  intro t
  rw [hgoes.lock, h.places, awaitsRegistry_of_update hgoes.loop hclients]
  by_cases ht : t = .client client
  · rw [if_pos ht, ht, hawaits, hpc]
  · rw [if_neg ht]

theorem Orderly.asks (h : Orderly s) (hasks : Asks s client s') : Orderly s' := by
  obtain ⟨pc, hclients, hpc, hplain⟩ := hasks.clients
  refine ⟨?_, plain_of_update h.plain hplain hclients⟩
  intro t
  rw [hasks.lock, RwLock.mem_tasks_request, h.places,
    awaitsRegistry_of_update hasks.loop hclients]
  by_cases ht : t = .client client
  · simp [ht, hpc]
  · simp [ht]

theorem Orderly.goes (h : Orderly s) (hawaits : s.awaitsRegistry (.client client) = false)
    (hgoes : GoesOn s client s' ∨ Asks s client s') : Orderly s' := by
  rcases hgoes with hgoes | hasks
  · exact h.goesOn hawaits hgoes
  · exact h.asks hasks

/-- A client that holds a guard drops it and goes on. -/
theorem Orderly.releases (h : Orderly s) (hholds : s.lock.Holds (.client client))
    (hgoes : GoesOn (s.dropGuard (.client client)) client s') : Orderly s' := by
  obtain ⟨pc, hclients, hpc, hplain⟩ := hgoes.clients
  refine ⟨?_, plain_of_update h.plain hplain hclients⟩
  intro t
  have hdropped : (s.dropGuard (.client client)).lock = s.lock.release (.client client) := rfl
  rw [hgoes.lock, hdropped, RwLock.mem_tasks_release hholds, h.places,
    awaitsRegistry_of_update hgoes.loop hclients]
  by_cases ht : t = .client client
  · simp [ht, hpc]
  · simp [ht, awaitsRegistry, dropGuard]

theorem Orderly.grants {lock : RwLock TaskId} (h : Orderly s) (hgrant : s.lock.grant = some lock) :
    Orderly { s with lock := lock } where
  places t := (RwLock.mem_tasks_grant hgrant).trans (h.places t)
  plain := h.plain

/-! ### The loop -/

/-- Only the lock ends an `await` of the registry. -/
theorem not_awaitsRegistry_of_step {w w' : World} {label : Label} {events : List Event}
    (hstep : Lifecycle.step p.setup w label = some (w', events))
    (hstart : ∀ id start, label ≠ .start id start)
    (hlocked : ∀ now readyAt, label ≠ .resume (.registryLocked now readyAt)) :
    w.loop.awaitsRegistry = false := by
  cases label with
  | start id start => exact absurd rfl (hstart id start)
  | tick snapshot =>
      rw [(Lifecycle.step_tick_iff.1 hstep).1]
      rfl
  | advance now =>
      rcases Lifecycle.step_advance_iff.1 hstep with ⟨hloop, -, -⟩ | ⟨n, i, rest, hloop, -, -⟩
      · rw [hloop]
        rfl
      · rw [hloop]
        rfl
  | resume answer =>
      obtain ⟨n, pc, rest, o, hloop, hresume, -, -⟩ := Lifecycle.step_resume_iff.1 hstep
      rw [hloop]
      cases Lifecycle.resumed_of_resume hresume with
      | registered => exact absurd rfl (hlocked _ _)
      | unregistered => exact absurd rfl (hlocked _ _)
      | _ => rfl

theorem Orderly.afterLoop {label : Label} {w : World} {events : List Event} (h : Orderly s)
    (hstart : ∀ id start, label ≠ .start id start)
    (hlocked : ∀ now readyAt, label ≠ .resume (.registryLocked now readyAt))
    (hlifecycle : Lifecycle.step p.setup s.world label = some (w, events)) :
    Orderly (s.afterLoop w) := by
  have hbefore : s.awaitsRegistry .lifecycle = false :=
    not_awaitsRegistry_of_step hlifecycle hstart hlocked
  refine ⟨?_, fun c => ?_⟩
  · intro t
    rw [Tasks.afterLoop]
    cases hloop : w.loop.awaitsRegistry with
    | true =>
        rw [if_pos rfl, RwLock.mem_tasks_request, h.places]
        cases t with
        | client c => simp [awaitsRegistry]
        | lifecycle => simp [awaitsRegistry, hloop]
    | false =>
        rw [if_neg Bool.false_ne_true, h.places]
        cases t with
        | client c => rfl
        | lifecycle => rw [hbefore, awaitsRegistry, hloop]
  · rw [Tasks.afterLoop]
    split
    · exact h.plain c
    · exact h.plain c

/-! ### Tasks that hold a guard -/

/-- A client that holds a guard runs on and goes on without the registry. -/
theorem Orderly.runsClient (h : Orderly s) (hholds : s.lock.Holds (.client client))
    (now readyAt : Instant) :
    ∃ result, s.run p now readyAt (.client client) = some result ∧
      GoesOn (s.dropGuard (.client client)) client result.1 := by
  have hawaits : (s.clients client).awaitsRegistry = true := (h.places _).1 hholds.mem_tasks
  have hplain := h.plain client
  rw [run]
  cases hpc : s.clients client with
  | lookup username uuid backendName =>
      exact ⟨_, rfl, goesOn_afterLookup username uuid backendName⟩
  | consulting f packet use =>
      rw [hpc] at hplain
      exact ⟨_, rfl, goesOn_afterConsult f packet hplain⟩
  | starting f packet call =>
      rw [hpc] at hawaits
      cases call with
      | registry n =>
          exact ⟨_, rfl, goesOn_followStart f packet (call_checkRegistry_ne s.shared client n)⟩
      | _ => cases hawaits
  | _ =>
      rw [hpc] at hawaits
      cases hawaits

/-- With the registry locked the loop leaves its `await`. -/
theorem exists_step_of_awaitsRegistry {w : World} (h : w.loop.awaitsRegistry = true)
    (now readyAt : Instant) :
    ∃ w' events, Lifecycle.step p.setup w (.resume (.registryLocked now readyAt)) =
        some (w', events) ∧ w'.loop.awaitsRegistry = false := by
  cases hloop : w.loop with
  | running n pc rest =>
      rw [hloop] at h
      cases pc with
      | register commitHash commitHashShort deploymentName address port =>
          refine ⟨_, _, Lifecycle.step_resume_iff.2 ⟨n, _, rest, _, hloop, rfl, rfl, rfl⟩, ?_⟩
          rw [Lifecycle.handleStartingRegistered]
          dsimp only
          split <;> rfl
      | unregister deploymentName =>
          exact ⟨_, _, Lifecycle.step_resume_iff.2 ⟨n, _, rest, _, hloop, rfl, rfl, rfl⟩, rfl⟩
      | _ => cases h
  | _ =>
      rw [hloop] at h
      cases h

/-- The loop that holds the guard runs on and leaves the registry. -/
theorem Orderly.runsLifecycle (h : Orderly s) (hholds : s.lock.Holds .lifecycle)
    (now readyAt : Instant) :
    ∃ shared loop events, s.run p now readyAt .lifecycle =
        some ({ s.dropGuard .lifecycle with shared := shared, loop := loop }, events) ∧
      loop.awaitsRegistry = false := by
  have hawaits : s.world.loop.awaitsRegistry = true :=
    (h.places .lifecycle).1 hholds.mem_tasks
  obtain ⟨w, events, hstep, hloop⟩ := @exists_step_of_awaitsRegistry p _ hawaits now readyAt
  exact ⟨w.shared, w.loop, _, by rw [run, hstep, Option.map_some], hloop⟩

/-- A task that holds a guard runs on and drops it. -/
theorem Orderly.runs (h : Orderly s) (hholds : s.lock.Holds t) (now readyAt : Instant) :
    ∃ result, s.run p now readyAt t = some result ∧ Orderly result.1 ∧
      result.1.lock = s.lock.release t := by
  cases t with
  | client c =>
      obtain ⟨result, hrun, hgoes⟩ := @Orderly.runsClient p s c h hholds now readyAt
      exact ⟨result, hrun, h.releases hholds hgoes, hgoes.lock⟩
  | lifecycle =>
      obtain ⟨shared, loop, events, hrun, hloop⟩ :=
        @Orderly.runsLifecycle p s h hholds now readyAt
      refine ⟨_, hrun, ⟨?_, h.plain⟩, rfl⟩
      intro u
      refine (RwLock.mem_tasks_release hholds).trans ?_
      rw [h.places]
      cases u with
      | client c => simp [awaitsRegistry, dropGuard]
      | lifecycle => simp [awaitsRegistry, hloop]

/-! ### Steps -/

/-- A `start_pr` call at the registry goes on with the lock only. -/
theorem step_registry_ne_some {setup : Setup} {shared : Shared} {n : UInt32} {label : StartLabel}
    {o : StartPr.Outcome} (hlabel : label ≠ .registryLocked) :
    StartPr.step setup shared client (.registry n) label ≠ some o := by
  intro hstep
  cases label with
  | registryLocked => exact hlabel rfl
  | _ => cases hstep

/-- A step keeps the invariant unless it receives a status command that looks the PR up. -/
theorem orderly_step (h : Orderly s) (hcondition : NoStatusLookup p s label)
    (hstep : s.step p label = some result) : Orderly result.1 := by
  cases stepped_of_step hstep with
  | accepted client hpc =>
      exact h.goesOn (by simp [awaitsRegistry, hpc, ClientPc.awaitsRegistry])
        (goesOn_setClient rfl trivial)
  | received client packet state hpc =>
      exact h.goes (by simp [awaitsRegistry, hpc, ClientPc.awaitsRegistry])
        (afterPacket_goes state packet)
  | replied client sent state packet hpc =>
      exact h.goes (by simp [awaitsRegistry, hpc, ClientPc.awaitsRegistry]) (afterLogin_goes _)
  | connectFailed client connector backendName hpc =>
      exact h.goesOn (by simp [awaitsRegistry, hpc, ClientPc.awaitsRegistry])
        (goesOn_setClient rfl trivial)
  | connected client connector backendName threshold hpc =>
      exact h.goesOn (by simp [awaitsRegistry, hpc, ClientPc.awaitsRegistry])
        (goesOn_setClient rfl trivial)
  | selected client received f _ hpc hselect =>
      exact h.goes (by simp [awaitsRegistry, hpc, ClientPc.awaitsRegistry])
        (afterSelect_goes hcondition hpc hselect)
  | answered client label f packet call o hpc hlabel hcall =>
      refine h.goes ?_ (followStart_goes f packet o)
      rw [awaitsRegistry, hpc]
      cases call with
      | registry n => exact absurd hcall (step_registry_ne_some hlabel)
      | _ => rfl
  | wrote client sent f input hpc =>
      exact h.goesOn (by simp [awaitsRegistry, hpc, ClientPc.awaitsRegistry])
        (goesOn_afterHandler f _)
  | wroteGuarded client sent f input hpc =>
      -- no task is in the reply of a status command
      have hplain := h.plain client
      rw [hpc] at hplain
      exact absurd hplain id
  | looped label w events hconfigured hstart hlocked hloop =>
      exact h.afterLoop hstart hlocked hloop
  | granted lock hgrant => exact h.grants hgrant
  | lookedUp client username uuid backendName now readyAt hholds hpc =>
      exact h.releases hholds (goesOn_afterLookup username uuid backendName)
  | consulted client f packet use now readyAt hholds hpc =>
      have hplain := h.plain client
      rw [hpc] at hplain
      exact h.releases hholds (goesOn_afterConsult f packet hplain)
  | registryChecked client f packet n now readyAt hholds hpc =>
      exact h.releases hholds
        (goesOn_followStart f packet (call_checkRegistry_ne s.shared client n))
  | loopRan now readyAt w events hholds hloop =>
      obtain ⟨result, hrun, horderly, -⟩ := @Orderly.runs p s _ h hholds now readyAt
      simp only [run, hloop, Option.map_some, Option.some.injEq] at hrun
      rw [hrun]
      exact horderly

/-- In an orderly state every task that awaits the registry is served. -/
theorem Orderly.registryServed (h : Orderly s) : RegistryServed p s := by
  intro t hawaits
  refine RwLock.served (system p) Tasks.lock Orderly TaskLabel.Internal ?_ ?_ h
    ((h.places t).2 hawaits)
  · intro s t h hholds
    obtain ⟨⟨s', events⟩, hrun, horderly, hlock⟩ := @Orderly.runs p s t h hholds ⟨0⟩ ⟨0⟩
    refine ⟨.runs t ⟨0⟩ ⟨0⟩, s', events, trivial, ?_, horderly, hlock⟩
    simp only [system, step, if_pos hholds, hrun]
  · intro s lock h hgrant
    refine ⟨.grants, { s with lock := lock }, [], trivial, ?_, h.grants hgrant, rfl⟩
    simp only [system, step, hgrant, Option.map_some]

end Invariant

/-! ## Runs -/

/-- In every run of the tasks in which no status command is received that looks a PR up in the
registry, no task that holds a guard waits for anything outside the proxy, and every task that
awaits the registry is served by steps that wait for nothing outside the proxy. -/
theorem guards_held_briefly (p : ProxySetup) (shared : Shared) (labels : List TaskLabel)
    (s : Tasks) (tr : List TaskEvent)
    (hrun : (system p).exec (start shared) labels = some (s, tr))
    (hmeets : (system p).Meets (NoStatusLookup p) (start shared) labels) :
    GuardsHeldBriefly p s ∧ RegistryServed p s := by
  have horderly : Orderly s := by
    refine (system p).exec_state_invariant Orderly ?_ (orderly_start shared) hmeets hrun
    intro s label s' t h hcondition hstep
    exact orderly_step h hcondition hstep
  exact ⟨horderly.guardsHeldBriefly, horderly.registryServed⟩

/-- The sample configuration with Jenkins and Kubernetes. -/
def sampleProxy : ProxySetup where
  ids := .sample
  packets := .sample
  config := sampleConfig
  setup := Lifecycle.sampleSetup
  jenkinsConfigured := true
  kubernetesConfigured := true

/-- The stores of a proxy that has recovered nothing. -/
def sampleShared : Shared := .startUp sampleConfig.backends .empty ∅ ∅

/-- A client logs in, up to the `await` of the registry for its backend. -/
def loginSample (client : Nat) : List TaskLabel :=
  [.accepts client, .receives client sampleIntention, .receives client sampleHello,
    .replied client true, .receives client ⟨3, []⟩]

/-- Two clients log in, and the first one is granted the registry. -/
theorem guards_held_briefly_sample :
    ∃ s tr, (system sampleProxy).exec (start sampleShared)
        (loginSample 0 ++ loginSample 1 ++ [.grants]) = some (s, tr) ∧
      GuardsHeldBriefly sampleProxy s ∧ RegistryServed sampleProxy s := by
  have hrun : ((system sampleProxy).exec (start sampleShared)
      (loginSample 0 ++ loginSample 1 ++ [.grants])).isSome = true := by decide +kernel
  obtain ⟨⟨s, tr⟩, hrun⟩ := Option.isSome_iff_exists.1 hrun
  refine ⟨s, tr, hrun, guards_held_briefly sampleProxy sampleShared _ s tr hrun ?_⟩
  refine (system sampleProxy).meets_of_forall ?_ _
  intro s label hlabel
  simp only [loginSample, List.cons_append, List.nil_append, List.mem_cons, List.not_mem_nil,
    or_false] at hlabel
  rcases hlabel with rfl | rfl | rfl | rfl | rfl | rfl | rfl | rfl | rfl | rfl | rfl <;> trivial

/-- A player of the backend asks for the status of the untracked PR 7. -/
def statusSample : List TaskLabel :=
  loginSample 0 ++
    [.grants, .runs (.client 0) ⟨0⟩ ⟨0⟩, .connects 0 (some none), .takes 0 (.client ⟨3, []⟩),
      .written 0 true,
      .takes 0 (.client ⟨6, [8, 115, 116, 97, 116, 117, 115, 32, 55]⟩), .grants,
      .runs (.client 0) ⟨0⟩ ⟨0⟩]

/-- The reply is written under the registry guard. -/
theorem status_reply_under_guard :
    ∃ s tr, (system sampleProxy).exec (start sampleShared) statusSample = some (s, tr) ∧
      s.lock.Holds (.client 0) ∧ s.peer sampleProxy (.client 0) = some .player ∧
      ¬ GuardsHeldBriefly sampleProxy s := by
  have hreply : ((system sampleProxy).exec (start sampleShared) statusSample).any
      (fun result => decide (result.1.lock.Holds (.client 0) ∧
        result.1.peer sampleProxy (.client 0) = some .player)) = true := by decide +kernel
  cases hrun : (system sampleProxy).exec (start sampleShared) statusSample with
  | none =>
      rw [hrun] at hreply
      cases hreply
  | some result =>
      rw [hrun, Option.any_some, decide_eq_true_iff] at hreply
      refine ⟨result.1, result.2, rfl, hreply.1, hreply.2, ?_⟩
      intro hbrief
      have hnone := hbrief _ hreply.1
      rw [hreply.2] at hnone
      cases hnone

end Tasks

end SteelProxy
