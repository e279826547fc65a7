import SteelProxy.Library.Simulation
import SteelProxy.Proxy.LockSafety

/-!
# No deadlock at the registry lock

The replies of `/status` are written under the registry guard, so a player who does not read can
hold the lock for as long as the write takes. Nothing else is ever waited for under a guard: in
every reachable state of every interleaving, with every command, a task that holds a guard runs on
or writes such a reply (`HeldForReplies`), and every task that awaits the registry comes to hold it
by steps of the proxy itself and the ends of these writes (`ServedAfterReplies`): no tasks wait for
each other in a circle.
-/

set_option autoImplicit false

namespace SteelProxy

open SteelProxy.Library SteelProxy.Library.Transition

/-- The task writes the reply of `/status` with the registry guard in scope. -/
def ClientPc.guarded : ClientPc → Bool
  | .writing _ _ true => true
  | _ => false

/-- A task that looks a PR up for `/status`, or writes the reply under the guard, does so for a
status command. -/
def ClientPc.ForStatus (p : ProxySetup) : ClientPc → Prop
  | .consulting f packet (.status _) =>
      ∃ prArg, f.packetCommand p.ids packet = some (.status prArg)
  | .writing f input true =>
      ∃ g packet env prArg, f = .start g ∧ input = .client packet env ∧
        g.packetCommand p.ids packet = some (.status prArg)
  | _ => True

/-- The client whose task a step moves. -/
def TaskLabel.client : TaskLabel → Option Nat
  | .accepts client => some client
  | .receives client _ => some client
  | .replied client _ => some client
  | .connects client _ => some client
  | .takes client _ => some client
  | .answers client _ => some client
  | .written client _ => some client
  | .runs (.client client) _ _ => some client
  | _ => none

/-- A step that waits for nothing outside the proxy, or ends the write of a task that holds a
guard. -/
def TaskLabel.Unblocks (s : Tasks) (label : TaskLabel) : Prop :=
  label.Internal ∨ ∃ client sent, label = .written client sent ∧ s.lock.Holds (.client client)

namespace Tasks

/-- The task is a client that writes the reply of `/status` under the guard. -/
def guarded (s : Tasks) : TaskId → Bool
  | .client c => (s.clients c).guarded
  | .lifecycle => false

/-- A task that holds a guard waits for nothing outside the proxy, or for its own player. -/
def HeldForReplies (p : ProxySetup) (s : Tasks) : Prop :=
  ∀ t, s.lock.Holds t → s.peer p t = none ∨
    ∃ client, t = .client client ∧ s.peer p t = some .player

/-- Every task that awaits the registry comes to hold it by steps that wait for nothing outside
the proxy but the ends of the writes under a guard. -/
def ServedAfterReplies (p : ProxySetup) (s : Tasks) : Prop :=
  ∀ t, s.awaitsRegistry t = true → ∃ labels s' tr,
    (system p).Meets TaskLabel.Unblocks s labels ∧
      (system p).exec s labels = some (s', tr) ∧ s'.lock.Holds t

/-- The tasks with a place at the lock are those that await the registry and those that write
under a guard, and the latter hold it. -/
structure Placed (p : ProxySetup) (s : Tasks) : Prop where
  places : ∀ t, t ∈ s.lock.tasks ↔ s.awaitsRegistry t = true ∨ s.guarded t = true
  holds : ∀ t, s.guarded t = true → s.lock.Holds t
  forStatus : ∀ client, (s.clients client).ForStatus p

/-- The task of a client goes on: it asks for the registry or does without it. -/
structure Settles (p : ProxySetup) (s : Tasks) (client : Nat) (s' : Tasks) : Prop where
  loop : s'.loop = s.loop
  clients : ∃ pc, s'.clients = Function.update s.clients client pc ∧ pc.guarded = false ∧
    pc.ForStatus p ∧
      s'.lock = if pc.awaitsRegistry then s.lock.request (.client client) .read else s.lock

section Pieces

variable {p : ProxySetup} {s s' : Tasks} {client : Nat} {pc : ClientPc}
  {result : Tasks × List TaskEvent}

theorem guarded_of_plain (h : pc.Plain) : pc.guarded = false := by
  cases pc with
  | writing f input guarded =>
      cases guarded with
      | true => exact absurd h id
      | false => rfl
  | _ => rfl

theorem forStatus_of_plain (h : pc.Plain) : pc.ForStatus p := by
  cases pc with
  | consulting f packet use =>
      cases use with
      | status searched => exact absurd h id
      | _ => trivial
  | writing f input guarded =>
      cases guarded with
      | true => exact absurd h id
      | false => trivial
  | _ => trivial

theorem GoesOn.settles (h : GoesOn s client s') : Settles p s client s' := by
  obtain ⟨pc, hclients, hpc, hplain⟩ := h.clients
  exact ⟨h.loop, pc, hclients, guarded_of_plain hplain, forStatus_of_plain hplain,
    by rw [h.lock, hpc, if_neg Bool.false_ne_true]⟩

theorem Asks.settles (h : Asks s client s') : Settles p s client s' := by
  obtain ⟨pc, hclients, hpc, hplain⟩ := h.clients
  exact ⟨h.loop, pc, hclients, guarded_of_plain hplain, forStatus_of_plain hplain,
    by rw [h.lock, hpc, if_pos rfl]⟩

theorem settles_of_goes (h : GoesOn s client s' ∨ Asks s client s') : Settles p s client s' := by
  rcases h with hgoes | hasks
  · exact hgoes.settles
  · exact hasks.settles

/-- Every client packet, status commands with a lookup included. -/
theorem settles_handleClientPacket (f : PacketForwarder) (packet : RawPacket) :
    Settles p s client (s.handleClientPacket p client f packet).1 := by
  by_cases hlookup : ∃ prArg, f.packetCommand p.ids packet = some (.status prArg) ∧
      s.consultsStatus p prArg = true
  · obtain ⟨prArg, hcommand, hconsults⟩ := hlookup
    have hasks : s.handleClientPacket p client f packet =
        (s.askRegistry client (.consulting f packet (.status s.shared.instances)), []) := by
      simp only [handleClientPacket, hcommand, hconsults, if_true]
    rw [hasks]
    exact ⟨rfl, _, rfl, rfl, ⟨prArg, hcommand⟩, rfl⟩
  · refine settles_of_goes (handleClientPacket_goes ?_)
    intro prArg hcommand
    exact Bool.eq_false_iff.2 fun hconsults => hlookup ⟨prArg, hcommand, hconsults⟩

theorem settles_afterSelect {f : Forwarding} {received : Received}
    (h : s.afterSelect p client f received = some result) : Settles p s client result.1 := by
  unfold afterSelect at h
  split at h
  · cases h
    exact settles_handleClientPacket f.forwarder _
  · dsimp only at h
    split at h
    · cases h
      exact (goesOn_handle f _).settles
    · cases h

/-! ### The reply of `/status` -/

/-- The events of a system message are its packet, and no packet for the backend. -/
theorem peer_statusReply {g : PacketForwarder} {packet : RawPacket} {env : Surroundings}
    {prArg : String} (hcommand : g.packetCommand p.ids packet = some (.status prArg)) :
    Forwarding.peer p (.start g) (.client packet env) = some .player := by
  have hhandled : g.handleClientPacket p.ids p.config { env with sent := true } packet =
      g.handleStatusCommand { env with sent := true } prArg := by
    simp only [PacketForwarder.packetCommand] at hcommand
    split at hcommand
    · rename_i hchat
      split at hcommand
      · rename_i command hparse
        rw [PacketForwarder.handleClientPacket, if_pos hchat, hparse]
        simp only [hcommand, PacketForwarder.handleProxyCommand]
      · cases hcommand
    · cases hcommand
  have hreply : ∃ message, g.handleStatusCommand { env with sent := true } prArg =
      ⟨g, [.toClient (.systemChat message)], .ok .continue_⟩ := by
    simp only [PacketForwarder.handleStatusCommand]
    repeat' split
    all_goals exact ⟨_, rfl⟩
  obtain ⟨message, hmessage⟩ := hreply
  simp only [Forwarding.peer, Input.withSent, Forwarding.step, Forwarding.start, hhandled,
    hmessage, Forwarding.handlerEvents]
  rfl

end Pieces

/-! ## The invariant -/

section Invariant

variable {p : ProxySetup} {s s' : Tasks} {client : Nat} {label : TaskLabel} {t : TaskId}
  {result : Tasks × List TaskEvent}

theorem placed_start (shared : Shared) : Placed p (start shared) where
  places t := by
    rw [(orderly_start shared).places]
    cases t with
    | client c => simp [guarded, start, ClientPc.guarded]
    | lifecycle => simp [guarded]
  holds t h := by
    cases t with
    | client c => cases h
    | lifecycle => cases h
  forStatus _ := trivial

/-- A task that holds a guard and does not write under it is at an `await` of the registry. -/
theorem Placed.heldForReplies (h : Placed p s) : HeldForReplies p s := by
  intro t hholds
  rcases (h.places t).1 hholds.mem_tasks with hawaits | hguarded
  · exact Or.inl (peer_of_awaitsRegistry hawaits)
  · cases t with
    | lifecycle => cases hguarded
    | client c =>
        refine Or.inr ⟨c, rfl, ?_⟩
        have hstatus := h.forStatus c
        simp only [guarded] at hguarded
        rw [peer]
        cases hpc : s.clients c with
        | writing f input guarded =>
            rw [hpc] at hguarded hstatus
            cases guarded with
            | false => cases hguarded
            | true =>
                obtain ⟨g, packet, env, prArg, rfl, rfl, hcommand⟩ := hstatus
                exact peer_statusReply hcommand
        | _ =>
            rw [hpc] at hguarded
            cases hguarded

theorem guarded_of_update {pc : ClientPc}
    (hclients : s'.clients = Function.update s.clients client pc) (t : TaskId) :
    s'.guarded t = if t = .client client then pc.guarded else s.guarded t := by
  cases t with
  | client c =>
      simp only [guarded, hclients, Function.update_apply, TaskId.client.injEq]
      split <;> rfl
  | lifecycle => simp [guarded]

theorem forStatus_of_update {pc : ClientPc} (h : ∀ c, (s.clients c).ForStatus p)
    (hpc : pc.ForStatus p) (hclients : s'.clients = Function.update s.clients client pc)
    (c : Nat) : (s'.clients c).ForStatus p := by
  rw [hclients, Function.update_apply]
  split
  · exact hpc
  · exact h c

/-- A client without a place at the lock goes on. -/
theorem Placed.settles (h : Placed p s) (hawaits : s.awaitsRegistry (.client client) = false)
    (hguarded : s.guarded (.client client) = false) (hsettles : Settles p s client s') :
    Placed p s' := by
  obtain ⟨pc, hclients, hpc, hstatus, hlock⟩ := hsettles.clients
  refine ⟨?_, ?_, forStatus_of_update h.forStatus hstatus hclients⟩
  · intro t
    rw [awaitsRegistry_of_update hsettles.loop hclients, guarded_of_update hclients]
    by_cases ht : t = .client client
    · rw [if_pos ht, if_pos ht, hpc]
      cases hasks : pc.awaitsRegistry with
      | true => simp [hlock, hasks, RwLock.mem_tasks_request, ht]
      | false => simp [hlock, hasks, h.places, ht, hawaits, hguarded]
    · rw [if_neg ht, if_neg ht]
      cases hasks : pc.awaitsRegistry with
      | true => simp [hlock, hasks, RwLock.mem_tasks_request, ht, h.places]
      | false => simp [hlock, hasks, h.places]
  · intro t ht
    rw [guarded_of_update hclients] at ht
    split at ht
    · rw [hpc] at ht
      cases ht
    · have hholds := h.holds t ht
      rw [hlock]
      split
      · exact hholds.request .read
      · exact hholds

/-- A client that holds a guard drops it and goes on. -/
theorem Placed.releases (h : Placed p s) (hholds : s.lock.Holds (.client client))
    (hgoes : GoesOn (s.dropGuard (.client client)) client s') : Placed p s' := by
  obtain ⟨pc, hclients, hpc, hplain⟩ := hgoes.clients
  have hdropped : (s.dropGuard (.client client)).lock = s.lock.release (.client client) := rfl
  have hunguarded : pc.guarded = false := guarded_of_plain hplain
  refine ⟨?_, ?_, forStatus_of_update h.forStatus (forStatus_of_plain hplain) hclients⟩
  · intro t
    rw [hgoes.lock, hdropped, RwLock.mem_tasks_release hholds, h.places,
      awaitsRegistry_of_update hgoes.loop hclients, guarded_of_update hclients]
    by_cases ht : t = .client client
    · simp [ht, hpc, hunguarded]
    · simp only [ne_eq, ht, not_false_eq_true, true_and]
      rfl
  · intro t ht
    rw [guarded_of_update hclients] at ht
    split at ht
    · rw [hunguarded] at ht
      cases ht
    · rename_i hne
      rw [hgoes.lock, hdropped]
      exact (h.holds t ht).release hne

/-- A client that holds a guard keeps it for the write of its reply. -/
theorem Placed.keepsGuard {f : Forwarding} {input : Input} (h : Placed p s)
    (hholds : s.lock.Holds (.client client))
    (hstatus : (ClientPc.writing f input true).ForStatus p) :
    Placed p (s.setClient client (.writing f input true)) := by
  have hclients : (s.setClient client (.writing f input true)).clients =
      Function.update s.clients client (.writing f input true) := rfl
  refine ⟨?_, ?_, forStatus_of_update h.forStatus hstatus hclients⟩
  · intro t
    rw [@awaitsRegistry_of_update s (s.setClient client _) client _ rfl hclients,
      guarded_of_update hclients]
    by_cases ht : t = .client client
    · rw [if_pos ht, if_pos ht, ht]
      exact iff_of_true hholds.mem_tasks (Or.inr rfl)
    · rw [if_neg ht, if_neg ht]
      exact h.places t
  · intro t ht
    rw [guarded_of_update hclients] at ht
    split at ht
    · rename_i heq
      rw [heq]
      exact hholds
    · exact h.holds t ht

theorem Placed.grants {lock : RwLock TaskId} (h : Placed p s) (hgrant : s.lock.grant = some lock) :
    Placed p { s with lock := lock } where
  places t := (RwLock.mem_tasks_grant hgrant).trans (h.places t)
  holds t ht := (h.holds t ht).grant hgrant
  forStatus := h.forStatus

/-! ### The loop -/

theorem Placed.afterLoop {label : Label} {w : World} {events : List Event} (h : Placed p s)
    (hstart : ∀ id start, label ≠ .start id start)
    (hlocked : ∀ now readyAt, label ≠ .resume (.registryLocked now readyAt))
    (hlifecycle : Lifecycle.step p.setup s.world label = some (w, events)) :
    Placed p (s.afterLoop w) := by
  have hbefore : s.loop.awaitsRegistry = false :=
    not_awaitsRegistry_of_step hlifecycle hstart hlocked
  have hafter : s.afterLoop w = { s with
      shared := w.shared, loop := w.loop,
      lock := if w.loop.awaitsRegistry then s.lock.request .lifecycle .write else s.lock } := by
    rw [Tasks.afterLoop]
    split <;> rfl
  rw [hafter]
  refine ⟨?_, ?_, h.forStatus⟩
  · intro t
    have hplaces := h.places t
    cases t with
    | client c =>
        cases hloop : w.loop.awaitsRegistry with
        | true => simpa [RwLock.mem_tasks_request, awaitsRegistry, guarded] using hplaces
        | false => simpa [awaitsRegistry, guarded] using hplaces
    | lifecycle =>
        cases hloop : w.loop.awaitsRegistry with
        | true => simp [RwLock.mem_tasks_request, awaitsRegistry, hloop]
        | false => simpa [awaitsRegistry, guarded, hloop, hbefore] using hplaces
  · intro t ht
    have hholds := h.holds t ht
    dsimp only
    split
    · exact hholds.request .write
    · exact hholds

/-! ### Tasks that hold a guard -/

/-- The loop that holds the guard runs on and leaves the registry. -/
theorem Placed.runsLifecycle (h : Placed p s) (hholds : s.lock.Holds .lifecycle)
    (now readyAt : Instant) :
    ∃ result, s.run p now readyAt .lifecycle = some result ∧ Placed p result.1 ∧
      result.1.lock = s.lock.release .lifecycle := by
  have hawaits : s.world.loop.awaitsRegistry = true := by
    rcases (h.places .lifecycle).1 hholds.mem_tasks with hawaits | hguarded
    · exact hawaits
    · cases hguarded
  obtain ⟨w, events, hstep, hloop⟩ := @exists_step_of_awaitsRegistry p _ hawaits now readyAt
  have hrun : s.run p now readyAt .lifecycle =
      some ({ s.dropGuard .lifecycle with shared := w.shared, loop := w.loop },
        events.map .lifecycle) := by
    rw [run, hstep, Option.map_some]
  refine ⟨_, hrun, ⟨?_, ?_, h.forStatus⟩, rfl⟩
  · intro t
    refine (RwLock.mem_tasks_release hholds).trans ?_
    rw [h.places]
    cases t with
    | client c => simp [awaitsRegistry, guarded, dropGuard]
    | lifecycle => simp [awaitsRegistry, guarded, hloop]
  · intro t ht
    cases t with
    | client c =>
        have hholds := h.holds (.client c) ht
        exact hholds.release (by simp)
    | lifecycle => cases ht

/-- A task at an `await` of the registry that holds a guard runs on: it drops the guard, or keeps
it for the write of its reply. -/
theorem Placed.runsClient (h : Placed p s) (hholds : s.lock.Holds (.client client))
    (hawaits : s.awaitsRegistry (.client client) = true) (now readyAt : Instant) :
    ∃ result, s.run p now readyAt (.client client) = some result ∧ Placed p result.1 ∧
      (result.1.lock = s.lock.release (.client client) ∨
        (result.1.lock = s.lock ∧ result.1.guarded (.client client) = true)) := by
  have hstatus := h.forStatus client
  simp only [awaitsRegistry] at hawaits
  simp only [run]
  cases hpc : s.clients client with
  | lookup username uuid backendName =>
      have hgoes := @goesOn_afterLookup (s.dropGuard (.client client)) client username uuid
        backendName
      exact ⟨_, rfl, h.releases hholds hgoes, Or.inl hgoes.lock⟩
  | consulting f packet use =>
      cases use with
      | status searched =>
          -- the guard stays in scope over the write of the reply
          rw [hpc] at hstatus
          obtain ⟨prArg, hcommand⟩ := hstatus
          refine ⟨_, rfl, h.keepsGuard hholds ⟨f, packet, _, prArg, rfl, rfl, hcommand⟩,
            Or.inr ⟨rfl, ?_⟩⟩
          simp [guarded, afterConsult, setClient, ClientPc.guarded]
      | listServers =>
          have hgoes := @goesOn_afterConsult p s client f packet .listServers trivial
          exact ⟨_, rfl, h.releases hholds hgoes, Or.inl hgoes.lock⟩
      | switchServer serverName =>
          have hgoes := @goesOn_afterConsult p s client f packet (.switchServer serverName) trivial
          exact ⟨_, rfl, h.releases hholds hgoes, Or.inl hgoes.lock⟩
  | starting f packet call =>
      rw [hpc] at hawaits
      cases call with
      | registry n =>
          have hgoes : GoesOn (s.dropGuard (.client client)) client
              ((s.dropGuard (.client client)).followStart p client f packet
                (StartPr.checkRegistry s.shared client n)).1 :=
            goesOn_followStart f packet (call_checkRegistry_ne s.shared client n)
          exact ⟨_, rfl, h.releases hholds hgoes, Or.inl hgoes.lock⟩
      | _ => cases hawaits
  | _ =>
      rw [hpc] at hawaits
      cases hawaits

/-- A task that writes under the guard drops it when the write ends. -/
theorem Placed.ends (h : Placed p s) (hguarded : s.guarded (.client client) = true)
    (sent : Bool) :
    ∃ result, s.step p (.written client sent) = some result ∧ Placed p result.1 ∧
      result.1.lock = s.lock.release (.client client) := by
  have hholds := h.holds _ hguarded
  simp only [guarded] at hguarded
  simp only [step]
  cases hpc : s.clients client with
  | writing f input guarded =>
      rw [hpc] at hguarded
      cases guarded with
      | false => cases hguarded
      | true =>
          have hgoes := @goesOn_afterHandler p (s.dropGuard (.client client)) client f
            (input.withSent sent)
          exact ⟨_, rfl, h.releases hholds hgoes, hgoes.lock⟩
  | _ =>
      rw [hpc] at hguarded
      cases hguarded

/-! ### Steps -/

/-- Every step keeps the places at the lock. -/
theorem placed_step (h : Placed p s) (hstep : s.step p label = some result) :
    Placed p result.1 := by
  cases stepped_of_step hstep with
  | accepted client hpc =>
      exact h.settles (by simp [awaitsRegistry, hpc, ClientPc.awaitsRegistry])
        (by simp [guarded, hpc, ClientPc.guarded]) (GoesOn.settles (goesOn_setClient rfl trivial))
  | received client packet state hpc =>
      exact h.settles (by simp [awaitsRegistry, hpc, ClientPc.awaitsRegistry])
        (by simp [guarded, hpc, ClientPc.guarded]) (settles_of_goes (afterPacket_goes state packet))
  | replied client sent state packet hpc =>
      exact h.settles (by simp [awaitsRegistry, hpc, ClientPc.awaitsRegistry])
        (by simp [guarded, hpc, ClientPc.guarded]) (settles_of_goes (afterLogin_goes _))
  | connectFailed client connector backendName hpc =>
      exact h.settles (by simp [awaitsRegistry, hpc, ClientPc.awaitsRegistry])
        (by simp [guarded, hpc, ClientPc.guarded]) (GoesOn.settles (goesOn_setClient rfl trivial))
  | connected client connector backendName threshold hpc =>
      exact h.settles (by simp [awaitsRegistry, hpc, ClientPc.awaitsRegistry])
        (by simp [guarded, hpc, ClientPc.guarded]) (GoesOn.settles (goesOn_setClient rfl trivial))
  | selected client received f _ hpc hselect =>
      exact h.settles (by simp [awaitsRegistry, hpc, ClientPc.awaitsRegistry])
        (by simp [guarded, hpc, ClientPc.guarded]) (settles_afterSelect hselect)
  | answered client label f packet call o hpc hlabel hcall =>
      refine h.settles ?_ (by simp [guarded, hpc, ClientPc.guarded])
        (settles_of_goes (followStart_goes f packet o))
      rw [awaitsRegistry, hpc]
      cases call with
      | registry n => exact absurd hcall (step_registry_ne_some hlabel)
      | _ => rfl
  | wrote client sent f input hpc =>
      exact h.settles (by simp [awaitsRegistry, hpc, ClientPc.awaitsRegistry])
        (by simp [guarded, hpc, ClientPc.guarded]) (goesOn_afterHandler f _).settles
  | wroteGuarded client sent f input hpc =>
      -- the reply of a status command is written under the guard, which is dropped now
      have hguarded : s.guarded (.client client) = true := by
        simp [guarded, hpc, ClientPc.guarded]
      have hgoes := @goesOn_afterHandler p (s.dropGuard (.client client)) client f
        (input.withSent sent)
      exact h.releases (h.holds _ hguarded) hgoes
  | looped label w events hconfigured hstart hlocked hloop =>
      exact h.afterLoop hstart hlocked hloop
  | granted lock hgrant => exact h.grants hgrant
  | lookedUp client username uuid backendName now readyAt hholds hpc =>
      exact h.releases hholds (goesOn_afterLookup username uuid backendName)
  | consulted client f packet use now readyAt hholds hpc =>
      obtain ⟨result, hrun, hplaced, -⟩ := h.runsClient hholds
        (by simp [awaitsRegistry, hpc, ClientPc.awaitsRegistry]) now readyAt
      simp only [run, hpc, Option.some.injEq] at hrun
      rw [hrun]
      exact hplaced
  | registryChecked client f packet n now readyAt hholds hpc =>
      exact h.releases hholds
        (goesOn_followStart f packet (call_checkRegistry_ne s.shared client n))
  | loopRan now readyAt w events hholds hloop =>
      obtain ⟨result, hrun, hplaced, -⟩ := h.runsLifecycle hholds now readyAt
      simp only [run, hloop, Option.map_some, Option.some.injEq] at hrun
      rw [hrun]
      exact hplaced

/-! ### The tasks that a step leaves alone -/

/-- A step moves the task of its client alone. -/
theorem clients_of_step (hstep : s.step p label = some result) :
    result.1.clients = s.clients ∨
      ∃ client pc, label.client = some client ∧
        result.1.clients = Function.update s.clients client pc := by
  -- what the pieces of a client task say of all tasks
  have hgoes : ∀ {s s' : Tasks} {client : Nat}, GoesOn s client s' →
      ∃ pc, s'.clients = Function.update s.clients client pc := by
    intro s s' client h
    obtain ⟨pc, hpc, -⟩ := h.clients
    exact ⟨pc, hpc⟩
  have hsettles : ∀ {s s' : Tasks} {client : Nat}, Settles p s client s' →
      ∃ pc, s'.clients = Function.update s.clients client pc := by
    intro s s' client h
    obtain ⟨pc, hpc, -⟩ := h.clients
    exact ⟨pc, hpc⟩
  cases stepped_of_step hstep with
  | accepted client hpc => exact Or.inr ⟨client, _, rfl, rfl⟩
  | received client packet state hpc =>
      obtain ⟨pc, hpc⟩ := hsettles (settles_of_goes (afterPacket_goes state packet))
      exact Or.inr ⟨client, pc, rfl, hpc⟩
  | replied client sent state packet hpc =>
      obtain ⟨pc, hpc⟩ := hsettles (settles_of_goes (afterLogin_goes _))
      exact Or.inr ⟨client, pc, rfl, hpc⟩
  | connectFailed client connector backendName hpc => exact Or.inr ⟨client, _, rfl, rfl⟩
  | connected client connector backendName threshold hpc => exact Or.inr ⟨client, _, rfl, rfl⟩
  | selected client received f _ hpc hselect =>
      obtain ⟨pc, hpc⟩ := hsettles (settles_afterSelect hselect)
      exact Or.inr ⟨client, pc, rfl, hpc⟩
  | answered client label f packet call o hpc hlabel hcall =>
      obtain ⟨pc, hpc⟩ := hsettles (settles_of_goes (followStart_goes f packet o))
      exact Or.inr ⟨client, pc, rfl, hpc⟩
  | wrote client sent f input hpc =>
      obtain ⟨pc, hpc⟩ := hgoes (@goesOn_afterHandler p s client f (input.withSent sent))
      exact Or.inr ⟨client, pc, rfl, hpc⟩
  | wroteGuarded client sent f input hpc =>
      obtain ⟨pc, hpc⟩ := hgoes (@goesOn_afterHandler p
        (s.dropGuard (.client client)) client f (input.withSent sent))
      exact Or.inr ⟨client, pc, rfl, hpc⟩
  | looped label w events hconfigured hstart hlocked hloop =>
      left
      rw [Tasks.afterLoop]
      split <;> rfl
  | granted lock hgrant => exact Or.inl rfl
  | lookedUp client username uuid backendName now readyAt hholds hpc =>
      obtain ⟨pc, hpc⟩ := hgoes (goesOn_afterLookup _ _ _)
      exact Or.inr ⟨client, pc, rfl, hpc⟩
  | consulted client f packet use now readyAt hholds hpc =>
      cases use with
      -- the task is suspended in the write of its reply
      | status searched => exact Or.inr ⟨client, _, rfl, rfl⟩
      | listServers =>
          obtain ⟨pc, hpc⟩ := hgoes (@goesOn_afterConsult p s client f packet
            .listServers trivial)
          exact Or.inr ⟨client, pc, rfl, hpc⟩
      | switchServer serverName =>
          obtain ⟨pc, hpc⟩ := hgoes (@goesOn_afterConsult p s client f packet
            (.switchServer serverName) trivial)
          exact Or.inr ⟨client, pc, rfl, hpc⟩
  | registryChecked client f packet n now readyAt hholds hpc =>
      obtain ⟨pc, hpc⟩ := hsettles (settles_of_goes (followStart_goes f packet _))
      exact Or.inr ⟨client, pc, rfl, hpc⟩
  | loopRan now readyAt w events hholds hloop => exact Or.inl rfl

theorem clients_of_ne (hstep : s.step p label = some result) (hne : label.client ≠ some client) :
    result.1.clients client = s.clients client := by
  rcases clients_of_step hstep with hclients | ⟨moved, pc, hlabel, hclients⟩
  · rw [hclients]
  · rw [hclients, Function.update_of_ne]
    rintro rfl
    exact hne hlabel

/-! ### Service -/

/-- A task that holds a guard drops it, at once or after the write of its reply. -/
theorem Placed.drops (h : Placed p s) (hholds : s.lock.Holds t) :
    ∃ labels s' tr, (system p).Meets TaskLabel.Unblocks s labels ∧
      (system p).exec s labels = some (s', tr) ∧ Placed p s' ∧ s'.lock = s.lock.release t := by
  -- the single steps of which the run consists
  have hwrites : ∀ {s : Tasks} {c : Nat}, Placed p s → s.guarded (.client c) = true →
      ∃ s' tr, (system p).Meets TaskLabel.Unblocks s [.written c true] ∧
        (system p).exec s [.written c true] = some (s', tr) ∧ Placed p s' ∧
        s'.lock = s.lock.release (.client c) := by
    intro s c h hguarded
    obtain ⟨⟨s', tr⟩, hs', hplaced, hlock⟩ := h.ends hguarded true
    have hstep : (system p).step s (.written c true) = some (s', tr) := hs'
    refine ⟨s', tr, ((system p).meets_cons_iff hstep).2 ⟨?_, trivial⟩,
      (System.exec_singleton_iff _).2 hstep, hplaced, hlock⟩
    exact Or.inr ⟨c, true, rfl, h.holds _ hguarded⟩
  have hruns : ∀ {result : Tasks × List TaskEvent}, s.run p ⟨0⟩ ⟨0⟩ t = some result →
      (system p).step s (.runs t ⟨0⟩ ⟨0⟩) = some result := by
    intro result hrun
    simp only [system, step, if_pos hholds, hrun]
  rcases (h.places t).1 hholds.mem_tasks with hawaits | hguarded
  · cases t with
    | lifecycle =>
        obtain ⟨⟨s', tr⟩, hs', hplaced, hlock⟩ := h.runsLifecycle hholds ⟨0⟩ ⟨0⟩
        exact ⟨[.runs .lifecycle ⟨0⟩ ⟨0⟩], s', tr,
          (System.meets_cons_iff _ (hruns hs')).2 ⟨Or.inl trivial, trivial⟩,
          (System.exec_singleton_iff _).2 (hruns hs'), hplaced, hlock⟩
    | client c =>
        obtain ⟨⟨s', tr⟩, hs', hplaced, hlock | ⟨hlock, hguarded⟩⟩ :=
          h.runsClient hholds hawaits ⟨0⟩ ⟨0⟩
        · exact ⟨[.runs (.client c) ⟨0⟩ ⟨0⟩], s', tr,
            (System.meets_cons_iff _ (hruns hs')).2 ⟨Or.inl trivial, trivial⟩,
            (System.exec_singleton_iff _).2 (hruns hs'), hplaced, hlock⟩
        · -- the reply of a status command: the guard is dropped after its write
          obtain ⟨s'', tr', hmeets, hrun, hplaced', hlock'⟩ := hwrites hplaced hguarded
          exact ⟨[.runs (.client c) ⟨0⟩ ⟨0⟩, .written c true], s'', tr ++ tr',
            (System.meets_cons_iff _ (hruns hs')).2 ⟨Or.inl trivial, hmeets⟩,
            (System.exec_cons_iff _).2 ⟨s', tr, tr', hruns hs', hrun, rfl⟩, hplaced',
            by rw [hlock', hlock]⟩
  · cases t with
    | lifecycle => cases hguarded
    | client c =>
        obtain ⟨s', tr, hmeets, hrun, hplaced, hlock⟩ := hwrites h hguarded
        exact ⟨[.written c true], s', tr, hmeets, hrun, hplaced, hlock⟩

/-- Every task that awaits the registry is served. -/
theorem Placed.servedAfterReplies (h : Placed p s) : ServedAfterReplies p s := by
  intro t hawaits
  -- a block of steps that unblock is one step of the system in which every step does
  have hblock : ∀ {s : Tasks} {labels : List TaskLabel} {s' : Tasks} {tr : List TaskEvent},
      ((system p).restricted TaskLabel.Unblocks).blocks.step s labels = some (s', tr) ↔
        (system p).Meets TaskLabel.Unblocks s labels ∧
          (system p).exec s labels = some (s', tr) :=
    (system p).exec_restricted_iff TaskLabel.Unblocks
  obtain ⟨blocks, s', tr, -, hrun, hholds⟩ := RwLock.served
    ((system p).restricted TaskLabel.Unblocks).blocks Tasks.lock (Placed p) (fun _ => True)
    (by
      intro s t h hholds
      obtain ⟨labels, s', tr, hmeets, hrun, hplaced, hlock⟩ := h.drops hholds
      exact ⟨labels, s', tr, trivial, hblock.2 ⟨hmeets, hrun⟩, hplaced, hlock⟩)
    (by
      intro s lock h hgrant
      have hgrants : (system p).step s .grants = some ({ s with lock := lock }, []) := by
        simp only [system, step, hgrant, Option.map_some]
      exact ⟨[.grants], { s with lock := lock }, [], trivial,
        hblock.2 ⟨(System.meets_cons_iff _ hgrants).2 ⟨Or.inl trivial, trivial⟩,
          (System.exec_singleton_iff _).2 hgrants⟩, h.grants hgrant, rfl⟩)
    h ((h.places t).2 (Or.inl hawaits))
  rw [System.exec_blocks, System.exec_restricted_iff] at hrun
  exact ⟨blocks.flatten, s', tr, hrun.1, hrun.2, hholds⟩

end Invariant

/-! ## Runs -/

/-- In every run of the tasks, a task that holds a guard of the registry waits for nothing outside
the proxy but its own player, and every task that awaits the registry comes to hold it by steps of
the proxy and the ends of writes under a guard. -/
theorem no_deadlock (p : ProxySetup) (shared : Shared) (labels : List TaskLabel) (s : Tasks)
    (tr : List TaskEvent) (hrun : (system p).exec (start shared) labels = some (s, tr)) :
    HeldForReplies p s ∧ ServedAfterReplies p s := by
  have hplaced : Placed p s := by
    refine @System.exec_state_invariant _ _ _ (system p) (fun _ _ => True) (Placed p) ?_ labels
      (start shared) s tr (placed_start shared) ((system p).meets_of_forall (by simp) _) hrun
    intro s label s' t h _ hstep
    exact placed_step h hstep
  exact ⟨hplaced.heldForReplies, hplaced.servedAfterReplies⟩

/-- One player is in the reply of `/status`, under the guard, and another one awaits the registry
for its login. -/
theorem no_deadlock_sample :
    ∃ s tr, (system sampleProxy).exec (start sampleShared) (statusSample ++ loginSample 1) =
        some (s, tr) ∧
      s.lock.Holds (.client 0) ∧ s.awaitsRegistry (.client 1) = true ∧
      HeldForReplies sampleProxy s ∧ ServedAfterReplies sampleProxy s := by
  have hreply : ((system sampleProxy).exec (start sampleShared)
      (statusSample ++ loginSample 1)).any (fun result =>
        decide (result.1.lock.Holds (.client 0) ∧ result.1.awaitsRegistry (.client 1) = true)) =
          true := by
    decide +kernel
  obtain ⟨⟨s, tr⟩, hrun, hsample⟩ := (Option.any_eq_true _ _).1 hreply
  obtain ⟨hholds, hawaits⟩ := of_decide_eq_true hsample
  exact ⟨s, tr, hrun, hholds, hawaits, no_deadlock sampleProxy sampleShared _ s tr hrun⟩

end Tasks

end SteelProxy
