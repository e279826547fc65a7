import SteelProxy.Proxy.SwitchRouting
import SteelProxy.Proxy.LockProgress
import SteelProxy.Proxy.TaskRefinement

/-!
# The tasks refine the routing

The tasks of the proxy, with their registry lock and `start_pr` calls, against the client tasks with
the registry and the pending switches alone. A client that waits for the registry or is inside
`start_pr` is still in its forwarder there, and one that writes a reply of the login is still at the
packet it replies to. Every step of the tasks is then a run of the routing (`routes_step`), so that
every interleaving of the tasks after a recovery is one of the routing from its start, with the same
Transfers (`refines_routing`).
-/

set_option autoImplicit false

namespace SteelProxy

open SteelProxy.Library SteelProxy.Library.Transition

/-- Where the routing has the task of a client. -/
def ClientPc.task : ClientPc → ClientTask
  | .absent => .absent
  | .login state => .login state
  | .replying state _ => .login state
  | .lookup username uuid backendName => .lookup username uuid backendName
  | .connecting connector backendName => .connecting connector backendName
  | .forwarding f => .forwarding f
  | .consulting f _ _ => .forwarding (.start f)
  | .starting f _ _ => .forwarding (.start f)
  | .writing f input _ => .writing f input
  | .ended => .ended

/-- A task in a command of the proxy is there for the packet with the command. -/
def ClientPc.ForCommand (p : ProxySetup) : ClientPc → Prop
  | .consulting f packet .listServers => f.packetCommand p.ids packet = some .listServers
  | .consulting f packet (.switchServer serverName) =>
      f.packetCommand p.ids packet = some (.switchServer serverName)
  | .consulting f packet (.status _) =>
      ∃ prArg, f.packetCommand p.ids packet = some (.status prArg)
  | .starting f packet _ => ∃ prArg, f.packetCommand p.ids packet = some (.start prArg)
  | _ => True

/-- The client to which the event writes a Transfer. -/
def TaskEvent.transferred : TaskEvent → Option Nat
  | .forwarder client event => if event.isTransfer then some client else none
  | .lifecycle _ => none

/-- The client to which the event writes a Transfer. -/
def RoutingEvent.transferredTo : RoutingEvent → Option Nat
  | .transferred client => some client
  | _ => none

namespace Forwarding

/-- An iteration of the loop writes one Transfer at most. -/
theorem Stepped.transfers {ids : PacketIds} {s s' : Forwarding} {input : Input}
    {t : List ForwardEvent} (h : Stepped ids s input s' t) (client : Nat) :
    (t.map (TaskEvent.forwarder client)).filterMap TaskEvent.transferred =
      if t.any ForwardEvent.isTransfer then [client] else [] := by
  cases h with
  | answered packet env replies hrun hphase hyes hnone =>
      have hevents : ∀ e ∈ ForwardEvent.clientHandled s.forwarder.currentProtocol packet ::
          replies.map fun message => .effect (.toClient (.systemChat message)),
          ¬ e.isTransfer = true := by
        intro e he
        rcases List.mem_cons.1 he with rfl | he
        · simp [ForwardEvent.isTransfer]
        · obtain ⟨message, -, rfl⟩ := List.mem_map.1 he
          simp [ForwardEvent.isTransfer]
      rw [List.filterMap_map, if_neg (by simpa using hevents)]
      exact List.filterMap_eq_nil_iff.2 fun e he => if_neg (hevents e he)
  | _ => simp [TaskEvent.transferred, ForwardEvent.isTransfer]

end Forwarding

namespace PacketForwarder

/-- The server that a packet names is that of the command in it. -/
theorem switchTarget_eq (ids : PacketIds) (f : PacketForwarder) (packet : RawPacket) :
    switchTarget ids f.currentProtocol packet =
      (f.packetCommand ids packet).bind ProxyCommand.target := by
  by_cases hchat : isChatCommand ids f.currentProtocol packet = true
  · rw [switchTarget, packetCommand, if_pos hchat, if_pos hchat]
    cases parseCommandFromPayload packet.payload with
    | none => rfl
    | some result =>
        cases result with
        | error e => rfl
        | ok command =>
            dsimp only
            cases hcommand : proxyCommand command with
            | some c => exact (target_of_proxyCommand hcommand).symm
            | none =>
                -- a command for a server is one of the proxy
                have hnot : isProxyCommand command = false := by
                  rw [← isSome_proxyCommand, hcommand]
                  rfl
                simp only [isProxyCommand, Bool.or_eq_false_iff] at hnot
                rw [Text.stripPrefix_eq_none hnot.1.1.2]
                rfl
  · rw [switchTarget, packetCommand, if_neg hchat, if_neg hchat]
    rfl

end PacketForwarder

namespace Tasks

/-- The registry, the pending switches and the client tasks. -/
def routing (s : Tasks) : Routing where
  backends := s.shared.backends
  pendingSwitches := s.pendingSwitches
  clients c := (s.clients c).task

theorem routing_setClient (s : Tasks) (client : Nat) (pc : ClientPc) :
    (s.setClient client pc).routing = s.routing.setClient client pc.task := by
  simp only [routing, setClient, Routing.setClient, Routing.mk.injEq, true_and]
  funext c
  by_cases hc : c = client
  · simp [hc]
  · simp [hc]

theorem routing_askRegistry (s : Tasks) (client : Nat) (pc : ClientPc) :
    (s.askRegistry client pc).routing = s.routing.setClient client pc.task :=
  routing_setClient s client pc

theorem setClient_of_eq {r : Routing} {client : Nat} {task : ClientTask}
    (h : r.clients client = task) : r.setClient client task = r := by
  subst h
  rw [Routing.setClient, Function.update_eq_self]

theorem setClient_setClient (r : Routing) (client : Nat) (task task' : ClientTask) :
    (r.setClient client task).setClient client task' = r.setClient client task' := by
  simp [Routing.setClient]

/-- The loop and the `start_pr` calls write no Transfer. -/
theorem filterMap_transferred_lifecycle (events : List Event) :
    (events.map TaskEvent.lifecycle).filterMap TaskEvent.transferred = [] := by
  rw [List.filterMap_map]
  exact List.filterMap_eq_nil_iff.2 fun _ _ => rfl

/-! ## Pieces of a client task -/

/-- What the tasks show after a piece is a run of the routing from `r`, with the Transfers of the
piece; and the client is in a command for the packet with the command. -/
structure Routes (p : ProxySetup) (r : Routing) (client : Nat)
    (result : Tasks × List TaskEvent) : Prop where
  run : ∃ labels t, (Routing.system p.ids p.packets p.config).exec r labels =
      some (result.1.routing, t) ∧
    t.filterMap RoutingEvent.transferredTo = result.2.filterMap TaskEvent.transferred
  forCommand : (result.1.clients client).ForCommand p

section Pieces

variable {p : ProxySetup} {r : Routing} {s : Tasks} {client : Nat} {f : Forwarding}
  {input : Input} {pc : ClientPc} {result : Tasks × List TaskEvent}

/-- A piece in which the routing sees nothing. -/
theorem routes_setClient (hsame : s.routing = r) (htask : r.clients client = pc.task)
    (hcommand : pc.ForCommand p) : Routes p r client (s.setClient client pc, []) := by
  refine ⟨⟨[], [], ?_, rfl⟩, ?_⟩
  · rw [routing_setClient, hsame, setClient_of_eq htask]
    rfl
  · simpa [setClient] using hcommand

theorem routes_askRegistry (hsame : s.routing = r) (htask : r.clients client = pc.task)
    (hcommand : pc.ForCommand p) : Routes p r client (s.askRegistry client pc, []) := by
  refine ⟨⟨[], [], ?_, rfl⟩, ?_⟩
  · rw [routing_askRegistry, hsame, setClient_of_eq htask]
    rfl
  · simpa [askRegistry, setClient] using hcommand

/-- A piece that is a step of the routing without an event. -/
theorem routes_of_step (label : RoutingLabel)
    (hstep : (Routing.system p.ids p.packets p.config).step s.routing label =
      some (s.routing.setClient client pc.task, [])) (hcommand : pc.ForCommand p) :
    Routes p s.routing client (s.setClient client pc, []) := by
  refine ⟨⟨[label], [], ?_, rfl⟩, ?_⟩
  · rw [routing_setClient]
    exact (System.exec_singleton_iff _).2 hstep
  · simpa [setClient] using hcommand

/-- A piece that begins with a run of the routing without a Transfer. -/
theorem Routes.after {r' : Routing} {labels : List RoutingLabel} {t : List RoutingEvent}
    (h : Routes p r' client result)
    (hrun : (Routing.system p.ids p.packets p.config).exec r labels = some (r', t))
    (hquiet : t.filterMap RoutingEvent.transferredTo = []) : Routes p r client result := by
  obtain ⟨labels', t', hrun', htransfers⟩ := h.run
  refine ⟨⟨labels ++ labels', t ++ t', (System.exec_append_iff _).2 ⟨r', t, t', hrun, hrun', rfl⟩,
    ?_⟩, h.forCommand⟩
  rw [List.filterMap_append, hquiet, htransfers, List.nil_append]

/-- The end of a handler. -/
theorem routes_afterHandler {input' : Input} {sent : Bool}
    (hsame : ∀ task, s.routing.setClient client task = r.setClient client task)
    (hclient : r.clients client = .writing f input') (hinput : input'.withSent sent = input) :
    Routes p r client (s.afterHandler p client f input) := by
  subst hinput
  have hstep : (Routing.system p.ids p.packets p.config).step r (.writes client sent) =
      some (r.afterWrite client (Forwarding.step p.ids p.config f (input'.withSent sent))) := by
    simp only [Routing.system, Routing.step, hclient]
  simp only [afterHandler]
  cases hforward : Forwarding.step p.ids p.config f (input'.withSent sent) with
  | none =>
      rw [hforward] at hstep
      refine ⟨⟨[.writes client sent], [], ?_, rfl⟩, by simp [setClient, ClientPc.ForCommand]⟩
      rw [routing_setClient, hsame]
      exact (System.exec_singleton_iff _).2 hstep
  | some next =>
      obtain ⟨f', events⟩ := next
      rw [hforward] at hstep
      refine ⟨⟨[.writes client sent],
        if events.any ForwardEvent.isTransfer then [.transferred client] else [], ?_, ?_⟩, ?_⟩
      · rw [routing_setClient, hsame]
        refine (System.exec_singleton_iff _).2 (hstep.trans ?_)
        rw [Routing.afterWrite]
        by_cases hclosed : f'.run = .closed
        · rw [if_pos hclosed, if_pos hclosed]
          rfl
        · rw [if_neg hclosed, if_neg hclosed]
          rfl
      · rw [(Forwarding.stepped_of_step hforward).transfers]
        split <;> rfl
      · dsimp only
        split <;> simp [setClient, ClientPc.ForCommand]

/-- The target that a handler has stored for its player. -/
def stored (r : Routing) (f : Forwarding) (target : Option String) : Routing :=
  match target with
  | none => r
  | some serverName => r.setTargetServer f.forwarder.playerUuid serverName

/-- A handler that has found what it needs, with its target stored, up to its write: the routing
forwards the input and stores the target. -/
theorem exec_to_write (hsome : (Forwarding.step p.ids p.config f input).isSome = true)
    (hclient : r.clients client = .forwarding f) (hbackends : input.withBackends r.backends = input)
    (hstored : s.routing = stored r f (f.foundTarget p.ids input)) :
    ∃ labels t, (Routing.system p.ids p.packets p.config).exec r labels =
        some (s.routing.setClient client (.writing f input), t) ∧
      t.filterMap RoutingEvent.transferredTo = [] := by
  obtain ⟨⟨f', events⟩, hforward⟩ := Option.isSome_iff_exists.1 hsome
  have htarget := (Forwarding.stepped_of_step hforward).storedTarget
  have hstep : (Routing.system p.ids p.packets p.config).step r (.forwards client input) =
      some (r.afterForward client f input events) := by
    simp only [Routing.system, Routing.step, hclient, hbackends, hforward, Option.map_some]
  rw [hstored]
  cases hfound : f.foundTarget p.ids input with
  | none =>
      rw [hfound] at htarget
      rw [Routing.afterForward, htarget] at hstep
      exact ⟨[.forwards client input], [], (System.exec_singleton_iff _).2 hstep, rfl⟩
  | some serverName =>
      rw [hfound] at htarget
      rw [Routing.afterForward, htarget] at hstep
      have hstores : (Routing.system p.ids p.packets p.config).step
          (r.setClient client (.storing f input f.forwarder.playerUuid serverName))
          (.stores client) = some ((stored r f (some serverName)).setClient client
            (.writing f input), [.switched client f.forwarder.playerUuid serverName]) := by
        simp [Routing.system, Routing.step, Routing.setClient, stored, Routing.setTargetServer]
      exact ⟨[.forwards client input, .stores client], _,
        (System.exec_cons_iff _).2 ⟨_, _, _, hstep, (System.exec_singleton_iff _).2 hstores, rfl⟩,
        rfl⟩

/-- The client is at the write, with or without the registry guard. -/
theorem routes_writing {guarded : Bool}
    (hsome : (Forwarding.step p.ids p.config f input).isSome = true)
    (hclient : r.clients client = .forwarding f) (hbackends : input.withBackends r.backends = input)
    (hstored : s.routing = stored r f (f.foundTarget p.ids input)) :
    Routes p r client (s.setClient client (.writing f input guarded), []) := by
  obtain ⟨labels, t, hrun, hquiet⟩ := exec_to_write hsome hclient hbackends hstored
  refine ⟨⟨labels, t, ?_, hquiet⟩, by simp [setClient, ClientPc.ForCommand]⟩
  rw [routing_setClient]
  exact hrun

/-- A handler that has found what it needs, with its target stored: it is at its write, or ends. -/
theorem routes_handle (hsome : (Forwarding.step p.ids p.config f input).isSome = true)
    (hclient : r.clients client = .forwarding f) (hbackends : input.withBackends r.backends = input)
    (hsent : input.withSent true = input)
    (hstored : s.routing = stored r f (f.foundTarget p.ids input)) :
    Routes p r client (s.handle p client f input) := by
  simp only [handle]
  split
  · exact routes_writing hsome hclient hbackends hstored
  · obtain ⟨labels, t, hrun, hquiet⟩ := exec_to_write hsome hclient hbackends hstored
    refine Routes.after (routes_afterHandler ?_ ?_ hsent) hrun hquiet
    · exact fun task => (setClient_setClient _ _ _ _).symm
    · simp [Routing.setClient]

section Commands

variable {g : PacketForwarder} {packet : RawPacket}

/-- The target of a packet's handler: that of its command, if the registry has it. -/
theorem foundTarget_eq (env : Surroundings) :
    (Forwarding.start g).foundTarget p.ids (.client packet env) =
      ((g.packetCommand p.ids packet).bind ProxyCommand.target).filter env.backends.contains := by
  rw [← PacketForwarder.switchTarget_eq]
  exact Forwarding.foundTarget_client p.ids g packet env

/-- `handle_client_packet`, with the target stored that its command names. -/
theorem routes_handlePacket_stored (hbackends : s.shared.backends = r.backends)
    (hclient : r.clients client = .forwarding (.start g)) (started : Except String Unit)
    (hstored : s.routing = stored r (.start g)
      (((g.packetCommand p.ids packet).bind ProxyCommand.target).filter r.backends.contains)) :
    Routes p r client (s.handlePacket p client g packet started) := by
  refine routes_handle rfl hclient ?_ rfl ?_
  · simp [Input.withBackends, surroundings, ← hbackends]
  · rw [foundTarget_eq]
    simpa [surroundings, hbackends] using hstored

/-- `handle_client_packet` of a packet that names no server. -/
theorem routes_handlePacket (hsame : s.routing = r)
    (hclient : r.clients client = .forwarding (.start g)) (started : Except String Unit)
    (hnone : (g.packetCommand p.ids packet).bind ProxyCommand.target = none) :
    Routes p r client (s.handlePacket p client g packet started) := by
  refine routes_handlePacket_stored (congrArg Routing.backends hsame) hclient started ?_
  rw [hnone]
  exact hsame

/-- A `start_pr` call goes on inside its command, or returns to it. -/
theorem routes_followStart {o : StartPr.Outcome} {prArg : String}
    (hsame : s.routing = r) (hclient : r.clients client = .forwarding (.start g))
    (hbackends : o.shared.backends = s.shared.backends)
    (hcommand : g.packetCommand p.ids packet = some (.start prArg)) :
    Routes p r client (s.followStart p client g packet o) := by
  have hafter : ({ s with shared := o.shared } : Tasks).routing = r := by
    rw [← hsame]
    simp only [routing, hbackends]
  have hnext : ∀ {next : Tasks × List TaskEvent}, Routes p r client next →
      Routes p r client (next.1, o.events.map .lifecycle ++ next.2) := by
    intro next h
    obtain ⟨labels, t, hrun, htransfers⟩ := h.run
    refine ⟨⟨labels, t, hrun, ?_⟩, h.forCommand⟩
    rw [List.filterMap_append, htransfers, filterMap_transferred_lifecycle, List.nil_append]
  simp only [followStart]
  refine hnext ?_
  cases hcall : o.call with
  | idle => exact routes_handlePacket hafter hclient _ (by rw [hcommand]; rfl)
  | registry n => exact routes_askRegistry hafter hclient ⟨prArg, hcommand⟩
  | _ => exact routes_setClient hafter hclient ⟨prArg, hcommand⟩

/-- A command once the registry is locked. -/
theorem routes_afterConsult {use : RegistryUse} (hsame : s.routing = r)
    (hclient : r.clients client = .forwarding (.start g))
    (hcommand : (ClientPc.consulting g packet use).ForCommand p) :
    Routes p r client (s.afterConsult p client g packet use) := by
  have hbackends : s.shared.backends = r.backends := congrArg Routing.backends hsame
  cases use with
  | listServers =>
      have hlist : g.packetCommand p.ids packet = some .listServers := hcommand
      exact routes_handlePacket (s := s.dropGuard (.client client)) hsame hclient _
        (by rw [hlist]; rfl)
  | switchServer serverName =>
      have hswitch : g.packetCommand p.ids packet = some (.switchServer serverName) := hcommand
      have htarget : (g.packetCommand p.ids packet).bind ProxyCommand.target = some serverName := by
        rw [hswitch]
        rfl
      simp only [afterConsult]
      split
      · rename_i hfound
        refine routes_handlePacket_stored (s := { s.dropGuard (.client client) with
          pendingSwitches := s.pendingSwitches.insert g.playerUuid serverName }) hbackends hclient _
            ?_
        rw [htarget, Option.filter_some_pos (hbackends ▸ hfound), ← hsame]
        rfl
      · rename_i hnot
        refine routes_handlePacket_stored (s := s.dropGuard (.client client)) hbackends hclient _ ?_
        rw [htarget, Option.filter_some_neg (Bool.eq_false_iff.2 (hbackends ▸ hnot))]
        exact hsame
  | status searched =>
      -- the guard is kept over the write
      obtain ⟨prArg, hstatus⟩ := hcommand
      refine routes_writing rfl hclient ?_ ?_
      · simp [Input.withBackends, surroundings, ← hbackends]
      · rw [foundTarget_eq, hstatus]
        exact hsame

/-- `handle_client_packet` up to its first `await`. -/
theorem routes_handleClientPacket (hsame : s.routing = r)
    (hclient : r.clients client = .forwarding (.start g)) :
    Routes p r client (s.handleClientPacket p client g packet) := by
  simp only [handleClientPacket]
  cases hcommand : g.packetCommand p.ids packet with
  | none => exact routes_handlePacket hsame hclient _ (by rw [hcommand]; rfl)
  | some command =>
      cases command with
      | listServers => exact routes_askRegistry hsame hclient hcommand
      | switchServer serverName => exact routes_askRegistry hsame hclient hcommand
      | start prArg =>
          dsimp only
          cases Text.parseU32 prArg with
          | none => exact routes_handlePacket hsame hclient _ (by rw [hcommand]; rfl)
          | some n =>
              dsimp only
              cases StartPr.unconfigured p with
              | some error => exact routes_handlePacket hsame hclient _ (by rw [hcommand]; rfl)
              | none =>
                  refine routes_followStart hsame hclient ?_ hcommand
                  rw [Lifecycle.stepped_shared StartPr.stepped_begin]
      | status prArg =>
          dsimp only
          split
          · exact routes_askRegistry hsame hclient ⟨prArg, hcommand⟩
          · exact routes_handlePacket hsame hclient _ (by rw [hcommand]; rfl)

end Commands

/-- An iteration of the forwarder up to its first `await`. -/
theorem routes_afterSelect {received : Received} (hpc : s.clients client = .forwarding f)
    (hselect : s.afterSelect p client f received = some result) :
    Routes p s.routing client result := by
  have hclient : s.routing.clients client = .forwarding f := by
    simp only [routing, hpc]
    rfl
  -- every input but a packet of the player in the forwarding loop
  have hhandled : ∀ input : Input,
      input.withBackends s.shared.backends = input → input.withSent true = input →
      f.foundTarget p.ids input = none →
      (if (Forwarding.step p.ids p.config f input).isSome then some (s.handle p client f input)
        else none) = some result → Routes p s.routing client result := by
    intro input hbackends hsent hnone h
    split at h
    · rename_i hsome
      cases h
      refine routes_handle hsome hclient hbackends hsent ?_
      rw [hnone]
      rfl
    · cases h
  obtain ⟨g, run⟩ := f
  simp only [afterSelect] at hselect
  cases received with
  | client packet =>
      cases run with
      | forwarding =>
          cases hselect
          exact routes_handleClientPacket rfl hclient
      | draining => exact hhandled _ rfl rfl rfl hselect
      | closed => exact hhandled _ rfl rfl rfl hselect
  | _ => cases run <;> exact hhandled _ rfl rfl rfl hselect

/-- An iteration of the login loop. -/
theorem routes_afterLogin {state : LoginState} {packet : RawPacket} {sent : Bool}
    (hclient : s.routing.clients client = .login state) :
    Routes p s.routing client
      (s.afterLogin p client (ClientHandler.handle p.packets state packet sent), []) := by
  have hstep : (Routing.system p.ids p.packets p.config).step s.routing
      (.receives client packet sent) = some (s.routing.afterLogin p.config client
        (ClientHandler.handle p.packets state packet sent)) := by
    simp only [Routing.system, Routing.step, hclient]
  generalize ClientHandler.handle p.packets state packet sent = login at hstep
  refine ⟨⟨[.receives client packet sent], (s.routing.afterLogin p.config client login).2,
    (System.exec_singleton_iff _).2 (hstep.trans ?_), ?_⟩, ?_⟩
  · cases login with
    | acknowledged username uuid =>
        simp only [afterLogin, routing_askRegistry]
        rfl
    | _ =>
        simp only [afterLogin, routing_setClient]
        rfl
  · cases login <;> rfl
  · cases login <;> simp [afterLogin, askRegistry, setClient, ClientPc.ForCommand]

/-- The login loop after a packet was read; a reply is not written yet. -/
theorem routes_afterPacket {state : LoginState} {packet : RawPacket}
    (hpc : s.clients client = .login state) :
    Routes p s.routing client (s.afterPacket p client state packet, []) := by
  have hclient : s.routing.clients client = .login state := by
    simp only [routing, hpc]
    rfl
  simp only [afterPacket]
  split
  · exact routes_setClient rfl hclient trivial
  · exact routes_afterLogin hclient

/-- The lookup of the chosen backend. -/
theorem routes_afterLookup {username : Option String} {uuid : Uuid} {backendName : String}
    (hclient : s.routing.clients client = .lookup username uuid backendName) :
    Routes p s.routing client
      ((s.dropGuard (.client client)).afterLookup client username uuid backendName, []) := by
  have hstep : (Routing.system p.ids p.packets p.config).step s.routing (.looksUp client) =
      some (s.routing.afterLookup client username uuid backendName) := by
    simp only [Routing.system, Routing.step, hclient]
  have hnext : (s.routing.afterLookup client username uuid backendName).1 =
      ((s.dropGuard (.client client)).afterLookup client username uuid backendName).routing ∧
      (s.routing.afterLookup client username uuid backendName).2.filterMap
        RoutingEvent.transferredTo = [] := by
    simp only [Routing.afterLookup, afterLookup, routing, dropGuard]
    cases s.shared.backends.get backendName with
    | none => exact ⟨(routing_setClient s client .ended).symm, rfl⟩
    | some backend =>
        cases username with
        | none => exact ⟨(routing_setClient s client .ended).symm, rfl⟩
        | some username => exact ⟨(routing_setClient s client (.connecting _ _)).symm, rfl⟩
  refine ⟨⟨[.looksUp client], (s.routing.afterLookup client username uuid backendName).2,
    (System.exec_singleton_iff _).2 (hstep.trans ?_), hnext.2⟩, ?_⟩
  · rw [← hnext.1]
  · simp only [afterLookup]
    split <;> simp [setClient, ClientPc.ForCommand]

end Pieces

/-! ## Steps -/

section Steps

variable {p : ProxySetup} {s : Tasks} {client : Nat} {label : TaskLabel}
  {result : Tasks × List TaskEvent}

/-- Every client in a command is there for the packet with the command. -/
def ForCommands (p : ProxySetup) (s : Tasks) : Prop := ∀ client, (s.clients client).ForCommand p

/-- What the tasks show after a step is a run of the routing, with the Transfers of the step. -/
def Routed (p : ProxySetup) (s : Tasks) (result : Tasks × List TaskEvent) : Prop :=
  ∃ labels t, (Routing.system p.ids p.packets p.config).exec s.routing labels =
      some (result.1.routing, t) ∧
    t.filterMap RoutingEvent.transferredTo = result.2.filterMap TaskEvent.transferred

/-- A step of a client task. -/
theorem Routes.step (h : Routes p s.routing client result) (hinv : ForCommands p s)
    (hstep : s.step p label = some result) (hlabel : label.client = some client) :
    ForCommands p result.1 ∧ Routed p s result := by
  refine ⟨?_, h.run⟩
  intro c
  by_cases hc : c = client
  · rw [hc]
    exact h.forCommand
  · rw [clients_of_ne hstep (by rw [hlabel]; exact fun heq => hc (Option.some.inj heq).symm)]
    exact hinv c

/-- A step of no client, in which the routing sees nothing. -/
theorem routed_of_same (hinv : ForCommands p s) (hclients : result.1.clients = s.clients)
    (hsame : result.1.routing = s.routing)
    (hquiet : result.2.filterMap TaskEvent.transferred = []) :
    ForCommands p result.1 ∧ Routed p s result := by
  refine ⟨?_, [], [], ?_, hquiet.symm⟩
  · intro c
    rw [hclients]
    exact hinv c
  · rw [hsame]
    rfl

/-- A step of the loop that registers or unregisters a backend. -/
theorem routed_of_loopRan {now readyAt : Instant} {w : World} {events : List Event}
    (hloop : Lifecycle.step p.setup s.world (.resume (.registryLocked now readyAt)) =
      some (w, events)) :
    Routed p s ({ s.dropGuard .lifecycle with shared := w.shared, loop := w.loop },
      events.map .lifecycle) := by
  obtain ⟨n, pc, rest, o, -, hresume, rfl, rfl⟩ := Lifecycle.step_resume_iff.1 hloop
  have hexec : ∀ (label : RoutingLabel) {backends : BackendRegistry} {t : List RoutingEvent},
      (Routing.system p.ids p.packets p.config).step s.routing label =
        some ({ s.routing with backends := backends }, t) →
      o.shared.backends = backends → t.filterMap RoutingEvent.transferredTo = [] →
      Routed p s ({ s.dropGuard .lifecycle with
        shared := o.shared, loop := Lifecycle.afterFlow n rest o.flow },
          o.events.map .lifecycle) := by
    rintro label backends t hstep rfl hquiet
    refine ⟨[label], t, (System.exec_singleton_iff _).2 hstep, ?_⟩
    rw [hquiet, filterMap_transferred_lifecycle]
  cases Lifecycle.resumed_of_resume hresume with
  | registered commitHash commitHashShort deploymentName address port =>
      refine hexec (.addDynamic (backendName n) ⟨address, port, some s!"PR #{n}"⟩) rfl ?_ rfl
      unfold Lifecycle.handleStartingRegistered
      split <;> rfl
  | unregistered deploymentName =>
      refine hexec (.removeDynamic (backendName n)) rfl rfl ?_
      split <;> rfl

/-- Every step of the tasks is a run of the routing with the same Transfers. -/
theorem routes_step (hinv : ForCommands p s) (hstep : s.step p label = some result) :
    ForCommands p result.1 ∧ Routed p s result := by
  have hat : ∀ {c : Nat} {pc : ClientPc}, s.clients c = pc →
      s.routing.clients c = pc.task := by
    rintro c pc rfl
    rfl
  cases stepped_of_step hstep with
  | accepted client hpc =>
      have hroutes : Routes p s.routing client
          (s.setClient client (.login ClientHandler.start), []) :=
        routes_of_step (.accepts client)
          (by simp only [Routing.system, Routing.step, hat hpc, ClientPc.task]) trivial
      exact hroutes.step hinv hstep rfl
  | received client packet state hpc => exact (routes_afterPacket hpc).step hinv hstep rfl
  | replied client sent state packet hpc => exact (routes_afterLogin (hat hpc)).step hinv hstep rfl
  | connectFailed client connector backendName hpc =>
      have hroutes : Routes p s.routing client (s.setClient client .ended, []) :=
        routes_of_step (.connects client none)
          (by simp only [Routing.system, Routing.step, hat hpc, ClientPc.task]) trivial
      exact hroutes.step hinv hstep rfl
  | connected client connector backendName threshold hpc =>
      have hroutes : Routes p s.routing client (s.setClient client
          (.forwarding (.start (.new connector.uuid backendName threshold))), []) :=
        routes_of_step (.connects client (some threshold))
          (by simp only [Routing.system, Routing.step, hat hpc, ClientPc.task]) trivial
      exact hroutes.step hinv hstep rfl
  | selected client received f _ hpc hselect =>
      exact (routes_afterSelect hpc hselect).step hinv hstep rfl
  | answered client label f packet call o hpc hlabel hcall =>
      obtain ⟨prArg, hcommand⟩ : (ClientPc.starting f packet call).ForCommand p := hpc ▸ hinv client
      have hshared : o.shared.backends = s.shared.backends := by
        rw [Lifecycle.stepped_shared (StartPr.stepped_of_step hcall)]
      exact (routes_followStart rfl (hat hpc) hshared hcommand).step hinv hstep rfl
  | wrote client sent f input hpc =>
      exact (routes_afterHandler (fun _ => rfl) (hat hpc) rfl).step hinv hstep rfl
  | wroteGuarded client sent f input hpc =>
      have hroutes : Routes p s.routing client
          ((s.dropGuard (.client client)).afterHandler p client f (input.withSent sent)) :=
        routes_afterHandler (fun _ => rfl) (hat hpc) rfl
      exact hroutes.step hinv hstep rfl
  | looped label w events hconfigured hstart hlocked hloop =>
      have hbackends := backends_of_step hloop hlocked
      refine routed_of_same hinv ?_ ?_ (filterMap_transferred_lifecycle events)
      · simp only [afterLoop]
        split <;> rfl
      · simp only [afterLoop]
        split <;> simp only [routing, hbackends] <;> rfl
  | granted lock hgrant => exact routed_of_same hinv rfl rfl rfl
  | lookedUp client username uuid backendName now readyAt hholds hpc =>
      exact (routes_afterLookup (hat hpc)).step hinv hstep rfl
  | consulted client f packet use now readyAt hholds hpc =>
      have hcommand : (ClientPc.consulting f packet use).ForCommand p := hpc ▸ hinv client
      exact (routes_afterConsult rfl (hat hpc) hcommand).step hinv hstep rfl
  | registryChecked client f packet n now readyAt hholds hpc =>
      obtain ⟨prArg, hcommand⟩ : (ClientPc.starting f packet (.registry n)).ForCommand p :=
        hpc ▸ hinv client
      have hshared : (StartPr.checkRegistry s.shared client n).shared.backends =
          s.shared.backends := by
        rw [Lifecycle.stepped_shared (@StartPr.stepped_checkRegistry p.setup s.shared client n)]
      have hroutes : Routes p s.routing client
          ((s.dropGuard (.client client)).followStart p client f packet
            (StartPr.checkRegistry s.shared client n)) :=
        routes_followStart rfl (hat hpc) hshared hcommand
      exact hroutes.step hinv hstep rfl
  | loopRan now readyAt w events hholds hloop => exact ⟨hinv, routed_of_loopRan hloop⟩

end Steps

/-! ## Runs -/

/-- The recovery of the rows registers backends, and nothing else that the routing sees. -/
theorem routed_recovery {ids : PacketIds} {packets : LoginPackets} {config : ProxyConfig}
    {kubernetes : KubernetesConfig} {answers : PrBuild → RowAnswers} {r r' : Recovery}
    {rows : List PrBuild} {t : List Empty}
    (hrun : (Recovery.system kubernetes answers).exec r rows = some (r', t)) :
    ∃ labels tr, (Routing.system ids packets config).exec (start r.shared).routing labels =
      some ((start r'.shared).routing, tr) ∧ tr.filterMap RoutingEvent.transferredTo = [] := by
  refine @System.exists_exec_of_steps _ _ _ _ _ _ (Recovery.system kubernetes answers) _
    (fun _ => True) (fun r => (start r.shared).routing)
    (fun _ t' => t'.filterMap RoutingEvent.transferredTo = []) ?_ rfl ?_ _ _ _ _ trivial hrun
  · intro r build r' t _ hstep
    obtain ⟨hrecover, -⟩ := Recovery.step_eq_some_iff.1 hstep
    refine ⟨trivial, ?_⟩
    have hsame : ∀ sh : Shared, sh.backends = r.shared.backends →
        ∃ labels tr, (Routing.system ids packets config).exec (start r.shared).routing labels =
          some ((start sh).routing, tr) ∧ tr.filterMap RoutingEvent.transferredTo = [] := by
      intro sh hbackends
      refine ⟨[], [], ?_, rfl⟩
      simp only [start, routing, hbackends]
      rfl
    cases Recovery.recovered_of_recoverBuild hrecover with
    | ready deployment svc nodePort hcall hready hservice hport hr =>
        obtain ⟨shutdownAt, -, rfl⟩ := Recovery.recoverReady_eq_some_iff.1 hr
        exact ⟨[.addDynamic (backendName (prNumberAsU32 build.prNumber)) _], _,
          (System.exec_singleton_iff _).2 rfl, rfl⟩
    | deferred deployment hcall hready => exact hsame _ rfl
    | removed hreport =>
        refine hsame _ ?_
        simp only [Recovery.deleteBuild]
        split <;> rfl
  · intro _ _ t' u' ht hu
    rw [List.filterMap_append, ht, hu, List.append_nil]

/-- Every interleaving of the tasks after a recovery is one of the client tasks with the registry
and the pending switches alone, from the start of the proxy, with the same Transfers. -/
theorem refines_routing (p : ProxySetup) (builds : PrBuilds)
    (deployments : KeyedMap String String) (services : KeyedMap String (Option Int32))
    (loadError : Option String) (answers : PrBuild → RowAnswers) (shared : Shared)
    (result : Except String Nat) (labels : List TaskLabel) (s : Tasks) (tr : List TaskEvent)
    (hrec : Recovery.recoverFromDb p.setup.kubernetes loadError answers
      (Shared.startUp p.config.backends builds deployments services) = some (shared, result))
    (hrun : (system p).exec (start shared) labels = some (s, tr)) :
    ∃ labels' tr', (Routing.system p.ids p.packets p.config).exec (Routing.start p.config) labels' =
        some (s.routing, tr') ∧
      tr'.filterMap RoutingEvent.transferredTo = tr.filterMap TaskEvent.transferred := by
  have hrecovered : ∃ labels₁ tr₁, (Routing.system p.ids p.packets p.config).exec
      (Routing.start p.config) labels₁ = some ((start shared).routing, tr₁) ∧
      tr₁.filterMap RoutingEvent.transferredTo = [] := by
    rcases Recovery.exec_of_recoverFromDb hrec with rfl | ⟨count, t, hrows⟩
    · exact ⟨[], [], rfl, rfl⟩
    · exact routed_recovery hrows
  obtain ⟨labels₁, tr₁, hstart, hquiet⟩ := hrecovered
  have hserved : ∃ labels₂ tr₂, (Routing.system p.ids p.packets p.config).exec
      (start shared).routing labels₂ = some (s.routing, tr₂) ∧
      tr₂.filterMap RoutingEvent.transferredTo = tr.filterMap TaskEvent.transferred := by
    refine @System.exists_exec_of_steps _ _ _ _ _ _ (system p) _ (ForCommands p) routing
      (fun t t' => t'.filterMap RoutingEvent.transferredTo =
        t.filterMap TaskEvent.transferred) ?_ rfl ?_ _ _ _ _ (fun _ => trivial) hrun
    · intro s label s' t hinv hstep
      exact routes_step hinv hstep
    · intro t u t' u' ht hu
      rw [List.filterMap_append, List.filterMap_append, ht, hu]
  obtain ⟨labels₂, tr₂, hrest, htransfers⟩ := hserved
  refine ⟨labels₁ ++ labels₂, tr₁ ++ tr₂,
    (System.exec_append_iff _).2 ⟨_, tr₁, tr₂, hstart, hrest, rfl⟩, ?_⟩
  rw [List.filterMap_append, hquiet, htransfers, List.nil_append]

/-- The stores after the recovery of PR 7, beside the configured backends. -/
def routedShared : Shared where
  instances := AList.insert 7 Lifecycle.recoveredSample ∅
  backends := K8sManager.registerBackend (.new sampleConfig.backends) 7 "127.0.0.1" 30007
  builds := sampleBuilds
  clientReady := true
  deployments := ∅
  services := ∅

/-- A player of the default backend asks for the server of PR 7, and is sent there. -/
def switchSample : List TaskLabel :=
  loginSample 0 ++
    [.grants, .runs (.client 0) ⟨0⟩ ⟨0⟩, .connects 0 (some none), .takes 0 (.client ⟨3, []⟩),
      .written 0 true,
      .takes 0 (.client ⟨6, [11, 115, 101, 114, 118, 101, 114, 32, 112, 114, 45, 55]⟩), .grants,
      .runs (.client 0) ⟨0⟩ ⟨0⟩, .written 0 true]

/-- The Transfer of the player is one of the routing, and its target is pending. -/
theorem refines_routing_sample :
    ∃ s labels' tr', (Routing.system .sample .sample sampleConfig).exec
        (Routing.start sampleConfig) labels' = some (Tasks.routing s, tr') ∧
      tr'.filterMap RoutingEvent.transferredTo = [0] ∧
      s.pendingSwitches.lookup 1 = some "pr-7" := by
  have hrec : Recovery.recoverFromDb sampleProxy.setup.kubernetes none
      (fun _ => Lifecycle.readyAnswers) (.startUp sampleConfig.backends sampleBuilds ∅ ∅) =
        some (routedShared, .ok 1) := by rfl
  have hswitched : ((system sampleProxy).exec (start routedShared) switchSample).map
      (fun result => (result.2.filterMap TaskEvent.transferred,
        result.1.pendingSwitches.lookup 1)) = some ([0], some "pr-7") := by decide +kernel
  obtain ⟨⟨s, tr⟩, hrun, hs⟩ := Option.map_eq_some_iff.1 hswitched
  obtain ⟨labels', tr', hrouting, htransfers⟩ := refines_routing sampleProxy sampleBuilds ∅ ∅
    none _ routedShared (.ok 1) switchSample s tr hrec hrun
  exact ⟨s, labels', tr', hrouting, htransfers.trans (congrArg Prod.fst hs), congrArg Prod.snd hs⟩

end Tasks

end SteelProxy
