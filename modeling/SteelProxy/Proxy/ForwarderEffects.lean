import SteelProxy.Proxy.Forwarder

/-!
# What the forwarder can do in one step

One inductive for the results of each handler, and `Forwarding.Stepped` for the iterations of the
loop: every property of runs is derived from `Forwarding.stepped_of_step`, with no handler
unfolded again.
-/

set_option autoImplicit false

namespace SteelProxy

open SteelProxy.Library

/-- The server that a command of the proxy names. -/
def ProxyCommand.target : ProxyCommand → Option String
  | .switchServer serverName => some serverName
  | _ => none

namespace ForwardEvent

/-- The target stored by `switch_server`. -/
def storedTarget : ForwardEvent → Option (Uuid × String)
  | .effect (.targetStored uuid serverName) => some (uuid, serverName)
  | _ => none

/-- A Transfer is written. -/
def isTransfer : ForwardEvent → Bool
  | .effect (.toClient (.transfer _)) => true
  | _ => false

end ForwardEvent

namespace PacketForwarder

theorem write_of_sent {f : PacketForwarder} {env : Surroundings} {effect : Effect}
    {action : Action} (hsent : env.sent = true) :
    f.write env effect action = ⟨f, [effect], .ok action⟩ := by
  rw [write, if_pos hsent]

theorem write_of_not_sent {f : PacketForwarder} {env : Surroundings} {effect : Effect}
    {action : Action} (hsent : env.sent = false) :
    f.write env effect action = ⟨f, [], .failed⟩ := by
  rw [write, hsent, if_neg Bool.false_ne_true]

@[simp]
theorem compression_trackClientPacket (ids : PacketIds) (f : PacketForwarder)
    (packet : RawPacket) : (f.trackClientPacket ids packet).compression = f.compression := by
  rw [trackClientPacket]
  split <;> rfl

/-! ## The handlers -/

/-- The commands that the proxy handles: `server`, or one of three words with an argument. -/
def isProxyCommand (command : String) : Bool :=
  command = "server" || Text.startsWith "server " command || Text.startsWith "start " command ||
    Text.startsWith "status " command

/-- The packet is a chat command of the play phase that the proxy handles itself. -/
def intercepted (ids : PacketIds) (phase : ConnectionProtocol) (packet : RawPacket) : Bool :=
  isChatCommand ids phase packet &&
    match parseCommandFromPayload packet.payload with
    | some (.ok command) => isProxyCommand command
    | _ => false

theorem isSome_proxyCommand (command : String) :
    (proxyCommand command).isSome = isProxyCommand command := by
  rw [isProxyCommand, ← Text.isSome_stripPrefix, ← Text.isSome_stripPrefix,
    ← Text.isSome_stripPrefix, proxyCommand]
  by_cases h : command = "server"
  · simp [h]
  · cases Text.stripPrefix "server " command with
    | some serverName => simp [h]
    | none =>
        cases Text.stripPrefix "start " command with
        | some prArg => simp [h]
        | none => simp [h]

/-- The server that a packet names: a chat command of the play phase that starts with `server `,
and the rest of it without white space around. -/
def switchTarget (ids : PacketIds) (phase : ConnectionProtocol) (packet : RawPacket) :
    Option String :=
  if isChatCommand ids phase packet then
    match parseCommandFromPayload packet.payload with
    | some (.ok command) => (Text.stripPrefix "server " command).map Text.trim
    | _ => none
  else
    none

/-- The parser panics on the packet: a chat command of the play phase with a length beyond the
capacity of any vector. -/
def Panics (ids : PacketIds) (phase : ConnectionProtocol) (packet : RawPacket) : Prop :=
  isChatCommand ids phase packet = true ∧ parseCommandFromPayload packet.payload = none

theorem switchTarget_of_chat {ids : PacketIds} {phase : ConnectionProtocol} {packet : RawPacket}
    {command : String} (hchat : isChatCommand ids phase packet = true)
    (hparse : parseCommandFromPayload packet.payload = some (.ok command)) :
    switchTarget ids phase packet = (Text.stripPrefix "server " command).map Text.trim := by
  rw [switchTarget, if_pos hchat, hparse]

/-- An intercepted packet is parsed. -/
theorem not_panics_of_intercepted {ids : PacketIds} {phase : ConnectionProtocol}
    {packet : RawPacket} (hyes : intercepted ids phase packet = true) :
    ¬ Panics ids phase packet := by
  rintro ⟨-, hparse⟩
  simp [intercepted, hparse] at hyes

/-- Only an intercepted packet names a server. -/
theorem switchTarget_of_not_intercepted {ids : PacketIds} {phase : ConnectionProtocol}
    {packet : RawPacket} (hnot : intercepted ids phase packet = false) :
    switchTarget ids phase packet = none := by
  rw [switchTarget]
  split
  · rename_i hchat
    split
    · rename_i command hparse
      have hstart : Text.startsWith "server " command = false := by
        simp only [intercepted, hchat, hparse, isProxyCommand, Bool.true_and,
          Bool.or_eq_false_iff] at hnot
        exact hnot.1.1.2
      rw [Text.stripPrefix_eq_none hstart]
      rfl
    · rfl
  · rfl

/-- The commands are told apart by their first word. -/
theorem target_of_proxyCommand {command : String} {c : ProxyCommand}
    (h : proxyCommand command = some c) :
    c.target = (Text.stripPrefix "server " command).map Text.trim := by
  rw [proxyCommand] at h
  split at h
  · rename_i hserver
    cases h
    rw [hserver]
    decide
  · split at h
    · rename_i serverName hstrip
      cases h
      rw [hstrip]
      rfl
    · rename_i hstrip
      rw [hstrip]
      split at h
      · cases h
        rfl
      · obtain ⟨prArg, -, rfl⟩ := Option.map_eq_some_iff.1 h
        rfl

/-- The results of the proxy's own commands: nothing to say, a system message, or a Transfer to
the server that the command names, if it is in the registry. -/
inductive Proxied (f : PacketForwarder) (env : Surroundings) (target : Option String) :
    Handled → Prop where
  | silent (hnone : target.filter env.backends.contains = none) :
      Proxied f env target ⟨f, [], .ok .continue_⟩
  | replied (message : String) (hnone : target.filter env.backends.contains = none) :
      Proxied f env target (f.sendSystemMessage env message)
  | transferred (transfer : CTransfer) (serverName : String)
      (hfound : target.filter env.backends.contains = some serverName) :
      Proxied f env target
        { f.write env (.toClient (.transfer transfer)) .disconnect with
          effects := .targetStored f.playerUuid serverName ::
            (f.write env (.toClient (.transfer transfer)) .disconnect).effects }

theorem proxied_handleProxyCommand (config : ProxyConfig) (f : PacketForwarder)
    (env : Surroundings) (c : ProxyCommand) :
    Proxied f env c.target (f.handleProxyCommand config env c) := by
  cases c with
  | listServers => exact .replied _ rfl
  | switchServer serverName =>
      simp only [handleProxyCommand, switchServer]
      split
      · rename_i hfound
        exact .transferred _ _ (Option.filter_some_pos hfound)
      · rename_i hnot
        exact .replied _ (Option.filter_some_neg (Bool.eq_false_iff.2 hnot))
  | start prArg =>
      simp only [handleProxyCommand, handleStartCommand]
      split
      · exact .replied _ rfl
      · split
        · exact .silent rfl
        · exact .replied _ rfl
  | status prArg =>
      simp only [handleProxyCommand, handleStatusCommand]
      split
      · exact .replied _ rfl
      · split
        · exact .replied _ rfl
        · split
          · exact .replied _ rfl
          · split <;> exact .replied _ rfl

/-- The results of `handle_client_packet`: exactly the intercepted packets are handled by the
proxy, every other packet is forwarded unless the parser panics on it. -/
inductive ClientHandled (ids : PacketIds) (f : PacketForwarder) (env : Surroundings)
    (packet : RawPacket) : Handled → Prop where
  | panicked (hpanics : Panics ids f.currentProtocol packet)
      (hnot : intercepted ids f.currentProtocol packet = false) :
      ClientHandled ids f env packet ⟨f, [], .panicked⟩
  | proxied (h : Handled) (hphase : f.currentProtocol = .play)
      (hyes : intercepted ids f.currentProtocol packet = true)
      (hproxied : Proxied f env (switchTarget ids f.currentProtocol packet) h) :
      ClientHandled ids f env packet h
  | forwarded (hparses : ¬ Panics ids f.currentProtocol packet)
      (hnot : intercepted ids f.currentProtocol packet = false) :
      ClientHandled ids f env packet (f.forwardClientPacket ids env packet)

theorem clientHandled_handleClientPacket (ids : PacketIds) (config : ProxyConfig)
    (f : PacketForwarder) (env : Surroundings) (packet : RawPacket) :
    ClientHandled ids f env packet (f.handleClientPacket ids config env packet) := by
  rw [handleClientPacket]
  by_cases hchat : isChatCommand ids f.currentProtocol packet = true
  · rw [if_pos hchat]
    have hphase : f.currentProtocol = .play := by
      simp only [isChatCommand, Bool.and_eq_true, decide_eq_true_eq] at hchat
      exact hchat.1
    cases hparse : parseCommandFromPayload packet.payload with
    | none => exact .panicked ⟨hchat, hparse⟩ (by simp [intercepted, hparse])
    | some result =>
        cases result with
        | error e => exact .forwarded (by simp [Panics, hparse]) (by simp [intercepted, hparse])
        | ok command =>
            have hcommand := isSome_proxyCommand command
            dsimp only
            cases hproxy : proxyCommand command with
            | none =>
                rw [hproxy] at hcommand
                exact .forwarded (by simp [Panics, hparse])
                  (by simp [intercepted, hparse, ← hcommand])
            | some c =>
                rw [hproxy] at hcommand
                refine .proxied _ hphase (by simp [intercepted, hchat, hparse, ← hcommand]) ?_
                rw [switchTarget_of_chat hchat hparse, ← target_of_proxyCommand hproxy]
                exact proxied_handleProxyCommand config f env c
  · rw [if_neg hchat]
    exact .forwarded (fun hpanics => hchat hpanics.1) (by simp [intercepted, hchat])

/-- The results of `handle_backend_packet`: the command tree for a commands packet of the play
phase, and otherwise the packet itself. -/
inductive BackendHandled (ids : PacketIds) (f : PacketForwarder) (env : Surroundings)
    (packet : RawPacket) : Handled → Prop where
  | replaced (hphase : f.currentProtocol = .play) (hid : packet.id = ids.playCommands) :
      BackendHandled ids f env packet (f.sendCommandsPacket env)
  | forwarded (f' : PacketForwarder) (hprotocol : f'.currentProtocol = f.currentProtocol)
      (hcompression : f'.compression = f.compression) (hplayer : f'.playerUuid = f.playerUuid)
      (hnot : ¬ (f.currentProtocol = .play ∧ packet.id = ids.playCommands)) :
      BackendHandled ids f env packet (f'.forwardToClient env packet)

theorem backendHandled_handleBackendPacket (ids : PacketIds) (f : PacketForwarder)
    (env : Surroundings) (packet : RawPacket) :
    BackendHandled ids f env packet (f.handleBackendPacket ids env packet) := by
  rw [handleBackendPacket]
  by_cases hphase : f.currentProtocol = .play
  · rw [if_pos hphase]
    by_cases hlogin : packet.id = ids.playLogin
    · rw [if_pos hlogin]
      -- the tracked entity id touches neither the phase nor the connection
      refine .forwarded _ ?_ ?_ ?_ fun h => ids.login_ne_commands (hlogin.symm.trans h.2)
      · rw [trackLogin]
        split <;> rfl
      · rw [trackLogin]
        split <;> rfl
      · rw [trackLogin]
        split <;> rfl
    · rw [if_neg hlogin]
      by_cases hevent : packet.id = ids.playEntityEvent
      · rw [if_pos hevent]
        refine .forwarded _ ?_ ?_ ?_ fun h => ids.entityEvent_ne_commands (hevent.symm.trans h.2)
        · rw [trackEntityEvent]
          split
          · split <;> rfl
          · rfl
        · rw [trackEntityEvent]
          split
          · split <;> rfl
          · rfl
        · rw [trackEntityEvent]
          split
          · split <;> rfl
          · rfl
      · rw [if_neg hevent]
        by_cases hcommands : packet.id = ids.playCommands
        · rw [if_pos hcommands]
          exact .replaced hphase hcommands
        · rw [if_neg hcommands]
          exact .forwarded f rfl rfl rfl fun h => hcommands h.2
  · rw [if_neg hphase]
    exact .forwarded f rfl rfl rfl fun h => hphase h.1

end PacketForwarder

namespace Forwarding

open PacketForwarder

/-! ## The loop -/

/-- The server of the registry that an input of the loop asks for. -/
def foundTarget (ids : PacketIds) (s : Forwarding) : Input → Option String
  | .client packet env =>
      if s.run = .forwarding then
        (switchTarget ids s.forwarder.currentProtocol packet).filter env.backends.contains
      else
        none
  | _ => none

/-- The input ends the run: a reader failed, the drain is over, a packet is not written, or the
parser panics. -/
def Ends (ids : PacketIds) (s : Forwarding) : Input → Prop
  | .backend _ env => s.run = .forwarding ∧ env.sent = false
  | .backendFailed => s.run = .forwarding
  | .client packet env =>
      s.run = .forwarding ∧
        (env.sent = false ∨ Panics ids s.forwarder.currentProtocol packet)
  | .clientFailed => True
  | .broadcast _ _ => False
  | .timeout => s.run = .draining

/-- Nothing is done for the input: a broadcast that is not written, a lagging receiver, a packet
of a client that was told to transfer, or its backend that has closed. -/
def Idle (s : Forwarding) : Input → Prop
  | .broadcast (some _) env => s.run = .forwarding ∧ env.sent = false
  | .broadcast none _ => s.run = .forwarding
  | .backendFailed => s.run = .draining
  | .client _ _ => s.run = .draining
  | _ => False

/-- What one iteration of the loop does: the next state and the events. -/
inductive Stepped (ids : PacketIds) (s : Forwarding) :
    Input → Forwarding → List ForwardEvent → Prop where
  | closed (input : Input) (f' : PacketForwarder)
      (hcompression : f'.compression = s.forwarder.compression) (hends : s.Ends ids input)
      (hnone : s.foundTarget ids input = none) :
      Stepped ids s input ⟨f', .closed⟩ []
  | abandoned (packet : RawPacket) (env : Surroundings) (serverName : String)
      (hrun : s.run = .forwarding) (hsent : env.sent = false)
      (hfound : s.foundTarget ids (.client packet env) = some serverName) :
      Stepped ids s (.client packet env) ⟨s.forwarder, .closed⟩
        [.effect (.targetStored s.forwarder.playerUuid serverName)]
  | ignored (input : Input) (hidle : s.Idle input) : Stepped ids s input s []
  | answered (packet : RawPacket) (env : Surroundings) (replies : List String)
      (hrun : s.run = .forwarding) (hphase : s.forwarder.currentProtocol = .play)
      (hyes : intercepted ids s.forwarder.currentProtocol packet = true)
      (hnone : s.foundTarget ids (.client packet env) = none) :
      Stepped ids s (.client packet env) s
        (.clientHandled s.forwarder.currentProtocol packet ::
          replies.map fun message => .effect (.toClient (.systemChat message)))
  | transferred (packet : RawPacket) (env : Surroundings) (serverName : String)
      (transfer : CTransfer) (hrun : s.run = .forwarding) (hsent : env.sent = true)
      (hfound : s.foundTarget ids (.client packet env) = some serverName)
      (hphase : s.forwarder.currentProtocol = .play)
      (hyes : intercepted ids s.forwarder.currentProtocol packet = true) :
      Stepped ids s (.client packet env) ⟨s.forwarder, .draining⟩
        [.clientHandled s.forwarder.currentProtocol packet,
          .effect (.targetStored s.forwarder.playerUuid serverName),
          .effect (.toClient (.transfer transfer))]
  | sentOn (packet : RawPacket) (env : Surroundings) (hrun : s.run = .forwarding)
      (hsent : env.sent = true) (hparses : ¬ Panics ids s.forwarder.currentProtocol packet)
      (hnot : intercepted ids s.forwarder.currentProtocol packet = false) :
      Stepped ids s (.client packet env) ⟨s.forwarder.trackClientPacket ids packet, .forwarding⟩
        [.clientHandled s.forwarder.currentProtocol packet,
          .effect (.toBackend (packet.frame s.forwarder.compression))]
  | replaced (packet : RawPacket) (env : Surroundings) (hrun : s.run = .forwarding)
      (hsent : env.sent = true) (hphase : s.forwarder.currentProtocol = .play)
      (hid : packet.id = ids.playCommands) :
      Stepped ids s (.backend packet env) s
        [.backendHandled s.forwarder.currentProtocol packet,
          .effect (.toClient (.commands buildCommands))]
  | passedBack (packet : RawPacket) (env : Surroundings) (f' : PacketForwarder)
      (hrun : s.run = .forwarding) (hsent : env.sent = true)
      (hprotocol : f'.currentProtocol = s.forwarder.currentProtocol)
      (hcompression : f'.compression = s.forwarder.compression)
      (hplayer : f'.playerUuid = s.forwarder.playerUuid)
      (hnot : ¬ (s.forwarder.currentProtocol = .play ∧ packet.id = ids.playCommands)) :
      Stepped ids s (.backend packet env) ⟨f', .forwarding⟩
        [.backendHandled s.forwarder.currentProtocol packet,
          .effect (.toClient (.forwarded (packet.frame none)))]
  | broadcast (message : String) (env : Surroundings) (hrun : s.run = .forwarding)
      (hsent : env.sent = true) :
      Stepped ids s (.broadcast (some message) env) s
        [.effect (.toClient (.systemChat message))]
  | drained (packet : RawPacket) (env : Surroundings) (hrun : s.run = .draining)
      (hsent : env.sent = true) :
      Stepped ids s (.backend packet env) s
        [.drained packet true, .effect (.toClient (.forwarded (packet.frame none)))]
  | dropped (packet : RawPacket) (env : Surroundings) (hrun : s.run = .draining)
      (hsent : env.sent = false) :
      Stepped ids s (.backend packet env) s [.drained packet false]

/-- An event outside of the loop: no packet is handled. -/
def NotHandled : ForwardEvent → Prop
  | .clientHandled _ _ => False
  | .backendHandled _ _ => False
  | _ => True

/-- Out of its loop the forwarder handles no packet. -/
theorem Stepped.settled {ids : PacketIds} {s s' : Forwarding} {input : Input}
    {t : List ForwardEvent} (h : Stepped ids s input s' t) (hsettled : s.run ≠ .forwarding) :
    s'.run ≠ .forwarding ∧ ∀ e ∈ t, NotHandled e := by
  cases h with
  | closed _ f' hcompression hends hnone => exact ⟨by simp, by simp⟩
  | ignored _ hidle => exact ⟨hsettled, by simp⟩
  | drained packet env hrun hsent => exact ⟨hsettled, by simp [NotHandled]⟩
  | dropped packet env hrun hsent => exact ⟨hsettled, by simp [NotHandled]⟩
  | abandoned packet env serverName hrun => exact absurd hrun hsettled
  | answered packet env replies hrun => exact absurd hrun hsettled
  | transferred packet env serverName transfer hrun => exact absurd hrun hsettled
  | sentOn packet env hrun => exact absurd hrun hsettled
  | replaced packet env hrun => exact absurd hrun hsettled
  | passedBack packet env f' hrun => exact absurd hrun hsettled
  | broadcast message env hrun => exact absurd hrun hsettled

section Stepped

variable {ids : PacketIds} {f : PacketForwarder} {env : Surroundings} {packet : RawPacket}

theorem foundTarget_client (ids : PacketIds) (f : PacketForwarder) (packet : RawPacket)
    (env : Surroundings) :
    foundTarget ids ⟨f, .forwarding⟩ (.client packet env) =
      (switchTarget ids f.currentProtocol packet).filter env.backends.contains := by
  rw [foundTarget, if_pos rfl]

/-- A packet that is not intercepted asks for no server. -/
theorem foundTarget_of_not_intercepted {s : Forwarding}
    (hnot : intercepted ids s.forwarder.currentProtocol packet = false) :
    s.foundTarget ids (.client packet env) = none := by
  rw [foundTarget, switchTarget_of_not_intercepted hnot]
  split <;> rfl

theorem stepped_of_clientHandled {h : Handled} (hh : ClientHandled ids f env packet h) :
    Stepped ids ⟨f, .forwarding⟩ (.client packet env) ⟨h.forwarder, afterHandler h⟩
      (handlerEvents (.clientHandled f.currentProtocol packet) h) := by
  cases hh with
  | panicked hpanics hnot =>
      exact .closed _ f rfl ⟨rfl, Or.inr hpanics⟩ (foundTarget_of_not_intercepted hnot)
  | proxied h hphase hyes hproxied =>
      have htarget := foundTarget_client ids f packet env
      cases hproxied with
      | silent hnone => exact .answered packet env [] rfl hphase hyes (htarget.trans hnone)
      | replied message hnone =>
          cases hsent : env.sent with
          | true =>
              rw [sendSystemMessage, write_of_sent hsent]
              exact .answered packet env [message] rfl hphase hyes (htarget.trans hnone)
          | false =>
              rw [sendSystemMessage, write_of_not_sent hsent]
              exact .closed _ f rfl ⟨rfl, Or.inl hsent⟩ (htarget.trans hnone)
      | transferred transfer serverName hfound =>
          cases hsent : env.sent with
          | true =>
              rw [write_of_sent hsent]
              exact .transferred packet env serverName transfer rfl hsent (htarget.trans hfound)
                hphase hyes
          | false =>
              rw [write_of_not_sent hsent]
              exact .abandoned packet env serverName rfl hsent (htarget.trans hfound)
  | forwarded hparses hnot =>
      cases hsent : env.sent with
      | true =>
          rw [forwardClientPacket, forwardToBackend, write_of_sent hsent,
            compression_trackClientPacket]
          exact .sentOn packet env rfl hsent hparses hnot
      | false =>
          rw [forwardClientPacket, forwardToBackend, write_of_not_sent hsent]
          exact .closed _ _ (compression_trackClientPacket ids f packet) ⟨rfl, Or.inl hsent⟩
            (foundTarget_of_not_intercepted hnot)

theorem stepped_of_backendHandled {h : Handled} (hh : BackendHandled ids f env packet h) :
    Stepped ids ⟨f, .forwarding⟩ (.backend packet env) ⟨h.forwarder, afterHandler h⟩
      (handlerEvents (.backendHandled f.currentProtocol packet) h) := by
  cases hh with
  | replaced hphase hid =>
      cases hsent : env.sent with
      | true =>
          rw [sendCommandsPacket, write_of_sent hsent]
          exact .replaced packet env rfl hsent hphase hid
      | false =>
          rw [sendCommandsPacket, write_of_not_sent hsent]
          exact .closed _ f rfl ⟨rfl, hsent⟩ rfl
  | forwarded f' hprotocol hcompression hplayer hnot =>
      cases hsent : env.sent with
      | true =>
          rw [forwardToClient, write_of_sent hsent]
          exact .passedBack packet env f' rfl hsent hprotocol hcompression hplayer hnot
      | false =>
          rw [forwardToClient, write_of_not_sent hsent]
          exact .closed _ f' hcompression ⟨rfl, hsent⟩ rfl

/-- Every iteration of the loop is one of `Stepped`. -/
theorem stepped_of_step {config : ProxyConfig} {s s' : Forwarding} {input : Input}
    {t : List ForwardEvent} (h : (system ids config).step s input = some (s', t)) :
    Stepped ids s input s' t := by
  obtain ⟨f, run⟩ := s
  -- the pairs of a loop position and an input, in the order of the branches of `step`
  cases run with
  | forwarding =>
      cases input with
      | backend packet env =>
          cases h
          exact stepped_of_backendHandled (backendHandled_handleBackendPacket ids f env packet)
      | backendFailed =>
          cases h
          exact .closed _ f rfl rfl rfl
      | client packet env =>
          cases h
          exact stepped_of_clientHandled (clientHandled_handleClientPacket ids config f env packet)
      | clientFailed =>
          cases h
          exact .closed _ f rfl trivial rfl
      | broadcast message env =>
          cases message with
          | none =>
              cases h
              exact .ignored _ rfl
          | some message =>
              cases h
              cases hsent : env.sent with
              | true =>
                  rw [sendSystemMessage, write_of_sent hsent]
                  exact .broadcast message env rfl hsent
              | false =>
                  rw [sendSystemMessage, write_of_not_sent hsent]
                  exact .ignored _ ⟨rfl, hsent⟩
      | timeout => simp [system, step] at h
  | draining =>
      cases input with
      | backend packet env =>
          cases h
          cases hsent : env.sent with
          | true =>
              rw [forwardToClient, write_of_sent hsent]
              exact .drained packet env rfl hsent
          | false =>
              rw [forwardToClient, write_of_not_sent hsent]
              exact .dropped packet env rfl hsent
      | backendFailed =>
          cases h
          exact .ignored _ rfl
      | client packet env =>
          cases h
          exact .ignored _ rfl
      | clientFailed =>
          cases h
          exact .closed _ f rfl trivial rfl
      | broadcast message env => simp [system, step] at h
      | timeout =>
          cases h
          exact .closed _ f rfl rfl rfl
  | closed => cases input <;> simp [system, step] at h

/-! ## What is stored -/

/-- A target is stored exactly for an input that asks for a server of the registry, under the
uuid of the player. -/
theorem Stepped.storedTarget {s s' : Forwarding} {input : Input} {t : List ForwardEvent}
    (h : Stepped ids s input s' t) :
    t.findSome? ForwardEvent.storedTarget =
      (s.foundTarget ids input).map fun serverName => (s.forwarder.playerUuid, serverName) := by
  cases h with
  | closed _ f' hcompression hends hnone => rw [hnone]; rfl
  | abandoned packet env serverName hrun hsent hfound => rw [hfound]; rfl
  | ignored _ hidle =>
      have hnone : s.foundTarget ids input = none := by
        cases input with
        | client packet env =>
            have hrun : s.run = .draining := hidle
            rw [foundTarget, hrun]
            rfl
        | _ => rfl
      rw [hnone]
      rfl
  | answered packet env replies hrun hphase hyes hnone =>
      rw [hnone, List.findSome?_cons]
      simp only [ForwardEvent.storedTarget, Option.map_none, List.findSome?_eq_none_iff]
      intro e he
      obtain ⟨message, -, rfl⟩ := List.mem_map.1 he
      rfl
  | transferred packet env serverName transfer hrun hsent hfound hphase hyes => rw [hfound]; rfl
  | sentOn packet env hrun hsent hparses hnot =>
      rw [foundTarget_of_not_intercepted hnot]
      rfl
  | replaced packet env hrun hsent hphase hid => rfl
  | passedBack packet env f' hrun hsent hprotocol hcompression hplayer hnot => rfl
  | broadcast message env hrun hsent => rfl
  | drained packet env hrun hsent => rfl
  | dropped packet env hrun hsent => rfl

/-- A Transfer is written only for an input that asks for a server of the registry. -/
theorem Stepped.transfer {s s' : Forwarding} {input : Input} {t : List ForwardEvent}
    (h : Stepped ids s input s' t) (htransfer : t.any ForwardEvent.isTransfer = true) :
    (s.foundTarget ids input).isSome = true := by
  cases h with
  | transferred packet env serverName transfer hrun hsent hfound hphase hyes => rw [hfound]; rfl
  | answered packet env replies hrun hphase hyes hnone =>
      simp [ForwardEvent.isTransfer] at htransfer
  | _ => simp [ForwardEvent.isTransfer] at htransfer

/-- A forwarder that is not closed keeps its player. -/
theorem Stepped.playerUuid {s s' : Forwarding} {input : Input} {t : List ForwardEvent}
    (h : Stepped ids s input s' t) (hopen : s'.run ≠ .closed) :
    s'.forwarder.playerUuid = s.forwarder.playerUuid := by
  cases h with
  | closed => exact absurd rfl hopen
  | sentOn packet env =>
      show (s.forwarder.trackClientPacket ids packet).playerUuid = _
      rw [trackClientPacket]
      split <;> rfl
  | passedBack packet env f' hrun hsent hprotocol hcompression hplayer hnot => exact hplayer
  | _ => rfl

end Stepped

end Forwarding

end SteelProxy
