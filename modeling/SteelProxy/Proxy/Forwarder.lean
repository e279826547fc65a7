import SteelProxy.Library.Transition
import SteelProxy.K8s.Manager
import SteelProxy.Proxy.Packets

/-!
# The packet forwarder

`PacketForwarder` of one client: the handlers of client packets, backend packets and broadcasts,
and the loop of `run` with `drain_until_client_disconnects`. The reader tasks are the inputs: an
input is one message that the loop receives. What a handler reads outside the forwarder (the
registry, the tracked instances, the outcome of `start_pr`) and whether the packet it sends is
written are part of the input.
-/

set_option autoImplicit false

namespace SteelProxy

open SteelProxy.Library SteelProxy.Library.Transition

/-- The state of `PacketForwarder` apart from its connections. -/
structure PacketForwarder where
  playerUuid : Uuid
  currentBackend : String
  currentProtocol : ConnectionProtocol
  backendCompressionThreshold : Option UInt32
  permissionLevel : UInt8
  entityId : Option Int32
  deriving DecidableEq, Repr

/-- What a handler finds outside the forwarder. No handler writes more than one packet; `sent` is
the success of encoding and writing it. -/
structure Surroundings where
  backends : BackendRegistry
  instances : Option Instances
  startPr : UInt32 → Except String Unit
  sent : Bool

/-- `Action`. -/
inductive Action where
  | continue_
  | disconnect
  deriving DecidableEq, Repr

/-- What a handler does: packets written, and the target stored for the player. -/
inductive Effect where
  | toBackend (packet : EncodedPacket)
  | toClient (packet : ClientWrite)
  | targetStored (uuid : Uuid) (server : String)
  deriving DecidableEq, Repr

/-- How a handler ends. -/
inductive Ending where
  | ok (action : Action)
  | failed
  | panicked
  deriving DecidableEq, Repr

/-- The result of a handler. -/
structure Handled where
  forwarder : PacketForwarder
  effects : List Effect
  ending : Ending
  deriving DecidableEq, Repr

/-- The commands that the proxy handles itself. -/
inductive ProxyCommand where
  | listServers
  | switchServer (serverName : String)
  | start (prArg : String)
  | status (prArg : String)
  deriving DecidableEq, Repr

namespace PacketForwarder

/-- `PacketForwarder::new`. -/
def new (playerUuid : Uuid) (currentBackend : String)
    (backendCompressionThreshold : Option UInt32) : PacketForwarder where
  playerUuid := playerUuid
  currentBackend := currentBackend
  currentProtocol := .config
  backendCompressionThreshold := backendCompressionThreshold
  permissionLevel := 0
  entityId := none

/-! ## Writing packets -/

/-- A handler that ends with writing one packet. -/
def write (f : PacketForwarder) (env : Surroundings) (effect : Effect) (action : Action) :
    Handled :=
  if env.sent then ⟨f, [effect], .ok action⟩ else ⟨f, [], .failed⟩

/-- The compression of frames to the backend. -/
def compression (f : PacketForwarder) : Option CompressionInfo :=
  f.backendCompressionThreshold.map fun threshold => ⟨threshold, 4⟩

/-- `forward_to_backend`. -/
def forwardToBackend (f : PacketForwarder) (env : Surroundings) (packet : RawPacket) : Handled :=
  f.write env (.toBackend (packet.frame f.compression)) .continue_

/-- `forward_to_client`. -/
def forwardToClient (f : PacketForwarder) (env : Surroundings) (packet : RawPacket) : Handled :=
  f.write env (.toClient (.forwarded (packet.frame none))) .continue_

/-- `send_system_message`. -/
def sendSystemMessage (f : PacketForwarder) (env : Surroundings) (message : String) : Handled :=
  f.write env (.toClient (.systemChat message)) .continue_

/-- `send_commands_packet`. -/
def sendCommandsPacket (f : PacketForwarder) (env : Surroundings) : Handled :=
  f.write env (.toClient (.commands buildCommands)) .continue_

/-! ## Commands -/

/-- `len as usize` of an `i32`, with 64-bit sign extension. -/
def lenAsUsize (len : Int32) : UInt64 := len.toInt64.toUInt64

/-- `parse_command_from_payload`; `none` is the capacity panic of `vec![0u8; len]`. -/
def parseCommandFromPayload (payload : List UInt8) : Option (Except String String) :=
  match VarInt.read payload with
  | none => some (.error "invalid VarInt")
  | some (len, rest) =>
      let len := lenAsUsize len
      -- a negative length is sign-extended beyond the capacity of any vector
      if 2 ^ 63 ≤ len.toNat then
        none
      else if rest.length < len.toNat then
        some (.error "failed to fill whole buffer")
      else
        match String.fromUTF8? ⟨(rest.take len.toNat).toArray⟩ with
        | none => some (.error "invalid utf-8 sequence")
        | some command => some (.ok command)

/-- The tests of `handle_client_packet` on a parsed command. -/
def proxyCommand (command : String) : Option ProxyCommand :=
  if command = "server" then
    some .listServers
  else
    match Text.stripPrefix "server " command with
    | some serverName => some (.switchServer (Text.trim serverName))
    | none =>
        match Text.stripPrefix "start " command with
        | some prArg => some (.start (Text.trim prArg))
        | none => (Text.stripPrefix "status " command).map fun prArg => .status (Text.trim prArg)

/-- One line of the server list. -/
def serverLine (currentBackend : String) (entry : String × BackendServer) : String :=
  let current := if entry.1 = currentBackend then " (current)" else ""
  let desc := entry.2.description.getD ""
  if desc.isEmpty then s!"\n  - {entry.1}{current}" else s!"\n  - {entry.1}: {desc}{current}"

/-- The message of `list_servers`. -/
def serverList (currentBackend : String) (backends : BackendRegistry) : String :=
  backends.iter.foldl (fun message entry => message ++ serverLine currentBackend entry)
    "Available servers:"

/-- `list_servers`. -/
def listServers (f : PacketForwarder) (env : Surroundings) : Handled :=
  f.sendSystemMessage env (serverList f.currentBackend env.backends)

/-- `switch_server`: the target is stored before the Transfer is written. -/
def switchServer (config : ProxyConfig) (f : PacketForwarder) (env : Surroundings)
    (serverName : String) : Handled :=
  if env.backends.contains serverName then
    let transfer : CTransfer := ⟨config.publicAddress, config.bindPort.toUInt32.toInt32⟩
    let h := f.write env (.toClient (.transfer transfer)) .disconnect
    { h with effects := .targetStored f.playerUuid serverName :: h.effects }
  else
    f.sendSystemMessage env s!"Unknown server: {serverName}"

/-- `handle_start_command`; the messages of a successful start are broadcast. -/
def handleStartCommand (f : PacketForwarder) (env : Surroundings) (prArg : String) : Handled :=
  match Text.parseU32 prArg with
  | none => f.sendSystemMessage env "§cUsage: /start <pr_number>"
  | some n =>
      match env.startPr n with
      | .ok () => ⟨f, [], .ok .continue_⟩
      | .error e => f.sendSystemMessage env s!"§cFailed to start PR #{n}: {e}"

/-- The status message of a tracked instance. -/
def statusMessage (n : UInt32) : InstanceState → String
  | .building _ _ => s!"§e[Status] PR #{n} is building..."
  | .deploying _ => s!"§e[Status] PR #{n} is deploying..."
  | .starting _ _ _ _ => s!"§e[Status] PR #{n} is starting..."
  | .ready _ _ _ _ _ => s!"§a[Status] PR #{n} is ready! Use §e/server pr-{n}§a to connect."
  | .shuttingDown _ => s!"§c[Status] PR #{n} is shutting down..."
  | .failed reason => s!"§c[Status] PR #{n} failed: {reason}"

/-- `handle_status_command`. -/
def handleStatusCommand (f : PacketForwarder) (env : Surroundings) (prArg : String) : Handled :=
  match Text.parseU32 prArg with
  | none => f.sendSystemMessage env "§cUsage: /status <pr_number>"
  | some n =>
      match env.instances with
      | none => f.sendSystemMessage env "§cKubernetes not configured"
      | some instances =>
          match K8sManager.getInstanceState instances n with
          | some state => f.sendSystemMessage env (statusMessage n state)
          | none =>
              if env.backends.contains (backendName n) then
                f.sendSystemMessage env
                  s!"§a[Status] PR #{n} is running. Use §e/server pr-{n}§a to connect."
              else
                f.sendSystemMessage env
                  s!"§7[Status] PR #{n} is not running. Use §e/start {n}§7 to start it."

/-- The branches of `handle_client_packet` for the proxy's own commands. -/
def handleProxyCommand (config : ProxyConfig) (f : PacketForwarder) (env : Surroundings) :
    ProxyCommand → Handled
  | .listServers => f.listServers env
  | .switchServer serverName => f.switchServer config env serverName
  | .start prArg => f.handleStartCommand env prArg
  | .status prArg => f.handleStatusCommand env prArg

/-! ## The handlers -/

/-- The phase after a client packet: `S_FINISH_CONFIGURATION` enters the play phase. -/
def trackClientPacket (ids : PacketIds) (f : PacketForwarder) (packet : RawPacket) :
    PacketForwarder :=
  -- the id is compared in every phase, also where it is the id of another packet
  if packet.id = ids.configFinishConfiguration then { f with currentProtocol := .play } else f

/-- The end of `handle_client_packet`: track the phase, then forward. -/
def forwardClientPacket (ids : PacketIds) (f : PacketForwarder) (env : Surroundings)
    (packet : RawPacket) : Handled :=
  (f.trackClientPacket ids packet).forwardToBackend env packet

/-- A chat command, signed or not, in the play phase. -/
def isChatCommand (ids : PacketIds) (phase : ConnectionProtocol) (packet : RawPacket) : Bool :=
  phase = .play && (packet.id = ids.playChatCommand || packet.id = ids.playChatCommandSigned)

/-- `handle_client_packet`. -/
def handleClientPacket (ids : PacketIds) (config : ProxyConfig) (f : PacketForwarder)
    (env : Surroundings) (packet : RawPacket) : Handled :=
  if isChatCommand ids f.currentProtocol packet then
    match parseCommandFromPayload packet.payload with
    | none => ⟨f, [], .panicked⟩
    -- `if let Ok(command)`: a payload that does not parse is left to the backend
    | some (.error _) => f.forwardClientPacket ids env packet
    | some (.ok command) =>
        match proxyCommand command with
        | some c => f.handleProxyCommand config env c
        | none => f.forwardClientPacket ids env packet
  else
    f.forwardClientPacket ids env packet

/-- `i32::from_be_bytes` of the first four bytes. -/
def readEntityId : List UInt8 → Option Int32
  | b₀ :: b₁ :: b₂ :: b₃ :: _ =>
      some (b₀.toUInt32 <<< 24 ||| b₁.toUInt32 <<< 16 ||| b₂.toUInt32 <<< 8 ||| b₃.toUInt32).toInt32
  | _ => none

/-- The login packet of the play phase: the entity id of the player. -/
def trackLogin (f : PacketForwarder) (payload : List UInt8) : PacketForwarder :=
  match readEntityId payload with
  | some entityId => { f with entityId := some entityId }
  | none => f

/-- The entity event packet: statuses 24 to 28 of the player are permission levels. -/
def trackEntityEvent (f : PacketForwarder) (payload : List UInt8) : PacketForwarder :=
  match readEntityId payload, payload.drop 4 with
  | some entityId, status :: _ =>
      if f.entityId = some entityId ∧ 24 ≤ status ∧ status ≤ 28 then
        { f with permissionLevel := status - 24 }
      else
        f
  | _, _ => f

/-- `handle_backend_packet`. -/
def handleBackendPacket (ids : PacketIds) (f : PacketForwarder) (env : Surroundings)
    (packet : RawPacket) : Handled :=
  if f.currentProtocol = .play then
    if packet.id = ids.playLogin then
      (f.trackLogin packet.payload).forwardToClient env packet
    else if packet.id = ids.playEntityEvent then
      (f.trackEntityEvent packet.payload).forwardToClient env packet
    else if packet.id = ids.playCommands then
      -- the backend's own tree is dropped
      f.sendCommandsPacket env
    else
      f.forwardToClient env packet
  else
    f.forwardToClient env packet

end PacketForwarder

/-! ## The loop -/

/-- The loop of `run`, the drain after a Transfer, and the end. -/
inductive RunState where
  | forwarding
  | draining
  | closed
  deriving DecidableEq, Repr

/-- A forwarder in its loop. -/
structure Forwarding where
  forwarder : PacketForwarder
  run : RunState
  deriving DecidableEq, Repr

/-- What the loop receives. `broadcast none` is a lagging receiver. The `else` branch of the
loop is unreachable, since the broadcast branch matches every result. -/
inductive Input where
  | backend (packet : RawPacket) (env : Surroundings)
  | backendFailed
  | client (packet : RawPacket) (env : Surroundings)
  | clientFailed
  | broadcast (message : Option String) (env : Surroundings)
  | timeout

/-- A packet that was handled successfully, with the phase of the forwarder when it was received;
a packet of the backend that was drained, with the success of its forwarding; or an effect. -/
inductive ForwardEvent where
  | clientHandled (phase : ConnectionProtocol) (packet : RawPacket)
  | backendHandled (phase : ConnectionProtocol) (packet : RawPacket)
  | drained (packet : RawPacket) (sent : Bool)
  | effect (effect : Effect)
  deriving DecidableEq, Repr

namespace Forwarding

/-- `PacketForwarder::run` starts. -/
def start (f : PacketForwarder) : Forwarding := ⟨f, .forwarding⟩

/-- The loop after a handler: an error ends it, and a sent Transfer turns to draining. -/
def afterHandler (h : Handled) : RunState :=
  match h.ending with
  | .ok .continue_ => .forwarding
  | .ok .disconnect => .draining
  | .failed => .closed
  | .panicked => .closed

/-- The events of a handler. -/
def handlerEvents (handled : ForwardEvent) (h : Handled) : List ForwardEvent :=
  match h.ending with
  | .ok _ => handled :: h.effects.map .effect
  | _ => h.effects.map .effect

/-- One iteration of the loop. -/
def step (ids : PacketIds) (config : ProxyConfig) (s : Forwarding) (input : Input) :
    Option (Forwarding × List ForwardEvent) :=
  match s.run, input with
  | .forwarding, .backend packet env =>
      let h := s.forwarder.handleBackendPacket ids env packet
      some (⟨h.forwarder, afterHandler h⟩,
        handlerEvents (.backendHandled s.forwarder.currentProtocol packet) h)
  | .forwarding, .client packet env =>
      let h := s.forwarder.handleClientPacket ids config env packet
      some (⟨h.forwarder, afterHandler h⟩,
        handlerEvents (.clientHandled s.forwarder.currentProtocol packet) h)
  | .forwarding, .broadcast (some message) env =>
      -- a failed broadcast is only logged
      let h := s.forwarder.sendSystemMessage env message
      some (s, h.effects.map .effect)
  | .forwarding, .broadcast none _ => some (s, [])
  | .forwarding, .backendFailed => some ({ s with run := .closed }, [])
  | .forwarding, .clientFailed => some ({ s with run := .closed }, [])
  | .draining, .backend packet env =>
      let h := s.forwarder.forwardToClient env packet
      some (s, .drained packet env.sent :: h.effects.map .effect)
  | .draining, .backendFailed => some (s, [])
  -- packets of a client that was told to transfer are ignored
  | .draining, .client _ _ => some (s, [])
  | .draining, .clientFailed => some ({ s with run := .closed }, [])
  | .draining, .timeout => some ({ s with run := .closed }, [])
  | _, _ => none

/-- The forwarder as a transition system. -/
def system (ids : PacketIds) (config : ProxyConfig) : System Forwarding Input ForwardEvent :=
  ⟨step ids config⟩

end Forwarding

/-! ## A sample configuration -/

/-- A configuration with one backend. -/
def sampleConfig : ProxyConfig where
  bindPort := 25565
  publicAddress := "proxy.example"
  defaultServer := "master"
  backends := AList.insert "master" ⟨"10.0.0.1", 25566, none⟩ ∅

/-- Surroundings without PR instances, in which packets are written. -/
def Surroundings.sample : Surroundings where
  backends := .new sampleConfig.backends
  instances := none
  startPr _ := .error "GitHub not configured"
  sent := true

/-- The command `server master`, sent as an unsigned chat command. -/
def sampleSwitch : RawPacket :=
  ⟨6, [13, 115, 101, 114, 118, 101, 114, 32, 109, 97, 115, 116, 101, 114]⟩

end SteelProxy
