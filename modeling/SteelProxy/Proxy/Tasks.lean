import SteelProxy.Library.RwLock
import SteelProxy.K8s.Lifecycle
import SteelProxy.Proxy.Routing
import SteelProxy.Proxy.ForwarderEffects

/-!
# The tasks of the proxy and the registry lock

The client tasks, with the `start_pr` calls they make, and the lifecycle loop, cut at every
`await`. The registry is behind a fair read-write lock (`ProxyServer.backends`): a task that asks
for it waits in the queue of the lock, is granted a guard, and runs on from there in a step of its
own, in which it drops the guard again; only the guard of `handle_status_command` outlives that
step. Every write of a packet is an `await`: a handler is suspended with the packet it writes, and
the outcome of the write decides how it ends. A step emits the events of the pieces it runs: those
of the loop and the `start_pr` calls, and those of the forwarders.
-/

set_option autoImplicit false

namespace SteelProxy

open SteelProxy.Library SteelProxy.Library.Transition

/-- A task of the proxy: that of a client, or the lifecycle loop. -/
inductive TaskId where
  | client (id : Nat)
  | lifecycle
  deriving DecidableEq, Repr

/-- What a suspended task waits for, apart from the registry. `inputs` are the channels that the
forwarder selects from. -/
inductive Peer where
  | player
  | backend
  | inputs
  | github
  | jenkins
  | kubernetes
  | sqlite
  | timer
  deriving DecidableEq, Repr

/-- The configuration of the proxy with the protocol library. -/
structure ProxySetup where
  ids : PacketIds
  packets : LoginPackets
  config : ProxyConfig
  setup : Setup
  jenkinsConfigured : Bool
  kubernetesConfigured : Bool

/-- A command that consults the registry in the forwarder; `status` with the instances among which
the PR was not found. -/
inductive RegistryUse where
  | listServers
  | switchServer (serverName : String)
  | status (searched : Instances)

/-- The `await` at which a client task is suspended: the next packet of the login, the write of
the reply to one, the registry for the backend of a login, the connection to it, the inputs of the
forwarder, the registry for a command, an `await` of `start_pr`, or the write of a packet by a
handler, with or without the registry guard in scope. -/
inductive ClientPc where
  | absent
  | login (state : LoginState)
  | replying (state : LoginState) (packet : RawPacket)
  | lookup (username : Option String) (uuid : Uuid) (backendName : String)
  | connecting (connector : BackendConnector) (backendName : String)
  | forwarding (f : Forwarding)
  | consulting (f : PacketForwarder) (packet : RawPacket) (use : RegistryUse)
  | starting (f : PacketForwarder) (packet : RawPacket) (call : StartCall)
  | writing (f : Forwarding) (input : Input) (guarded : Bool)
  | ended

/-- The stores, the loop, the client tasks and the registry lock. -/
structure Tasks where
  shared : Shared
  loop : LoopState
  pendingSwitches : KeyedMap Uuid String
  clients : Nat → ClientPc
  lock : RwLock TaskId

/-- What the forwarder selects. -/
inductive Received where
  | backend (packet : RawPacket)
  | backendFailed
  | client (packet : RawPacket)
  | clientFailed
  | broadcast (message : Option String)
  | timeout

/-- One step: a task goes on with what it was waiting for, the lock grants the request at the head
of its queue, or a task that holds a guard runs on. -/
inductive TaskLabel where
  | accepts (client : Nat)
  | receives (client : Nat) (packet : RawPacket)
  | replied (client : Nat) (sent : Bool)
  | connects (client : Nat) (result : Option (Option UInt32))
  | takes (client : Nat) (received : Received)
  | answers (client : Nat) (label : StartLabel)
  | written (client : Nat) (sent : Bool)
  | lifecycle (label : Label)
  | grants
  | runs (task : TaskId) (now readyAt : Instant)

/-- An event of the loop or a `start_pr` call, or one of a client's forwarder. -/
inductive TaskEvent where
  | lifecycle (event : Event)
  | forwarder (client : Nat) (event : ForwardEvent)
  deriving DecidableEq, Repr

/-- The event of the loop or a `start_pr` call. -/
def TaskEvent.ofLifecycle : TaskEvent → Option Event
  | .lifecycle event => some event
  | _ => none

/-- A step that waits for nothing outside the proxy. -/
def TaskLabel.Internal : TaskLabel → Prop
  | .grants => True
  | .runs _ _ _ => True
  | _ => False

/-! ## What a task waits for -/

/-- What a `start_pr` call waits for. -/
def StartCall.peer : StartCall → Option Peer
  | .idle => none
  | .registry _ => none
  | .github _ => some .github
  | .database _ _ _ => some .sqlite
  | .decided _ _ _ _ => none
  | .jenkins _ _ _ => some .jenkins

/-- What a handler of the loop waits for. -/
def HandlerPc.peer : HandlerPc → Option Peer
  | .buildUrl _ _ => some .jenkins
  | .buildStatus _ _ _ => some .jenkins
  | .deleteDeployment _ => some .kubernetes
  | .settle _ => some .timer
  | .createDeployment _ => some .kubernetes
  | .deleteService => some .kubernetes
  | .createService => some .kubernetes
  | .checkReady _ _ _ _ _ => some .kubernetes
  | .register _ _ _ _ _ => none
  | .persist _ _ => some .sqlite
  | .unregister _ => none
  | .tearDownDeployment => some .kubernetes
  | .tearDownService => some .kubernetes

/-- What the loop waits for. -/
def LoopState.peer : LoopState → Option Peer
  | .waiting => some .timer
  | .next _ => none
  | .running _ pc _ => pc.peer
  | .panicked => none

/-- The loop is at `register_backend` or `unregister_backend`. -/
def LoopState.awaitsRegistry : LoopState → Bool
  | .running _ (.register _ _ _ _ _) _ => true
  | .running _ (.unregister _) _ => true
  | _ => false

/-- The peer to which an event writes. -/
def ForwardEvent.peer : ForwardEvent → Option Peer
  | .effect (.toBackend _) => some .backend
  | .effect (.toClient _) => some .player
  | _ => none

/-- The peer to which the handler of an input writes its packet, if it writes one. -/
def Forwarding.peer (p : ProxySetup) (f : Forwarding) (input : Input) : Option Peer :=
  (Forwarding.step p.ids p.config f (input.withSent true)).bind fun result =>
    result.2.findSome? ForwardEvent.peer

/-- What a client task waits for. -/
def ClientPc.peer (p : ProxySetup) : ClientPc → Option Peer
  | .absent => none
  | .login _ => some .player
  | .replying _ _ => some .player
  | .lookup _ _ _ => none
  | .connecting _ _ => some .backend
  | .forwarding _ => some .inputs
  | .consulting _ _ _ => none
  | .starting _ _ call => call.peer
  | .writing f input _ => f.peer p input
  | .ended => none

/-- The client task is at an `await` of the registry. -/
def ClientPc.awaitsRegistry : ClientPc → Bool
  | .lookup _ _ _ => true
  | .consulting _ _ _ => true
  | .starting _ _ (.registry _) => true
  | _ => false

/-- What `select!` yields, with what its handler finds. -/
def Received.input (env : Surroundings) : Received → Input
  | .backend packet => .backend packet env
  | .backendFailed => .backendFailed
  | .client packet => .client packet env
  | .clientFailed => .clientFailed
  | .broadcast message => .broadcast message env
  | .timeout => .timeout

/-- The packet is written before the iteration of the login loop ends. -/
def LoginStep.reply : LoginStep → Option LoginReply
  | .next _ reply => reply
  | .finished reply => reply
  | _ => none

/-- The command of a packet that the proxy handles itself. -/
def PacketForwarder.packetCommand (ids : PacketIds) (f : PacketForwarder) (packet : RawPacket) :
    Option ProxyCommand :=
  if isChatCommand ids f.currentProtocol packet then
    match parseCommandFromPayload packet.payload with
    | some (.ok command) => proxyCommand command
    | _ => none
  else
    none

/-- The result that a `start_pr` call returned. -/
def Event.returnedResult : Event → Option (Except String Unit)
  | .returned _ none => some (.ok ())
  | .returned _ (some error) => some (.error error)
  | _ => none

/-- The first checks of `start_pr`. -/
def StartPr.unconfigured (p : ProxySetup) : Option String :=
  if p.setup.githubConfigured = false then some "GitHub not configured"
  else if p.jenkinsConfigured = false then some "Jenkins not configured"
  else if p.kubernetesConfigured = false then some "Kubernetes not configured"
  else none

namespace Tasks

/-- The proxy starts to serve, with the stores that recovery leaves. -/
def start (shared : Shared) : Tasks := ⟨shared, .waiting, ∅, fun _ => .absent, .free⟩

/-- What a task waits for, apart from the registry. -/
def peer (p : ProxySetup) (s : Tasks) : TaskId → Option Peer
  | .client c => (s.clients c).peer p
  | .lifecycle => s.loop.peer

/-- The task is at an `await` of the registry. -/
def awaitsRegistry (s : Tasks) : TaskId → Bool
  | .client c => (s.clients c).awaitsRegistry
  | .lifecycle => s.loop.awaitsRegistry

/-- The task of a client goes on at `pc`. -/
def setClient (s : Tasks) (client : Nat) (pc : ClientPc) : Tasks :=
  { s with clients := Function.update s.clients client pc }

/-- The task of a client asks for the registry at `pc`. -/
def askRegistry (s : Tasks) (client : Nat) (pc : ClientPc) : Tasks :=
  { s.setClient client pc with lock := s.lock.request (.client client) .read }

/-- A task drops its guard. -/
def dropGuard (s : Tasks) (task : TaskId) : Tasks := { s with lock := s.lock.release task }

/-- What a handler finds. -/
def surroundings (p : ProxySetup) (s : Tasks) (started : Except String Unit) : Surroundings where
  backends := s.shared.backends
  instances := if p.kubernetesConfigured then some s.shared.instances else none
  startPr _ := started
  sent := true

/-! ## The login -/

/-- The login loop after an iteration. -/
def afterLogin (p : ProxySetup) (s : Tasks) (client : Nat) : LoginStep → Tasks
  | .next state _ => s.setClient client (.login state)
  | .acknowledged username uuid =>
      let backendName := (s.pendingSwitches.lookup uuid).getD p.config.defaultServer
      { s with pendingSwitches := s.pendingSwitches.erase uuid }.askRegistry client
        (.lookup username uuid backendName)
  | .finished _ => s.setClient client .ended
  | .failed => s.setClient client .ended
  | .panicked => s.setClient client .ended

/-- The login loop after a packet was read: the reply, if there is one, is written first. -/
def afterPacket (p : ProxySetup) (s : Tasks) (client : Nat) (state : LoginState)
    (packet : RawPacket) : Tasks :=
  let step := ClientHandler.handle p.packets state packet true
  if step.reply.isSome then s.setClient client (.replying state packet)
  else s.afterLogin p client step

/-- The login once the registry is locked; the guard is dropped at the end of the block. -/
def afterLookup (s : Tasks) (client : Nat) (username : Option String) (uuid : Uuid)
    (backendName : String) : Tasks :=
  match s.shared.backends.get backendName, username with
  | some backend, some username =>
      s.setClient client (.connecting ⟨backend.address, backend.port, username, uuid⟩ backendName)
  | _, _ => s.setClient client .ended

/-! ## The forwarder -/

/-- The loop of the forwarder after a handler. -/
def afterHandler (p : ProxySetup) (s : Tasks) (client : Nat) (f : Forwarding) (input : Input) :
    Tasks × List TaskEvent :=
  match Forwarding.step p.ids p.config f input with
  | none => (s.setClient client .ended, [])
  | some (f', events) =>
      (s.setClient client (if f'.run = .closed then .ended else .forwarding f'),
        events.map (.forwarder client))

/-- A handler that has found what it needs: it ends, or writes its packet. -/
def handle (p : ProxySetup) (s : Tasks) (client : Nat) (f : Forwarding) (input : Input) :
    Tasks × List TaskEvent :=
  if (f.peer p input).isSome then (s.setClient client (.writing f input false), [])
  else s.afterHandler p client f input

/-- `handle_client_packet` with the result of the `start_pr` call it makes, if it makes one. -/
def handlePacket (p : ProxySetup) (s : Tasks) (client : Nat) (f : PacketForwarder)
    (packet : RawPacket) (started : Except String Unit) : Tasks × List TaskEvent :=
  s.handle p client (.start f) (.client packet (s.surroundings p started))

/-- A `start_pr` call goes on, or returns to `handle_start_command`. -/
def followStart (p : ProxySetup) (s : Tasks) (client : Nat) (f : PacketForwarder)
    (packet : RawPacket) (o : StartPr.Outcome) : Tasks × List TaskEvent :=
  let s' := { s with shared := o.shared }
  let next :=
    match o.call with
    | .idle =>
        s'.handlePacket p client f packet
          ((o.events.findSome? Event.returnedResult).getD (.ok ()))
    | .registry n => (s'.askRegistry client (.starting f packet (.registry n)), [])
    | call => (s'.setClient client (.starting f packet call), [])
  (next.1, o.events.map .lifecycle ++ next.2)

/-- The status command looks the PR up in the registry. -/
def consultsStatus (p : ProxySetup) (s : Tasks) (prArg : String) : Bool :=
  match Text.parseU32 prArg with
  | none => false
  | some n => p.kubernetesConfigured && !K8sManager.hasInstance s.shared.instances n

/-- `handle_client_packet` up to its first `await`. -/
def handleClientPacket (p : ProxySetup) (s : Tasks) (client : Nat) (f : PacketForwarder)
    (packet : RawPacket) : Tasks × List TaskEvent :=
  match f.packetCommand p.ids packet with
  | none => s.handlePacket p client f packet (.ok ())
  | some .listServers => (s.askRegistry client (.consulting f packet .listServers), [])
  | some (.switchServer serverName) =>
      (s.askRegistry client (.consulting f packet (.switchServer serverName)), [])
  | some (.start prArg) =>
      match Text.parseU32 prArg with
      | none => s.handlePacket p client f packet (.ok ())
      | some n =>
          match StartPr.unconfigured p with
          | some error => s.handlePacket p client f packet (.error error)
          | none => s.followStart p client f packet (StartPr.begin_ p.setup s.shared client n)
  | some (.status prArg) =>
      if s.consultsStatus p prArg then
        (s.askRegistry client (.consulting f packet (.status s.shared.instances)), [])
      else
        s.handlePacket p client f packet (.ok ())

/-- An iteration of the forwarder up to its first `await`. -/
def afterSelect (p : ProxySetup) (s : Tasks) (client : Nat) (f : Forwarding)
    (received : Received) : Option (Tasks × List TaskEvent) :=
  match f.run, received with
  | .forwarding, .client packet => some (s.handleClientPacket p client f.forwarder packet)
  | _, received =>
      let input := received.input (s.surroundings p (.ok ()))
      if (Forwarding.step p.ids p.config f input).isSome then some (s.handle p client f input)
      else none

/-- A command once the registry is locked. -/
def afterConsult (p : ProxySetup) (s : Tasks) (client : Nat) (f : PacketForwarder)
    (packet : RawPacket) : RegistryUse → Tasks × List TaskEvent
  | .listServers => (s.dropGuard (.client client)).handlePacket p client f packet (.ok ())
  | .switchServer serverName =>
      let s' := s.dropGuard (.client client)
      if s.shared.backends.contains serverName then
        { s' with
          pendingSwitches := s'.pendingSwitches.insert f.playerUuid serverName }.handlePacket
            p client f packet (.ok ())
      else
        s'.handlePacket p client f packet (.ok ())
  -- the guard is not dropped: it lives to the end of the `else` block, past the write
  | .status searched =>
      let env := { s.surroundings p (.ok ()) with instances := some searched }
      (s.setClient client (.writing (.start f) (.client packet env) true), [])

/-! ## The loop -/

/-- The lifecycle loop with its stores. -/
def world (s : Tasks) : World := ⟨s.shared, fun _ => .idle, s.loop⟩

/-- The loop after a step; at `register_backend` and `unregister_backend` it asks for the
registry. -/
def afterLoop (s : Tasks) (w : World) : Tasks :=
  let s' := { s with shared := w.shared, loop := w.loop }
  if w.loop.awaitsRegistry then { s' with lock := s.lock.request .lifecycle .write } else s'

/-- A step of the loop that does not need the registry. -/
def stepLoop (p : ProxySetup) (s : Tasks) : Label → Option (Tasks × List TaskEvent)
  | .start _ _ => none
  | .resume (.registryLocked _ _) => none
  | label =>
      (Lifecycle.step p.setup s.world label).map fun result =>
        (s.afterLoop result.1, result.2.map .lifecycle)

/-- A task that holds a guard runs on. -/
def run (p : ProxySetup) (s : Tasks) (now readyAt : Instant) :
    TaskId → Option (Tasks × List TaskEvent)
  | .client c =>
      match s.clients c with
      | .lookup username uuid backendName =>
          some ((s.dropGuard (.client c)).afterLookup c username uuid backendName, [])
      | .consulting f packet use => some (s.afterConsult p c f packet use)
      | .starting f packet (.registry n) =>
          some ((s.dropGuard (.client c)).followStart p c f packet
            (StartPr.checkRegistry s.shared c n))
      | _ => none
  | .lifecycle =>
      (Lifecycle.step p.setup s.world (.resume (.registryLocked now readyAt))).map fun result =>
        ({ s.dropGuard .lifecycle with shared := result.1.shared, loop := result.1.loop },
          result.2.map .lifecycle)

/-- One step. -/
def step (p : ProxySetup) (s : Tasks) : TaskLabel → Option (Tasks × List TaskEvent)
  | .accepts client =>
      match s.clients client with
      | .absent => some (s.setClient client (.login ClientHandler.start), [])
      | _ => none
  | .receives client packet =>
      match s.clients client with
      | .login state => some (s.afterPacket p client state packet, [])
      | _ => none
  | .replied client sent =>
      match s.clients client with
      | .replying state packet =>
          some (s.afterLogin p client (ClientHandler.handle p.packets state packet sent), [])
      | _ => none
  | .connects client result =>
      match s.clients client, result with
      | .connecting _ _, none => some (s.setClient client .ended, [])
      | .connecting connector backendName, some threshold =>
          let f := PacketForwarder.new connector.uuid backendName threshold
          some (s.setClient client (.forwarding (.start f)), [])
      | _, _ => none
  | .takes client received =>
      match s.clients client with
      | .forwarding f => s.afterSelect p client f received
      | _ => none
  | .answers client label =>
      match s.clients client, label with
      | .starting _ _ _, .registryLocked => none
      | .starting f packet call, label =>
          (StartPr.step p.setup s.shared client call label).map (s.followStart p client f packet)
      | _, _ => none
  | .written client sent =>
      match s.clients client with
      | .writing f input guarded =>
          let s' := if guarded then s.dropGuard (.client client) else s
          some (s'.afterHandler p client f (input.withSent sent))
      | _ => none
  | .lifecycle label =>
      if p.jenkinsConfigured && p.kubernetesConfigured then s.stepLoop p label else none
  | .grants => s.lock.grant.map fun lock => ({ s with lock := lock }, [])
  | .runs task now readyAt => if s.lock.Holds task then s.run p now readyAt task else none

/-- The tasks as a transition system. -/
def system (p : ProxySetup) : System Tasks TaskLabel TaskEvent := ⟨step p⟩

/-! ## What a step can do -/

/-- `Stepped p s label result`: what the task that moves was waiting for, and how it goes on, with
the events of the step. -/
inductive Stepped (p : ProxySetup) (s : Tasks) : TaskLabel → Tasks × List TaskEvent → Prop where
  | accepted (client : Nat) (hpc : s.clients client = .absent) :
      Stepped p s (.accepts client) (s.setClient client (.login ClientHandler.start), [])
  | received (client : Nat) (packet : RawPacket) (state : LoginState)
      (hpc : s.clients client = .login state) :
      Stepped p s (.receives client packet) (s.afterPacket p client state packet, [])
  | replied (client : Nat) (sent : Bool) (state : LoginState) (packet : RawPacket)
      (hpc : s.clients client = .replying state packet) :
      Stepped p s (.replied client sent)
        (s.afterLogin p client (ClientHandler.handle p.packets state packet sent), [])
  | connectFailed (client : Nat) (connector : BackendConnector) (backendName : String)
      (hpc : s.clients client = .connecting connector backendName) :
      Stepped p s (.connects client none) (s.setClient client .ended, [])
  | connected (client : Nat) (connector : BackendConnector) (backendName : String)
      (threshold : Option UInt32) (hpc : s.clients client = .connecting connector backendName) :
      Stepped p s (.connects client (some threshold))
        (s.setClient client
          (.forwarding (.start (.new connector.uuid backendName threshold))), [])
  | selected (client : Nat) (received : Received) (f : Forwarding)
      (result : Tasks × List TaskEvent) (hpc : s.clients client = .forwarding f)
      (hselect : s.afterSelect p client f received = some result) :
      Stepped p s (.takes client received) result
  | answered (client : Nat) (label : StartLabel) (f : PacketForwarder) (packet : RawPacket)
      (call : StartCall) (o : StartPr.Outcome) (hpc : s.clients client = .starting f packet call)
      (hlabel : label ≠ .registryLocked)
      (hcall : StartPr.step p.setup s.shared client call label = some o) :
      Stepped p s (.answers client label) (s.followStart p client f packet o)
  | wrote (client : Nat) (sent : Bool) (f : Forwarding) (input : Input)
      (hpc : s.clients client = .writing f input false) :
      Stepped p s (.written client sent) (s.afterHandler p client f (input.withSent sent))
  | wroteGuarded (client : Nat) (sent : Bool) (f : Forwarding) (input : Input)
      (hpc : s.clients client = .writing f input true) :
      Stepped p s (.written client sent)
        ((s.dropGuard (.client client)).afterHandler p client f (input.withSent sent))
  | looped (label : Label) (w : World) (events : List Event)
      (hconfigured : (p.jenkinsConfigured && p.kubernetesConfigured) = true)
      (hstart : ∀ id start, label ≠ .start id start)
      (hlocked : ∀ now readyAt, label ≠ .resume (.registryLocked now readyAt))
      (hloop : Lifecycle.step p.setup s.world label = some (w, events)) :
      Stepped p s (.lifecycle label) (s.afterLoop w, events.map .lifecycle)
  | granted (lock : RwLock TaskId) (hgrant : s.lock.grant = some lock) :
      Stepped p s .grants ({ s with lock := lock }, [])
  | lookedUp (client : Nat) (username : Option String) (uuid : Uuid) (backendName : String)
      (now readyAt : Instant) (hholds : s.lock.Holds (.client client))
      (hpc : s.clients client = .lookup username uuid backendName) :
      Stepped p s (.runs (.client client) now readyAt)
        ((s.dropGuard (.client client)).afterLookup client username uuid backendName, [])
  | consulted (client : Nat) (f : PacketForwarder) (packet : RawPacket) (use : RegistryUse)
      (now readyAt : Instant) (hholds : s.lock.Holds (.client client))
      (hpc : s.clients client = .consulting f packet use) :
      Stepped p s (.runs (.client client) now readyAt) (s.afterConsult p client f packet use)
  | registryChecked (client : Nat) (f : PacketForwarder) (packet : RawPacket) (n : UInt32)
      (now readyAt : Instant) (hholds : s.lock.Holds (.client client))
      (hpc : s.clients client = .starting f packet (.registry n)) :
      Stepped p s (.runs (.client client) now readyAt)
        ((s.dropGuard (.client client)).followStart p client f packet
          (StartPr.checkRegistry s.shared client n))
  | loopRan (now readyAt : Instant) (w : World) (events : List Event)
      (hholds : s.lock.Holds .lifecycle)
      (hloop : Lifecycle.step p.setup s.world (.resume (.registryLocked now readyAt)) =
        some (w, events)) :
      Stepped p s (.runs .lifecycle now readyAt)
        ({ s.dropGuard .lifecycle with shared := w.shared, loop := w.loop },
          events.map .lifecycle)

section Stepped

variable {p : ProxySetup} {s : Tasks} {result : Tasks × List TaskEvent}

/-- `stepLoop` refuses the two labels that are not the loop's alone. -/
theorem stepLoop_eq_some {label : Label} (hstep : s.stepLoop p label = some result) :
    (∀ id start, label ≠ .start id start) ∧
      (∀ now readyAt, label ≠ .resume (.registryLocked now readyAt)) ∧
      ∃ w events, Lifecycle.step p.setup s.world label = some (w, events) ∧
        result = (s.afterLoop w, events.map .lifecycle) := by
  refine ⟨?_, ?_, ?_⟩
  · rintro id start rfl
    cases hstep
  · rintro now readyAt rfl
    cases hstep
  · unfold stepLoop at hstep
    split at hstep
    · cases hstep
    · cases hstep
    · obtain ⟨⟨w, events⟩, hloop, rfl⟩ := Option.map_eq_some_iff.1 hstep
      exact ⟨w, events, hloop, rfl⟩

theorem stepped_of_run {t : TaskId} {now readyAt : Instant} (hholds : s.lock.Holds t)
    (hrun : s.run p now readyAt t = some result) :
    Stepped p s (.runs t now readyAt) result := by
  cases t with
  | client client =>
      simp only [run] at hrun
      split at hrun
      · rename_i hpc
        cases hrun
        exact .lookedUp client _ _ _ now readyAt hholds hpc
      · rename_i hpc
        cases hrun
        exact .consulted client _ _ _ now readyAt hholds hpc
      · rename_i hpc
        cases hrun
        exact .registryChecked client _ _ _ now readyAt hholds hpc
      · cases hrun
  | lifecycle =>
      obtain ⟨⟨w, events⟩, hloop, rfl⟩ := Option.map_eq_some_iff.1 hrun
      exact .loopRan now readyAt w events hholds hloop

theorem stepped_of_step {label : TaskLabel} (hstep : s.step p label = some result) :
    Stepped p s label result := by
  cases label with
  | accepts client =>
      simp only [step] at hstep
      split at hstep
      · rename_i hpc
        cases hstep
        exact .accepted client hpc
      · cases hstep
  | receives client packet =>
      simp only [step] at hstep
      split at hstep
      · rename_i hpc
        cases hstep
        exact .received client packet _ hpc
      · cases hstep
  | replied client sent =>
      simp only [step] at hstep
      split at hstep
      · rename_i hpc
        cases hstep
        exact .replied client sent _ _ hpc
      · cases hstep
  | connects client result =>
      simp only [step] at hstep
      split at hstep
      · rename_i hpc
        cases hstep
        exact .connectFailed client _ _ hpc
      · rename_i hpc
        cases hstep
        exact .connected client _ _ _ hpc
      · cases hstep
  | takes client received =>
      simp only [step] at hstep
      split at hstep
      · rename_i hpc
        exact .selected client received _ result hpc hstep
      · cases hstep
  | answers client label =>
      simp only [step] at hstep
      split at hstep
      · cases hstep
      · rename_i hpc hlabel
        obtain ⟨o, hcall, rfl⟩ := Option.map_eq_some_iff.1 hstep
        exact .answered client _ _ _ _ o hpc hlabel hcall
      · cases hstep
  | written client sent =>
      simp only [step] at hstep
      split at hstep
      · rename_i guarded hpc
        cases hstep
        cases guarded with
        | true => exact .wroteGuarded client sent _ _ hpc
        | false => exact .wrote client sent _ _ hpc
      · cases hstep
  | lifecycle label =>
      simp only [step] at hstep
      split at hstep
      · rename_i hconfigured
        obtain ⟨hstart, hlocked, w, events, hloop, rfl⟩ := stepLoop_eq_some hstep
        exact .looped label w events hconfigured hstart hlocked hloop
      · cases hstep
  | grants =>
      obtain ⟨lock, hgrant, rfl⟩ := Option.map_eq_some_iff.1 hstep
      exact .granted lock hgrant
  | runs task now readyAt =>
      simp only [step] at hstep
      split at hstep
      · rename_i hholds
        exact stepped_of_run hholds hstep
      · cases hstep

end Stepped

end Tasks

end SteelProxy
