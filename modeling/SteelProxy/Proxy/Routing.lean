import SteelProxy.Registry
import SteelProxy.Proxy.ClientHandler
import SteelProxy.Proxy.ForwarderEffects

/-!
# Server-switch routing

The client tasks of the proxy, the shared backend registry and the pending switches
(`ProxyServer::get_target_server` and `set_target_server`), under any interleaving. A task yields
between the check of `switch_server` and the store of the target, at the write of a handler's
packet, and between the choice of the backend name and its lookup in the registry. Dynamic
backends are registered and unregistered by other tasks, under any name.
-/

set_option autoImplicit false

namespace SteelProxy

open SteelProxy.Library SteelProxy.Library.Transition

/-- `BackendConnector`. -/
structure BackendConnector where
  address : String
  port : UInt16
  username : String
  uuid : Uuid
  deriving DecidableEq, Repr

/-- Where a client task is: in the login loop, between the choice of the backend and its lookup,
connecting to the backend, in the forwarder, between the check and the store of `switch_server`,
at the write of a handler's packet, or ended. -/
inductive ClientTask where
  | absent
  | login (state : LoginState)
  | lookup (username : Option String) (uuid : Uuid) (backendName : String)
  | connecting (connector : BackendConnector) (backendName : String)
  | forwarding (f : Forwarding)
  | storing (f : Forwarding) (input : Input) (uuid : Uuid) (serverName : String)
  | writing (f : Forwarding) (input : Input)
  | ended

/-- The state that the client tasks share, and the tasks. -/
structure Routing where
  backends : BackendRegistry
  pendingSwitches : KeyedMap Uuid String
  clients : Nat → ClientTask

/-- The steps of the client tasks, and of the tasks that maintain the dynamic backends. The
surroundings of a forwarder's input are completed with the registry. -/
inductive RoutingLabel where
  | accepts (client : Nat)
  | receives (client : Nat) (packet : RawPacket) (sent : Bool)
  | looksUp (client : Nat)
  | connects (client : Nat) (result : Option (Option UInt32))
  | forwards (client : Nat) (input : Input)
  | stores (client : Nat)
  | writes (client : Nat) (sent : Bool)
  | addDynamic (name : String) (backend : BackendServer)
  | removeDynamic (name : String)

/-- `switch_server` found its target, in the dynamic backends or not, and stored it; a Transfer
was written; a login was acknowledged and its backend name chosen; the lookup of the chosen name,
and the panic behind it; the changes of the dynamic backends. -/
inductive RoutingEvent where
  | found (client : Nat) (uuid : Uuid) (serverName : String) (dynamic : Bool)
  | switched (client : Nat) (uuid : Uuid) (serverName : String)
  | transferred (client : Nat)
  | chosen (client : Nat) (uuid : Uuid) (backendName : String)
  | lookedUp (client : Nat) (uuid : Uuid) (backendName : String)
  | lookupFailed (client : Nat) (uuid : Uuid) (backendName : String)
  | panicked (client : Nat)
  | registered (name : String)
  | unregistered (name : String)
  deriving DecidableEq, Repr

/-- The input with the registry that its handler reads. -/
def Input.withBackends (backends : BackendRegistry) : Input → Input
  | .backend packet env => .backend packet { env with backends := backends }
  | .client packet env => .client packet { env with backends := backends }
  | .broadcast message env => .broadcast message { env with backends := backends }
  | input => input

/-- The input with the outcome of writing its packet. -/
def Input.withSent (sent : Bool) : Input → Input
  | .backend packet env => .backend packet { env with sent := sent }
  | .client packet env => .client packet { env with sent := sent }
  | .broadcast message env => .broadcast message { env with sent := sent }
  | input => input

namespace Routing

/-- `ProxyServer::new`. -/
def start (config : ProxyConfig) : Routing := ⟨.new config.backends, ∅, fun _ => .absent⟩

/-- The task of a client goes on as `task`. -/
def setClient (s : Routing) (client : Nat) (task : ClientTask) : Routing :=
  { s with clients := Function.update s.clients client task }

theorem clients_setClient (s : Routing) (client c : Nat) (task : ClientTask) :
    (s.setClient client task).clients c = if c = client then task else s.clients c :=
  Function.update_apply ..

/-- `get_target_server`: the pending target is taken out. -/
def getTargetServer (s : Routing) (uuid : Uuid) : Option String × Routing :=
  (s.pendingSwitches.lookup uuid,
    { s with pendingSwitches := s.pendingSwitches.erase uuid })

/-- `set_target_server`. -/
def setTargetServer (s : Routing) (uuid : Uuid) (server : String) : Routing :=
  { s with pendingSwitches := s.pendingSwitches.insert uuid server }

/-- The login loop: after the acknowledgement the backend name is chosen. -/
def afterLogin (config : ProxyConfig) (s : Routing) (client : Nat) :
    LoginStep → Routing × List RoutingEvent
  | .next state _ => (s.setClient client (.login state), [])
  | .acknowledged username uuid =>
      -- the pending target is consumed here, before its lookup can fail
      let (target, s') := s.getTargetServer uuid
      let backendName := target.getD config.defaultServer
      (s'.setClient client (.lookup username uuid backendName), [.chosen client uuid backendName])
  | .finished _ => (s.setClient client .ended, [])
  | .failed => (s.setClient client .ended, [])
  | .panicked => (s.setClient client .ended, [])

/-- The lookup of the chosen backend; an absent name is the error "Backend server not found". -/
def afterLookup (s : Routing) (client : Nat) (username : Option String) (uuid : Uuid)
    (backendName : String) : Routing × List RoutingEvent :=
  match s.backends.get backendName with
  | none => (s.setClient client .ended, [.lookupFailed client uuid backendName])
  | some backend =>
      match username with
      -- `username.clone().unwrap()` panics after the lookup
      | none =>
          (s.setClient client .ended, [.lookedUp client uuid backendName, .panicked client])
      | some username =>
          let connector : BackendConnector := ⟨backend.address, backend.port, username, uuid⟩
          (s.setClient client (.connecting connector backendName),
            [.lookedUp client uuid backendName])

/-- The handler of an input up to the write of its packet, with the events of the iteration: a
target that `switch_server` has found is still to be stored. -/
def afterForward (s : Routing) (client : Nat) (f : Forwarding) (input : Input)
    (events : List ForwardEvent) : Routing × List RoutingEvent :=
  match events.findSome? ForwardEvent.storedTarget with
  | none => (s.setClient client (.writing f input), [])
  | some (uuid, serverName) =>
      (s.setClient client (.storing f input uuid serverName),
        [.found client uuid serverName (s.backends.dynamicBackends.lookup serverName).isSome])

/-- The end of the handler, once the outcome of the write is known. -/
def afterWrite (s : Routing) (client : Nat) :
    Option (Forwarding × List ForwardEvent) → Routing × List RoutingEvent
  | none => (s.setClient client .ended, [])
  | some (f, events) =>
      (s.setClient client (if f.run = .closed then .ended else .forwarding f),
        if events.any ForwardEvent.isTransfer then [.transferred client] else [])

/-- One step of the proxy. -/
def step (ids : PacketIds) (packets : LoginPackets) (config : ProxyConfig) (s : Routing) :
    RoutingLabel → Option (Routing × List RoutingEvent)
  | .accepts client =>
      match s.clients client with
      | .absent => some (s.setClient client (.login ClientHandler.start), [])
      | _ => none
  | .receives client packet sent =>
      match s.clients client with
      | .login state =>
          some (s.afterLogin config client (ClientHandler.handle packets state packet sent))
      | _ => none
  | .looksUp client =>
      match s.clients client with
      | .lookup username uuid backendName => some (s.afterLookup client username uuid backendName)
      | _ => none
  | .connects client result =>
      match s.clients client, result with
      | .connecting _ _, none => some (s.setClient client .ended, [])
      | .connecting connector backendName, some threshold =>
          let f := PacketForwarder.new connector.uuid backendName threshold
          some (s.setClient client (.forwarding (.start f)), [])
      | _, _ => none
  | .forwards client input =>
      match s.clients client with
      | .forwarding f =>
          let input := input.withBackends s.backends
          (Forwarding.step ids config f input).map fun result =>
            s.afterForward client f input result.2
      | _ => none
  | .stores client =>
      match s.clients client with
      | .storing f input uuid serverName =>
          some ((s.setTargetServer uuid serverName).setClient client (.writing f input),
            [.switched client uuid serverName])
      | _ => none
  | .writes client sent =>
      match s.clients client with
      | .writing f input =>
          some (s.afterWrite client (Forwarding.step ids config f (input.withSent sent)))
      | _ => none
  | .addDynamic name backend =>
      some ({ s with backends := s.backends.addDynamic name backend }, [.registered name])
  | .removeDynamic name =>
      let (removed, backends) := s.backends.removeDynamic name
      some ({ s with backends := backends },
        if removed.isSome then [.unregistered name] else [])

/-- The proxy as a transition system. -/
def system (ids : PacketIds) (packets : LoginPackets) (config : ProxyConfig) :
    System Routing RoutingLabel RoutingEvent :=
  ⟨step ids packets config⟩

/-! ## What a step can do -/

/-- `Stepped ids packets config s label s' t`: where the task that moves was, and how it goes
on. -/
inductive Stepped (ids : PacketIds) (packets : LoginPackets) (config : ProxyConfig)
    (s : Routing) : RoutingLabel → Routing → List RoutingEvent → Prop where
  | accepted (client : Nat) (htask : s.clients client = .absent) :
      Stepped ids packets config s (.accepts client)
        (s.setClient client (.login ClientHandler.start)) []
  | received (client : Nat) (packet : RawPacket) (sent : Bool) (state : LoginState)
      (htask : s.clients client = .login state) :
      Stepped ids packets config s (.receives client packet sent)
        (s.afterLogin config client (ClientHandler.handle packets state packet sent)).1
        (s.afterLogin config client (ClientHandler.handle packets state packet sent)).2
  | lookedUp (client : Nat) (username : Option String) (uuid : Uuid) (backendName : String)
      (htask : s.clients client = .lookup username uuid backendName) :
      Stepped ids packets config s (.looksUp client)
        (s.afterLookup client username uuid backendName).1
        (s.afterLookup client username uuid backendName).2
  | connectFailed (client : Nat) (connector : BackendConnector) (backendName : String)
      (htask : s.clients client = .connecting connector backendName) :
      Stepped ids packets config s (.connects client none) (s.setClient client .ended) []
  | connected (client : Nat) (connector : BackendConnector) (backendName : String)
      (threshold : Option UInt32) (htask : s.clients client = .connecting connector backendName) :
      Stepped ids packets config s (.connects client (some threshold))
        (s.setClient client
          (.forwarding (.start (.new connector.uuid backendName threshold)))) []
  | forwarded (client : Nat) (input : Input) (f f' : Forwarding) (events : List ForwardEvent)
      (htask : s.clients client = .forwarding f)
      (hforward : Forwarding.step ids config f (input.withBackends s.backends) =
        some (f', events)) :
      Stepped ids packets config s (.forwards client input)
        (s.afterForward client f (input.withBackends s.backends) events).1
        (s.afterForward client f (input.withBackends s.backends) events).2
  | stored (client : Nat) (f : Forwarding) (input : Input) (uuid : Uuid) (serverName : String)
      (htask : s.clients client = .storing f input uuid serverName) :
      Stepped ids packets config s (.stores client)
        ((s.setTargetServer uuid serverName).setClient client (.writing f input))
        [.switched client uuid serverName]
  | wrote (client : Nat) (sent : Bool) (f : Forwarding) (input : Input)
      (htask : s.clients client = .writing f input) :
      Stepped ids packets config s (.writes client sent)
        (s.afterWrite client (Forwarding.step ids config f (input.withSent sent))).1
        (s.afterWrite client (Forwarding.step ids config f (input.withSent sent))).2
  | added (name : String) (backend : BackendServer) :
      Stepped ids packets config s (.addDynamic name backend)
        { s with backends := s.backends.addDynamic name backend } [.registered name]
  | removed (name : String) :
      Stepped ids packets config s (.removeDynamic name)
        { s with backends := (s.backends.removeDynamic name).2 }
        (if (s.backends.removeDynamic name).1.isSome then [.unregistered name] else [])

theorem stepped_of_step {ids : PacketIds} {packets : LoginPackets} {config : ProxyConfig}
    {s s' : Routing} {label : RoutingLabel} {t : List RoutingEvent}
    (hstep : (system ids packets config).step s label = some (s', t)) :
    Stepped ids packets config s label s' t := by
  cases label with
  | accepts client =>
      simp only [system, step] at hstep
      split at hstep
      · rename_i htask
        cases hstep
        exact .accepted client htask
      · cases hstep
  | receives client packet sent =>
      simp only [system, step] at hstep
      split at hstep
      · rename_i state htask
        obtain rfl : _ = s' := congrArg Prod.fst (Option.some.inj hstep)
        obtain rfl : _ = t := congrArg Prod.snd (Option.some.inj hstep)
        exact .received client packet sent state htask
      · cases hstep
  | looksUp client =>
      simp only [system, step] at hstep
      split at hstep
      · rename_i username uuid backendName htask
        obtain rfl : _ = s' := congrArg Prod.fst (Option.some.inj hstep)
        obtain rfl : _ = t := congrArg Prod.snd (Option.some.inj hstep)
        exact .lookedUp client username uuid backendName htask
      · cases hstep
  | connects client result =>
      simp only [system, step] at hstep
      split at hstep
      · rename_i connector backendName htask
        cases hstep
        exact .connectFailed client connector backendName htask
      · rename_i connector backendName threshold htask
        cases hstep
        exact .connected client connector backendName threshold htask
      · cases hstep
  | forwards client input =>
      simp only [system, step] at hstep
      split at hstep
      · rename_i f htask
        obtain ⟨⟨f', events⟩, hforward, heq⟩ := Option.map_eq_some_iff.1 hstep
        obtain rfl : _ = s' := congrArg Prod.fst heq
        obtain rfl : _ = t := congrArg Prod.snd heq
        exact .forwarded client input f f' events htask hforward
      · cases hstep
  | stores client =>
      simp only [system, step] at hstep
      split at hstep
      · rename_i f input uuid serverName htask
        cases hstep
        exact .stored client f input uuid serverName htask
      · cases hstep
  | writes client sent =>
      simp only [system, step] at hstep
      split at hstep
      · rename_i f input htask
        obtain rfl : _ = s' := congrArg Prod.fst (Option.some.inj hstep)
        obtain rfl : _ = t := congrArg Prod.snd (Option.some.inj hstep)
        exact .wrote client sent f input htask
      · cases hstep
  | addDynamic name backend =>
      cases hstep
      exact .added name backend
  | removeDynamic name =>
      cases hstep
      exact .removed name

end Routing

end SteelProxy
