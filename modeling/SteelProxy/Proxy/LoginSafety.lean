import SteelProxy.Proxy.Routing

/-!
# Handshake and login safety

What happens on the connections of the clients up to the start of forwarding, in every run of the
proxy: the packets that are accepted, the replies, the lookup of a backend and the contact with
it, and the panics. The invariant reads the variables of the login loop off the events of the
connection. The one panic is that of `player_uuid.unwrap()`, at an acknowledgement that no
accepted hello precedes.
-/

set_option autoImplicit false

namespace SteelProxy

open SteelProxy.Library SteelProxy.Library.Transition

/-- An event of a connection: an accepted packet, a reply, the lookup of a backend for a player,
the contact with a backend, or a panic of the task. -/
inductive LoginEvent where
  | intention (intent : ClientIntent)
  | hello (name : String) (uuid : Uuid)
  | acknowledged
  | replied (reply : LoginReply)
  | lookedUp (username : Option String) (uuid : Uuid)
  | contacted (connector : BackendConnector)
  | panicked
  deriving DecidableEq, Repr

namespace LoginEvent

/-- The name and the uuid of an accepted hello. -/
def identity : LoginEvent → Option (String × Uuid)
  | .hello name uuid => some (name, uuid)
  | _ => none

/-- The name and the uuid that `CLoginFinished` sends back. -/
def confirmed : LoginEvent → Option (String × Uuid)
  | .replied (.loginFinished uuid name) => some (name, uuid)
  | _ => none

/-- The last hello before the acknowledgement has the name and the uuid, and the last
`CLoginFinished` has sent them back. -/
def Identified (events : List LoginEvent) (username : Option String) (uuid : Uuid) : Prop :=
  ∃ name before after, username = some name ∧ events = before ++ .acknowledged :: after ∧
    lastOf identity before = some (name, uuid) ∧ lastOf confirmed before = some (name, uuid) ∧
      ∀ e ∈ after, e.identity = none ∧ e.confirmed = none

/-- What an event asks of the events of the connection before it. -/
def Safe (pre : List LoginEvent) : LoginEvent → Prop
  | .replied reply =>
      match reply with
      | .loginFinished _ _ => .intention .login ∈ pre ∨ .intention .transfer ∈ pre
      | .status _ => .intention .status ∈ pre
      | .pong _ => .intention .status ∈ pre
  | .lookedUp username uuid => Identified pre username uuid
  | .contacted connector => Identified pre (some connector.username) connector.uuid
  | .panicked => False
  | _ => True

theorem Identified.append_one {events : List LoginEvent} {username : Option String} {uuid : Uuid}
    {e : LoginEvent} (h : Identified events username uuid) (hidentity : e.identity = none)
    (hconfirmed : e.confirmed = none) : Identified (events ++ [e]) username uuid := by
  obtain ⟨name, before, after, hname, rfl, hlast, hback, hquiet⟩ := h
  refine ⟨name, before, after ++ [e], hname, by simp, hlast, hback, ?_⟩
  intro x hx
  rcases List.mem_append.1 hx with hx | hx
  · exact hquiet x hx
  · rw [List.mem_singleton.1 hx]
    exact ⟨hidentity, hconfirmed⟩

end LoginEvent

/-- The reply or the panic of an iteration. -/
def LoginStep.outcome : LoginStep → List LoginEvent
  | .next _ reply => reply.toList.map .replied
  | .acknowledged _ _ => []
  | .finished reply => reply.toList.map .replied
  | .failed => []
  | .panicked => [.panicked]

namespace ClientHandler

/-- The packet that an iteration of the loop accepts. -/
def accepted (packets : LoginPackets) (state : LoginState) (packet : RawPacket) :
    List LoginEvent :=
  match state.protocol with
  | .handshake =>
      if packet.id = packets.intention then
        (packets.readIntention packet.payload).toList.map .intention
      else []
  | .login =>
      if packet.id = packets.hello then
        (packets.readHello packet.payload).toList.map fun (name, uuid) => .hello name uuid
      else if packet.id = packets.loginAcknowledged then [.acknowledged]
      else []
  | _ => []

/-- The events of an iteration. -/
def observe (packets : LoginPackets) (state : LoginState) (packet : RawPacket) (sent : Bool) :
    List LoginEvent :=
  accepted packets state packet ++ (handle packets state packet sent).outcome

/-- The acknowledgement arrives before an accepted hello. -/
def AcknowledgedFirst (packets : LoginPackets) (state : LoginState) (packet : RawPacket) : Prop :=
  state.protocol = .login ∧ packet.id ≠ packets.hello ∧ packet.id = packets.loginAcknowledged ∧
    state.playerUuid = none

/-- The iterations of the loop with their events. -/
inductive Iterated (packets : LoginPackets) (state : LoginState) (packet : RawPacket) :
    LoginStep → List LoginEvent → Prop where
  | intended (intent : ClientIntent) (hprotocol : state.protocol = .handshake) :
      Iterated packets state packet
        (.next { state with protocol := if intent = .status then .status else .login } none)
        [.intention intent]
  | described (hprotocol : state.protocol = .status) :
      Iterated packets state packet (.next state (some (.status statusResponse)))
        [.replied (.status statusResponse)]
  | ponged (time : Int64) (hprotocol : state.protocol = .status) :
      Iterated packets state packet (.finished (some (.pong time))) [.replied (.pong time)]
  | greeted (name : String) (uuid : Uuid) (hprotocol : state.protocol = .login) :
      Iterated packets state packet
        (.next { state with username := some name, playerUuid := some uuid }
          (some (.loginFinished uuid name)))
        [.hello name uuid, .replied (.loginFinished uuid name)]
  | unanswered (name : String) (uuid : Uuid) :
      Iterated packets state packet .failed [.hello name uuid]
  | acknowledged (uuid : Uuid) (hplayer : state.playerUuid = some uuid) :
      Iterated packets state packet (.acknowledged state.username uuid) [.acknowledged]
  | panicked (hfirst : AcknowledgedFirst packets state packet) :
      Iterated packets state packet .panicked [.acknowledged, .panicked]
  | failed : Iterated packets state packet .failed []
  | left : Iterated packets state packet (.finished none) []
  | skipped : Iterated packets state packet (.next state none) []

section Iterations

variable {packets : LoginPackets} {state : LoginState} {packet : RawPacket} {sent : Bool}

theorem iterated_handle :
    Iterated packets state packet (handle packets state packet sent)
      (observe packets state packet sent) := by
  obtain ⟨protocol, username, playerUuid⟩ := state
  rw [observe]
  cases protocol with
  | handshake =>
      rw [handle, handleHandshake, accepted]
      by_cases hid : packet.id = packets.intention
      · rw [if_pos hid, if_pos hid]
        cases hread : packets.readIntention packet.payload with
        | none => exact .failed
        | some intent =>
            have hintended :=
              @Iterated.intended packets ⟨.handshake, username, playerUuid⟩ packet intent rfl
            cases intent <;> exact hintended
      · rw [if_neg hid, if_neg hid]
        exact .skipped
  | status =>
      rw [handle, handleStatus, accepted]
      by_cases hid : packet.id = packets.statusRequest
      · rw [if_pos hid]
        cases sent with
        | true => exact .described rfl
        | false => exact .failed
      · rw [if_neg hid]
        by_cases hping : packet.id = packets.pingRequest
        · rw [if_pos hping]
          cases hread : packets.readPing packet.payload with
          | none => exact .failed
          | some time =>
              cases sent with
              | true => exact .ponged time rfl
              | false => exact .failed
        · rw [if_neg hping]
          exact .skipped
  | login =>
      rw [handle, handleLogin, accepted]
      by_cases hid : packet.id = packets.hello
      · rw [if_pos hid, if_pos hid]
        cases hread : packets.readHello packet.payload with
        | none => exact .failed
        | some hello =>
            obtain ⟨name, uuid⟩ := hello
            cases sent with
            | true => exact .greeted name uuid rfl
            | false => exact .unanswered name uuid
      · rw [if_neg hid, if_neg hid]
        by_cases hack : packet.id = packets.loginAcknowledged
        · rw [if_pos hack, if_pos hack]
          cases playerUuid with
          | none => exact .panicked ⟨rfl, hid, hack, rfl⟩
          | some uuid =>
              exact @Iterated.acknowledged packets ⟨.login, username, some uuid⟩ packet uuid rfl
        · rw [if_neg hack, if_neg hack]
          exact .skipped
  | config => exact .left
  | play => exact .left

theorem handle_eq_panicked_iff :
    handle packets state packet sent = .panicked ↔ AcknowledgedFirst packets state packet := by
  constructor
  · intro hpanicked
    have hiterated := @iterated_handle packets state packet sent
    rw [hpanicked] at hiterated
    generalize observe packets state packet sent = events at hiterated
    cases hiterated with
    | panicked hfirst => exact hfirst
  · rintro ⟨hprotocol, hid, hack, hplayer⟩
    rw [handle, hprotocol]
    dsimp only
    rw [handleLogin, if_neg hid, if_pos hack, hplayer]

end Iterations

end ClientHandler

/-- The client whose task makes the step. -/
def RoutingLabel.client : RoutingLabel → Option Nat
  | .accepts client => some client
  | .receives client _ _ => some client
  | .looksUp client => some client
  | .connects client _ => some client
  | .forwards client _ => some client
  | .stores client => some client
  | .writes client _ => some client
  | .addDynamic _ _ => none
  | .removeDynamic _ => none

/-- The panic of the task behind the lookup. -/
def RoutingEvent.panic : RoutingEvent → Option LoginEvent
  | .panicked _ => some .panicked
  | _ => none

namespace LoginSafety

/-- The events of a step on the connection of its client. -/
def observe (packets : LoginPackets) (s : Routing) (label : RoutingLabel) :
    ClientTask → List LoginEvent
  | .login state =>
      match label with
      | .receives _ packet sent => ClientHandler.observe packets state packet sent
      | _ => []
  | .lookup username uuid backendName =>
      match label with
      | .looksUp client =>
          .lookedUp username uuid ::
            (s.afterLookup client username uuid backendName).2.filterMap RoutingEvent.panic
      | _ => []
  | .connecting connector _ =>
      match label with
      | .connects _ _ => [.contacted connector]
      | _ => []
  | _ => []

/-- The events of a step, with their connection. -/
def connectionEvents (packets : LoginPackets) (s : Routing) (label : RoutingLabel) :
    List (Nat × LoginEvent) :=
  match label.client with
  | none => []
  | some client => (observe packets s label (s.clients client)).map (client, ·)

/-- The proxy with the events of its connections. -/
def system (ids : PacketIds) (packets : LoginPackets) (config : ProxyConfig) :
    System Routing RoutingLabel (Nat × LoginEvent) :=
  (Routing.system ids packets config).observed (connectionEvents packets)

/-- The events of one connection. -/
def eventsOf (client : Nat) (tr : List (Nat × LoginEvent)) : List LoginEvent :=
  tr.filterMap fun e => if e.1 = client then some e.2 else none

/-- Every event of a connection is safe after the events of that connection before it. -/
def LoginSafe (tr : List (Nat × LoginEvent)) : Prop :=
  Justified (fun pre e => LoginEvent.Safe (eventsOf e.1 pre) e.2) tr

/-- No acknowledgement arrives in the login phase before an accepted hello. -/
def HelloFirst (packets : LoginPackets) (s : Routing) : RoutingLabel → Prop
  | .receives client packet _ =>
      ∀ state, s.clients client = .login state →
        ¬ ClientHandler.AcknowledgedFirst packets state packet
  | _ => True

/-! ## The invariant -/

/-- The variables of the login loop, read off the events of the connection. -/
structure LoggingIn (events : List LoginEvent) (state : LoginState) : Prop where
  username : state.username = (lastOf LoginEvent.identity events).map Prod.fst
  playerUuid : state.playerUuid = (lastOf LoginEvent.identity events).map Prod.snd
  confirmed : lastOf LoginEvent.confirmed events = lastOf LoginEvent.identity events
  status : state.protocol = .status → .intention .status ∈ events
  login : state.protocol = .login → .intention .login ∈ events ∨ .intention .transfer ∈ events

/-- What the events of a connection say about its task. -/
def Stage (events : List LoginEvent) : ClientTask → Prop
  | .absent => events = []
  | .login state => LoggingIn events state
  | .lookup username uuid _ => LoginEvent.Identified events username uuid
  | .connecting connector _ =>
      LoginEvent.Identified events (some connector.username) connector.uuid
  | _ => True

/-- What the events of a connection say after an iteration of its login loop. -/
def StageAfter (events : List LoginEvent) : LoginStep → Prop
  | .next state _ => LoggingIn events state
  | .acknowledged username uuid => LoginEvent.Identified events username uuid
  | _ => True

section Connection

variable {packets : LoginPackets} {config : ProxyConfig} {state : LoginState} {packet : RawPacket}
  {step : LoginStep} {events t : List LoginEvent}

theorem loggingIn_start : LoggingIn [] ClientHandler.start where
  username := rfl
  playerUuid := rfl
  confirmed := rfl
  status h := by cases h
  login h := by cases h

/-- An event that tells nothing about the player. -/
theorem LoggingIn.append_quiet {e : LoginEvent} {protocol : ConnectionProtocol}
    (h : LoggingIn events state) (hidentity : e.identity = none) (hconfirmed : e.confirmed = none)
    (hstatus : protocol = .status → .intention .status ∈ events ++ [e])
    (hlogin : protocol = .login →
      .intention .login ∈ events ++ [e] ∨ .intention .transfer ∈ events ++ [e]) :
    LoggingIn (events ++ [e]) { state with protocol := protocol } where
  username := by
    rw [lastOf_append_one, hidentity]
    exact h.username
  playerUuid := by
    rw [lastOf_append_one, hidentity]
    exact h.playerUuid
  confirmed := by
    rw [lastOf_append_one, lastOf_append_one, hidentity, hconfirmed]
    exact h.confirmed
  status := hstatus
  login := hlogin

/-- An iteration of the login loop keeps the invariant, and its events are safe unless it
panics. -/
theorem LoggingIn.iterated (h : LoggingIn events state)
    (hiterated : ClientHandler.Iterated packets state packet step t) :
    StageAfter (events ++ t) step ∧
      (Justified (fun pre => LoginEvent.Safe (events ++ pre)) t ↔ step ≠ .panicked) := by
  cases hiterated with
  | intended intent hprotocol =>
      refine ⟨h.append_quiet rfl rfl ?_ ?_, by simp [justified_singleton_iff, LoginEvent.Safe]⟩
      · cases intent <;> simp
      · cases intent <;> simp
  | described hprotocol =>
      refine ⟨h.append_quiet rfl rfl ?_ ?_, ?_⟩
      · exact fun _ => List.mem_append_left _ (h.status hprotocol)
      · simp [hprotocol]
      · simp [justified_singleton_iff, LoginEvent.Safe, h.status hprotocol]
  | ponged time hprotocol =>
      exact ⟨trivial, by simp [justified_singleton_iff, LoginEvent.Safe, h.status hprotocol]⟩
  | greeted name uuid hprotocol =>
      refine ⟨⟨?_, ?_, ?_, ?_, ?_⟩, ?_⟩
      · rw [List.append_cons, lastOf_append_one, lastOf_append_one]
        rfl
      · rw [List.append_cons, lastOf_append_one, lastOf_append_one]
        rfl
      · rw [List.append_cons, lastOf_append_one, lastOf_append_one, lastOf_append_one,
          lastOf_append_one]
        rfl
      · simp [hprotocol]
      · intro _
        exact (h.login hprotocol).imp (List.mem_append_left _) (List.mem_append_left _)
      · simp [justified_cons_iff, LoginEvent.Safe, h.login hprotocol]
  | unanswered name uuid => exact ⟨trivial, by simp [justified_singleton_iff, LoginEvent.Safe]⟩
  | acknowledged uuid hplayer =>
      refine ⟨?_, by simp [justified_singleton_iff, LoginEvent.Safe]⟩
      rw [h.playerUuid] at hplayer
      obtain ⟨⟨name, uuid'⟩, hlast, rfl⟩ := Option.map_eq_some_iff.1 hplayer
      refine ⟨name, events, [], ?_, rfl, hlast, h.confirmed.trans hlast, by simp⟩
      rw [h.username, hlast]
      rfl
  | panicked hfirst =>
      exact ⟨trivial, by simp [justified_cons_iff, LoginEvent.Safe]⟩
  | failed => exact ⟨trivial, by simp⟩
  | left => exact ⟨trivial, by simp⟩
  | skipped =>
      rw [List.append_nil]
      exact ⟨h, by simp⟩

/-- The task after an iteration of the login loop. -/
theorem stage_afterLogin (s : Routing) (client : Nat) (h : StageAfter events step) :
    Stage events ((s.afterLogin config client step).1.clients client) := by
  cases step with
  | next state reply =>
      rw [Routing.afterLogin, Routing.clients_setClient, if_pos rfl]
      exact h
  | acknowledged username uuid =>
      rw [Routing.afterLogin]
      dsimp only
      rw [Routing.clients_setClient, if_pos rfl]
      exact h
  | finished reply =>
      rw [Routing.afterLogin, Routing.clients_setClient, if_pos rfl]
      trivial
  | failed =>
      rw [Routing.afterLogin, Routing.clients_setClient, if_pos rfl]
      trivial
  | panicked =>
      rw [Routing.afterLogin, Routing.clients_setClient, if_pos rfl]
      trivial

/-- The task after the lookup of a backend. -/
theorem stage_afterLookup (s : Routing) (client : Nat) {username : Option String} {uuid : Uuid}
    (backendName : String) (h : LoginEvent.Identified events username uuid) :
    Stage events ((s.afterLookup client username uuid backendName).1.clients client) := by
  rw [Routing.afterLookup]
  cases s.backends.get backendName with
  | none =>
      dsimp only
      rw [Routing.clients_setClient, if_pos rfl]
      trivial
  | some backend =>
      cases username with
      | none =>
          dsimp only
          rw [Routing.clients_setClient, if_pos rfl]
          trivial
      | some username =>
          dsimp only
          rw [Routing.clients_setClient, if_pos rfl]
          exact h

end Connection

/-- Every task is where the events of its connection say. -/
def Proceeds (s : Routing) (tr : List (Nat × LoginEvent)) : Prop :=
  ∀ client, Stage (eventsOf client tr) (s.clients client)

section Steps

variable {ids : PacketIds} {packets : LoginPackets} {config : ProxyConfig} {s s' : Routing}
  {label : RoutingLabel} {client c : Nat} {events : List LoginEvent}
  {tr : List (Nat × LoginEvent)} {t₀ : List RoutingEvent}

theorem eventsOf_append {t : List (Nat × LoginEvent)} :
    eventsOf client (tr ++ t) = eventsOf client tr ++ eventsOf client t :=
  List.filterMap_append

theorem eventsOf_map (client c : Nat) (events : List LoginEvent) :
    eventsOf c (events.map (client, ·)) = if client = c then events else [] := by
  rw [eventsOf, List.filterMap_map]
  by_cases h : client = c
  · rw [if_pos h]
    have hsome : (fun e : Nat × LoginEvent => if e.1 = c then some e.2 else none) ∘ (client, ·) =
        some := by
      funext e
      exact if_pos h
    rw [hsome, List.filterMap_some]
  · rw [if_neg h]
    rw [List.filterMap_eq_nil_iff]
    intro e _
    exact if_neg h

theorem clients_afterLogin_of_ne {step : LoginStep} (hne : c ≠ client) :
    (s.afterLogin config client step).1.clients c = s.clients c := by
  cases step <;> simp [Routing.afterLogin, Routing.clients_setClient, Routing.getTargetServer, hne]

theorem clients_afterLookup_of_ne {username : Option String} {uuid : Uuid} {backendName : String}
    (hne : c ≠ client) :
    (s.afterLookup client username uuid backendName).1.clients c = s.clients c := by
  rw [Routing.afterLookup]
  cases s.backends.get backendName with
  | none => simp [Routing.clients_setClient, hne]
  | some backend => cases username <;> simp [Routing.clients_setClient, hne]

/-- A handler ends in the forwarder, at a write, or between the check and the store of
`switch_server`. -/
theorem clients_afterForward (s : Routing) (client c : Nat) (f : Forwarding) (input : Input)
    (events₀ : List ForwardEvent) :
    (c ≠ client → (s.afterForward client f input events₀).1.clients c = s.clients c) ∧
      ∀ events, Stage events ((s.afterForward client f input events₀).1.clients client) := by
  rw [Routing.afterForward]
  cases events₀.findSome? ForwardEvent.storedTarget with
  | none => exact ⟨fun hne => by simp [Routing.clients_setClient, hne],
      fun _ => by simp [Routing.clients_setClient, Stage]⟩
  | some target => exact ⟨fun hne => by simp [Routing.clients_setClient, hne],
      fun _ => by simp [Routing.clients_setClient, Stage]⟩

theorem clients_afterWrite (s : Routing) (client c : Nat)
    (result : Option (Forwarding × List ForwardEvent)) :
    (c ≠ client → (s.afterWrite client result).1.clients c = s.clients c) ∧
      ∀ events, Stage events ((s.afterWrite client result).1.clients client) := by
  cases result with
  | none => exact ⟨fun hne => by simp [Routing.afterWrite, Routing.clients_setClient, hne],
      fun _ => by simp [Routing.afterWrite, Routing.clients_setClient, Stage]⟩
  | some result =>
      refine ⟨fun hne => by simp [Routing.afterWrite, Routing.clients_setClient, hne], ?_⟩
      intro events
      rw [Routing.afterWrite, Routing.clients_setClient, if_pos rfl]
      split <;> trivial

/-- A step leaves the tasks of the other clients alone. -/
theorem clients_of_ne (h : Routing.Stepped ids packets config s label s' t₀)
    (hne : label.client ≠ some c) : s'.clients c = s.clients c := by
  have hne' : ∀ client, label.client = some client → c ≠ client := by
    rintro client hclient rfl
    exact hne hclient
  cases h with
  | accepted client htask => rw [Routing.clients_setClient, if_neg (hne' client rfl)]
  | received client packet sent state htask => exact clients_afterLogin_of_ne (hne' client rfl)
  | lookedUp client username uuid backendName htask =>
      exact clients_afterLookup_of_ne (hne' client rfl)
  | connectFailed client connector backendName htask =>
      rw [Routing.clients_setClient, if_neg (hne' client rfl)]
  | connected client connector backendName threshold htask =>
      rw [Routing.clients_setClient, if_neg (hne' client rfl)]
  | forwarded client input f f' events htask hforward =>
      exact (clients_afterForward s client c f _ events).1 (hne' client rfl)
  | stored client f input uuid serverName htask =>
      rw [Routing.clients_setClient, if_neg (hne' client rfl)]
      rfl
  | wrote client sent f input htask =>
      exact (clients_afterWrite s client c _).1 (hne' client rfl)
  | added name backend => rfl
  | removed name => rfl

/-- The client of a step keeps to its stage, and its events are safe unless it acknowledges the
login before an accepted hello. -/
theorem stage_of_stepped (hstepped : Routing.Stepped ids packets config s label s' t₀)
    (hclient : label.client = some client) (h : Stage events (s.clients client)) :
    Stage (events ++ observe packets s label (s.clients client)) (s'.clients client) ∧
      (Justified (fun pre => LoginEvent.Safe (events ++ pre))
          (observe packets s label (s.clients client)) ↔ HelloFirst packets s label) := by
  cases hstepped with
  | accepted _ htask =>
      cases hclient
      rw [htask] at h ⊢
      cases h
      rw [Routing.clients_setClient, if_pos rfl]
      exact ⟨loggingIn_start, by simp [observe, HelloFirst]⟩
  | received _ packet sent state htask =>
      cases hclient
      rw [htask] at h ⊢
      obtain ⟨hafter, hsafe⟩ :=
        LoggingIn.iterated h (@ClientHandler.iterated_handle packets state packet sent)
      refine ⟨stage_afterLogin s client hafter, hsafe.trans ?_⟩
      rw [Ne, ClientHandler.handle_eq_panicked_iff, HelloFirst]
      simp only [htask, ClientTask.login.injEq, forall_eq']
  | lookedUp _ username uuid backendName htask =>
      cases hclient
      rw [htask] at h ⊢
      -- the name is that of a hello, so the second `unwrap` does not panic
      have hevents : observe packets s (.looksUp client) (.lookup username uuid backendName) =
          [.lookedUp username uuid] := by
        obtain ⟨name, before, after, rfl, -⟩ := h
        simp only [observe, Routing.afterLookup]
        cases s.backends.get backendName with
        | none => rfl
        | some backend => rfl
      rw [hevents]
      refine ⟨stage_afterLookup s client backendName (h.append_one rfl rfl), ?_⟩
      rw [justified_singleton_iff, List.append_nil]
      exact iff_of_true h trivial
  | connectFailed _ connector backendName htask =>
      cases hclient
      rw [htask] at h ⊢
      rw [Routing.clients_setClient, if_pos rfl, observe, justified_singleton_iff, List.append_nil]
      exact ⟨trivial, iff_of_true h trivial⟩
  | connected _ connector backendName threshold htask =>
      cases hclient
      rw [htask] at h ⊢
      rw [Routing.clients_setClient, if_pos rfl, observe, justified_singleton_iff, List.append_nil]
      exact ⟨trivial, iff_of_true h trivial⟩
  | forwarded _ input f f' events₀ htask hforward =>
      cases hclient
      rw [htask]
      exact ⟨(clients_afterForward s client client f _ events₀).2 _,
        by simp [observe, HelloFirst]⟩
  | stored _ f input uuid serverName htask =>
      cases hclient
      rw [htask, Routing.clients_setClient, if_pos rfl]
      exact ⟨trivial, by simp [observe, HelloFirst]⟩
  | wrote _ sent f input htask =>
      cases hclient
      rw [htask]
      exact ⟨(clients_afterWrite s client client _).2 _, by simp [observe, HelloFirst]⟩
  | added name backend => cases hclient
  | removed name => cases hclient

/-- One step of the proxy keeps the invariant, and its events are safe exactly when it meets the
condition. -/
theorem proceeds_step {t : List (Nat × LoginEvent)} (h : Proceeds s tr)
    (hstep : (system ids packets config).step s label = some (s', t)) :
    Proceeds s' (tr ++ t) ∧
      (Justified (fun pre e => LoginEvent.Safe (eventsOf e.1 (tr ++ pre)) e.2) t ↔
        HelloFirst packets s label) := by
  obtain ⟨⟨t₀, hrouting⟩, rfl⟩ := (System.step_observed_iff _).1 hstep
  have hstepped := Routing.stepped_of_step hrouting
  cases hclient : label.client with
  | none =>
      have hnil : connectionEvents packets s label = [] := by rw [connectionEvents, hclient]
      rw [hnil, List.append_nil]
      refine ⟨?_, ?_⟩
      · intro c
        rw [clients_of_ne hstepped (by simp [hclient])]
        exact h c
      · cases label with
        | addDynamic name backend => simp [HelloFirst]
        | removeDynamic name => simp [HelloFirst]
        | _ => cases hclient
  | some client =>
      have hevents : connectionEvents packets s label =
          (observe packets s label (s.clients client)).map (client, ·) := by
        rw [connectionEvents, hclient]
      obtain ⟨hstage, hsafe⟩ := stage_of_stepped hstepped hclient (h client)
      rw [hevents]
      refine ⟨?_, ?_⟩
      · intro c
        rw [eventsOf_append, eventsOf_map]
        by_cases heq : client = c
        · rw [if_pos heq, ← heq]
          exact hstage
        · have hne : label.client ≠ some c := by
            rw [hclient]
            exact fun hsome => heq (Option.some.inj hsome)
          rw [if_neg heq, List.append_nil, clients_of_ne hstepped hne]
          exact h c
      · rw [justified_map_iff, ← hsafe]
        simp only [eventsOf_append, eventsOf_map, if_true]

end Steps

/-! ## Runs -/

/-- In every run of the proxy, no connection sees a panic, a reply before its intention, or the
lookup of a backend for anyone but the player of the last hello, if and only if no client
acknowledges its login before an accepted hello. -/
theorem login_safe_iff (ids : PacketIds) (packets : LoginPackets) (config : ProxyConfig)
    (labels : List RoutingLabel) (s : Routing) (tr : List (Nat × LoginEvent))
    (hrun : (system ids packets config).exec (Routing.start config) labels = some (s, tr)) :
    LoginSafe tr ↔
      (system ids packets config).Meets (HelloFirst packets) (Routing.start config) labels := by
  have hstart : Proceeds (Routing.start config) [] := fun _ => rfl
  exact @justified_iff_meets _ _ _
    (fun pre e => LoginEvent.Safe (eventsOf e.1 pre) e.2) (system ids packets config)
    (HelloFirst packets) Proceeds (fun _ _ _ _ _ h hstep => proceeds_step h hstep) _ _ _ [] tr
    hstart hrun

/-- A client connects and logs in, up to the contact with its backend. -/
def contactSample : List RoutingLabel :=
  [.accepts 0, .receives 0 sampleIntention true, .receives 0 sampleHello true,
    .receives 0 ⟨3, []⟩ true, .looksUp 0, .connects 0 (some none)]

/-- The events of `contactSample`. -/
def contactTrace : List (Nat × LoginEvent) :=
  [(0, .intention .login), (0, .hello "Alex" 1), (0, .replied (.loginFinished 1 "Alex")),
    (0, .acknowledged), (0, .lookedUp (some "Alex") 1),
    (0, .contacted ⟨"10.0.0.1", 25566, "Alex", 1⟩)]

theorem login_safe_contactTrace :
    LoginSafe contactTrace ↔
      (system .sample .sample sampleConfig).Meets (HelloFirst .sample)
        (Routing.start sampleConfig) contactSample := by
  have hevents : ((system .sample .sample sampleConfig).exec (Routing.start sampleConfig)
      contactSample).map Prod.snd = some contactTrace := by decide +kernel
  obtain ⟨s, hrun⟩ := System.exists_exec_of_events _ hevents
  exact login_safe_iff .sample .sample sampleConfig contactSample s contactTrace hrun

/-- A client that acknowledges a login it has not begun. -/
def unwrapSample : List RoutingLabel :=
  [.accepts 0, .receives 0 sampleIntention true, .receives 0 ⟨3, []⟩ true]

/-- The acknowledgement without a hello panics. -/
theorem acknowledged_first_panics :
    ∃ s tr, (system .sample .sample sampleConfig).exec (Routing.start sampleConfig) unwrapSample =
        some (s, tr) ∧ (0, .panicked) ∈ tr ∧ ¬ LoginSafe tr := by
  have hevents : ((system .sample .sample sampleConfig).exec (Routing.start sampleConfig)
      unwrapSample).map Prod.snd =
        some [(0, .intention .login), (0, .acknowledged), (0, .panicked)] := by decide +kernel
  obtain ⟨s, hrun⟩ := System.exists_exec_of_events _ hevents
  refine ⟨s, _, hrun, by simp, ?_⟩
  intro hsafe
  exact hsafe [(0, .intention .login), (0, .acknowledged)] (0, .panicked) [] rfl

end LoginSafety

end SteelProxy
