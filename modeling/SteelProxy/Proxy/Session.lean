import SteelProxy.Library.Fifo
import SteelProxy.Proxy.Transparency

/-!
# A session between a client and a backend

The forwarder between two parties that follow the protocol, over FIFO links in both directions.
A party knows its phase: the backend closes a phase with `C_FINISH_CONFIGURATION` or
`C_START_CONFIGURATION` and sends nothing until the client has answered with
`S_FINISH_CONFIGURATION` or `S_CONFIGURATION_ACKNOWLEDGED`; the client changes its phase with the
answer, the backend when it reads it. Packets under way to the forwarder carry the phase in which
they were sent; the forwarder does not see it.
-/

set_option autoImplicit false

namespace SteelProxy

open SteelProxy.Library SteelProxy.Library.Transition

/-- The ids of the forwarder with the other ids that change the phase. -/
structure SessionIds extends PacketIds where
  cFinishConfiguration : Int32
  cStartConfiguration : Int32
  sConfigurationAcknowledged : Int32

/-- The phase after `phase` in a session. -/
def ConnectionProtocol.next : ConnectionProtocol → ConnectionProtocol
  | .config => .play
  | _ => .config

namespace SessionIds

/-- The packet with which the backend closes a phase. -/
def closing (ids : SessionIds) : ConnectionProtocol → Int32
  | .config => ids.cFinishConfiguration
  | _ => ids.cStartConfiguration

/-- The packet with which the client answers and leaves a phase. -/
def answer (ids : SessionIds) : ConnectionProtocol → Int32
  | .config => ids.configFinishConfiguration
  | _ => ids.sConfigurationAcknowledged

/-- A choice of the other ids. -/
def sample : SessionIds where
  toPacketIds := .sample
  cFinishConfiguration := 3
  cStartConfiguration := 116
  sConfigurationAcknowledged := 15

end SessionIds

/-- A client: its phase, and whether it has to answer the end of the phase. -/
structure ClientSide where
  phase : ConnectionProtocol
  answerDue : Bool
  deriving DecidableEq, Repr

/-- A backend: its phase, and whether it waits for the answer to its end. -/
structure BackendSide where
  phase : ConnectionProtocol
  waiting : Bool
  deriving DecidableEq, Repr

namespace ClientSide

/-- The client reads a packet. Only forwarded packets change its phase. -/
def read (ids : SessionIds) (c : ClientSide) (w : ClientWrite) : ClientSide :=
  match w.read with
  | some packet => if packet.id = ids.closing c.phase then { c with answerDue := true } else c
  -- what the proxy originates is neither closing packet
  | none => c

end ClientSide

namespace BackendSide

/-- The backend reads a frame. -/
def read (ids : SessionIds) (b : BackendSide) (frame : EncodedPacket) : BackendSide :=
  match frame.read with
  | some packet =>
      if b.waiting = true ∧ packet.id = ids.answer b.phase then ⟨b.phase.next, false⟩ else b
  | none => b

end BackendSide

/-- The two parties, the forwarder and the four links. -/
structure Session where
  client : ClientSide
  backend : BackendSide
  proxy : Forwarding
  fromClient : List (ConnectionProtocol × RawPacket)
  toBackend : List EncodedPacket
  fromBackend : List (ConnectionProtocol × RawPacket)
  toClient : List ClientWrite
  deriving DecidableEq, Repr

/-- The steps of a session. `proxyOther` is an input of the forwarder that is no packet. -/
inductive SessionLabel where
  | clientSends (packet : RawPacket)
  | clientAnswers (payload : List UInt8)
  | clientReads
  | backendSends (packet : RawPacket)
  | backendCloses (payload : List UInt8)
  | backendReads
  | proxyClient (env : Surroundings)
  | proxyBackend (env : Surroundings)
  | proxyOther (input : Input)

/-- A packet that the forwarder handled, with the phase in which it was sent and the
`current_protocol` by which it was interpreted. -/
inductive SessionEvent where
  | clientHandled (sent tracked : ConnectionProtocol) (packet : RawPacket)
  | backendHandled (sent tracked : ConnectionProtocol) (packet : RawPacket)
  deriving DecidableEq, Repr

namespace SessionEvent

/-- The event of the session for an event of the forwarder on a packet sent in phase `sent`. -/
def ofForward (sent : ConnectionProtocol) : ForwardEvent → Option SessionEvent
  | .clientHandled tracked packet => some (.clientHandled sent tracked packet)
  | .backendHandled tracked packet => some (.backendHandled sent tracked packet)
  | _ => none

/-- The packet was interpreted in the phase in which it was sent. -/
def Agrees : SessionEvent → Prop
  | .clientHandled sent tracked _ => tracked = sent
  | .backendHandled sent tracked _ => tracked = sent

/-- The client's return to the configuration phase is handled. -/
def IsReturn (ids : SessionIds) : SessionEvent → Prop
  | .clientHandled sent _ packet => sent = .play ∧ packet.id = ids.sConfigurationAcknowledged
  | .backendHandled _ _ _ => False

instance (e : SessionEvent) : Decidable e.Agrees :=
  match e with
  | .clientHandled sent tracked _ => inferInstanceAs (Decidable (tracked = sent))
  | .backendHandled sent tracked _ => inferInstanceAs (Decidable (tracked = sent))

instance (ids : SessionIds) (e : SessionEvent) : Decidable (e.IsReturn ids) :=
  match e with
  | .clientHandled sent _ packet =>
      inferInstanceAs (Decidable (sent = .play ∧ packet.id = ids.sConfigurationAcknowledged))
  | .backendHandled _ _ _ => inferInstanceAs (Decidable False)

end SessionEvent

namespace Session

/-- A session starts with the configuration phase. -/
def start (f : PacketForwarder) : Session :=
  ⟨⟨.config, false⟩, ⟨.config, false⟩, .start f, [], [], [], []⟩

/-- The forwarder has handled an input: its writes go onto the links. -/
def afterProxy (s : Session) (sent : ConnectionProtocol)
    (result : Forwarding × List ForwardEvent) : Session × List SessionEvent :=
  ({ s with
      proxy := result.1
      toBackend := s.toBackend ++ result.2.filterMap ForwardEvent.backendWrite
      toClient := s.toClient ++ result.2.filterMap ForwardEvent.clientWrite },
    result.2.filterMap (SessionEvent.ofForward sent))

/-- One step of a session. -/
def step (ids : SessionIds) (config : ProxyConfig) (s : Session) :
    SessionLabel → Option (Session × List SessionEvent)
  | .clientSends packet =>
      if packet.id = ids.answer s.client.phase then
        none
      else
        some ({ s with fromClient := s.fromClient ++ [(s.client.phase, packet)] }, [])
  | .clientAnswers payload =>
      if s.client.answerDue then
        -- the answer is still sent in the old phase, everything after it in the new one
        some ({ s with
          client := ⟨s.client.phase.next, false⟩
          fromClient := s.fromClient ++
            [(s.client.phase, ⟨ids.answer s.client.phase, payload⟩)] }, [])
      else
        none
  | .clientReads =>
      match s.toClient with
      | [] => none
      | w :: rest => some ({ s with client := s.client.read ids w, toClient := rest }, [])
  -- a backend that waits for the answer sends nothing
  | .backendSends packet =>
      if s.backend.waiting = true ∨ packet.id = ids.closing s.backend.phase then
        none
      else
        some ({ s with fromBackend := s.fromBackend ++ [(s.backend.phase, packet)] }, [])
  | .backendCloses payload =>
      if s.backend.waiting = true then
        none
      else
        some ({ s with
          backend := ⟨s.backend.phase, true⟩
          fromBackend := s.fromBackend ++
            [(s.backend.phase, ⟨ids.closing s.backend.phase, payload⟩)] }, [])
  | .backendReads =>
      match s.toBackend with
      | [] => none
      | frame :: rest =>
          some ({ s with backend := s.backend.read ids frame, toBackend := rest }, [])
  | .proxyClient env =>
      match s.fromClient with
      | [] => none
      | (sent, packet) :: rest =>
          (Forwarding.step ids.toPacketIds config s.proxy (.client packet env)).map
            ({ s with fromClient := rest }.afterProxy sent)
  | .proxyBackend env =>
      match s.fromBackend with
      | [] => none
      | (sent, packet) :: rest =>
          (Forwarding.step ids.toPacketIds config s.proxy (.backend packet env)).map
            ({ s with fromBackend := rest }.afterProxy sent)
  | .proxyOther input =>
      if input.clientPacket = none ∧ input.backendPacket = none then
        -- no packet is handled, so the phase given here is not used
        (Forwarding.step ids.toPacketIds config s.proxy input).map (s.afterProxy .config)
      else
        none

/-- The session as a transition system. -/
def system (ids : SessionIds) (config : ProxyConfig) :
    System Session SessionLabel SessionEvent :=
  ⟨step ids config⟩

end Session

end SteelProxy
