import SteelProxy.Proxy.Session

/-!
# What a step of a session can do

The inputs of the forwarder as they act on the links, and `Session.Moved` for the steps of a
session whose forwarder is in its loop.
-/

set_option autoImplicit false

namespace SteelProxy

open SteelProxy.Library SteelProxy.Library.Transition

/-! ## What the forwarder does to a session -/

namespace Forwarding

open PacketForwarder ForwardEvent

/-- The packets that the backend reads from the events of the forwarder. -/
def sends (t : List ForwardEvent) : List RawPacket :=
  (t.filterMap backendWrite).filterMap EncodedPacket.read

/-- The forwarded packets that the client reads from the events of the forwarder. -/
def reads (t : List ForwardEvent) : List RawPacket :=
  (t.filterMap clientWrite).filterMap ClientWrite.read

/-- A client packet was handled. -/
structure ClientPassed (ids : PacketIds) (sent : ConnectionProtocol) (f : PacketForwarder)
    (packet : RawPacket) (s' : Forwarding) (t : List ForwardEvent) : Prop where
  event : t.filterMap (SessionEvent.ofForward sent) =
    [.clientHandled sent f.currentProtocol packet]
  sends : sends t = [packet] ∨ (sends t = [] ∧ f.currentProtocol = .play)
  reads : reads t = []
  tracked : s'.forwarder.currentProtocol =
    if packet.id = ids.configFinishConfiguration then .play else f.currentProtocol

/-- A backend packet was handled. -/
structure BackendPassed (sent : ConnectionProtocol) (f : PacketForwarder) (packet : RawPacket)
    (s' : Forwarding) (t : List ForwardEvent) : Prop where
  event : t.filterMap (SessionEvent.ofForward sent) =
    [.backendHandled sent f.currentProtocol packet]
  sends : sends t = []
  reads : (reads t).Sublist [packet]
  tracked : s'.forwarder.currentProtocol = f.currentProtocol

section Passed

variable {ids : PacketIds} {config : ProxyConfig} {s s' : Forwarding} {t : List ForwardEvent}
  {packet : RawPacket} {env : Surroundings} {input : Input} {sent : ConnectionProtocol}

end Passed

end Forwarding

/-! ## The steps of a session -/

namespace Session

/-- The packets under way to the client, the oldest first. -/
def incoming (s : Session) : List RawPacket :=
  s.toClient.filterMap ClientWrite.read ++ s.fromBackend.map Prod.snd

/-- The packets under way from the forwarder to the backend. -/
def outgoing (s : Session) : List RawPacket := s.toBackend.filterMap EncodedPacket.read

/-- The steps of a session while the forwarder is in its loop. -/
inductive Moved (ids : SessionIds) (s : Session) : Session → List SessionEvent → Prop where
  | clientSends (packet : RawPacket) (hid : packet.id ≠ ids.answer s.client.phase) :
      Moved ids s { s with fromClient := s.fromClient ++ [(s.client.phase, packet)] } []
  | clientAnswers (payload : List UInt8) (hdue : s.client.answerDue = true) :
      Moved ids s
        { s with
          client := ⟨s.client.phase.next, false⟩
          fromClient := s.fromClient ++
            [(s.client.phase, ⟨ids.answer s.client.phase, payload⟩)] } []
  | clientReads (w : ClientWrite) (rest : List ClientWrite) (hlink : s.toClient = w :: rest) :
      Moved ids s { s with client := s.client.read ids w, toClient := rest } []
  | backendSends (packet : RawPacket) (hopen : s.backend.waiting = false)
      (hid : packet.id ≠ ids.closing s.backend.phase) :
      Moved ids s { s with fromBackend := s.fromBackend ++ [(s.backend.phase, packet)] } []
  | backendCloses (payload : List UInt8) (hopen : s.backend.waiting = false) :
      Moved ids s
        { s with
          backend := ⟨s.backend.phase, true⟩
          fromBackend := s.fromBackend ++
            [(s.backend.phase, ⟨ids.closing s.backend.phase, payload⟩)] } []
  | backendReads (frame : EncodedPacket) (rest : List EncodedPacket)
      (hlink : s.toBackend = frame :: rest) :
      Moved ids s { s with backend := s.backend.read ids frame, toBackend := rest } []
  | left (s' : Session) (hleft : s'.proxy.run ≠ .forwarding) : Moved ids s s' []
  | proxyClient (sent : ConnectionProtocol) (packet : RawPacket)
      (rest : List (ConnectionProtocol × RawPacket)) (hlink : s.fromClient = (sent, packet) :: rest)
      (proxy' : Forwarding) (t : List ForwardEvent)
      (hpassed : Forwarding.ClientPassed ids.toPacketIds sent s.proxy.forwarder packet proxy' t) :
      Moved ids s ({ s with fromClient := rest }.afterProxy sent (proxy', t)).1
        [.clientHandled sent s.proxy.forwarder.currentProtocol packet]
  | proxyBackend (sent : ConnectionProtocol) (packet : RawPacket)
      (rest : List (ConnectionProtocol × RawPacket))
      (hlink : s.fromBackend = (sent, packet) :: rest) (proxy' : Forwarding)
      (t : List ForwardEvent)
      (hpassed : Forwarding.BackendPassed sent s.proxy.forwarder packet proxy' t) :
      Moved ids s ({ s with fromBackend := rest }.afterProxy sent (proxy', t)).1
        [.backendHandled sent s.proxy.forwarder.currentProtocol packet]
  | proxyOther (proxy' : Forwarding) (t : List ForwardEvent) (hsends : Forwarding.sends t = [])
      (hreads : Forwarding.reads t = [])
      (htracked : proxy'.forwarder = s.proxy.forwarder) :
      Moved ids s (s.afterProxy .config (proxy', t)).1 []

section Moved

variable {ids : SessionIds} {config : ProxyConfig} {s s' : Session} {label : SessionLabel}
  {t : List SessionEvent}

end Moved

end Session

end SteelProxy
