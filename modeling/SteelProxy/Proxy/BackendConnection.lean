import SteelProxy.Proxy.Routing

/-!
# The backend connector

`BackendConnector::connect`: the two hand-written frames that open a login at a backend, the loop
over the backend's answers, and the acknowledgement. The packets that the backend sends are given
as the decoder returns them; each is recorded with the compression that the decoder is set to when
it is read.
-/

set_option autoImplicit false

namespace SteelProxy

open SteelProxy.Library

/-- The packet ids that the connector uses, and `ClientIntent::LOGIN`. -/
structure ConnectorIds where
  intention : Int32
  hello : Int32
  loginAcknowledged : Int32
  loginCompression : Int32
  loginFinished : Int32
  loginIntent : Int32
  deriving DecidableEq, Repr

/-- The ids of the protocol version 774. -/
def ConnectorIds.sample : ConnectorIds where
  intention := 0
  hello := 0
  loginAcknowledged := 3
  loginCompression := 3
  loginFinished := 2
  loginIntent := 2

/-- What happens on the connection to the backend: the outcome of opening it and of the writes,
and the packets that are read before it fails. -/
structure BackendLink where
  opened : Bool
  handshakeSent : Bool
  helloSent : Bool
  responses : List RawPacket
  acknowledgementSent : Bool
  deriving DecidableEq, Repr

/-- The compression of the decoder, and the local variable of the login loop. -/
structure LoginLoop where
  decoder : Option UInt32
  compressionThreshold : Option UInt32
  deriving DecidableEq, Repr

/-- What `connect` wrote and read, and the decoder and threshold that it returns. -/
structure Connected where
  handshake : EncodedPacket
  hello : EncodedPacket
  decoded : List (Option UInt32 × RawPacket)
  acknowledgement : EncodedPacket
  decoder : Option UInt32
  compressionThreshold : Option UInt32
  deriving DecidableEq, Repr

/-- `port.write`. -/
def writePort (port : UInt16) : List UInt8 := Wire.writeBigEndian 2 port.toNat

/-- `uuid.write`. -/
def writeUuid (uuid : Uuid) : List UInt8 := Wire.writeBigEndian 16 uuid.toNat

namespace BackendConnector

/-- The handshake. -/
def handshakeFrame (ids : ConnectorIds) (c : BackendConnector) : List UInt8 :=
  VarInt.write ids.intention ++ VarInt.write 774 ++ Wire.writeString c.address ++
    writePort c.port ++ VarInt.write ids.loginIntent

/-- The login hello. -/
def helloFrame (ids : ConnectorIds) (c : BackendConnector) : List UInt8 :=
  VarInt.write ids.hello ++ Wire.writeString c.username ++ writeUuid c.uuid

/-- The `C_LOGIN_COMPRESSION` arm of the login loop. -/
def receiveCompression (state : LoginLoop) (payload : List UInt8) : Option LoginLoop :=
  (VarInt.read payload).map fun (threshold, _) =>
    -- a threshold of zero, which compresses every packet, is skipped like a negative one
    if 0 < threshold then ⟨some threshold.toUInt32, some threshold.toUInt32⟩ else state

/-- The login loop, with the packets it reads and the compression each is decoded with. -/
def loginLoop (ids : ConnectorIds) (state : LoginLoop) :
    List RawPacket → Except String (LoginLoop × List (Option UInt32 × RawPacket))
  | [] => .error "connection closed"
  | response :: responses =>
      if response.id = ids.loginCompression then
        match receiveCompression state response.payload with
        | none => .error "invalid VarInt"
        | some state' =>
            match loginLoop ids state' responses with
            | .error e => .error e
            | .ok (final, decoded) => .ok (final, (state.decoder, response) :: decoded)
      else if response.id = ids.loginFinished then
        .ok (state, [(state.decoder, response)])
      else
        .error s!"Unexpected packet from backend during login: ID={response.id}"

/-- `connect`. -/
def connect (ids : ConnectorIds) (c : BackendConnector) (link : BackendLink) :
    Except String Connected :=
  if link.opened = false then
    .error "Failed to connect to backend server"
  else if link.handshakeSent = false ∨ link.helloSent = false then
    .error "connection closed"
  else
    match loginLoop ids ⟨none, none⟩ link.responses with
    | .error e => .error e
    | .ok (final, decoded) =>
        if link.acknowledgementSent = false then
          .error "connection closed"
        else
          .ok
            { handshake := ⟨c.handshakeFrame ids, none⟩
              hello := ⟨c.helloFrame ids, none⟩
              decoded := decoded
              acknowledgement := ⟨VarInt.write ids.loginAcknowledged,
                final.compressionThreshold.map fun threshold => ⟨threshold, 4⟩⟩
              decoder := final.decoder
              compressionThreshold := final.compressionThreshold }

end BackendConnector

end SteelProxy
