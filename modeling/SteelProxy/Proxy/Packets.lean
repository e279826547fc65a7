import SteelProxy.Library.Wire
import SteelProxy.Library.Text

/-!
# Packets

Raw packets and their encoding by the forwarder, the packet ids that the proxy looks at, and the
packets it originates (`packets.rs`). Lengths, compression and encryption of frames belong to the
protocol library: a frame is modelled by the data that is framed and the compression it is framed
with, and a peer that reads it gets the data back.
-/

set_option autoImplicit false

namespace SteelProxy

open SteelProxy.Library

/-- `uuid::Uuid`. -/
abbrev Uuid : Type := BitVec 128

/-- `steel_protocol::utils::ConnectionProtocol`. -/
inductive ConnectionProtocol where
  | handshake
  | status
  | login
  | config
  | play
  deriving DecidableEq, Repr

/-- `steel_protocol::utils::RawPacket`. -/
structure RawPacket where
  id : Int32
  payload : List UInt8
  deriving DecidableEq, Repr

/-- `CompressionInfo`. -/
structure CompressionInfo where
  threshold : UInt32
  level : Nat
  deriving DecidableEq, Repr

/-- `EncodedPacket::from_data(data, compression)`. -/
structure EncodedPacket where
  data : List UInt8
  compression : Option CompressionInfo
  deriving DecidableEq, Repr

namespace RawPacket

/-- The re-encoding of `forward_to_backend` and `forward_to_client`: the id, then the payload. -/
def encode (packet : RawPacket) : List UInt8 := VarInt.write packet.id ++ packet.payload

/-- What the reader of a frame makes of its data. -/
def decode (data : List UInt8) : Option RawPacket :=
  (VarInt.read data).map fun p => ⟨p.1, p.2⟩

@[simp]
theorem decode_encode (packet : RawPacket) : decode packet.encode = some packet := by
  rw [decode, encode, VarInt.read_write, Option.map_some]

/-- The frame of a re-encoded packet. -/
def frame (packet : RawPacket) (compression : Option CompressionInfo) : EncodedPacket :=
  ⟨packet.encode, compression⟩

end RawPacket

/-- The packet that the reader of a frame gets. -/
def EncodedPacket.read (frame : EncodedPacket) : Option RawPacket := RawPacket.decode frame.data

@[simp]
theorem EncodedPacket.read_frame (packet : RawPacket) (compression : Option CompressionInfo) :
    EncodedPacket.read (packet.frame compression) = some packet :=
  packet.decode_encode

/-- The ids of `steel_registry::packets` that the forwarder looks at. Ids of one phase and
direction are distinct. -/
structure PacketIds where
  configFinishConfiguration : Int32
  playChatCommand : Int32
  playChatCommandSigned : Int32
  playLogin : Int32
  playEntityEvent : Int32
  playCommands : Int32
  login_ne_commands : playLogin ≠ playCommands
  entityEvent_ne_commands : playEntityEvent ≠ playCommands

/-- The ids named in the comments of the source. -/
def PacketIds.sample : PacketIds where
  configFinishConfiguration := 3
  playChatCommand := 6
  playChatCommandSigned := 7
  playLogin := 48
  playEntityEvent := 34
  playCommands := 16
  login_ne_commands := by decide
  entityEvent_ne_commands := by decide

/-- The argument types of the command tree. -/
inductive ArgumentType where
  | singleWord
  | integer (min max : Option Int32)
  deriving DecidableEq, Repr

/-- `CommandNode`. -/
inductive CommandNode where
  | root (children : List Nat)
  | literal (name : String) (children : List Nat) (executable : Bool)
  | argument (name : String) (type : ArgumentType) (children : List Nat) (executable : Bool)
  deriving DecidableEq, Repr

/-- `CCommands`. -/
structure CCommands where
  nodes : List CommandNode
  rootIndex : Nat
  deriving DecidableEq, Repr

/-- `packets::build_commands`. -/
def buildCommands : CCommands where
  nodes :=
    [.root [1, 3, 5],
      .literal "server" [2] true,
      .argument "server_name" .singleWord [] true,
      .literal "start" [4] false,
      .argument "pr_number" (.integer none none) [] true,
      .literal "status" [6] false,
      .argument "pr_number" (.integer none none) [] true]
  rootIndex := 0

/-- `packets::CTransfer`. -/
structure CTransfer where
  host : String
  port : Int32
  deriving DecidableEq, Repr

/-- `CTransfer::write`. -/
def CTransfer.write (packet : CTransfer) : List UInt8 :=
  Wire.writeString packet.host ++ VarInt.write packet.port

/-- A packet written to the client: a forwarded one, or one that the proxy originates, encoded
with the ids of the play phase. -/
inductive ClientWrite where
  | forwarded (packet : EncodedPacket)
  | systemChat (message : String)
  | commands (tree : CCommands)
  | transfer (packet : CTransfer)
  deriving DecidableEq, Repr

/-- The packet that the client reads from a forwarded frame. -/
def ClientWrite.read : ClientWrite → Option RawPacket
  | .forwarded frame => frame.read
  | _ => none

end SteelProxy
