import SteelProxy.Proxy.BackendConnection

/-!
# The hand-written encoders

The handshake and the login hello of `BackendConnector::connect` and the Transfer packet of
`packets.rs` are written by hand. Each is read back here by the decoder that reads its fields one
after the other, with nothing left over (`encoders_round_trip`).
-/

set_option autoImplicit false

namespace SteelProxy

open SteelProxy.Library

/-- The fields of a handshake frame. -/
structure HandshakeFields where
  id : Int32
  protocolVersion : Int32
  address : String
  port : UInt16
  intent : Int32
  deriving DecidableEq, Repr

/-- The fields of a login hello frame. -/
structure HelloFields where
  id : Int32
  username : String
  uuid : Uuid
  deriving DecidableEq, Repr

/-- A reader that consumes bytes from the front. -/
abbrev Reader (α : Type) : Type := StateT (List UInt8) Option α

/-! ## Decoders -/

/-- Read a VarInt. -/
def readVarInt : Reader Int32 := VarInt.read

/-- Read a string behind its length. -/
def readText : Reader String := Wire.readString

/-- Read a port. -/
def readPort : Reader UInt16 := fun bs =>
  (Wire.readBigEndian 2 bs).map fun p => (UInt16.ofNat p.1, p.2)

/-- Read a UUID. -/
def readUuid : Reader Uuid := fun bs =>
  (Wire.readBigEndian 16 bs).map fun p => (BitVec.ofNat 128 p.1, p.2)

/-- Read a handshake frame. -/
def readHandshake : Reader HandshakeFields := do
  let id ← readVarInt
  let protocolVersion ← readVarInt
  let address ← readText
  let port ← readPort
  let intent ← readVarInt
  return ⟨id, protocolVersion, address, port, intent⟩

/-- Read a login hello frame. -/
def readHello : Reader HelloFields := do
  let id ← readVarInt
  let username ← readText
  let uuid ← readUuid
  return ⟨id, username, uuid⟩

/-- Read the body of a Transfer packet. -/
def readTransfer : Reader CTransfer := do
  let host ← readText
  let port ← readVarInt
  return ⟨host, port⟩

/-! ## Fields -/

section Fields

variable {α β : Type} {bs rest : List UInt8}

/-- A sequence of readers reads one field after the other. -/
theorem run_bind {x : Reader α} {f : α → Reader β} {a : α} (h : x.run bs = some (a, rest)) :
    (x >>= f).run bs = (f a).run rest := by
  rw [StateT.run_bind, h]
  rfl

theorem run_readVarInt (i : Int32) (rest : List UInt8) :
    readVarInt.run (VarInt.write i ++ rest) = some (i, rest) :=
  VarInt.read_write i rest

theorem run_readText {s : String} (h : (Wire.bytesOf s).length < 2 ^ 31) (rest : List UInt8) :
    readText.run (Wire.writeString s ++ rest) = some (s, rest) :=
  Wire.readString_writeString h rest

theorem run_readPort (port : UInt16) (rest : List UInt8) :
    readPort.run (writePort port ++ rest) = some (port, rest) := by
  have hport : port.toNat < 256 ^ 2 := port.toNat_lt
  rw [StateT.run, readPort, writePort, Wire.readBigEndian_writeBigEndian hport, Option.map_some,
    UInt16.ofNat_toNat]

theorem run_readUuid (uuid : Uuid) (rest : List UInt8) :
    readUuid.run (writeUuid uuid ++ rest) = some (uuid, rest) := by
  have huuid : uuid.toNat < 256 ^ 16 := uuid.isLt
  rw [StateT.run, readUuid, writeUuid, Wire.readBigEndian_writeBigEndian huuid, Option.map_some,
    BitVec.ofNat_toNat, BitVec.setWidth_eq]

end Fields

/-! ## Frames -/

theorem run_readHandshake (ids : ConnectorIds) {c : BackendConnector}
    (h : (Wire.bytesOf c.address).length < 2 ^ 31) (rest : List UInt8) :
    readHandshake.run (c.handshakeFrame ids ++ rest) =
      some (⟨ids.intention, 774, c.address, c.port, ids.loginIntent⟩, rest) := by
  simp only [BackendConnector.handshakeFrame, List.append_assoc]
  -- the fields are taken off the frame in the order in which they were written
  rw [readHandshake, run_bind (run_readVarInt _ _), run_bind (run_readVarInt _ _),
    run_bind (run_readText h _), run_bind (run_readPort _ _), run_bind (run_readVarInt _ _)]
  rfl

theorem run_readHello (ids : ConnectorIds) {c : BackendConnector}
    (h : (Wire.bytesOf c.username).length < 2 ^ 31) (rest : List UInt8) :
    readHello.run (c.helloFrame ids ++ rest) = some (⟨ids.hello, c.username, c.uuid⟩, rest) := by
  simp only [BackendConnector.helloFrame, List.append_assoc]
  rw [readHello, run_bind (run_readVarInt _ _), run_bind (run_readText h _),
    run_bind (run_readUuid _ _)]
  rfl

theorem run_readTransfer {packet : CTransfer} (h : (Wire.bytesOf packet.host).length < 2 ^ 31)
    (rest : List UInt8) : readTransfer.run (packet.write ++ rest) = some (packet, rest) := by
  simp only [CTransfer.write, List.append_assoc]
  rw [readTransfer, run_bind (run_readText h _), run_bind (run_readVarInt _ _)]
  rfl

/-- The three encoders, for strings whose length in bytes fits into an `i32`: the decoders return
the fields that were written and consume all bytes, and the body of a Transfer may be followed by
anything. -/
theorem encoders_round_trip (ids : ConnectorIds) (c : BackendConnector) (packet : CTransfer)
    (rest : List UInt8) (haddress : (Wire.bytesOf c.address).length < 2 ^ 31)
    (husername : (Wire.bytesOf c.username).length < 2 ^ 31)
    (hhost : (Wire.bytesOf packet.host).length < 2 ^ 31) :
    readHandshake.run (c.handshakeFrame ids) =
        some (⟨ids.intention, 774, c.address, c.port, ids.loginIntent⟩, []) ∧
      readHello.run (c.helloFrame ids) = some (⟨ids.hello, c.username, c.uuid⟩, []) ∧
      readTransfer.run (packet.write ++ rest) = some (packet, rest) := by
  have hhandshake := run_readHandshake ids haddress []
  have hhello := run_readHello ids husername []
  rw [List.append_nil] at hhandshake hhello
  exact ⟨hhandshake, hhello, run_readTransfer hhost rest⟩

/-- A connector with a name of two-byte characters, and a Transfer to a negative port. -/
theorem encoders_round_trip_sample :
    readHandshake.run (BackendConnector.handshakeFrame .sample ⟨"10.0.0.1", 25566, "Ægir", 1⟩) =
        some (⟨0, 774, "10.0.0.1", 25566, 2⟩, []) ∧
      readHello.run (BackendConnector.helloFrame .sample ⟨"10.0.0.1", 25566, "Ægir", 1⟩) =
        some (⟨0, "Ægir", 1⟩, []) ∧
      readTransfer.run (CTransfer.write ⟨"proxy.example", -1⟩ ++ [7]) =
        some (⟨"proxy.example", -1⟩, [7]) :=
  encoders_round_trip .sample ⟨"10.0.0.1", 25566, "Ægir", 1⟩ ⟨"proxy.example", -1⟩ [7]
    (by decide) (by decide) (by decide)

end SteelProxy
