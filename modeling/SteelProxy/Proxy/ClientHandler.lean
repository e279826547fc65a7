import SteelProxy.Proxy.Packets

/-!
# The client handler

The loop of `ClientHandler::run` over the packets of one connection, up to the acknowledged
login. The ids and the readers of the serverbound packets belong to the protocol library.
-/

set_option autoImplicit false

namespace SteelProxy

open SteelProxy.Library

/-- `ClientIntent`. -/
inductive ClientIntent where
  | status
  | login
  | transfer
  deriving DecidableEq, Repr

/-- What the loop uses of the protocol library: packet ids, and `read_packet` of the
intention, the hello (name and profile id) and the ping. -/
structure LoginPackets where
  intention : Int32
  statusRequest : Int32
  pingRequest : Int32
  hello : Int32
  loginAcknowledged : Int32
  readIntention : List UInt8 → Option ClientIntent
  readHello : List UInt8 → Option (String × Uuid)
  readPing : List UInt8 → Option Int64

/-- The status of the proxy. -/
structure Status where
  description : String
  maxPlayers : Int32
  onlinePlayers : Int32
  versionName : String
  versionProtocol : Int32
  enforceSecureChat : Bool
  deriving DecidableEq, Repr

/-- A packet written by the loop. -/
inductive LoginReply where
  | status (status : Status)
  | pong (time : Int64)
  | loginFinished (uuid : Uuid) (name : String)
  deriving DecidableEq, Repr

/-- The variables of the loop. -/
structure LoginState where
  protocol : ConnectionProtocol
  username : Option String
  playerUuid : Option Uuid
  deriving DecidableEq, Repr

/-- One iteration of the loop: the next state, the acknowledged login, the end after a pong or in
another phase, an error, or the panic of `player_uuid.unwrap()`. -/
inductive LoginStep where
  | next (state : LoginState) (reply : Option LoginReply)
  | acknowledged (username : Option String) (playerUuid : Uuid)
  | finished (reply : Option LoginReply)
  | failed
  | panicked
  deriving DecidableEq, Repr

namespace ClientHandler

/-- The loop starts. -/
def start : LoginState := ⟨.handshake, none, none⟩

/-- The status response. -/
def statusResponse : Status where
  description := "Steel Proxy Server (Offline Mode)"
  maxPlayers := 100
  onlinePlayers := 0
  versionName := "1.21.11"
  versionProtocol := 774
  enforceSecureChat := false

/-- The handshake arm. -/
def handleHandshake (packets : LoginPackets) (state : LoginState) (packet : RawPacket) :
    LoginStep :=
  if packet.id = packets.intention then
    match packets.readIntention packet.payload with
    | none => .failed
    | some .status => .next { state with protocol := .status } none
    | some .login => .next { state with protocol := .login } none
    | some .transfer => .next { state with protocol := .login } none
  else
    .next state none

/-- The status arm; `sent` is the success of writing the reply. -/
def handleStatus (packets : LoginPackets) (state : LoginState) (packet : RawPacket)
    (sent : Bool) : LoginStep :=
  if packet.id = packets.statusRequest then
    if sent then .next state (some (.status statusResponse)) else .failed
  else if packet.id = packets.pingRequest then
    match packets.readPing packet.payload with
    | none => .failed
    | some time => if sent then .finished (some (.pong time)) else .failed
  else
    .next state none

/-- The login arm. -/
def handleLogin (packets : LoginPackets) (state : LoginState) (packet : RawPacket)
    (sent : Bool) : LoginStep :=
  if packet.id = packets.hello then
    match packets.readHello packet.payload with
    | none => .failed
    | some (name, profileId) =>
        if sent then
          .next { state with username := some name, playerUuid := some profileId }
            (some (.loginFinished profileId name))
        else
          .failed
  else if packet.id = packets.loginAcknowledged then
    match state.playerUuid with
    | none => .panicked
    | some uuid => .acknowledged state.username uuid
  else
    .next state none

/-- One iteration of the loop of `run`. -/
def handle (packets : LoginPackets) (state : LoginState) (packet : RawPacket) (sent : Bool) :
    LoginStep :=
  match state.protocol with
  | .handshake => handleHandshake packets state packet
  | .status => handleStatus packets state packet sent
  | .login => handleLogin packets state packet sent
  | _ => .finished none

end ClientHandler

/-! ## Sample packets -/

/-- A string with its length before it. -/
def readString (payload : List UInt8) : Option (String × List UInt8) :=
  (VarInt.read payload).bind fun (len, rest) =>
    (String.fromUTF8? ⟨(rest.take len.toNatClampNeg).toArray⟩).map fun s =>
      (s, rest.drop len.toNatClampNeg)

/-- A big-endian number. -/
def readBigEndian (payload : List UInt8) : Nat := payload.foldl (fun n b => n * 256 + b.toNat) 0

/-- The packets of the handshake, status and login phases: the intention is read after the
version, the host and the port; the profile id of a hello after the name. -/
def LoginPackets.sample : LoginPackets where
  intention := 0
  statusRequest := 0
  pingRequest := 1
  hello := 0
  loginAcknowledged := 3
  readIntention payload :=
    (VarInt.read payload).bind fun (_, rest) =>
      (readString rest).bind fun (_, rest) =>
        (VarInt.read (rest.drop 2)).bind fun (intent, _) =>
          if intent = 1 then some .status
          else if intent = 2 then some .login
          else if intent = 3 then some .transfer
          else none
  readHello payload :=
    (readString payload).bind fun (name, rest) =>
      if rest.length < 16 then none
      else some (name, BitVec.ofNat 128 (readBigEndian (rest.take 16)))
  readPing payload :=
    if payload.length < 8 then none else some (Int64.ofNat (readBigEndian (payload.take 8)))

/-- The intention to log in at "localhost". -/
def sampleIntention : RawPacket :=
  ⟨0, [134, 6, 9, 108, 111, 99, 97, 108, 104, 111, 115, 116, 99, 221, 2]⟩

/-- The hello of the player "Alex" with uuid 1. -/
def sampleHello : RawPacket := ⟨0, [4, 65, 108, 101, 120] ++ List.replicate 15 0 ++ [1]⟩

end SteelProxy
