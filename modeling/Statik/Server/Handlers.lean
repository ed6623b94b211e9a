import Statik.Server.Packets

/-!
# The packet handlers

One handler for each state of the connection, and the dispatch on that state.
An arm for a packet of another stage raises `Error.wrongStage`.
-/

namespace Statik

open Wire

/-- A name a Minecraft account could have. -/
def isValidUsername (username : String) : Bool :=
  let length := (utf8 username).length
  3 ≤ length && length ≤ 16 && username.toList.all fun c => c.isAlphanum || c == '_'

/-- `result?`. -/
def ofResult {α : Type} : Except Error α → Handler α
  | .ok a => pure a
  | .error e => throw e

def versionMismatch (protocol : ProtocolKind) (protocolVersion : BitVec 32) : Error :=
  let client := protocolVersion.toInt
  let server := protocol.protocolVersion
  let name := protocol.minecraftVersion
  .msg (s!"Protocol versions do not match! Client had protocol version: {client}, while the " ++
    s!"server's selected protocol version is {server} ({name}).")

/-- `handle_handshake` once the packet is taken apart. -/
def acceptHandshake (protocolVersion : BitVec 32) (nextState : ClientIntent) : Handler Unit := do
  let { conn := self, .. } ← get
  if asUsize protocolVersion = self.protocol.protocolVersion then
    let state ← ofResult (intentToState nextState)
    setState state
  else throw (versionMismatch self.protocol protocolVersion)

def handleHandshake (packet : DecodedC2S) : Handler Unit :=
  match packet with
  | .v1_20_1 ⟨.handshake, protocolVersion, _, _, nextState, _⟩ =>
    acceptHandshake protocolVersion.val nextState
  | .v1_21_1 ⟨.handshake, protocolVersion, _, _, nextState, _⟩ =>
    acceptHandshake protocolVersion.val nextState
  | _ => throw (.wrongStage "Recieved a non handshake packet in the handshake stage!")

def handleStatus (env : Env) (packet : DecodedC2S) : Handler Unit := do
  let { conn := self, .. } ← get
  match packet with
  | .v1_20_1 ⟨.statusRequest, _⟩ =>
    writePacket env (V1_20_1.statusResponse self.config self.protocol)
  | .v1_20_1 ⟨.ping, payload, _⟩ => writePacket env (V1_20_1.pong payload)
  | .v1_21_1 ⟨.statusRequest, _⟩ =>
    writePacket env (V1_21_1.statusResponse self.config self.protocol)
  | .v1_21_1 ⟨.ping, payload, _⟩ => writePacket env (V1_21_1.pong payload)
  | _ => throw (.wrongStage "Recieved a non status packet in the status stage!")

/-- Brand, feature flags, the registries, tags, known packs, end of configuration. -/
def sendConfigurationBurst (env : Env) : Handler Unit := do
  writePacket env V1_21_1.customPayload
  writePacket env V1_21_1.featureFlags
  (V1_21_1.registries.all env.includeBytes).forM fun entry =>
    writePacket env (V1_21_1.registryData entry)
  writePacket env V1_21_1.updateTags
  writePacket env V1_21_1.knownPacks
  writePacket env V1_21_1.finishConfiguration

def sendPlayBurstV1_21_1 (env : Env) : Handler Unit := do
  let { conn := self, .. } ← get
  writePacket env (V1_21_1.login self.config)
  writePacket env V1_21_1.setChunkCacheCenter
  writePacket env (V1_21_1.setChunkCacheRadius self.config)
  writePacket env V1_21_1.chunkBatchStart
  writePacket env V1_21_1.levelChunkWithLight
  writePacket env V1_21_1.chunkBatchFinished
  writePacket env (V1_21_1.setDefaultSpawnPosition self.config)
  writePacket env (V1_21_1.playerPosition self.config)
  writePacket env V1_21_1.playerAbilities
  writePacket env V1_21_1.gameEvent

/-- The texts of the two wrong-stage arms leave out the packet they print. -/
def handleLogin (env : Env) (packet : DecodedC2S) : Handler Unit := do
  let { conn := self, .. } ← get
  match packet with
  | .v1_20_1 ⟨.loginStart, username, _⟩ =>
    if isValidUsername username then
      if self.config.compression.enabled then
        writePacket env (V1_20_1.setCompression self.config.compression.threshold)
        setCompressionThreshold self.config.compression.threshold
      writePacket env (V1_20_1.loginSuccess username)
      setState .play
      writePacket env (V1_20_1.login env self.config)
      writePacket env V1_20_1.setChunkCacheCenter
      writePacket env (V1_20_1.setChunkCacheRadius self.config)
      writePacket env V1_20_1.levelChunkWithLight
      writePacket env (V1_20_1.setDefaultSpawnPosition self.config)
      writePacket env (V1_20_1.playerPosition self.config)
      writePacket env V1_20_1.playerAbilities
      writePacket env V1_20_1.gameEvent
    else writePacket env (V1_20_1.disconnect "Invalid username.")
  | .v1_20_1 ⟨.encryptionResponse, _⟩ =>
    let address := self.address
    throw (.msg (s!"Received EncryptionResponse from {address} but statik never sends an " ++
      "EncryptionRequest; encryption is not supported."))
  | .v1_20_1 ⟨.loginPluginResponse, _⟩ =>
    let address := self.address
    throw (.msg (s!"Received LoginPluginResponse from {address} but statik never sends a " ++
      "LoginPluginRequest; plugin login is not supported."))
  | .v1_20_1 _ => throw (.wrongStage "Received a non-login packet in the login stage")
  | .v1_21_1 ⟨.hello, name, _⟩ =>
    if isValidUsername name then
      if self.config.compression.enabled then
        writePacket env (V1_21_1.setCompression self.config.compression.threshold)
        setCompressionThreshold self.config.compression.threshold
      writePacket env (V1_21_1.loginSuccess name)
    else writePacket env (V1_21_1.disconnect "Invalid username.")
  | .v1_21_1 ⟨.loginAcknowledged, _⟩ =>
    setState .configuration
    sendConfigurationBurst env
  | .v1_21_1 ⟨.key, _⟩ =>
    let address := self.address
    throw (.msg (s!"Received Key from {address} but statik never sends an EncryptionRequest; " ++
      "encryption is not supported."))
  | .v1_21_1 ⟨.customQueryAnswer, _⟩ =>
    let address := self.address
    throw (.msg (s!"Received Custom Query Answer from {address} but statik never sends a Login " ++
      "Plugin Request; plugin login is not supported."))
  | .v1_21_1 ⟨.cookieResponse, _⟩ =>
    let address := self.address
    throw (.msg (s!"Received Login Cookie Response from {address} but statik never sent a Login " ++
      "Cookie Request; cookie storage is not supported."))
  | .v1_21_1 _ => throw (.wrongStage "Received a non-login packet in the 1.21.1 login stage")

def handleConfiguration (env : Env) (packet : DecodedC2S) : Handler Unit :=
  match packet with
  | .v1_20_1 _ =>
    throw (.wrongStage ("Received a configuration-state packet from a 1.20.1 client; this is a " ++
      "protocol violation."))
  | .v1_21_1 ⟨.finishConfigurationAck, _⟩ => do
    setState .play
    sendPlayBurstV1_21_1 env
  -- every other packet is only traced
  | .v1_21_1 _ => pure ()

/-- Play packets are only traced. -/
def handlePlay (_packet : DecodedC2S) : Handler Unit := pure ()

/-- Routes a packet to the handler of the current state. -/
def dispatchPacket (env : Env) (packet : DecodedC2S) : Handler Unit := do
  record (.received packet)
  let { conn := self, .. } ← get
  match self.state with
  | .handshake => handleHandshake packet
  | .status => handleStatus env packet
  | .login => handleLogin env packet
  | .configuration => handleConfiguration env packet
  | .play => handlePlay packet

end Statik
