import Statik.Server.History
import Statik.Server.Loop

/-!
# What each packet makes the server do

`script` says in advance, as a list of effects, what the handlers do with a
packet in a given state.  `dispatchPacket_run` ties it to the handlers.
-/

namespace Statik

open Wire

/-- What becomes of a packet: its effects are performed in order, it is refused
with an error, or it is of a stage its handler does not know. -/
inductive Verdict where
  | run (effects : List Effect)
  | refuse
  | wrongStage

/-- The configuration burst of 1.21.1. -/
def configurationBurst (env : Env) : List S2CPacket :=
  [V1_21_1.customPayload, V1_21_1.featureFlags] ++
    (V1_21_1.registries.all env.includeBytes).map V1_21_1.registryData ++
    [V1_21_1.updateTags, V1_21_1.knownPacks, V1_21_1.finishConfiguration]

/-- The play burst. -/
def playBurst (env : Env) (config : ServerConfig) : ProtocolKind → List S2CPacket
  | .v1_20_1 =>
    [V1_20_1.login env config, V1_20_1.setChunkCacheCenter, V1_20_1.setChunkCacheRadius config,
     V1_20_1.levelChunkWithLight, V1_20_1.setDefaultSpawnPosition config,
     V1_20_1.playerPosition config, V1_20_1.playerAbilities, V1_20_1.gameEvent]
  | .v1_21_1 =>
    [V1_21_1.login config, V1_21_1.setChunkCacheCenter, V1_21_1.setChunkCacheRadius config,
     V1_21_1.chunkBatchStart, V1_21_1.levelChunkWithLight, V1_21_1.chunkBatchFinished,
     V1_21_1.setDefaultSpawnPosition config, V1_21_1.playerPosition config,
     V1_21_1.playerAbilities, V1_21_1.gameEvent]

namespace Setup

variable (S : Setup)

def setCompression (threshold : BitVec 32) : ProtocolKind → S2CPacket
  | .v1_20_1 => V1_20_1.setCompression threshold
  | .v1_21_1 => V1_21_1.setCompression threshold

def loginSuccess (name : String) : ProtocolKind → S2CPacket
  | .v1_20_1 => V1_20_1.loginSuccess name
  | .v1_21_1 => V1_21_1.loginSuccess name

def disconnect : ProtocolKind → S2CPacket
  | .v1_20_1 => V1_20_1.disconnect "Invalid username."
  | .v1_21_1 => V1_21_1.disconnect "Invalid username."

/-- Compression, where it is enabled, and the success packet. -/
def acceptance (name : String) (protocol : ProtocolKind) : List Effect :=
  let threshold := S.config.compression.threshold
  if S.config.compression.enabled then
    [.send (setCompression threshold protocol), .compress threshold,
     .send (loginSuccess name protocol)]
  else [.send (loginSuccess name protocol)]

/-- A login under a name: a disconnect packet, or the acceptance and what follows
it. -/
def loginScript (name : String) (protocol : ProtocolKind) (then_ : List Effect) : Verdict :=
  if isValidUsername name then .run (S.acceptance name protocol ++ then_)
  else .run [.send (disconnect protocol)]

/-- Entering a state, and a burst of packets in it. -/
def entering (state : State) (burst : List S2CPacket) : List Effect :=
  .enter state :: burst.map .send

def handshake (protocolVersion : BitVec 32) (intent : ClientIntent) : Verdict :=
  if asUsize protocolVersion = S.protocol.protocolVersion then
    match intentToState intent with
    | .ok state => .run [.enter state]
    | .error _ => .refuse
  else .refuse

def script (state : State) (packet : DecodedC2S) : Verdict :=
  match state with
  | .handshake =>
    match packet with
    | .v1_20_1 ⟨.handshake, protocolVersion, _, _, intent, _⟩ =>
      S.handshake protocolVersion.val intent
    | .v1_21_1 ⟨.handshake, protocolVersion, _, _, intent, _⟩ =>
      S.handshake protocolVersion.val intent
    | _ => .wrongStage
  | .status =>
    match packet with
    | .v1_20_1 ⟨.statusRequest, _⟩ => .run [.send (V1_20_1.statusResponse S.config S.protocol)]
    | .v1_20_1 ⟨.ping, payload, _⟩ => .run [.send (V1_20_1.pong payload)]
    | .v1_21_1 ⟨.statusRequest, _⟩ => .run [.send (V1_21_1.statusResponse S.config S.protocol)]
    | .v1_21_1 ⟨.ping, payload, _⟩ => .run [.send (V1_21_1.pong payload)]
    | _ => .wrongStage
  | .login =>
    match packet with
    | .v1_20_1 ⟨.loginStart, username, _⟩ =>
      S.loginScript username .v1_20_1 (entering .play (playBurst S.env S.config .v1_20_1))
    | .v1_20_1 ⟨.encryptionResponse, _⟩ => .refuse
    | .v1_20_1 ⟨.loginPluginResponse, _⟩ => .refuse
    | .v1_21_1 ⟨.hello, name, _⟩ => S.loginScript name .v1_21_1 []
    | .v1_21_1 ⟨.loginAcknowledged, _⟩ =>
      .run (entering .configuration (configurationBurst S.env))
    | .v1_21_1 ⟨.key, _⟩ => .refuse
    | .v1_21_1 ⟨.customQueryAnswer, _⟩ => .refuse
    | .v1_21_1 ⟨.cookieResponse, _⟩ => .refuse
    | _ => .wrongStage
  | .configuration =>
    match packet with
    | .v1_20_1 _ => .wrongStage
    | .v1_21_1 ⟨.finishConfigurationAck, _⟩ =>
      .run (entering .play (playBurst S.env S.config .v1_21_1))
    | .v1_21_1 _ => .run []
  | .play => .run []

end Setup

/-! ### Performing effects -/

def perform (env : Env) : Effect → Handler Unit
  | .send packet => writePacket env packet
  | .enter state => setState state
  | .compress threshold => setCompressionThreshold threshold

def performAll (env : Env) (effects : List Effect) : Handler Unit :=
  effects.forM (perform env)

section

variable {env : Env}

@[simp] theorem performAll_nil : performAll env [] = pure () := rfl

@[simp] theorem performAll_cons (effect : Effect) (effects : List Effect) :
    performAll env (effect :: effects) = perform env effect >>= fun _ => performAll env effects :=
  rfl

@[simp] theorem performAll_append (effects effects' : List Effect) :
    performAll env (effects ++ effects') =
      performAll env effects >>= fun _ => performAll env effects' :=
  List.forM_append

theorem performAll_cons_ok {effect : Effect} {effects : List Effect} {w w' : World}
    (h : perform env effect w = .ok () w') :
    performAll env (effect :: effects) w = performAll env effects w' := by
  rw [performAll_cons]
  show EStateM.bind _ _ w = _
  unfold EStateM.bind
  rw [h]

theorem performAll_cons_error {effect : Effect} {effects : List Effect} {w w' : World}
    {e : Error} (h : perform env effect w = .error e w') :
    performAll env (effect :: effects) w = .error e w' := by
  rw [performAll_cons]
  show EStateM.bind _ _ w = _
  unfold EStateM.bind
  rw [h]

theorem performAll_sends (packets : List S2CPacket) :
    performAll env (packets.map .send) = packets.forM (writePacket env) := by
  induction packets with
  | nil => rfl
  | cons packet packets ih =>
    rw [List.map_cons, performAll_cons, ih]
    rfl

end

/-- The handler does in the world what the verdict says. -/
def Verdict.Describes (env : Env) (verdict : Verdict) (handler : Handler Unit) (w : World) :
    Prop :=
  match verdict with
  | .run effects => handler w = performAll env effects w
  | .refuse => ∃ e, e.isWrongStage = false ∧ handler w = .error e w
  | .wrongStage => ∃ e, e.isWrongStage = true ∧ handler w = .error e w

section

variable (env : Env) (w : World)

theorem bind_get_apply {α : Type} (f : World → Handler α) :
    ((get : Handler World) >>= f) w = f w w := rfl

theorem acceptHandshake_describes (version : BitVec 32) (intent : ClientIntent) :
    ((w.conn.setup env).handshake version intent).Describes env
      (acceptHandshake version intent) w := by
  by_cases h : asUsize version = w.conn.protocol.protocolVersion
  · have hverdict : (w.conn.setup env).handshake version intent =
        match intentToState intent with
        | .ok state => .run [.enter state]
        | .error _ => .refuse := if_pos h
    have hrun : acceptHandshake version intent w =
        (do setState (← ofResult (intentToState intent)) : Handler Unit) w := by
      show (if _ then _ else _ : Handler Unit) w = _
      rw [if_pos h]
    rw [hverdict]
    cases intent with
    | status => exact hrun
    | login => exact hrun
    | transfer => exact ⟨_, rfl, hrun⟩
  · have hverdict : (w.conn.setup env).handshake version intent = .refuse := if_neg h
    rw [hverdict]
    refine ⟨versionMismatch w.conn.protocol version, rfl, ?_⟩
    show (if _ then _ else _ : Handler Unit) w = _
    rw [if_neg h]
    rfl

theorem handleHandshake_describes (packet : DecodedC2S) :
    ((w.conn.setup env).script .handshake packet).Describes env (handleHandshake packet) w := by
  cases packet with
  | v1_20_1 p =>
    obtain ⟨v, x⟩ := p
    cases v with
    | handshake => exact acceptHandshake_describes env w _ _
    | _ => exact ⟨_, rfl, rfl⟩
  | v1_21_1 p =>
    obtain ⟨v, x⟩ := p
    cases v with
    | handshake => exact acceptHandshake_describes env w _ _
    | _ => exact ⟨_, rfl, rfl⟩

theorem handleStatus_describes (packet : DecodedC2S) :
    ((w.conn.setup env).script .status packet).Describes env (handleStatus env packet) w := by
  have hsend : ∀ packet : S2CPacket,
      (Verdict.run [.send packet]).Describes env (writePacket env packet) w := by
    intro packet
    show _ = performAll _ _ _
    rw [performAll_cons, performAll_nil, bind_pure_unit, perform]
  cases packet with
  | v1_20_1 p =>
    obtain ⟨v, x⟩ := p
    cases v with
    | statusRequest => exact hsend _
    | ping => exact hsend _
    | _ => exact ⟨_, rfl, rfl⟩
  | v1_21_1 p =>
    obtain ⟨v, x⟩ := p
    cases v with
    | statusRequest => exact hsend _
    | ping => exact hsend _
    | _ => exact ⟨_, rfl, rfl⟩

theorem sendConfigurationBurst_eq :
    sendConfigurationBurst env = performAll env ((configurationBurst env).map .send) := by
  rw [performAll_sends, configurationBurst]
  simp [sendConfigurationBurst, List.forM_map]

theorem handleLogin_describes (packet : DecodedC2S) :
    ((w.conn.setup env).script .login packet).Describes env (handleLogin env packet) w := by
  cases packet with
  | v1_20_1 p =>
    obtain ⟨v, x⟩ := p
    cases v with
    | loginStart =>
      obtain ⟨username, x⟩ := x
      show Verdict.Describes env (if isValidUsername username then _ else _) _ w
      by_cases hvalid : isValidUsername username = true
      · rw [if_pos hvalid]
        show handleLogin env _ w = performAll env _ w
        rw [handleLogin, bind_get_apply]
        simp only [hvalid, if_true, Setup.acceptance, Setup.entering, playBurst, Connection.setup]
        by_cases hc : w.conn.config.compression.enabled = true <;>
          simp [hc, perform, Setup.setCompression, Setup.loginSuccess]
      · rw [if_neg hvalid]
        show handleLogin env _ w = performAll env _ w
        rw [handleLogin, bind_get_apply]
        simp [hvalid, perform, Setup.disconnect]
    | encryptionResponse => exact ⟨_, rfl, rfl⟩
    | loginPluginResponse => exact ⟨_, rfl, rfl⟩
    | _ => exact ⟨_, rfl, rfl⟩
  | v1_21_1 p =>
    obtain ⟨v, x⟩ := p
    cases v with
    | hello =>
      obtain ⟨name, x⟩ := x
      show Verdict.Describes env (if isValidUsername name then _ else _) _ w
      by_cases hvalid : isValidUsername name = true
      · rw [if_pos hvalid]
        show handleLogin env _ w = performAll env _ w
        rw [handleLogin, bind_get_apply]
        simp only [hvalid, if_true, Setup.acceptance, Connection.setup]
        by_cases hc : w.conn.config.compression.enabled = true <;>
          simp [hc, perform, Setup.setCompression, Setup.loginSuccess]
      · rw [if_neg hvalid]
        show handleLogin env _ w = performAll env _ w
        rw [handleLogin, bind_get_apply]
        simp [hvalid, perform, Setup.disconnect]
    | loginAcknowledged =>
      show (do setState .configuration; sendConfigurationBurst env : Handler Unit) w = _
      rw [sendConfigurationBurst_eq]
      rfl
    | _ => exact ⟨_, rfl, rfl⟩

theorem handleConfiguration_describes (packet : DecodedC2S) :
    ((w.conn.setup env).script .configuration packet).Describes env
      (handleConfiguration env packet) w := by
  cases packet with
  | v1_20_1 p => exact ⟨_, rfl, rfl⟩
  | v1_21_1 p =>
    obtain ⟨v, x⟩ := p
    cases v with
    | finishConfigurationAck =>
      show sendPlayBurstV1_21_1 env (w.enter .play) = performAll env _ (w.enter .play)
      rw [sendPlayBurstV1_21_1, bind_get_apply, performAll_sends]
      simp [playBurst, World.enter, World.log, Connection.setup]
    | _ => rfl

theorem dispatchPacket_eq (packet : DecodedC2S) :
    dispatchPacket env packet w =
      (match w.conn.state with
        | .handshake => handleHandshake packet
        | .status => handleStatus env packet
        | .login => handleLogin env packet
        | .configuration => handleConfiguration env packet
        | .play => handlePlay packet) (w.log (.received packet)) := rfl

/-- The handlers carry out the script. -/
theorem dispatchPacket_run (packet : DecodedC2S) :
    match (w.conn.setup env).script w.conn.state packet with
    | .run effects =>
      dispatchPacket env packet w = performAll env effects (w.log (.received packet))
    | .refuse =>
      ∃ e, e.isWrongStage = false ∧
        dispatchPacket env packet w = .error e (w.log (.received packet))
    | .wrongStage =>
      ∃ e, e.isWrongStage = true ∧
        dispatchPacket env packet w = .error e (w.log (.received packet)) := by
  rw [dispatchPacket_eq]
  cases w.conn.state with
  | handshake => exact handleHandshake_describes env (w.log (.received packet)) packet
  | status => exact handleStatus_describes env (w.log (.received packet)) packet
  | login => exact handleLogin_describes env (w.log (.received packet)) packet
  | configuration => exact handleConfiguration_describes env (w.log (.received packet)) packet
  | play => rfl

end

/-! ### What performing effects leaves behind -/

section

variable (env : Env)

/-- A write is sent whole, or it fails: before the socket or at it. -/
theorem writePacket_cases (w : World) (packet : S2CPacket) :
    (∃ bytes, outgoing env w.conn.compressionThreshold packet = .ok bytes ∧
      w.socket.fault w.socket.writes = none ∧
      writePacket env packet w =
        .ok () ({ w with socket := { w.socket with sent := w.socket.sent ++ bytes,
                                                   writes := w.socket.writes + 1 } }.log
          (.did (.send packet)))) ∨
    (∃ e socket, writePacket env packet w =
        .error e ({ w with socket := socket }.log (.failed packet)) ∧
      (outgoing env w.conn.compressionThreshold packet = .error e ∧ socket = w.socket ∨
        w.socket.fault w.socket.writes ≠ none ∧ e.isWrongStage = false)) := by
  rw [writePacket]
  cases hout : outgoing env w.conn.compressionThreshold packet with
  | error e => exact .inr ⟨e, w.socket, rfl, .inl ⟨rfl, rfl⟩⟩
  | ok bytes =>
    cases hfault : w.socket.fault w.socket.writes with
    | none =>
      refine .inl ⟨bytes, rfl, rfl, ?_⟩
      simp only [Socket.write, hfault]
    | some fault =>
      refine .inr ⟨.io fault.kind,
        { w.socket with sent := w.socket.sent ++ bytes.take fault.delivered,
                        writes := w.socket.writes + 1 }, ?_, .inr ⟨by simp, rfl⟩⟩
      simp only [Socket.write, hfault]

theorem perform_cases (effect : Effect) (w : World) :
    (∃ w', perform env effect w = .ok () w' ∧ w.After [.did effect] w') ∨
    (∃ packet e w', effect = .send packet ∧ perform env effect w = .error e w' ∧
      w.After [.failed packet] w' ∧ Plain e) := by
  cases effect with
  | send packet =>
    rcases writePacket_cases env w packet with ⟨bytes, _, _, hok⟩ | ⟨e, socket, herr, hwhy⟩
    · exact .inl ⟨_, hok, w.after_sent _ packet⟩
    · have he : Plain e := by
        rcases hwhy with ⟨hout, -⟩ | ⟨-, hplain⟩
        · exact (outgoing_fails env _ packet e hout).plain
        · exact hplain
      exact .inr ⟨packet, e, _, rfl, herr, w.after_failed socket packet, he⟩
  | enter state => exact .inl ⟨_, rfl, w.after_enter state⟩
  | compress threshold => exact .inl ⟨_, rfl, w.after_compress threshold⟩

/-- Either all effects are performed, or those before a write that fails. -/
theorem performAll_cases (effects : List Effect) (w : World) :
    (∃ w', performAll env effects w = .ok () w' ∧ w.After (effects.map .did) w') ∨
    (∃ pre packet post e w', effects = pre ++ .send packet :: post ∧
      performAll env effects w = .error e w' ∧
      w.After (pre.map .did ++ [.failed packet]) w' ∧ Plain e) := by
  induction effects generalizing w with
  | nil => exact .inl ⟨w, rfl, World.After.refl w⟩
  | cons effect effects ih =>
    rcases perform_cases env effect w with ⟨w₁, hok, ha⟩ | ⟨q, e, w₁, rfl, herr, ha, he⟩
    · rw [performAll_cons_ok hok]
      rcases ih w₁ with ⟨w', hrest, hb⟩ | ⟨pre, q, post, e, w', rfl, hrest, hb, he⟩
      · exact .inl ⟨w', hrest, ha.trans hb⟩
      · exact .inr ⟨effect :: pre, q, post, e, w', rfl, hrest, ha.trans hb, he⟩
    · exact .inr ⟨[], q, effects, e, w₁, rfl, performAll_cons_error herr, ha, he⟩

theorem writePacket_after (packet : S2CPacket) (w : World) :
    ∃ actions, w.After actions (settle .draining (writePacket env packet w)).1 := by
  rcases perform_cases env (.send packet) w with ⟨w', hok, ha⟩ | ⟨q, e, w', -, herr, ha, -⟩
  · exact ⟨_, by rw [show writePacket env packet w = _ from hok]; exact ha⟩
  · exact ⟨_, by rw [show writePacket env packet w = _ from herr]; exact ha⟩

/-- A dispatch performs the script, whole or up to a write that fails, or it refuses the
packet. -/
theorem dispatchPacket_cases (packet : DecodedC2S) (w : World) :
    (∃ effects w', (w.conn.setup env).script w.conn.state packet = .run effects ∧
      dispatchPacket env packet w = .ok () w' ∧
      w.After (.received packet :: effects.map .did) w') ∨
    (∃ pre failing post e w',
      (w.conn.setup env).script w.conn.state packet = .run (pre ++ .send failing :: post) ∧
      dispatchPacket env packet w = .error e w' ∧
      w.After (.received packet :: (pre.map .did ++ [.failed failing])) w' ∧ Plain e) ∨
    (∃ e w', ((w.conn.setup env).script w.conn.state packet = .refuse ∧ Plain e ∨
        (w.conn.setup env).script w.conn.state packet = .wrongStage) ∧
      dispatchPacket env packet w = .error e w' ∧ w.After [.received packet] w') := by
  have hrun := dispatchPacket_run env w packet
  have hrec := w.after_received packet
  cases hscript : (w.conn.setup env).script w.conn.state packet with
  | run effects =>
    rw [hscript] at hrun
    rcases performAll_cases env effects (w.log (.received packet)) with
      ⟨w', hok, ha⟩ | ⟨pre, q, post, e, w', rfl, herr, ha, he⟩
    · exact .inl ⟨effects, w', rfl, hrun.trans hok, hrec.trans ha⟩
    · exact .inr (.inl ⟨pre, q, post, e, w', rfl, hrun.trans herr, hrec.trans ha, he⟩)
  | refuse =>
    rw [hscript] at hrun
    obtain ⟨e, he, herr⟩ := hrun
    exact .inr (.inr ⟨e, _, .inl ⟨rfl, he⟩, herr, hrec⟩)
  | wrongStage =>
    rw [hscript] at hrun
    obtain ⟨e, -, herr⟩ := hrun
    exact .inr (.inr ⟨e, _, .inr rfl, herr, hrec⟩)

/-- A dispatch records what it does, and does nothing else to the connection. -/
theorem dispatchPacket_after (packet : DecodedC2S) (w : World) :
    ∃ actions, w.After actions (settle .draining (dispatchPacket env packet w)).1 := by
  rcases dispatchPacket_cases env packet w with ⟨effects, w', -, hok, ha⟩ |
    ⟨pre, q, post, e, w', -, herr, ha, -⟩ | ⟨e, w', -, herr, ha⟩
  · exact ⟨_, by rw [hok]; exact ha⟩
  · exact ⟨_, by rw [herr]; exact ha⟩
  · exact ⟨_, by rw [herr]; exact ha⟩

end

end Statik
