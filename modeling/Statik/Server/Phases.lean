import Statik.Server.Session

/-!
# Phases of a connection

Which packets lead to which effects, the order in which a connection goes through
its states, and the packets it writes in each of them.
-/

namespace Statik

open Wire

/-! ### Packets that log in -/

/-- The name a login packet asks for: `LoginStart` of 1.20.1, `Hello` of 1.21.1. -/
def DecodedC2S.loginName : DecodedC2S → Option String
  | .v1_20_1 ⟨.loginStart, username, _⟩ => some username
  | .v1_21_1 ⟨.hello, name, _⟩ => some name
  | _ => none

def DecodedC2S.isLoginAcknowledged : DecodedC2S → Bool
  | .v1_21_1 ⟨.loginAcknowledged, _⟩ => true
  | _ => false

theorem loginName_state {packet : DecodedC2S} {name : String}
    (h : packet.loginName = some name) : packet.state = .login := by
  cases packet with
  | v1_20_1 p =>
    obtain ⟨v, x⟩ := p
    cases v with
    | loginStart => rfl
    | _ => cases h
  | v1_21_1 p =>
    obtain ⟨v, x⟩ := p
    cases v with
    | hello => rfl
    | _ => cases h

namespace Setup

variable {S : Setup}

/-- The scripts of the packets a session admits. -/
inductive Scripted (S : Setup) : State → DecodedC2S → List Effect → Prop where
  | handshake {packet : DecodedC2S} {state : State} :
      state = .status ∨ state = .login → Scripted S .handshake packet [.enter state]
  | reply {packet : DecodedC2S} {answer : S2CPacket} :
      answer.protocol = S.protocol → answer.state = .status →
      Scripted S .status packet [.send answer]
  | rejected {packet : DecodedC2S} {name : String} :
      packet.loginName = some name → isValidUsername name = false →
      Scripted S .login packet [.send (disconnect S.protocol)]
  | joined {packet : DecodedC2S} {name : String} :
      S.protocol = .v1_20_1 → packet.loginName = some name → isValidUsername name = true →
      Scripted S .login packet
        (S.acceptance name .v1_20_1 ++ entering .play (playBurst S.env S.config .v1_20_1))
  | accepted {packet : DecodedC2S} {name : String} :
      S.protocol = .v1_21_1 → packet.loginName = some name → isValidUsername name = true →
      Scripted S .login packet (S.acceptance name .v1_21_1)
  | acknowledged {packet : DecodedC2S} :
      S.protocol = .v1_21_1 → packet.isLoginAcknowledged = true →
      Scripted S .login packet (entering .configuration (configurationBurst S.env))
  | finished {packet : DecodedC2S} :
      S.protocol = .v1_21_1 →
      Scripted S .configuration packet (entering .play (playBurst S.env S.config .v1_21_1))
  | ignored {state : State} {packet : DecodedC2S} :
      state = .configuration ∨ state = .play → Scripted S state packet []

theorem scripted_handshake {packet : DecodedC2S} {effects : List Effect}
    {version : BitVec 32} {intent : ClientIntent} (h : S.handshake version intent = .run effects) :
    Scripted S .handshake packet effects := by
  rw [Setup.handshake] at h
  split at h
  · cases intent with
    | status => cases h; exact .handshake (.inl rfl)
    | login => cases h; exact .handshake (.inr rfl)
    | transfer => cases h
  · cases h

theorem scripted_login {packet : DecodedC2S} {name : String} {protocol : ProtocolKind}
    {then_ effects : List Effect} (hprotocol : S.protocol = protocol)
    (hname : packet.loginName = some name)
    (haccepted : isValidUsername name = true →
      Scripted S .login packet (S.acceptance name protocol ++ then_))
    (h : S.loginScript name protocol then_ = .run effects) :
    Scripted S .login packet effects := by
  subst hprotocol
  rw [loginScript] at h
  split at h
  case isTrue hvalid =>
    cases h
    exact haccepted hvalid
  case isFalse hinvalid =>
    cases h
    exact .rejected hname (Bool.not_eq_true _ ▸ hinvalid)

/-- The script of an admitted packet is one of these. -/
theorem scripted_of_script {state : State} {packet : DecodedC2S} {effects : List Effect}
    (hprotocol : packet.protocol = S.protocol) (hstate : packet.state = state)
    (h : S.script state packet = .run effects) : Scripted S state packet effects := by
  subst hstate
  cases packet with
  | v1_20_1 p =>
    have hp : S.protocol = .v1_20_1 := hprotocol.symm
    obtain ⟨v, x⟩ := p
    cases v with
    | handshake => exact scripted_handshake h
    | statusRequest => cases h; exact .reply hprotocol rfl
    | ping => cases h; exact .reply hprotocol rfl
    | loginStart =>
      exact scripted_login hp rfl (fun hvalid => .joined hp rfl hvalid) h
    | encryptionResponse => cases h
    | loginPluginResponse => cases h
    | _ => cases h; exact .ignored (.inr rfl)
  | v1_21_1 p =>
    have hp : S.protocol = .v1_21_1 := hprotocol.symm
    obtain ⟨v, x⟩ := p
    cases v with
    | handshake => exact scripted_handshake h
    | statusRequest => cases h; exact .reply hprotocol rfl
    | ping => cases h; exact .reply hprotocol rfl
    | hello =>
      refine scripted_login hp rfl (fun hvalid => ?_) h
      rw [List.append_nil]
      exact .accepted hp rfl hvalid
    | loginAcknowledged => cases h; exact .acknowledged hp rfl
    | key => cases h
    | customQueryAnswer => cases h
    | cookieResponse => cases h
    | finishConfigurationAck => cases h; exact .finished hp
    | _ => cases h; exact .ignored (by first | exact .inl rfl | exact .inr rfl)

theorem Admits.scripted {history : List Action} {packet : DecodedC2S} {effects : List Effect}
    (h : S.Admits history packet) (hscript : S.script (stateAfter history) packet = .run effects) :
    Scripted S (stateAfter history) packet effects :=
  scripted_of_script h.protocol h.state hscript

/-! ### Packets are written in their own state -/

/-- Performed from `state`, every write is of a packet of the protocol version and
of the state it is written in. -/
def InPhase (protocol : ProtocolKind) : State → List Effect → Prop
  | _, [] => True
  | state, .send packet :: effects =>
    (packet.protocol = protocol ∧ packet.state = state) ∧ InPhase protocol state effects
  | _, .enter state :: effects => InPhase protocol state effects
  | state, .compress _ :: effects => InPhase protocol state effects

theorem InPhase.at_send {protocol : ProtocolKind} {state : State} {before after : List Effect}
    {packet : S2CPacket} (h : InPhase protocol state (before ++ .send packet :: after)) :
    packet.protocol = protocol ∧ packet.state = stateFrom state (before.map .did) := by
  induction before generalizing state with
  | nil => exact h.1
  | cons effect before ih =>
    cases effect with
    | send q => exact ih h.2
    | enter s => exact ih h
    | compress t => exact ih h

theorem inPhase_sends {protocol : ProtocolKind} {state : State} {packets : List S2CPacket}
    (h : ∀ q ∈ packets, q.protocol = protocol ∧ q.state = state) :
    InPhase protocol state (packets.map .send) := by
  induction packets with
  | nil => trivial
  | cons q packets ih =>
    exact ⟨h q List.mem_cons_self, ih fun q' hq' => h q' (List.mem_cons_of_mem q hq')⟩

theorem configurationBurst_inPhase (env : Env) :
    ∀ q ∈ configurationBurst env, q.protocol = .v1_21_1 ∧ q.state = .configuration := by
  intro q hq
  simp only [configurationBurst, List.mem_append, List.mem_cons, List.mem_map,
    List.not_mem_nil, or_false] at hq
  rcases hq with ((rfl | rfl) | ⟨entry, -, rfl⟩) | rfl | rfl | rfl <;> exact ⟨rfl, rfl⟩

theorem playBurst_inPhase (env : Env) (config : ServerConfig) (protocol : ProtocolKind) :
    ∀ q ∈ playBurst env config protocol, q.protocol = protocol ∧ q.state = .play := by
  intro q hq
  cases protocol with
  | v1_20_1 =>
    simp only [playBurst, List.mem_cons, List.not_mem_nil, or_false] at hq
    rcases hq with rfl | rfl | rfl | rfl | rfl | rfl | rfl | rfl <;> exact ⟨rfl, rfl⟩
  | v1_21_1 =>
    simp only [playBurst, List.mem_cons, List.not_mem_nil, or_false] at hq
    rcases hq with rfl | rfl | rfl | rfl | rfl | rfl | rfl | rfl | rfl | rfl <;> exact ⟨rfl, rfl⟩

theorem acceptance_inPhase (name : String) (protocol : ProtocolKind) {effects : List Effect}
    (h : InPhase protocol .login effects) :
    InPhase protocol .login (S.acceptance name protocol ++ effects) := by
  have hcompression : ∀ t, (setCompression t protocol).protocol = protocol ∧
      (setCompression t protocol).state = .login := by
    intro t
    cases protocol <;> exact ⟨rfl, rfl⟩
  have hsuccess : (loginSuccess name protocol).protocol = protocol ∧
      (loginSuccess name protocol).state = .login := by
    cases protocol <;> exact ⟨rfl, rfl⟩
  rw [acceptance]
  split
  · exact ⟨hcompression _, hsuccess, h⟩
  · exact ⟨hsuccess, h⟩

theorem Scripted.inPhase {state : State} {packet : DecodedC2S} {effects : List Effect}
    (h : Scripted S state packet effects) : InPhase S.protocol state effects := by
  cases h with
  | handshake _ => trivial
  | reply hprotocol hstate => exact ⟨⟨hprotocol, hstate⟩, trivial⟩
  | rejected hname hinvalid =>
    refine ⟨?_, trivial⟩
    cases S.protocol <;> exact ⟨rfl, rfl⟩
  | joined hprotocol hname hvalid =>
    rw [hprotocol]
    exact acceptance_inPhase _ _ (inPhase_sends (playBurst_inPhase _ _ _))
  | accepted hprotocol hname hvalid =>
    rw [hprotocol, ← List.append_nil (S.acceptance _ _)]
    exact acceptance_inPhase _ _ trivial
  | acknowledged hprotocol hack =>
    rw [hprotocol]
    exact inPhase_sends (configurationBurst_inPhase _)
  | finished hprotocol =>
    rw [hprotocol]
    exact inPhase_sends (playBurst_inPhase _ _ _)
  | ignored hstate => trivial

theorem keepAlive_inPhase (protocol : ProtocolKind) (id : BitVec 64) :
    (keepAlive protocol id).protocol = protocol ∧ (keepAlive protocol id).state = .play := by
  cases protocol <;> exact ⟨rfl, rfl⟩

/-- A packet passed to `write_packet` is of the connection's version and of the
state the connection is in. -/
theorem Trace.inPhase {history pre post : List Action} {action : Action} {packet : S2CPacket}
    (h : S.Trace history) (heq : history = pre ++ action :: post)
    (heffect : action.effect = some (.send packet)) :
    packet.protocol = S.protocol ∧ packet.state = stateAfter pre := by
  rcases h.at_effect heffect heq with ⟨-, hplay, id, hsend⟩ | ⟨history, p, before, after, rfl, -,
    hadmits, hscript⟩
  · cases hsend
    rw [hplay]
    exact keepAlive_inPhase S.protocol id
  · rw [stateAfter_append]
    exact (hadmits.scripted hscript).inPhase.at_send

/-- Every packet passed to `write_packet` in a run, whether the write succeeds or
not, is of the connection's version and of the state the connection is in at that
moment. -/
theorem written_inPhase (S : Setup) (fault : Nat → Option Fault) (inputs : List Input)
    {pre post : List Action} {action : Action} {packet : S2CPacket}
    (hhistory : (S.run fault inputs).history = pre ++ action :: post)
    (hwrite : action = .did (.send packet) ∨ action = .failed packet) :
    packet.protocol = S.protocol ∧ packet.state = stateAfter pre := by
  refine (refines_run S fault inputs).trace.inPhase hhistory ?_
  rcases hwrite with rfl | rfl <;> rfl

/-- The frames of a handshake for Status and a `Ping`. -/
def statusPing : List Input :=
  [.advance,
   .read (.ok ([8, 0, 0xfb, 0x05, 1, 0x61, 0x63, 0xdd, 1] ++ [9, 1, 0, 0, 0, 0, 0, 0, 0, 7])),
   .advance, .advance]

theorem statusPing_inPhase :
    (V1_20_1.pong 7).protocol = .v1_20_1 ∧
      (V1_20_1.pong 7).state = stateAfter
        ((bareRun .v1_20_1 false statusPing).history.take 3) := by
  have hhistory : (bareRun .v1_20_1 false statusPing).history =
      (bareRun .v1_20_1 false statusPing).history.take 3 ++
        .did (.send (V1_20_1.pong 7)) ::
          (bareRun .v1_20_1 false statusPing).history.drop 4 := rfl
  exact written_inPhase (Setup.bare .v1_20_1 false) (fun _ => none) statusPing hhistory (.inl rfl)

/-! ### The order of the states -/

/-- One step through the states of the protocol. -/
inductive Moves (protocol : ProtocolKind) : State → State → Prop where
  | status : Moves protocol .handshake .status
  | login : Moves protocol .handshake .login
  | join : protocol = .v1_20_1 → Moves protocol .login .play
  | configure : protocol = .v1_21_1 → Moves protocol .login .configuration
  | finish : protocol = .v1_21_1 → Moves protocol .configuration .play

theorem enters_sends (packets : List S2CPacket) :
    (packets.map Effect.send).filterMap Effect.enters = [] := by
  induction packets with
  | nil => rfl
  | cons q packets ih => exact ih

theorem enters_acceptance (S : Setup) (name : String) (protocol : ProtocolKind) :
    (S.acceptance name protocol).filterMap Effect.enters = [] := by
  rw [acceptance]
  split <;> rfl

theorem enters_entering (state : State) (packets : List S2CPacket) :
    (entering state packets).filterMap Effect.enters = [state] := by
  rw [entering, filterMap_enter, enters_sends]

theorem stateFrom_entering (state next : State) (packets : List S2CPacket) :
    stateFrom state ((entering next packets).map .did) = next := by
  rw [stateFrom_did, enters_entering]
  rfl

theorem thresholdFrom_sends (threshold : Option (BitVec 32)) (packets : List S2CPacket) :
    thresholdFrom threshold ((packets.map Effect.send).map .did) = threshold := by
  induction packets with
  | nil => rfl
  | cons packet packets ih => exact ih

theorem thresholdFrom_entering (threshold : Option (BitVec 32)) (next : State)
    (packets : List S2CPacket) :
    thresholdFrom threshold ((entering next packets).map .did) = threshold :=
  thresholdFrom_sends threshold packets

/-- A script enters no state, or one: the next. -/
theorem Scripted.moves {state : State} {packet : DecodedC2S} {effects : List Effect}
    (h : Scripted S state packet effects) :
    effects.filterMap Effect.enters = [] ∨
      ∃ next, effects.filterMap Effect.enters = [next] ∧ Moves S.protocol state next := by
  cases h with
  | handshake hnext =>
    rcases hnext with rfl | rfl
    · exact .inr ⟨_, rfl, .status⟩
    · exact .inr ⟨_, rfl, .login⟩
  | reply hprotocol hstate => exact .inl rfl
  | rejected hname hinvalid => exact .inl rfl
  | joined hprotocol hname hvalid =>
    refine .inr ⟨.play, ?_, .join hprotocol⟩
    rw [List.filterMap_append, enters_acceptance, enters_entering, List.nil_append]
  | accepted hprotocol hname hvalid => exact .inl (enters_acceptance S _ _)
  | acknowledged hprotocol hack =>
    exact .inr ⟨.configuration, enters_entering _ _, .configure hprotocol⟩
  | finished hprotocol => exact .inr ⟨.play, enters_entering _ _, .finish hprotocol⟩
  | ignored hstate => exact .inl rfl

/-- So does every beginning of a script. -/
theorem Scripted.moves_before {state : State} {packet : DecodedC2S}
    {before after : List Effect} (h : Scripted S state packet (before ++ after)) :
    stateFrom state (before.map .did) = state ∨
      Moves S.protocol state (stateFrom state (before.map .did)) := by
  rw [stateFrom_did]
  have hmoves := h.moves
  rw [List.filterMap_append] at hmoves
  rcases hmoves with hnone | ⟨next, hone, hmove⟩
  · rw [(List.append_eq_nil_iff.mp hnone).1]
    exact .inl rfl
  · rcases List.append_eq_singleton_iff.mp hone with ⟨hbefore, -⟩ | ⟨hbefore, -⟩
    · rw [hbefore]
      exact .inl rfl
    · rw [hbefore]
      exact .inr hmove

theorem Extends.moves {history block : List Action} (h : S.Extends history block) :
    stateFrom (stateAfter history) block = stateAfter history ∨
      Moves S.protocol (stateAfter history) (stateFrom (stateAfter history) block) := by
  cases h with
  | @packet packet effects hadmits hscript =>
    have hscripted := hadmits.scripted hscript
    rw [← List.append_nil effects] at hscripted
    exact hscripted.moves_before
  | keepAlive id hplay => exact .inl rfl

theorem Breaks.moves {history block : List Action} (h : S.Breaks history block) :
    stateFrom (stateAfter history) block = stateAfter history ∨
      Moves S.protocol (stateAfter history) (stateFrom (stateAfter history) block) := by
  cases h with
  | refused hadmits hscript => exact .inl rfl
  | cut hadmits hscript =>
    rw [stateFrom_cons, stateFrom_append]
    exact (hadmits.scripted hscript).moves_before
  | keepAliveCut id hplay => exact .inl rfl

theorem step_moves {m : Machine} (h : S.Refines m) (input : Input) :
    (m.step S.env input).state = m.state ∨
      Moves S.protocol m.state (m.step S.env input).state := by
  have h' := refines_step h input
  obtain ⟨block, hblock, hcases⟩ := step_block h input
  rw [show m.state = stateAfter m.history from h.agrees.state,
    show (m.step S.env input).state = stateAfter (m.step S.env input).history from
      h'.agrees.state, hblock, stateAfter_append]
  rcases hcases with rfl | hextends | hbreaks
  · exact .inl rfl
  · exact hextends.moves
  · exact hbreaks.moves

/-- A state is entered by a move, while a packet is handled that entered none
before. -/
theorem Trace.at_enter {history pre post : List Action} {next : State} (h : S.Trace history)
    (heq : history = pre ++ .did (.enter next) :: post) :
    Moves S.protocol (stateAfter pre) next ∧
      ∃ before packet mid, pre = before ++ .received packet :: mid ∧
        ∀ state, .did (.enter state) ∉ mid := by
  rcases h.at_effect rfl heq with ⟨-, -, id, hsend⟩ | ⟨before, packet, mid, after, rfl, -, hadmits,
    hscript⟩
  · cases hsend
  · have hmoves := (hadmits.scripted hscript).moves
    rw [List.filterMap_append, filterMap_enter] at hmoves
    rcases hmoves with hnone | ⟨next', hone, hmove⟩
    · exact absurd hnone (by simp)
    · obtain ⟨hmid, hnext⟩ := singleton_eq_append_cons hone.symm
      subst hnext
      constructor
      · rw [stateAfter_append, stateFrom_cons, stateFrom_did, hmid]
        exact hmove
      · refine ⟨before, packet, _, rfl, fun state hmem => ?_⟩
        obtain ⟨effect, heffect, hdid⟩ := List.mem_map.mp hmem
        cases hdid
        have hin : state ∈ mid.filterMap Effect.enters :=
          List.mem_filterMap.mpr ⟨.enter state, heffect, rfl⟩
        rw [hmid] at hin
        exact absurd hin List.not_mem_nil

/-- The states of a run: it starts in Handshake, each step of the loop makes at
most one move, each move belongs to one packet, each packet handed to the handlers
is of the connection's version and state, and no wrong-stage arm is reached. -/
theorem run_phases (S : Setup) (fault : Nat → Option Fault) (inputs : List Input) :
    (S.run fault []).state = .handshake ∧
    (∀ input, (S.run fault (inputs ++ [input])).state = (S.run fault inputs).state ∨
      Moves S.protocol (S.run fault inputs).state (S.run fault (inputs ++ [input])).state) ∧
    (S.run fault inputs).state = stateAfter (S.run fault inputs).history ∧
    (∀ pre next post, (S.run fault inputs).history = pre ++ .did (.enter next) :: post →
      Moves S.protocol (stateAfter pre) next ∧
        ∃ before packet mid, pre = before ++ .received packet :: mid ∧
          ∀ state, .did (.enter state) ∉ mid) ∧
    (∀ pre packet post, (S.run fault inputs).history = pre ++ .received packet :: post →
      packet.protocol = S.protocol ∧ packet.state = stateAfter pre) ∧
    ∀ text, (S.run fault inputs).phase ≠ .ended (.wrongStage text) := by
  have h := refines_run S fault inputs
  refine ⟨rfl, fun input => ?_, h.agrees.state, fun pre next post heq => h.trace.at_enter heq,
    fun pre packet post heq => ?_, fun text hended => ?_⟩
  · rw [run_snoc]
    exact step_moves h input
  · obtain ⟨-, hadmits, -⟩ := h.trace.at_received heq
    exact ⟨hadmits.protocol, hadmits.state⟩
  · exact absurd (h.plain _ hended) Bool.noConfusion

end Setup

end Statik
