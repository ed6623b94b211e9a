import Statik.Derive.Writing
import Statik.Server.Bursts
import Statik.Server.Conversation

/-!
# What cannot be written

The writers of both versions refuse a packet only for the length of what is in it, and
short texts in the configuration are enough for every packet that the server itself makes.
-/

namespace Statik

open Wire

/-- The packet is written unless something in it is too long, and the error then names the
first field that holds it. -/
def PacketGroup.Writes (G : PacketGroup) (serde : Serde) (p : G.Packet) : Prop :=
  ((∃ bs, G.encode serde p = .ok bs) ↔ (G.packet p.1).layout.Short serde p.2) ∧
    ∀ e, G.encode serde p = .error e →
      ∃ text source, e = .context text source ∧ (G.packet p.1).layout.Blames serde p.2 text

namespace ProtocolKind

theorem c2s_isStruct (protocol : ProtocolKind) (v : protocol.c2s.Variant) :
    (protocol.c2s.packet v).layout.isStruct = true := by
  cases protocol <;> cases v <;> decide

theorem s2c_isStruct (protocol : ProtocolKind) (v : protocol.s2c.Variant) :
    (protocol.s2c.packet v).layout.isStruct = true := by
  cases protocol <;> cases v <;> decide

/-- Every packet of both versions and directions is written exactly if no string and no
vector in it is longer than `i32::MAX`, and refused in the name of the first field that
holds a longer one. -/
theorem groups_write (serde : Serde) (protocol : ProtocolKind) :
    (∀ p : protocol.c2s.Packet, protocol.c2s.Writes serde p) ∧
      ∀ p : protocol.s2c.Packet, protocol.s2c.Writes serde p :=
  ⟨fun p => PacketGroup.encode_refuses (c2s_isStruct protocol p.1),
   fun p => PacketGroup.encode_refuses (s2c_isStruct protocol p.1)⟩

end ProtocolKind

/-! ### The packets of the server -/

def S2CPacket.Short (serde : Serde) : S2CPacket → Prop
  | .v1_20_1 p => p.1.packet.layout.Short serde p.2
  | .v1_21_1 p => p.1.packet.layout.Short serde p.2

theorem S2CPacket.encode_of_short {serde : Serde} {q : S2CPacket} (h : q.Short serde) :
    ∃ body, q.encode serde = .ok body := by
  cases q with
  | v1_20_1 p =>
    exact (PacketGroup.encode_refuses (G := V1_20_1.s2c)
      (ProtocolKind.s2c_isStruct .v1_20_1 p.1)).1.mpr h
  | v1_21_1 p =>
    exact (PacketGroup.encode_refuses (G := V1_21_1.s2c)
      (ProtocolKind.s2c_isStruct .v1_21_1 p.1)).1.mpr h

/-- Compressing never fails. -/
def Flate2.Total (flate2 : Flate2) : Prop := ∀ b, ∃ compressed, flate2.deflate b = .ok compressed

theorem outgoing_of_short {env : Env} (hdeflate : env.flate2.Total) {q : S2CPacket}
    (h : q.Short env.serde) (threshold : Option (BitVec 32)) :
    ∃ bytes, outgoing env threshold q = .ok bytes := by
  obtain ⟨body, hbody⟩ := S2CPacket.encode_of_short h
  have hframed : ∃ framed, frameBody env.flate2 threshold body = .ok framed := by
    cases threshold with
    | none => exact ⟨body, rfl⟩
    | some threshold =>
      obtain ⟨compressed, hcompressed⟩ := hdeflate body
      rw [frameBody, hcompressed]
      split
      · exact ⟨_, rfl⟩
      · exact ⟨_, rfl⟩
  obtain ⟨framed, hframed⟩ := hframed
  exact ⟨_, outgoing_of hbody hframed⟩

/-- The texts of the configuration that get into packets are of a length that packets can
have. -/
structure Setup.Presentable (S : Setup) : Prop where
  status : Layout.Short S.env.serde .statusResponse (S.config.status S.protocol)
  rejection : Layout.Short S.env.serde .chat ⟨"Invalid username."⟩
  dimension : (utf8 S.config.limbo.dimension).length ≤ i32Max

namespace Setup.Presentable

variable {S : Setup} {q : S2CPacket}

theorem disconnect (h : S.Presentable) (protocol : ProtocolKind) :
    (Setup.disconnect protocol).Short S.env.serde := by
  cases protocol <;> exact ⟨h.rejection, trivial⟩

theorem acceptance {name : String} (hvalid : isValidUsername name = true)
    (protocol : ProtocolKind) (hq : .send q ∈ S.acceptance name protocol) :
    q.Short S.env.serde := by
  have hname : (utf8 name).length ≤ i32Max := by
    simp only [isValidUsername, Bool.and_eq_true, decide_eq_true_eq] at hvalid
    exact Nat.le_trans hvalid.1.2 (by decide)
  rcases Setup.mem_acceptance hq with rfl | rfl
  · cases protocol <;> trivial
  · have hnone : ∀ t : Layout, Layout.Short S.env.serde (.vec t) ([] : List t.Val) :=
      fun t => ⟨Nat.zero_le _, fun x hx => absurd hx List.not_mem_nil⟩
    cases protocol with
    | v1_20_1 => exact ⟨trivial, hname, hnone _, trivial⟩
    | v1_21_1 => exact ⟨trivial, hname, hnone _, trivial, trivial⟩

/-- A text of the source. -/
theorem literal (serde : Serde) {text : String} (h : (utf8 text).length ≤ 64) :
    Layout.Short serde .string text := Nat.le_trans h (by decide)

theorem singleton {serde : Serde} {t : Layout} {v : t.Val} (h : Layout.Short serde t v) :
    Layout.Short serde (.vec t) [v] := by
  refine ⟨(by decide : 1 ≤ i32Max), fun x hx => ?_⟩
  rw [List.mem_singleton.mp hx]
  exact h

theorem configurationBurst (S : Setup) (hq : q ∈ Statik.configurationBurst S.env) :
    q.Short S.env.serde := by
  have hliteral : ∀ text : String, (utf8 text).length ≤ 64 →
      Layout.Short S.env.serde .string text :=
    fun text h => literal S.env.serde h
  simp only [Statik.configurationBurst, List.mem_append, List.mem_cons, List.mem_map,
    List.not_mem_nil, or_false] at hq
  rcases hq with ((rfl | rfl) | ⟨entry, hentry, rfl⟩) | rfl | rfl | rfl
  · exact ⟨hliteral _ (by decide), trivial, trivial⟩
  · exact ⟨singleton (hliteral _ (by decide)), trivial⟩
  · have hnames : ∀ name ∈ (V1_21_1.registries.all fun _ => []).map Prod.fst,
        (utf8 name).length ≤ 64 := by decide
    have hname : entry.1 ∈ (V1_21_1.registries.all S.env.includeBytes).map Prod.fst :=
      List.mem_map_of_mem hentry
    exact ⟨hliteral _ (hnames entry.1 hname), trivial, trivial⟩
  · exact ⟨⟨Nat.zero_le _, fun x hx => absurd hx List.not_mem_nil⟩, trivial⟩
  · exact ⟨singleton ⟨hliteral _ (by decide), hliteral _ (by decide), hliteral _ (by decide),
      trivial⟩, trivial⟩
  · trivial

theorem playBurst (h : S.Presentable) (protocol : ProtocolKind)
    (hq : q ∈ Statik.playBurst S.env S.config protocol) : q.Short S.env.serde := by
  have hnone : ∀ t : Layout, Layout.Short S.env.serde (.option t) (none : Option t.Val) := by
    intro t a ha
    cases ha
  have hdimension : Layout.Short S.env.serde .string S.config.limbo.dimension := h.dimension
  cases protocol with
  | v1_20_1 =>
    simp only [Statik.playBurst, List.mem_cons, List.not_mem_nil, or_false] at hq
    rcases hq with rfl | rfl | rfl | rfl | rfl | rfl | rfl | rfl
    · exact ⟨trivial, trivial, trivial, trivial, singleton hdimension, trivial,
        literal S.env.serde (by decide), hdimension, trivial, trivial, trivial, trivial, trivial,
        trivial, trivial, trivial, hnone _, trivial, trivial⟩
    all_goals trivial
  | v1_21_1 =>
    simp only [Statik.playBurst, List.mem_cons, List.not_mem_nil, or_false] at hq
    rcases hq with rfl | rfl | rfl | rfl | rfl | rfl | rfl | rfl | rfl | rfl
    · exact ⟨trivial, trivial, singleton hdimension, trivial, trivial, trivial, trivial, trivial,
        trivial, ⟨trivial, hdimension, trivial, trivial, trivial, trivial, trivial, hnone _,
        trivial, trivial⟩, trivial, trivial⟩
    all_goals trivial

theorem loginScript (h : S.Presentable) {name : String} {protocol : ProtocolKind}
    {then_ effects : List Effect} (hthen : ∀ q, .send q ∈ then_ → q.Short S.env.serde)
    (hscript : S.loginScript name protocol then_ = .run effects) (hq : .send q ∈ effects) :
    q.Short S.env.serde := by
  rw [Setup.loginScript] at hscript
  by_cases hvalid : isValidUsername name = true
  · rw [if_pos hvalid] at hscript
    cases hscript
    rcases List.mem_append.mp hq with hacceptance | hthen'
    · exact acceptance hvalid protocol hacceptance
    · exact hthen q hthen'
  · rw [if_neg hvalid] at hscript
    cases hscript
    cases List.mem_singleton.mp hq
    exact h.disconnect protocol

theorem entering {state : State} {packets : List S2CPacket}
    (h : ∀ q ∈ packets, q.Short S.env.serde) (hq : .send q ∈ Setup.entering state packets) :
    q.Short S.env.serde := by
  rw [Setup.entering, List.mem_cons] at hq
  rcases hq with hq | hq
  · cases hq
  · obtain ⟨p, hp, heq⟩ := List.mem_map.mp hq
    rw [← Effect.send.inj heq]
    exact h p hp

/-- Whatever a script sends is short. -/
theorem script (h : S.Presentable) {state : State} {packet : DecodedC2S} {effects : List Effect}
    (hprotocol : packet.protocol = S.protocol) (hstate : packet.state = state)
    (hscript : S.script state packet = .run effects) (hq : .send q ∈ effects) :
    q.Short S.env.serde := by
  have hplay : ∀ q ∈ Statik.playBurst S.env S.config S.protocol, q.Short S.env.serde :=
    fun q hq => h.playBurst S.protocol hq
  rw [← hprotocol] at hplay
  subst hstate
  have hsingle : ∀ {answer : S2CPacket}, .send q ∈ [Effect.send answer] →
      answer.Short S.env.serde → q.Short S.env.serde := by
    intro answer hmem hanswer
    cases List.mem_singleton.mp hmem
    exact hanswer
  have hhandshake : ∀ {version : BitVec 32} {intent : ClientIntent},
      S.handshake version intent = .run effects → q.Short S.env.serde := by
    intro version intent heq
    rw [Setup.handshake] at heq
    split at heq
    · cases intent with
      | status => cases heq; cases List.mem_singleton.mp hq
      | login => cases heq; cases List.mem_singleton.mp hq
      | transfer => cases heq
    · cases heq
  cases packet with
  | v1_20_1 p =>
    obtain ⟨v, x⟩ := p
    cases v with
    | handshake => exact hhandshake hscript
    | statusRequest => cases hscript; exact hsingle hq ⟨h.status, trivial⟩
    | ping => cases hscript; exact hsingle hq ⟨trivial, trivial⟩
    | loginStart => exact h.loginScript (fun q hq => entering hplay hq) hscript hq
    | encryptionResponse => cases hscript
    | loginPluginResponse => cases hscript
    | _ => cases hscript; cases hq
  | v1_21_1 p =>
    obtain ⟨v, x⟩ := p
    cases v with
    | handshake => exact hhandshake hscript
    | statusRequest => cases hscript; exact hsingle hq ⟨h.status, trivial⟩
    | ping => cases hscript; exact hsingle hq ⟨trivial, trivial⟩
    | hello => exact h.loginScript (fun q hq => by cases hq) hscript hq
    | loginAcknowledged => cases hscript; exact entering (fun q hq => configurationBurst S hq) hq
    | key => cases hscript
    | customQueryAnswer => cases hscript
    | cookieResponse => cases hscript
    | finishConfigurationAck => cases hscript; exact entering hplay hq
    | _ => cases hscript; cases hq

theorem keepAlive (serde : Serde) (protocol : ProtocolKind) (id : BitVec 64) :
    (keepAlive protocol id).Short serde := by
  cases protocol <;> trivial

end Setup.Presentable

/-- Short packets are written under every threshold. -/
theorem Writable.of_short {env : Env} (hdeflate : env.flate2.Total) {actions : List Action}
    (h : ∀ q, .did (.send q) ∈ actions → q.Short env.serde) (threshold : Option (BitVec 32)) :
    Writable env threshold actions := by
  intro pre packet post heq
  refine outgoing_of_short hdeflate (h packet ?_) _
  rw [heq]
  exact List.mem_append_right pre List.mem_cons_self

/-! ### Runs in which every write succeeds -/

/-- A connection on a sound socket, on which no write has failed. -/
structure Machine.Fluent (m : Machine) : Prop where
  sound : m.world.Sound
  written : ∀ q, Action.failed q ∉ m.history

namespace Machine.Fluent

variable {S : Setup} {m : Machine}

theorem of_after {w w' : World} {actions : List Action} (hafter : w.After actions w')
    (hactions : ∀ q, Action.failed q ∉ actions) (h : ∀ q, Action.failed q ∉ w.history) :
    ∀ q, Action.failed q ∉ w'.history := by
  intro q hq
  rw [hafter.history] at hq
  rcases List.mem_append.mp hq with hold | hnew
  · exact h q hold
  · exact hactions q hnew

theorem not_failed_did (effects : List Effect) (q : S2CPacket) :
    Action.failed q ∉ effects.map Action.did := by
  intro hq
  obtain ⟨effect, -, heq⟩ := List.mem_map.mp hq
  cases heq

/-- A handler of a packet writes everything it writes. -/
theorem dispatch (hpresentable : S.Presentable) (hdeflate : S.env.flate2.Total) {w : World}
    (hsetup : w.conn.setup S.env = S) (hsound : w.Sound)
    (hwritten : ∀ q, Action.failed q ∉ w.history)
    {packet : DecodedC2S} (hprotocol : packet.protocol = S.protocol)
    (hstate : packet.state = w.conn.state) :
    (settle .draining (dispatchPacket S.env packet w)).1.Sound ∧
      ∀ q, Action.failed q ∉ (settle .draining (dispatchPacket S.env packet w)).1.history := by
  have hlog : ∀ q, Action.failed q ∉ (w.log (.received packet)).history := by
    intro q hq
    rcases List.mem_append.mp hq with hold | hnew
    · exact hwritten q hold
    · cases List.mem_singleton.mp hnew
  have hrun := dispatchPacket_run S.env w packet
  rw [hsetup] at hrun
  cases hscript : S.script w.conn.state packet with
  | run effects =>
    rw [hscript] at hrun
    have hshort : ∀ q, .did (.send q) ∈ effects.map Action.did → q.Short S.env.serde := by
      intro q hq
      obtain ⟨effect, heffect, heq⟩ := List.mem_map.mp hq
      cases heq
      exact hpresentable.script hprotocol hstate hscript heffect
    have hsound' : (w.log (.received packet)).Sound := hsound
    obtain ⟨w', hok, hafter, hsound''⟩ :=
      performAll_writable hsound' (Writable.of_short hdeflate hshort _)
    rw [hrun.trans hok]
    exact ⟨hsound'', of_after hafter (not_failed_did effects) hlog⟩
  | refuse =>
    rw [hscript] at hrun
    obtain ⟨e, -, herror⟩ := hrun
    rw [herror]
    exact ⟨hsound, hlog⟩
  | wrongStage =>
    rw [hscript] at hrun
    obtain ⟨e, -, herror⟩ := hrun
    rw [herror]
    exact ⟨hsound, hlog⟩

theorem step (h : m.Fluent) (hrefines : S.Refines m) (hpresentable : S.Presentable)
    (hdeflate : S.env.flate2.Total) (input : Input) : (m.step S.env input).Fluent := by
  have hsetup := hrefines.agrees.setup
  have hprotocol : m.conn.protocol = S.protocol := congrArg Setup.protocol hsetup
  cases m.steps_step S.env input with
  | idle same =>
    rw [same]
    exact h
  | buffers live buffer world plain =>
    refine { sound := ?_, written := ?_ }
    · rw [world]
      exact h.sound
    · rw [Machine.history, world]
      exact h.written
  | dispatches live buffer packet protocol state result =>
    obtain ⟨hworld, -⟩ := Prod.mk.inj result
    obtain ⟨hsound, hwritten⟩ := dispatch hpresentable hdeflate
      (hrefines.agrees.buffer buffer).setup h.sound h.written (protocol.trans hprotocol) state
    refine { sound := ?_, written := ?_ }
    · rw [hworld]
      exact hsound
    · rw [Machine.history, hworld]
      exact hwritten
  | keepsAlive live id play result =>
    obtain ⟨hworld, -⟩ := Prod.mk.inj result
    obtain ⟨bytes, hbytes⟩ := outgoing_of_short hdeflate
      (Setup.Presentable.keepAlive S.env.serde m.conn.protocol id) m.conn.compressionThreshold
    rcases writePacket_cases S.env m.world (keepAlive m.conn.protocol id) with
      ⟨bytes', -, -, hok⟩ | ⟨e, socket, -, hwhy⟩
    · rw [hok] at hworld
      refine { sound := ?_, written := fun q hq => ?_ }
      · rw [hworld]
        exact h.sound
      · rw [Machine.history, hworld] at hq
        rcases List.mem_append.mp hq with hold | hnew
        · exact h.written q hold
        · cases List.mem_singleton.mp hnew
    · rcases hwhy with ⟨hout, -⟩ | ⟨hfault, -⟩
      · cases hbytes.symm.trans hout
      · exact absurd (h.sound _) hfault

end Machine.Fluent

/-- As long as the socket takes what it is given, no connection fails at a write, whatever
its peer sends. -/
theorem Setup.run_fluent (S : Setup) (hpresentable : S.Presentable)
    (hdeflate : S.env.flate2.Total) (inputs : List Input) (q : S2CPacket) :
    Action.failed q ∉ (S.run (fun _ => none) inputs).history := by
  suffices h : (S.run (fun _ => none) inputs).Fluent from h.written q
  induction inputs using List.reverseRecOn with
  | nil => exact { sound := fun _ => rfl, written := fun q hq => by cases hq }
  | append_singleton inputs input ih =>
    rw [run_snoc]
    exact ih.step (S.refines_run _ inputs) hpresentable hdeflate input

/-- `serde_json` on status responses without a sample and an icon, whose texts need no
escapes. -/
def Serde.printing : Serde :=
  { Serde.plain with
    statusToString := fun r =>
      "\x7b\"version\":\x7b\"name\":\"" ++ r.version.name ++ "\",\"protocol\":" ++
        toString r.version.protocol ++ "\x7d,\"players\":\x7b\"max\":" ++
        toString r.players.max.toInt ++ ",\"online\":" ++ toString r.players.online.toInt ++
        ",\"sample\":[]\x7d,\"description\":\x7b\"text\":\"" ++ r.description.text ++
        "\"\x7d,\"enforcesSecureChat\":false\x7d" }

/-- A server on its defaults that announces compression, but at a size no packet has. -/
def Setup.printing (protocol : ProtocolKind) : Setup :=
  let S := bare protocol true
  { S with
    env := { S.env with serde := .printing },
    config := { S.config with compression := { enabled := true, threshold := 0x7fffffff } } }

theorem Setup.printing_presentable (protocol : ProtocolKind) :
    (Setup.printing protocol).Presentable :=
  { status := by
      cases protocol with
      | v1_20_1 =>
        exact (by decide +kernel : (utf8 (Serde.printing.statusToString
          (ServerConfig.default.status .v1_20_1))).length ≤ i32Max)
      | v1_21_1 =>
        exact (by decide +kernel : (utf8 (Serde.printing.statusToString
          (ServerConfig.default.status .v1_21_1))).length ≤ i32Max),
    rejection :=
      (by decide : (utf8 (Serde.plain.chatToString ⟨"Invalid username."⟩)).length ≤ i32Max),
    dimension := (by decide : (utf8 ServerConfig.default.limbo.dimension).length ≤ i32Max) }

/-- After a login and two ticks, with all of the play burst written. -/
theorem Setup.joiningTicks_fluent :
    ((Setup.printing .v1_20_1).run (fun _ => none) joiningTicks).state = .play ∧
      Action.failed V1_20_1.levelChunkWithLight ∉
        ((Setup.printing .v1_20_1).run (fun _ => none) joiningTicks).history :=
  ⟨by decide +kernel, run_fluent (Setup.printing .v1_20_1) (printing_presentable .v1_20_1)
    (fun b => ⟨b, rfl⟩) joiningTicks V1_20_1.levelChunkWithLight⟩

end Statik
