import Statik.Server.Login
import Statik.Server.Receiver

/-!
# What the peer receives

The bytes a connection hands to its socket, and what a receiver makes of them.
The receiver's threshold keeps up with the server's: `SetCompression` is written
under the old one, and the server changes to the new one before it writes again.
-/

namespace Statik

open Wire

/-! ### The bytes handed to the socket -/

/-- The packet an effect sends. -/
def Effect.sent : Effect → Option S2CPacket
  | .send packet => some packet
  | _ => none

/-- The packets passed to `write_packet`, in order. -/
def passed (history : List Action) : List S2CPacket :=
  history.filterMap fun action => action.effect.bind Effect.sent

/-- The bytes an action hands to the socket. -/
def Action.handed (env : Env) (threshold : Option (BitVec 32)) (action : Action) : Bytes :=
  match action.effect with
  | some (.send packet) => (outgoing env threshold packet).toOption.getD []
  | _ => []

/-- The bytes the actions hand to the socket, from a threshold on. -/
def handedFrom (env : Env) : Option (BitVec 32) → List Action → Bytes
  | _, [] => []
  | threshold, action :: actions =>
    action.handed env threshold ++ handedFrom env (action.applyThreshold threshold) actions

/-- The output of a connection with the history. -/
def handed (env : Env) (history : List Action) : Bytes := handedFrom env none history

theorem handedFrom_append (env : Env) (threshold : Option (BitVec 32))
    (history later : List Action) :
    handedFrom env threshold (history ++ later) =
      handedFrom env threshold history ++
        handedFrom env (thresholdFrom threshold history) later := by
  induction history generalizing threshold with
  | nil => rfl
  | cons action history ih =>
    rw [List.cons_append, handedFrom, ih, handedFrom, List.append_assoc, thresholdFrom_cons]

theorem handed_snoc (env : Env) (history : List Action) (action : Action) :
    handed env (history ++ [action]) =
      handed env history ++ action.handed env (thresholdAfter history) := by
  rw [handed, handedFrom_append, handedFrom, handedFrom, List.append_nil]
  rfl

/-! ### What the socket was sent -/

/-- The socket was sent all that was handed to it. -/
structure Exact (env : Env) (w : World) : Prop where
  threshold : w.conn.compressionThreshold = thresholdAfter w.history
  sent : w.socket.sent = handed env w.history

/-- A write failed, and the socket was sent a part of what was handed to it. -/
structure Cut (env : Env) (w : World) : Prop where
  failed : ∃ packet, .failed packet ∈ w.history
  sent : w.socket.sent <+: handed env w.history

/-- What a handler leaves behind. -/
def Delivers (env : Env) (result : EStateM.Result Error World Unit) : Prop :=
  match result with
  | .ok _ w' => Exact env w'
  | .error _ w' => Exact env w' ∨ Cut env w'

section

variable {env : Env} {w : World}

theorem Exact.received (h : Exact env w) (packet : DecodedC2S) :
    Exact env (w.log (.received packet)) :=
  { threshold := by rw [World.log, thresholdAfter_append]; exact h.threshold,
    sent := by
      show w.socket.sent = handed env (w.history ++ [.received packet])
      rw [handed_snoc, h.sent]
      exact (List.append_nil _).symm }

theorem Exact.enter (h : Exact env w) (state : State) : Exact env (w.enter state) :=
  { threshold := by rw [World.enter, World.log, thresholdAfter_append]; exact h.threshold,
    sent := by
      show w.socket.sent = handed env (w.history ++ [.did (.enter state)])
      rw [handed_snoc, h.sent]
      exact (List.append_nil _).symm }

theorem Exact.compress (h : Exact env w) (threshold : BitVec 32) :
    Exact env (w.compress threshold) :=
  { threshold := by rw [World.compress, World.log, thresholdAfter_append]; rfl,
    sent := by
      show w.socket.sent = handed env (w.history ++ [.did (.compress threshold)])
      rw [handed_snoc, h.sent]
      exact (List.append_nil _).symm }

/-- A write sends the packet's bytes, or the beginning of them and fails. -/
theorem Exact.writePacket (h : Exact env w) (packet : S2CPacket) :
    Delivers env (Statik.writePacket env packet w) := by
  rw [Statik.writePacket]
  cases hout : outgoing env w.conn.compressionThreshold packet with
  | error e =>
    refine .inr { failed := ⟨packet, List.mem_append_right _ (List.mem_singleton.mpr rfl)⟩,
                  sent := ?_ }
    show w.socket.sent <+: handed env (w.history ++ [.failed packet])
    rw [handed_snoc, h.sent]
    exact List.prefix_append _ _
  | ok bytes =>
    have hhanded : ∀ action : Action, action.effect = some (.send packet) →
        handed env (w.history ++ [action]) = w.socket.sent ++ bytes := by
      intro action haction
      rw [handed_snoc, h.sent, Action.handed, haction, ← h.threshold]
      simp only [hout]
      rfl
    cases hfault : w.socket.fault w.socket.writes with
    | none =>
      simp only [Socket.write, hfault]
      exact { threshold := by rw [World.log, thresholdAfter_append]; exact h.threshold,
              sent := (hhanded _ rfl).symm }
    | some fault =>
      simp only [Socket.write, hfault]
      refine .inr { failed := ⟨packet, List.mem_append_right _ (List.mem_singleton.mpr rfl)⟩,
                    sent := ?_ }
      show w.socket.sent ++ bytes.take fault.delivered <+:
        handed env (w.history ++ [.failed packet])
      rw [hhanded _ rfl, List.prefix_append_right_inj]
      exact List.take_prefix _ _

theorem Exact.performAll (h : Exact env w) (effects : List Effect) :
    Delivers env (Statik.performAll env effects w) := by
  induction effects generalizing w with
  | nil => exact h
  | cons effect effects ih =>
    have hstep : Delivers env (perform env effect w) := by
      cases effect with
      | send packet => exact h.writePacket packet
      | enter state => exact h.enter state
      | compress threshold => exact h.compress threshold
    cases hresult : perform env effect w with
    | ok _ w' =>
      rw [hresult] at hstep
      rw [performAll_cons_ok hresult]
      exact ih hstep
    | error e w' =>
      rw [hresult] at hstep
      rw [performAll_cons_error hresult]
      exact hstep

theorem Exact.dispatchPacket (h : Exact env w) (packet : DecodedC2S) :
    Delivers env (Statik.dispatchPacket env packet w) := by
  have hrun := dispatchPacket_run env w packet
  have hreceived := h.received packet
  split at hrun
  case h_1 effects _ =>
    rw [hrun]
    exact hreceived.performAll effects
  case h_2 =>
    obtain ⟨e, -, herr⟩ := hrun
    rw [herr]
    exact .inl hreceived
  case h_3 =>
    obtain ⟨e, -, herr⟩ := hrun
    rw [herr]
    exact .inl hreceived

end

/-- Up to a failed write, the peer was sent all that was handed to the socket. -/
structure Machine.Delivered (env : Env) (m : Machine) : Prop where
  exact_or_cut : Exact env m.world ∨ Cut env m.world
  live : m.Live → Exact env m.world

namespace Machine.Delivered

variable {env : Env} {m : Machine}

theorem settled {result : EStateM.Result Error World Unit}
    (h : Delivers env result) {m' : Machine}
    (hm : (m'.world, m'.phase) = settle .draining result) : m'.Delivered env := by
  cases result with
  | ok _ w' =>
    obtain ⟨hworld, -⟩ := Prod.mk.inj hm
    have hexact : Exact env m'.world := by rw [hworld]; exact h
    exact { exact_or_cut := .inl hexact, live := fun _ => hexact }
  | error e w' =>
    obtain ⟨hworld, hphase⟩ := Prod.mk.inj hm
    exact { exact_or_cut := by rw [hworld]; exact h, live := fun hl => absurd hphase (hl e) }

theorem buffer (h : m.Delivered env) (hlive : m.Live) {m' : Machine} {buffer : Bytes}
    (hworld : m'.world = m.world.withBuffer buffer) : m'.Delivered env := by
  have hexact : Exact env m'.world := by
    rw [hworld]
    exact { threshold := (h.live hlive).threshold, sent := (h.live hlive).sent }
  exact { exact_or_cut := .inl hexact, live := fun _ => hexact }

theorem step (h : m.Delivered env) (input : Input) : (m.step env input).Delivered env := by
  cases m.steps_step env input with
  | idle same =>
    rw [same]
    exact h
  | buffers live buffer world plain => exact h.buffer live world
  | dispatches live buffer packet protocol state result =>
    have hexact : Exact env (m.world.withBuffer buffer) :=
      { threshold := (h.live live).threshold, sent := (h.live live).sent }
    exact settled (hexact.dispatchPacket packet) result
  | keepsAlive live id play result => exact settled ((h.live live).writePacket _) result

theorem run (S : Setup) (fault : Nat → Option Fault) (inputs : List Input) :
    (S.run fault inputs).Delivered S.env := by
  have hstart : Exact S.env (Machine.start S.config S.protocol S.address fault).world :=
    { threshold := rfl, sent := rfl }
  exact List.foldlRecOn inputs _ { exact_or_cut := .inl hstart, live := fun _ => hstart }
    fun _ h input _ => h.step input

end Machine.Delivered

/-! ### The receiver keeps up -/

/-- Compression is announced where it is switched on: the server changes its
threshold right after the packet that announces the new one, and nowhere else. -/
inductive Switches : List Action → Prop where
  | nil : Switches []
  | received {packet : DecodedC2S} {actions : List Action} :
      Switches actions → Switches (.received packet :: actions)
  | enter {state : State} {actions : List Action} :
      Switches actions → Switches (.did (.enter state) :: actions)
  | send {packet : S2CPacket} {actions : List Action} :
      packet.announces = none → Switches actions → Switches (.did (.send packet) :: actions)
  | compress {packet : S2CPacket} {threshold : BitVec 32} {actions : List Action} :
      packet.announces = some threshold → Switches actions →
      Switches (.did (.send packet) :: .did (.compress threshold) :: actions)

theorem Switches.append {actions later : List Action} (h : Switches actions)
    (h' : Switches later) : Switches (actions ++ later) := by
  induction h with
  | nil => exact h'
  | received _ ih => exact .received ih
  | enter _ ih => exact .enter ih
  | send hnone _ ih => exact .send hnone ih
  | compress hsome _ ih => exact .compress hsome ih

/-- Before a write the thresholds agree. -/
theorem Switches.before_send {actions later : List Action} {packet : S2CPacket}
    (h : Switches (actions ++ .did (.send packet) :: later)) : Switches actions := by
  generalize heq : actions ++ .did (.send packet) :: later = all at h
  induction h generalizing actions with
  | nil => exact absurd heq (by simp)
  | received _ ih =>
    cases actions with
    | nil => exact .nil
    | cons action actions =>
      obtain ⟨rfl, htail⟩ := List.cons.inj heq
      exact .received (ih htail)
  | enter _ ih =>
    cases actions with
    | nil => exact .nil
    | cons action actions =>
      obtain ⟨rfl, htail⟩ := List.cons.inj heq
      exact .enter (ih htail)
  | send hnone _ ih =>
    cases actions with
    | nil => exact .nil
    | cons action actions =>
      obtain ⟨rfl, htail⟩ := List.cons.inj heq
      exact .send hnone (ih htail)
  | compress hsome _ ih =>
    cases actions with
    | nil => exact .nil
    | cons action actions =>
      obtain ⟨rfl, htail⟩ := List.cons.inj heq
      cases actions with
      | nil => cases (List.cons.inj htail).1
      | cons action' actions =>
        obtain ⟨rfl, htail'⟩ := List.cons.inj htail
        exact .compress hsome (ih htail')

theorem announces_state {packet : S2CPacket} {threshold : BitVec 32}
    (h : packet.announces = some threshold) : packet.state = .login := by
  cases packet with
  | v1_20_1 p =>
    by_cases hset : p.1 = .setCompression
    · rw [S2CPacket.state, hset]
      rfl
    · rw [V1_20_1.announces_eq_none hset] at h
      cases h
  | v1_21_1 p =>
    by_cases hset : p.1 = .setCompression
    · rw [S2CPacket.state, hset]
      rfl
    · rw [V1_21_1.announces_eq_none hset] at h
      cases h

theorem announces_eq_none {packet : S2CPacket} (h : packet.state ≠ .login) :
    packet.announces = none := by
  cases hsome : packet.announces with
  | none => rfl
  | some threshold => exact absurd (announces_state hsome) h

theorem switches_sends {packets : List S2CPacket} (h : ∀ q ∈ packets, q.state ≠ .login) :
    Switches ((packets.map Effect.send).map .did) := by
  induction packets with
  | nil => exact .nil
  | cons q packets ih =>
    exact .send (announces_eq_none (h q List.mem_cons_self))
      (ih fun q' hq' => h q' (List.mem_cons_of_mem q hq'))

namespace Setup

variable {S : Setup}

theorem switches_entering {state next : State} {packets : List S2CPacket}
    (hstate : state ≠ .login) (h : ∀ q ∈ packets, q.state = state) :
    Switches ((entering next packets).map .did) :=
  .enter (switches_sends fun q hq => by rw [h q hq]; exact hstate)

theorem switches_acceptance (S : Setup) (name : String) (protocol : ProtocolKind) :
    Switches ((S.acceptance name protocol).map .did) := by
  have hset : (setCompression S.config.compression.threshold protocol).announces =
      some S.config.compression.threshold := by
    cases protocol <;> rfl
  have hsuccess : (loginSuccess name protocol).announces = none := by
    cases protocol <;> rfl
  rw [acceptance]
  split
  · exact .compress hset (.send hsuccess .nil)
  · exact .send hsuccess .nil

theorem Scripted.switches {state : State} {packet : DecodedC2S} {effects : List Effect}
    (h : Scripted S state packet effects) : Switches (effects.map .did) := by
  cases h with
  | handshake hnext => exact .enter .nil
  | reply hprotocol hstate =>
    exact .send (announces_eq_none (by rw [hstate]; decide)) .nil
  | rejected hname hinvalid =>
    refine .send ?_ .nil
    cases S.protocol <;> rfl
  | joined hprotocol hname hvalid =>
    rw [List.map_append]
    exact (switches_acceptance S _ _).append
      (switches_entering (by decide) fun q hq => (playBurst_inPhase _ _ _ q hq).2)
  | accepted hprotocol hname hvalid => exact switches_acceptance S _ _
  | acknowledged hprotocol hack =>
    exact switches_entering (by decide) fun q hq => (configurationBurst_inPhase _ q hq).2
  | finished hprotocol =>
    exact switches_entering (by decide) fun q hq => (playBurst_inPhase _ _ _ q hq).2
  | ignored hstate => exact .nil

theorem keepAlive_announces (protocol : ProtocolKind) (id : BitVec 64) :
    (keepAlive protocol id).announces = none :=
  announces_eq_none (by rw [(keepAlive_inPhase protocol id).2]; decide)

theorem Session.switches {history : List Action} (h : S.Session history) : Switches history := by
  induction h with
  | start => exact .nil
  | extend hs hblock ih =>
    refine ih.append ?_
    cases hblock with
    | packet hadmits hscript => exact .received (hadmits.scripted hscript).switches
    | keepAlive id hplay => exact .send (keepAlive_announces _ _) .nil

/-- A trace switches throughout, up to a failed write at its end. -/
theorem Trace.switches {history : List Action} (h : S.Trace history) :
    Switches history ∨
      ∃ before failing, history = before ++ [.failed failing] ∧ Switches before := by
  cases h with
  | live hs => exact .inl hs.switches
  | broken hs hblock =>
    cases hblock with
    | refused hadmits hscript => exact .inl (hs.switches.append (.received .nil))
    | @cut packet before after failing hadmits hscript =>
      have hscripted := (hadmits.scripted hscript).switches
      rw [List.map_append] at hscripted
      refine .inr ⟨_ ++ .received packet :: before.map .did, failing, ?_,
        hs.switches.append (.received hscripted.before_send)⟩
      rw [List.append_assoc, List.cons_append]
    | keepAliveCut id hplay => exact .inr ⟨_, _, rfl, hs.switches⟩

end Setup

/-- Every packet the actions pass to `write_packet` fits, under the threshold it
is written with. -/
def Fitting (env : Env) (protocol : ProtocolKind) : Option (BitVec 32) → List Action → Prop
  | _, [] => True
  | threshold, action :: actions =>
    (∀ packet, action.effect = some (.send packet) →
      packet.protocol = protocol ∧ FitsFrame env threshold packet) ∧
    Fitting env protocol (action.applyThreshold threshold) actions

theorem fitting_of {env : Env} {protocol : ProtocolKind} {threshold : Option (BitVec 32)}
    {actions : List Action}
    (h : ∀ pre action post packet, actions = pre ++ action :: post →
      action.effect = some (.send packet) →
      packet.protocol = protocol ∧ FitsFrame env (thresholdFrom threshold pre) packet) :
    Fitting env protocol threshold actions := by
  induction actions generalizing threshold with
  | nil => trivial
  | cons action actions ih =>
    refine ⟨fun packet heffect => h [] action actions packet rfl heffect, ih ?_⟩
    intro pre action' post packet heq heffect
    exact h (action :: pre) action' post packet (by rw [heq]; rfl) heffect

theorem Fitting.at {env : Env} {protocol : ProtocolKind} {threshold : Option (BitVec 32)}
    {actions pre post : List Action} {action : Action} {packet : S2CPacket}
    (h : Fitting env protocol threshold actions) (heq : actions = pre ++ action :: post)
    (heffect : action.effect = some (.send packet)) :
    FitsFrame env (thresholdFrom threshold pre) packet := by
  induction pre generalizing threshold actions with
  | nil =>
    subst heq
    exact (h.1 packet heffect).2
  | cons first pre ih =>
    subst heq
    exact ih h.2 rfl

instance Fitting.decidable (env : Env) (protocol : ProtocolKind) :
    (threshold : Option (BitVec 32)) → (actions : List Action) →
      Decidable (Fitting env protocol threshold actions)
  | _, [] => .isTrue trivial
  | threshold, action :: actions =>
    have : Decidable (∀ packet, action.effect = some (.send packet) →
        packet.protocol = protocol ∧ FitsFrame env threshold packet) :=
      match heffect : action.effect with
      | some (.send packet) =>
        decidable_of_iff (packet.protocol = protocol ∧ FitsFrame env threshold packet)
          ⟨fun h q hq => by cases hq; exact h, fun h => h packet rfl⟩
      | some (.enter state) => .isTrue fun _ h => nomatch h
      | some (.compress threshold') => .isTrue fun _ h => nomatch h
      | none => .isTrue fun _ h => nomatch h
    have := Fitting.decidable env protocol (action.applyThreshold threshold) actions
    inferInstanceAs (Decidable (_ ∧ _))

theorem Fitting.append {env : Env} {protocol : ProtocolKind} {threshold : Option (BitVec 32)}
    {actions later : List Action} (h : Fitting env protocol threshold (actions ++ later)) :
    Fitting env protocol threshold actions ∧
      Fitting env protocol (thresholdFrom threshold actions) later := by
  induction actions generalizing threshold with
  | nil => exact ⟨trivial, h⟩
  | cons action actions ih => exact ⟨⟨h.1, (ih h.2).1⟩, (ih h.2).2⟩

/-- The bodies of the packets. -/
def Encodes (serde : Serde) (packets : List S2CPacket) (bodies : List Bytes) : Prop :=
  packets.map (fun packet => packet.encode serde) = bodies.map .ok

theorem Encodes.cons {serde : Serde} {packet : S2CPacket} {packets : List S2CPacket}
    {body : Bytes} {bodies : List Bytes} (h : packet.encode serde = .ok body)
    (h' : Encodes serde packets bodies) : Encodes serde (packet :: packets) (body :: bodies) :=
  congrArg₂ List.cons h h'

theorem Encodes.append {serde : Serde} {packets packets' : List S2CPacket}
    {bodies bodies' : List Bytes} (h : Encodes serde packets bodies)
    (h' : Encodes serde packets' bodies') :
    Encodes serde (packets ++ packets') (bodies ++ bodies') := by
  rw [Encodes, List.map_append, List.map_append, h, h']

section

variable {env : Env} {protocol : ProtocolKind}

/-- One write, successful or not, at the receiver. -/
theorem drain_written (hlawful : env.flate2.Lawful) {threshold : Option (BitVec 32)}
    {packet : S2CPacket} {action : Action} (haction : action.effect = some (.send packet))
    (hprotocol : packet.protocol = protocol) (hfits : FitsFrame env threshold packet) :
    ∃ body, packet.encode env.serde = .ok body ∧ ∀ rest,
      (receiver env protocol).drain threshold (action.handed env threshold ++ rest) =
        ((receiver env protocol).drain (packet.announces.or threshold) rest).prepend [body] := by
  subst hprotocol
  obtain ⟨body, bytes, hencode, hout, hdrain⟩ := drain_outgoing hlawful hfits
  have hhanded : action.handed env threshold = bytes := by
    rw [Action.handed, haction]
    simp only [hout]
    rfl
  exact ⟨body, hencode, fun rest => by rw [hhanded, hdrain]⟩

/-- From the threshold of the server on, the receiver recovers the bodies of all
packets written, and ends with the threshold of the server. -/
theorem drain_handedFrom (hlawful : env.flate2.Lawful) {history : List Action}
    (h : Switches history) {threshold : Option (BitVec 32)}
    (hfit : Fitting env protocol threshold history) :
    ∃ bodies, Encodes env.serde (passed history) bodies ∧ ∀ rest,
      (receiver env protocol).drain threshold (handedFrom env threshold history ++ rest) =
        ((receiver env protocol).drain (thresholdFrom threshold history) rest).prepend bodies := by
  induction h generalizing threshold with
  | nil => exact ⟨[], rfl, fun rest => rfl⟩
  | received _ ih => exact ih hfit.2
  | enter _ ih => exact ih hfit.2
  | @send packet actions hnone _ ih =>
    obtain ⟨hprotocol, hfits⟩ := hfit.1 packet rfl
    have hsent : (Action.did (.send packet)).effect = some (.send packet) := rfl
    obtain ⟨body, hencode, hwritten⟩ := drain_written hlawful hsent hprotocol hfits
    have hrest : Fitting env protocol threshold actions := hfit.2
    obtain ⟨bodies, hbodies, hdrain⟩ := ih hrest
    refine ⟨body :: bodies, .cons hencode hbodies, fun rest => ?_⟩
    show (receiver env protocol).drain threshold
      (_ ++ handedFrom env threshold actions ++ rest) = _
    rw [List.append_assoc, hwritten, hnone, Option.none_or, hdrain, ← Received.prepend_append]
    rfl
  | @compress packet threshold' actions hsome _ ih =>
    obtain ⟨hprotocol, hfits⟩ := hfit.1 packet rfl
    have hsent : (Action.did (.send packet)).effect = some (.send packet) := rfl
    obtain ⟨body, hencode, hwritten⟩ := drain_written hlawful hsent hprotocol hfits
    have hrest : Fitting env protocol (some threshold') actions := hfit.2.2
    obtain ⟨bodies, hbodies, hdrain⟩ := ih hrest
    refine ⟨body :: bodies, .cons hencode hbodies, fun rest => ?_⟩
    show (receiver env protocol).drain threshold
      (_ ++ handedFrom env (some threshold') actions ++ rest) = _
    rw [List.append_assoc, hwritten, hsome, Option.some_or, hdrain, ← Received.prepend_append]
    rfl

end

theorem drain_nil (env : Env) (protocol : ProtocolKind) (threshold : Option (BitVec 32)) :
    (receiver env protocol).drain threshold [] =
      { items := [], state := threshold, pending := [] } := by
  cases h : (receiver env protocol).take threshold [] with
  | none => exact Splitter.drain_none h
  | some r => exact absurd ((receiver env protocol).shrinks h) (Nat.not_lt_zero _)

namespace Setup

variable {S : Setup}

theorem Trace.received {history : List Action} (h : S.Trace history)
    (hlawful : S.env.flate2.Lawful) (hfit : Fitting S.env S.protocol none history) :
    ∃ bodies threshold, Encodes S.env.serde (passed history) bodies ∧
      (receiver S.env S.protocol).drain none (handed S.env history) =
        { items := bodies, state := threshold, pending := [] } := by
  rcases h.switches with hswitches | ⟨before, failing, rfl, hswitches⟩
  · obtain ⟨bodies, hbodies, hdrain⟩ := drain_handedFrom hlawful hswitches hfit
    refine ⟨bodies, thresholdAfter history, hbodies, ?_⟩
    rw [handed, ← List.append_nil (handedFrom _ _ _), hdrain, drain_nil, Received.prepend,
      List.append_nil]
    rfl
  · obtain ⟨hbefore, hlast, -⟩ := hfit.append
    obtain ⟨bodies, hbodies, hdrain⟩ := drain_handedFrom hlawful hswitches hbefore
    obtain ⟨hprotocol, hfits⟩ := hlast failing rfl
    rw [show thresholdFrom none before = thresholdAfter before from rfl] at hdrain hfits
    have hsent : (Action.failed failing).effect = some (.send failing) := rfl
    obtain ⟨body, hencode, hwritten⟩ := drain_written hlawful hsent hprotocol hfits
    refine ⟨bodies ++ [body], failing.announces.or (thresholdAfter before), ?_, ?_⟩
    · rw [passed, List.filterMap_append]
      exact hbodies.append (.cons hencode rfl)
    · rw [handed_snoc, handed, hdrain, ← List.append_nil (Action.handed _ _ _)]
      rw [hwritten, drain_nil]
      rfl

/-- What the peer gets: a receiver of the output recovers the body of every packet
passed to `write_packet`, in order and with nothing left over, however the output
is cut into chunks; and the peer is sent the output, up to a write that fails. -/
structure Recovers (S : Setup) (m : Machine) : Prop where
  bodies : ∃ bodies, Encodes S.env.serde (passed m.history) bodies ∧
    ∀ chunks : List Bytes, chunks.flatten = handed S.env m.history →
      ∃ threshold, chunks.foldl (receiver S.env S.protocol).feed
          { items := [], state := none, pending := [] } =
        { items := bodies, state := threshold, pending := [] }
  sent : m.world.socket.sent <+: handed S.env m.history
  complete : (∀ packet, .failed packet ∉ m.history) →
    m.world.socket.sent = handed S.env m.history

/-- In every run the peer recovers what fits into its frames. -/
theorem run_recovers (S : Setup) (fault : Nat → Option Fault) (inputs : List Input)
    (hlawful : S.env.flate2.Lawful)
    (hfits : ∀ pre action post packet, (S.run fault inputs).history = pre ++ action :: post →
      action.effect = some (.send packet) → FitsFrame S.env (thresholdAfter pre) packet) :
    S.Recovers (S.run fault inputs) := by
  have htrace := (refines_run S fault inputs).trace
  have hfit : Fitting S.env S.protocol none (S.run fault inputs).history :=
    fitting_of fun pre action post packet heq heffect =>
      ⟨(htrace.inPhase heq heffect).1, hfits pre action post packet heq heffect⟩
  have hdelivered := (Machine.Delivered.run S fault inputs).exact_or_cut
  refine { bodies := ?_, sent := ?_, complete := fun hno => ?_ }
  · obtain ⟨bodies, threshold, hbodies, hdrain⟩ := htrace.received hlawful hfit
    refine ⟨bodies, hbodies, fun chunks hchunks => ⟨threshold, ?_⟩⟩
    rw [Splitter.feed_chunks, hchunks, hdrain]
  · rcases hdelivered with hexact | hcut
    · exact ⟨[], by rw [List.append_nil, hexact.sent]⟩
    · exact hcut.sent
  · rcases hdelivered with hexact | hcut
    · exact hexact.sent
    · obtain ⟨packet, hpacket⟩ := hcut.failed
      exact absurd hpacket (hno packet)

/-- The frames of a handshake for Login and a `Hello` with the name "abc", which a
server with compression answers with `SetCompression` and `LoginSuccess`. -/
def helloOnce : List Input :=
  [.advance,
   .read (.ok ([8, 0, 0xff, 0x05, 1, 0x61, 0x63, 0xdd, 2] ++
     ([21, 0, 3, 0x61, 0x62, 0x63] ++ List.replicate 16 0))),
   .advance, .advance, .advance]

theorem helloOnce_recovers :
    (Setup.bare .v1_21_1 true).Recovers (bareRun .v1_21_1 true helloOnce) :=
  run_recovers (Setup.bare .v1_21_1 true) (fun _ => none) helloOnce
    (fun b compressed h => (Except.ok.inj h).symm) fun pre action post packet heq heffect =>
      Fitting.at (by decide +kernel : Fitting (Setup.bare .v1_21_1 true).env .v1_21_1 none
        (bareRun .v1_21_1 true helloOnce).history) heq heffect

end Setup

end Statik
