import Statik.Server.Bursts
import Statik.Server.Replay

/-!
# How much a peer can make the server write

A potential of the state pays for the bursts, each of which comes once, and every other
packet is paid for by the bytes of the packet that it answers or by a tick of the timer.
-/

namespace Statik

open Wire

/-- An entry for a packet of the peer. -/
def Action.isReceived : Action → Bool
  | .received _ => true
  | _ => false

/-- The number of packets of the peer that were handed to a handler. -/
def packetsReceived (history : List Action) : Nat := history.countP Action.isReceived

/-- The number of keepalives that were passed to `write_packet`. -/
def keepAlivesPassed (history : List Action) : Nat :=
  (passed history).countP S2CPacket.isKeepAlive

theorem packetsReceived_append (history later : List Action) :
    packetsReceived (history ++ later) = packetsReceived history + packetsReceived later :=
  List.countP_append

theorem keepAlivesPassed_append (history later : List Action) :
    keepAlivesPassed (history ++ later) = keepAlivesPassed history + keepAlivesPassed later := by
  rw [keepAlivesPassed, passed_append, List.countP_append]
  rfl

theorem packetsReceived_did (effects : List Effect) : packetsReceived (effects.map .did) = 0 := by
  refine List.countP_eq_zero.mpr fun action haction => ?_
  obtain ⟨effect, -, rfl⟩ := List.mem_map.mp haction
  exact Bool.false_ne_true

namespace Setup

variable (S : Setup)

/-- The number of packets of the bursts that may still come. -/
def burstsAhead : State → Nat
  | .handshake | .login => (S.bursts .play).length
  | .configuration => (playBurst S.env S.config S.protocol).length
  | _ => 0

variable {S}

theorem sent_acceptance_length (name : String) (protocol : ProtocolKind) :
    ((S.acceptance name protocol).filterMap Effect.sent).length ≤ 2 := by
  rw [acceptance]
  split
  · exact Nat.le_refl 2
  · exact Nat.le_succ 1

theorem stateFrom_acceptance (state : State) (name : String) (protocol : ProtocolKind) :
    stateFrom state ((S.acceptance name protocol).map .did) = state := by
  rw [acceptance]
  split <;> rfl

/-- A script sends two packets and a burst at most, and the burst is one less to come. -/
theorem Scripted.sent_length {state : State} {packet : DecodedC2S} {effects : List Effect}
    (h : Scripted S state packet effects) :
    (effects.filterMap Effect.sent).length + S.burstsAhead (stateFrom state (effects.map .did)) ≤
      2 + S.burstsAhead state := by
  cases h with
  | handshake hstate =>
    rcases hstate with rfl | rfl
    · exact Nat.zero_le _
    · show 0 + S.burstsAhead .login ≤ 2 + S.burstsAhead .login
      omega
  | reply hprotocol hstate => exact Nat.le_succ 1
  | rejected hname hinvalid =>
    show 1 + S.burstsAhead .login ≤ 2 + S.burstsAhead .login
    omega
  | @joined _ name hprotocol hname hvalid =>
    have haccepted := sent_acceptance_length (S := S) name .v1_20_1
    have hbursts : S.bursts .play = playBurst S.env S.config .v1_20_1 := by
      rw [bursts, hprotocol]
    rw [List.filterMap_append, sent_entering, List.length_append, List.map_append,
      stateFrom_append, stateFrom_entering]
    show _ + 0 ≤ 2 + (S.bursts .play).length
    rw [hbursts]
    omega
  | @accepted _ name hprotocol hname hvalid =>
    have haccepted := sent_acceptance_length (S := S) name .v1_21_1
    rw [stateFrom_acceptance]
    omega
  | acknowledged hprotocol hack =>
    have hbursts : S.bursts .play =
        configurationBurst S.env ++ playBurst S.env S.config .v1_21_1 := by
      rw [bursts, hprotocol]
    rw [sent_entering, stateFrom_entering]
    show _ + (playBurst S.env S.config S.protocol).length ≤ 2 + (S.bursts .play).length
    rw [hbursts, hprotocol, List.length_append]
    omega
  | finished hprotocol =>
    rw [sent_entering, stateFrom_entering]
    show _ + 0 ≤ 2 + (playBurst S.env S.config S.protocol).length
    rw [hprotocol]
    omega
  | ignored hstate =>
    show 0 + S.burstsAhead state ≤ 2 + S.burstsAhead state
    omega

theorem Session.passed_length {history : List Action} (h : S.Session history) :
    (passed history).length + S.burstsAhead (stateAfter history) ≤
      2 * packetsReceived history + keepAlivesPassed history + S.burstsAhead .handshake := by
  induction h with
  | start =>
    show 0 + S.burstsAhead .handshake ≤ 2 * 0 + 0 + S.burstsAhead .handshake
    omega
  | @extend history block hs hblock ih =>
    rw [passed_append, List.length_append, stateAfter_append, packetsReceived_append,
      keepAlivesPassed_append]
    cases hblock with
    | @packet packet effects hadmits hscript =>
      have hsent := (hadmits.scripted hscript).sent_length
      have hpassed : passed (.received packet :: effects.map .did) =
          effects.filterMap Effect.sent := passed_did effects
      have hreceived : packetsReceived (.received packet :: effects.map .did) = 1 := by
        rw [packetsReceived, List.countP_cons_of_pos rfl]
        exact congrArg (· + 1) (packetsReceived_did effects)
      have hstate : stateFrom (stateAfter history) (.received packet :: effects.map .did) =
          stateFrom (stateAfter history) (effects.map .did) := rfl
      rw [hpassed, hreceived, hstate]
      omega
    | keepAlive id hplay =>
      have hkept : keepAlivesPassed [.did (.send (keepAlive S.protocol id))] = 1 := by
        cases S.protocol <;> rfl
      rw [hkept]
      show (passed history).length + 1 + S.burstsAhead (stateAfter history) ≤
        2 * (packetsReceived history + 0) + _ + _
      omega

/-- All packets passed to `write_packet`, one that failed included. -/
theorem Trace.passed_length {history : List Action} (h : S.Trace history) :
    (passed history).length ≤
      2 * packetsReceived history + keepAlivesPassed history + S.burstsAhead .handshake := by
  cases h with
  | live hs =>
    have := hs.passed_length
    omega
  | @broken history block hs hblock =>
    have hlive := hs.passed_length
    rw [passed_append, List.length_append, packetsReceived_append, keepAlivesPassed_append]
    cases hblock with
    | @refused packet hadmits hscript =>
      show _ + 0 ≤ 2 * (_ + 1) + _ + _
      omega
    | @cut packet before after failing hadmits hscript =>
      have hsent := (hadmits.scripted hscript).sent_length
      have hfirst : (Effect.send failing :: after).filterMap Effect.sent =
          failing :: after.filterMap Effect.sent := rfl
      rw [List.filterMap_append, List.length_append, hfirst, List.length_cons] at hsent
      have hpassed : (passed (.received packet :: (before.map .did ++ [.failed failing]))).length =
          (before.filterMap Effect.sent).length + 1 := by
        show (passed (before.map .did ++ [.failed failing])).length = _
        rw [passed_append, passed_did, List.length_append]
        rfl
      have hreceived : 1 ≤
          packetsReceived (.received packet :: (before.map .did ++ [.failed failing])) := by
        rw [packetsReceived, List.countP_cons_of_pos rfl]
        exact Nat.le_add_left 1 _
      rw [hpassed]
      omega
    | keepAliveCut id hplay =>
      have hkept : keepAlivesPassed [.failed (keepAlive S.protocol id)] = 1 := by
        cases S.protocol <;> rfl
      rw [hkept]
      show _ + 1 ≤ 2 * (_ + 0) + _ + _
      omega

end Setup

/-! ### What packets cost the peer -/

theorem VarInt.decode_ne_nil {b rest : Bytes} {v : VarInt} (h : VarInt.decode b = .ok (v, rest)) :
    b ≠ [] := by
  obtain ⟨used, rfl, hterminated, -⟩ := VarInt.decode_ok h
  exact fun hnil => hterminated.ne_nil (List.append_eq_nil_iff.mp hnil).1

theorem DecodedC2S.decode_ne_nil {serde : Serde} {protocol : ProtocolKind} {state : State}
    {b rest : Bytes} {packet : DecodedC2S}
    (h : DecodedC2S.decode serde protocol state b = .ok (packet, rest)) : b ≠ [] := by
  cases protocol with
  | v1_20_1 =>
    obtain ⟨p, hp, -⟩ := Decoder.map_eq_ok.mp h
    obtain ⟨id, fields, hid, -⟩ := PacketGroup.decodeInState_eq_ok hp
    exact VarInt.decode_ne_nil hid
  | v1_21_1 =>
    obtain ⟨p, hp, -⟩ := Decoder.map_eq_ok.mp h
    obtain ⟨id, fields, hid, -⟩ := PacketGroup.decodeInState_eq_ok hp
    exact VarInt.decode_ne_nil hid

theorem bodyBytes_ne_nil {flate2 : Flate2} {threshold : Option (BitVec 32)}
    {bodySlice data : Bytes} (h : bodyBytes flate2 threshold bodySlice = .ok (some data))
    (hdata : data ≠ []) : bodySlice ≠ [] := by
  cases threshold with
  | none =>
    cases h
    exact hdata
  | some threshold =>
    rw [bodyBytes] at h
    cases hdecode : VarInt.decode bodySlice with
    | error e =>
      rw [hdecode] at h
      simp only at h
      split at h <;> cases h
    | ok r => exact VarInt.decode_ne_nil hdecode

theorem tryParsePacket_length_le (env : Env) (self : Connection) :
    (tryParsePacket env self).2.buffer.length ≤ self.buffer.length := by
  rcases tryParsePacket_cases env self with ⟨-, h⟩ | ⟨e, -, h⟩ | ⟨f, rest, hbuffer, h⟩
  · rw [h]
  · rw [h]
  · rw [h, hbuffer]
    exact Nat.le_of_lt (parseFrame_length_lt env self f rest)

/-- A packet takes two bytes at least, its length and its id. -/
theorem tryParsePacket_costs {env : Env} {self self' : Connection} {packet : DecodedC2S}
    (h : tryParsePacket env self = (.ok (some packet), self')) :
    self'.buffer.length + 2 ≤ self.buffer.length := by
  rcases tryParsePacket_cases env self with ⟨-, hcall⟩ | ⟨e, -, hcall⟩ | ⟨f, rest, hbuffer, hcall⟩
  · cases hcall.symm.trans h
  · cases hcall.symm.trans h
  · rw [hcall, parseFrame] at h
    cases hbody : bodyBytes env.flate2 self.compressionThreshold f.body with
    | error e =>
      rw [hbody] at h
      cases h
    | ok data =>
      cases data with
      | none =>
        rw [hbody] at h
        cases h
      | some data =>
        rw [hbody] at h
        simp only at h
        cases hdecode : DecodedC2S.decode env.serde self.protocol self.state data with
        | error e =>
          rw [hdecode] at h
          simp only at h
          split at h <;> cases h
        | ok r =>
          rw [hdecode] at h
          cases h
          have hhead := List.length_pos_of_ne_nil f.terminated.ne_nil
          have htail := List.length_pos_of_ne_nil
            (bodyBytes_ne_nil hbody (DecodedC2S.decode_ne_nil hdecode))
          rw [hbuffer, Frame.bytes, List.length_append, List.length_append]
          show rest.length + 2 ≤ _
          omega

/-! ### Connections -/

def Input.isTick : Input → Bool
  | .tick => true
  | _ => false

/-- The peer has paid for each packet, and the timer for each keepalive. -/
structure Machine.Paced (ticks : Nat) (m : Machine) : Prop where
  paid : 2 * packetsReceived m.history + m.conn.buffer.length ≤ m.received.length
  kept : keepAlivesPassed m.history ≤ ticks

namespace Machine.Paced

variable {S : Setup} {m : Machine} {ticks : Nat}

theorem start (S : Setup) (fault : Nat → Option Fault) :
    (Machine.start S.config S.protocol S.address fault).Paced 0 :=
  { paid := Nat.le_refl _, kept := Nat.le_refl _ }

theorem keepAlivesPassed_sends {effects : List Effect} (h : Undisturbed effects) :
    keepAlivesPassed (effects.map .did) = 0 := by
  rw [keepAlivesPassed, passed_did]
  refine List.countP_eq_zero.mpr fun packet hpacket => ?_
  obtain ⟨effect, heffect, hsent⟩ := List.mem_filterMap.mp hpacket
  cases effect with
  | send q =>
    cases hsent
    rw [h packet heffect]
    exact Bool.false_ne_true
  | enter state => cases hsent
  | compress threshold => cases hsent

/-- What a dispatch adds to the history is one packet and no keepalive. -/
theorem dispatch {w w' : World} {phase : Phase} {packet : DecodedC2S} (hagrees : S.Agrees w)
    (hprotocol : packet.protocol = S.protocol) (hstate : packet.state = w.conn.state)
    (hresult : (w', phase) = settle .draining (dispatchPacket S.env packet w)) :
    packetsReceived w'.history = packetsReceived w.history + 1 ∧
      keepAlivesPassed w'.history = keepAlivesPassed w.history ∧
      w'.conn.buffer = w.conn.buffer := by
  have hblock : ∀ {effects : List Effect} {actions : List Action}, Undisturbed effects →
      w.After (.received packet :: (effects.map .did ++ actions)) w' →
      packetsReceived actions = 0 → keepAlivesPassed actions = 0 →
      packetsReceived w'.history = packetsReceived w.history + 1 ∧
        keepAlivesPassed w'.history = keepAlivesPassed w.history ∧
        w'.conn.buffer = w.conn.buffer := by
    intro effects actions hundisturbed hafter hreceived hkept
    have hhead : packetsReceived [.received packet] = 1 := rfl
    have hsilent : keepAlivesPassed [.received packet] = 0 := rfl
    refine ⟨?_, ?_, by rw [hafter.conn]⟩
    · rw [hafter.history, packetsReceived_append, ← List.singleton_append,
        packetsReceived_append, packetsReceived_append, packetsReceived_did, hreceived, hhead]
    · rw [hafter.history, keepAlivesPassed_append, ← List.singleton_append,
        keepAlivesPassed_append, keepAlivesPassed_append, keepAlivesPassed_sends hundisturbed,
        hkept, hsilent]
      rfl
  have hcases := dispatchPacket_cases S.env packet w
  rw [hagrees.setup] at hcases
  rcases hcases with ⟨effects, w₁, hscript, hok, hafter⟩ |
    ⟨before, failing, after, e, w₁, hscript, herr, hafter, -⟩ | ⟨e, w₁, -, herr, hafter⟩
  · rw [hok] at hresult
    cases (Prod.mk.inj hresult).1
    have hundisturbed := (Setup.scripted_of_script hprotocol hstate hscript).undisturbed
    rw [← List.append_nil (effects.map Action.did)] at hafter
    exact hblock hundisturbed hafter rfl rfl
  · rw [herr] at hresult
    cases (Prod.mk.inj hresult).1
    have hundisturbed := (Setup.scripted_of_script hprotocol hstate hscript).undisturbed
    have hfailing : failing.isKeepAlive = false :=
      hundisturbed failing (List.mem_append_right before List.mem_cons_self)
    refine hblock hundisturbed.of_append hafter rfl ?_
    show [failing].countP S2CPacket.isKeepAlive = 0
    rw [List.countP_singleton, hfailing]
    rfl
  · rw [herr] at hresult
    cases (Prod.mk.inj hresult).1
    exact @hblock [] [] (fun _ h => absurd h List.not_mem_nil) hafter rfl rfl

theorem advance (h : m.Paced ticks) (hagrees : S.Agrees m.world) :
    (m.advance S.env).Paced ticks := by
  have hreceived := Machine.advance_received S.env m
  have hpaid := h.paid
  have hle := tryParsePacket_length_le S.env m.conn
  obtain ⟨buffer, hconn⟩ := tryParsePacket_conn S.env m.conn
  cases hparse : tryParsePacket S.env m.conn with
  | mk r conn =>
    rw [hparse] at hle hconn
    simp only at hle hconn
    have hidle : ∀ {m' : Machine}, m'.history = m.history → m'.conn.buffer = conn.buffer →
        m'.received = m.received → m'.Paced ticks := by
      intro m' hhistory hbuffer hsame
      refine { paid := ?_, kept := by rw [hhistory]; exact h.kept }
      rw [hhistory, hbuffer, hsame]
      omega
    cases r with
    | error e =>
      exact hidle (by rw [Machine.advance, hparse]) (by rw [Machine.advance, hparse]) hreceived
    | ok r =>
      cases r with
      | none =>
        exact hidle (by rw [Machine.advance, hparse]) (by rw [Machine.advance, hparse]) hreceived
      | some packet =>
        have hcost := tryParsePacket_costs hparse
        have hpacket : (tryParsePacket S.env m.conn).1 = .ok (some packet) := by rw [hparse]
        obtain ⟨hprotocol, hstate⟩ := tryParsePacket_packet hpacket
        subst hconn
        have hsetup : packet.protocol = S.protocol := by
          rw [hprotocol, ← hagrees.setup]
          rfl
        have hresult : ((m.advance S.env).world, (m.advance S.env).phase) =
            settle .draining (dispatchPacket S.env packet (m.world.withBuffer buffer)) := by
          rw [Machine.advance, hparse]
          rfl
        obtain ⟨hcount, hkept, hbuffer⟩ := dispatch (hagrees.buffer buffer) hsetup hstate hresult
        refine { paid := ?_, kept := ?_ }
        · show 2 * packetsReceived (m.advance S.env).world.history +
            (m.advance S.env).world.conn.buffer.length ≤ _
          rw [hcount, hbuffer, hreceived]
          show 2 * (packetsReceived m.history + 1) + buffer.length ≤ _
          have hcost' : buffer.length + 2 ≤ m.conn.buffer.length := hcost
          omega
        · show keepAlivesPassed (m.advance S.env).world.history ≤ ticks
          rw [hkept]
          exact h.kept

theorem read (h : m.Paced ticks) (result : Except ErrorKind Bytes) :
    (m.read result).Paced ticks := by
  cases result with
  | error kind => exact { paid := h.paid, kept := h.kept }
  | ok bytes =>
    cases bytes with
    | nil => exact { paid := h.paid, kept := h.kept }
    | cons b bytes =>
      refine { paid := ?_, kept := h.kept }
      have hpaid := h.paid
      show 2 * packetsReceived m.history + (m.conn.buffer ++ b :: bytes).length ≤
        (m.received ++ b :: bytes).length
      rw [List.length_append, List.length_append]
      omega

theorem tick (h : m.Paced ticks) : (m.tick S.env).Paced (ticks + 1) := by
  have hkept := h.kept
  rw [Machine.tick]
  split
  · have hsent : ∀ {w : World} {action : Action},
        action = .did (.send (keepAlive m.conn.protocol m.nextKeepaliveId)) ∨
          action = .failed (keepAlive m.conn.protocol m.nextKeepaliveId) →
        m.world.After [action] w →
        2 * packetsReceived w.history + w.conn.buffer.length ≤ m.received.length ∧
          keepAlivesPassed w.history ≤ ticks + 1 := by
      intro w action haction hafter
      have hone : keepAlivesPassed [action] = 1 ∧ packetsReceived [action] = 0 := by
        rcases haction with rfl | rfl <;> cases m.conn.protocol <;> exact ⟨rfl, rfl⟩
      rw [hafter.history, packetsReceived_append, keepAlivesPassed_append, hone.1, hone.2,
        hafter.conn]
      exact ⟨h.paid, Nat.add_le_add_right hkept 1⟩
    rcases perform_cases S.env (.send (keepAlive m.conn.protocol m.nextKeepaliveId)) m.world with
      ⟨w', hok, hafter⟩ | ⟨packet, e, w', hpacket, herr, hafter, -⟩
    · obtain ⟨hpaid, hticks⟩ := hsent (.inl rfl) hafter
      rw [show writePacket S.env _ m.world = _ from hok]
      exact { paid := hpaid, kept := hticks }
    · cases hpacket
      obtain ⟨hpaid, hticks⟩ := hsent (.inr rfl) hafter
      rw [show writePacket S.env _ m.world = _ from herr]
      exact { paid := hpaid, kept := hticks }
  · exact { paid := h.paid, kept := Nat.le_succ_of_le hkept }

theorem step (h : m.Paced ticks) (hrefines : S.Refines m) (input : Input) :
    (m.step S.env input).Paced (ticks + [input].countP Input.isTick) := by
  have hmore : m.Paced (ticks + [input].countP Input.isTick) :=
    { paid := h.paid, kept := Nat.le_trans h.kept (Nat.le_add_right _ _) }
  unfold Machine.step
  split
  · exact h.advance hrefines.agrees
  · exact h.read _
  · exact h.tick
  · exact hmore

theorem run (S : Setup) (fault : Nat → Option Fault) (inputs : List Input) :
    (S.run fault inputs).Paced (inputs.countP Input.isTick) := by
  induction inputs using List.reverseRecOn with
  | nil => exact start S fault
  | append_singleton inputs input ih =>
    rw [Setup.run_snoc, List.countP_append]
    exact ih.step (Setup.refines_run S fault inputs) input

end Machine.Paced

/-- No amplification: whatever a peer sends, in whatever pieces, no more packets are passed
to `write_packet` than there are bytes that it has sent, ticks of the timer, and packets in
the bursts of its version. -/
theorem Setup.run_bounded (S : Setup) (fault : Nat → Option Fault) (inputs : List Input) :
    (passed (S.run fault inputs).history).length ≤
      (S.run fault inputs).received.length + inputs.countP Input.isTick +
        (S.bursts .play).length := by
  have hpassed := (Setup.refines_run S fault inputs).trace.passed_length
  have hpaced := Machine.Paced.run S fault inputs
  have hpaid := hpaced.paid
  have hkept := hpaced.kept
  have hbursts : S.burstsAhead .handshake = (S.bursts .play).length := rfl
  omega

end Statik
