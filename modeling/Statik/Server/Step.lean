import Statik.Server.Frame
import Statik.Server.History
import Statik.Server.Loop

/-!
# The steps of the connection loop

Everything one step can do.  What holds over whole runs is derived from this.
-/

namespace Statik

open Wire

namespace Machine

/-- A step does nothing, takes bytes in or out of the buffer, hands a packet of
the connection's version and state to the handlers, or sends a keepalive. -/
inductive Steps (env : Env) (m m' : Machine) : Prop where
  | idle (same : m' = m)
  | buffers (live : m.Live) (buffer : Bytes) (world : m'.world = m.world.withBuffer buffer)
      (plain : ∀ e, m'.phase = .ended e → Plain e)
  | dispatches (live : m.Live) (buffer : Bytes) (packet : DecodedC2S)
      (protocol : packet.protocol = m.conn.protocol) (state : packet.state = m.state)
      (result : (m'.world, m'.phase) =
        settle .draining (dispatchPacket env packet (m.world.withBuffer buffer)))
  | keepsAlive (live : m.Live) (id : BitVec 64) (play : m.state = .play)
      (result : (m'.world, m'.phase) =
        settle .draining (writePacket env (keepAlive m.conn.protocol id) m.world))

variable (env : Env) {m : Machine}

/-- A round of the drain loop takes bytes out of the buffer, and may hand a packet
of the connection's version and state to the handlers. -/
theorem advance_cases (m : Machine) :
    (∃ buffer, (m.advance env).world = m.world.withBuffer buffer ∧
      ∀ e, (m.advance env).phase = .ended e → Plain e) ∨
    ∃ (buffer : Bytes) (packet : DecodedC2S),
      packet.protocol = m.conn.protocol ∧ packet.state = m.state ∧
      ((m.advance env).world, (m.advance env).phase) =
        settle .draining (dispatchPacket env packet (m.world.withBuffer buffer)) := by
  obtain ⟨buffer, hconn⟩ := tryParsePacket_conn env m.conn
  rw [advance]
  cases hparse : tryParsePacket env m.conn with
  | mk r conn =>
    rw [hparse] at hconn
    simp only at hconn
    subst hconn
    cases r with
    | error e =>
      have hplain := tryParsePacket_fails env m.conn
      rw [hparse] at hplain
      exact .inl ⟨buffer, rfl, fun e' he' => by cases he'; exact hplain e rfl⟩
    | ok r =>
      cases r with
      | none => exact .inl ⟨buffer, rfl, fun e' he' => nomatch he'⟩
      | some packet =>
        have hok : (tryParsePacket env m.conn).1 = .ok (some packet) := by rw [hparse]
        obtain ⟨hprotocol, hstate⟩ := tryParsePacket_packet hok
        exact .inr ⟨buffer, packet, hprotocol, hstate, rfl⟩

theorem advance_nextKeepaliveId (m : Machine) :
    (m.advance env).nextKeepaliveId = m.nextKeepaliveId := by
  rw [advance]
  split <;> rfl

theorem advance_received (m : Machine) : (m.advance env).received = m.received := by
  rw [advance]
  split <;> rfl

/-- What was received stays received. -/
theorem received_step (m : Machine) (input : Input) :
    m.received <+: (m.step env input).received := by
  unfold step
  split
  case h_1 => simp only [advance_received, List.prefix_rfl]
  case h_2 result _ =>
    cases result with
    | error kind => exact List.prefix_rfl
    | ok bytes =>
      cases bytes with
      | nil => exact List.prefix_rfl
      | cons b bytes => exact List.prefix_append _ _
  case h_3 =>
    rw [tick]
    split <;> exact List.prefix_rfl
  case h_4 => exact List.prefix_rfl

/-- The loop does not come back once it has returned. -/
theorem live_of_step {input : Input} (h : (m.step env input).Live) : m.Live := by
  intro e he
  refine h e ?_
  unfold step
  rw [he]
  exact he

theorem steps_advance (hlive : m.Live) : Steps env m (m.advance env) := by
  rcases advance_cases env m with ⟨buffer, hworld, hplain⟩ | ⟨buffer, packet, hprotocol, hstate,
    hresult⟩
  · exact .buffers hlive buffer hworld hplain
  · exact .dispatches hlive buffer packet hprotocol hstate hresult

theorem steps_read (hlive : m.Live) (result : Except ErrorKind Bytes) :
    Steps env m (m.read result) := by
  cases result with
  | error kind => exact .buffers hlive m.conn.buffer rfl fun e he => by cases he; rfl
  | ok bytes =>
    cases bytes with
    | nil => exact .buffers hlive m.conn.buffer rfl fun e he => by cases he; rfl
    | cons b bytes => exact .buffers hlive _ rfl fun e he => nomatch he

theorem steps_tick (hlive : m.Live) : Steps env m (m.tick env) := by
  rw [tick]
  by_cases hplay : m.state = .play
  · rw [if_pos hplay]
    exact .keepsAlive hlive m.nextKeepaliveId hplay rfl
  · rw [if_neg hplay]
    exact .idle rfl

theorem steps_step (m : Machine) (input : Input) : Steps env m (m.step env input) := by
  unfold step
  split
  case h_1 hphase => exact steps_advance env fun e he => by rw [hphase] at he; cases he
  case h_2 result hphase => exact steps_read env (fun e he => by rw [hphase] at he; cases he) result
  case h_3 hphase => exact steps_tick env fun e he => by rw [hphase] at he; cases he
  case h_4 => exact .idle rfl

end Machine

end Statik
