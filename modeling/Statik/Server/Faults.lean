import Statik.Server.Script
import Statik.Server.Step

/-!
# Sockets that fail

A connection on a socket whose writes may fail does what it does on a socket that never
fails, up to the first write that fails, and there it ends.
-/

namespace Statik

open Wire

namespace World

/-- The world on a socket that never fails. -/
def healed (w : World) : World :=
  { w with socket := { w.socket with fault := fun _ => none } }

/-- No write of a packet has failed so far. -/
def Unbroken (w : World) : Prop := ∀ k < w.socket.writes, w.socket.fault k = none

/-- What was done stays done, and what was sent stays sent. -/
structure Grows (w w' : World) : Prop where
  history : w.history <+: w'.history
  sent : w.socket.sent <+: w'.socket.sent
  writes : w.socket.writes ≤ w'.socket.writes

/-- The first write that failed ended `w`, and went through in `w₀`. -/
structure Stops (fault : Fault) (w w₀ : World) : Prop where
  failed : ∃ history packet, w.history = history ++ [.failed packet] ∧
    history ++ [.did (.send packet)] <+: w₀.history
  sent : w.socket.sent <+: w₀.socket.sent
  first : ∃ k, k < w₀.socket.writes ∧ w.socket.writes = k + 1 ∧
    w.socket.fault k = some fault ∧ ∀ j < k, w.socket.fault j = none

theorem Grows.refl (w : World) : w.Grows w :=
  { history := List.prefix_rfl, sent := List.prefix_rfl, writes := Nat.le_refl _ }

theorem Grows.trans {w w' w'' : World} (h : w.Grows w') (h' : w'.Grows w'') : w.Grows w'' :=
  { history := h.history.trans h'.history, sent := h.sent.trans h'.sent,
    writes := Nat.le_trans h.writes h'.writes }

theorem Stops.grows {fault : Fault} {w w₀ w₁ : World} (h : w.Stops fault w₀)
    (hgrows : w₀.Grows w₁) : w.Stops fault w₁ := by
  obtain ⟨history, packet, hhistory, hprefix⟩ := h.failed
  obtain ⟨k, hk, hwrites, hfault, hbefore⟩ := h.first
  exact { failed := ⟨history, packet, hhistory, hprefix.trans hgrows.history⟩,
          sent := h.sent.trans hgrows.sent,
          first := ⟨k, Nat.lt_of_lt_of_le hk hgrows.writes, hwrites, hfault, hbefore⟩ }

theorem grows_log (w : World) (action : Action) : w.Grows (w.log action) :=
  { history := List.prefix_append _ _, sent := List.prefix_rfl, writes := Nat.le_refl _ }

theorem grows_write (w : World) (bytes : Bytes) (action : Action) :
    w.Grows (({ w with socket := (w.socket.write bytes).2 } : World).log action) := by
  have hsocket : w.socket.sent <+: (w.socket.write bytes).2.sent ∧
      w.socket.writes ≤ (w.socket.write bytes).2.writes := by
    rw [Socket.write]
    split <;> exact ⟨List.prefix_append _ _, Nat.le_succ _⟩
  exact { history := List.prefix_append _ _, sent := hsocket.1, writes := hsocket.2 }

end World

/-! ### Handlers -/

/-- Where a handler leaves the world. -/
def outcomeOf : EStateM.Result Error World Unit → World
  | .ok _ w => w
  | .error _ w => w

/-- The result on a socket that never fails, where no write has failed. -/
def healedResult : EStateM.Result Error World Unit → EStateM.Result Error World Unit
  | .ok a w => .ok a w.healed
  | .error e w => .error e w.healed

/-- The results of a handler on a socket that may fail and on one that does not. -/
inductive Mends (r r₀ : EStateM.Result Error World Unit) : Prop where
  | whole (same : r₀ = healedResult r) (unbroken : (outcomeOf r).Unbroken)
  | stopped (fault : Fault) (w : World) (result : r = .error (.io fault.kind) w)
      (stops : w.Stops fault (outcomeOf r₀))

section

variable {env : Env}

theorem grows_perform (effect : Effect) (w : World) :
    w.Grows (outcomeOf (perform env effect w)) := by
  cases effect with
  | send packet =>
    show w.Grows (outcomeOf (writePacket env packet w))
    rw [writePacket]
    cases outgoing env w.conn.compressionThreshold packet with
    | error e => exact w.grows_log _
    | ok bytes =>
      have hgrows := w.grows_write bytes
      cases hwrite : w.socket.write bytes with
      | mk failure socket =>
        rw [hwrite] at hgrows
        simp only [hwrite]
        cases failure with
        | none => exact hgrows (.did (.send packet))
        | some kind => exact hgrows (.failed packet)
  | enter state =>
    exact { history := List.prefix_append _ _, sent := List.prefix_rfl, writes := Nat.le_refl _ }
  | compress threshold =>
    exact { history := List.prefix_append _ _, sent := List.prefix_rfl, writes := Nat.le_refl _ }

theorem grows_performAll (effects : List Effect) (w : World) :
    w.Grows (outcomeOf (performAll env effects w)) := by
  induction effects generalizing w with
  | nil => exact World.Grows.refl w
  | cons effect effects ih =>
    have hfirst : w.Grows (outcomeOf (perform env effect w)) := grows_perform effect w
    cases hperform : perform env effect w with
    | ok a w' =>
      rw [hperform] at hfirst
      rw [performAll_cons_ok hperform]
      exact hfirst.trans (ih w')
    | error e w' =>
      rw [hperform] at hfirst
      rw [performAll_cons_error hperform]
      exact hfirst

theorem grows_dispatchPacket (packet : DecodedC2S) (w : World) :
    w.Grows (outcomeOf (dispatchPacket env packet w)) := by
  have hlog := w.grows_log (.received packet)
  have hrun := dispatchPacket_run env w packet
  split at hrun
  · rw [hrun]
    exact hlog.trans (grows_performAll _ _)
  · obtain ⟨e, -, herr⟩ := hrun
    rw [herr]
    exact hlog
  · obtain ⟨e, -, herr⟩ := hrun
    rw [herr]
    exact hlog

/-- A write goes through on both sockets, or it is the one at which the two part. -/
theorem mends_write {w : World} (h : w.Unbroken) (packet : S2CPacket) :
    Mends (writePacket env packet w) (writePacket env packet w.healed) := by
  have hout : outgoing env w.healed.conn.compressionThreshold packet =
      outgoing env w.conn.compressionThreshold packet := rfl
  rw [writePacket, writePacket, hout]
  cases outgoing env w.conn.compressionThreshold packet with
  | error e => exact .whole rfl h
  | ok bytes =>
    have hhealed : w.healed.socket.fault w.healed.socket.writes = none := rfl
    cases hfault : w.socket.fault w.socket.writes with
    | none =>
      simp only [Socket.write, hfault, hhealed]
      refine .whole rfl fun k hk => ?_
      rcases Nat.lt_succ_iff_lt_or_eq.mp hk with hlt | rfl
      · exact h k hlt
      · exact hfault
    | some fault =>
      simp only [Socket.write, hfault, hhealed]
      refine .stopped fault _ rfl { failed := ?_, sent := ?_, first := ?_ }
      · exact ⟨w.history, packet, rfl, List.prefix_rfl⟩
      · exact (List.prefix_append_right_inj _).mpr (List.take_prefix _ _)
      · exact ⟨w.socket.writes, Nat.lt_succ_self _, rfl, hfault, h⟩

theorem mends_perform {w : World} (h : w.Unbroken) (effect : Effect) :
    Mends (perform env effect w) (perform env effect w.healed) := by
  cases effect with
  | send packet => exact mends_write h packet
  | enter state => exact .whole rfl h
  | compress threshold => exact .whole rfl h

theorem mends_performAll {w : World} (h : w.Unbroken) (effects : List Effect) :
    Mends (performAll env effects w) (performAll env effects w.healed) := by
  induction effects generalizing w with
  | nil => exact .whole rfl h
  | cons effect effects ih =>
    have hfirst : Mends (perform env effect w) (perform env effect w.healed) :=
      mends_perform h effect
    cases hfirst with
    | whole same unbroken =>
      cases hperform : perform env effect w with
      | ok a w' =>
        rw [hperform] at same unbroken
        rw [performAll_cons_ok hperform, performAll_cons_ok same]
        exact ih unbroken
      | error e w' =>
        rw [hperform] at same unbroken
        rw [performAll_cons_error hperform, performAll_cons_error same]
        exact .whole rfl unbroken
    | stopped fault w' result stops =>
      rw [performAll_cons_error result]
      refine .stopped fault w' rfl ?_
      cases hperform : perform env effect w.healed with
      | ok a w₀ =>
        rw [hperform] at stops
        rw [performAll_cons_ok hperform]
        exact stops.grows (grows_performAll effects w₀)
      | error e w₀ =>
        rw [hperform] at stops
        rw [performAll_cons_error hperform]
        exact stops

/-! ### Packets that are refused -/

/-- No packet is written in the handshake. -/
theorem handleHandshake_heals (packet : DecodedC2S) (w : World) :
    handleHandshake packet w.healed = healedResult (handleHandshake packet w) := by
  have haccept : ∀ version intent,
      acceptHandshake version intent w.healed =
        healedResult (acceptHandshake version intent w) := by
    intro version intent
    rw [acceptHandshake, bind_get_apply, bind_get_apply]
    show (if asUsize version = w.conn.protocol.protocolVersion then _ else _ : Handler Unit) _ =
      healedResult
        ((if asUsize version = w.conn.protocol.protocolVersion then _ else _ : Handler Unit) w)
    split
    · cases intent <;> rfl
    · rfl
  cases packet with
  | v1_20_1 p =>
    obtain ⟨v, x⟩ := p
    cases v with
    | handshake => exact haccept _ _
    | _ => rfl
  | v1_21_1 p =>
    obtain ⟨v, x⟩ := p
    cases v with
    | handshake => exact haccept _ _
    | _ => rfl

section

variable {packet : DecodedC2S} {w : World}

theorem handleStatus_heals
    (h : ∀ effects, (w.conn.setup env).script .status packet ≠ .run effects) :
    handleStatus env packet w.healed = healedResult (handleStatus env packet w) := by
  cases packet with
  | v1_20_1 p =>
    obtain ⟨v, x⟩ := p
    cases v with
    | statusRequest => exact absurd rfl (h _)
    | ping => exact absurd rfl (h _)
    | _ => rfl
  | v1_21_1 p =>
    obtain ⟨v, x⟩ := p
    cases v with
    | statusRequest => exact absurd rfl (h _)
    | ping => exact absurd rfl (h _)
    | _ => rfl

theorem handleLogin_heals
    (h : ∀ effects, (w.conn.setup env).script .login packet ≠ .run effects) :
    handleLogin env packet w.healed = healedResult (handleLogin env packet w) := by
  have hname : ∀ (S : Setup) name protocol effects,
      ∃ effects', S.loginScript name protocol effects = .run effects' := by
    intro S name protocol effects
    rw [Setup.loginScript]
    split <;> exact ⟨_, rfl⟩
  cases packet with
  | v1_20_1 p =>
    obtain ⟨v, x⟩ := p
    cases v with
    | loginStart =>
      obtain ⟨effects, hrun⟩ := hname (w.conn.setup env) x.1 .v1_20_1 _
      exact absurd hrun (h effects)
    | _ => rfl
  | v1_21_1 p =>
    obtain ⟨v, x⟩ := p
    cases v with
    | hello =>
      obtain ⟨effects, hrun⟩ := hname (w.conn.setup env) x.1 .v1_21_1 _
      exact absurd hrun (h effects)
    | loginAcknowledged => exact absurd rfl (h _)
    | _ => rfl

theorem handleConfiguration_heals
    (h : ∀ effects, (w.conn.setup env).script .configuration packet ≠ .run effects) :
    handleConfiguration env packet w.healed = healedResult (handleConfiguration env packet w) := by
  cases packet with
  | v1_20_1 p => rfl
  | v1_21_1 p =>
    obtain ⟨v, x⟩ := p
    cases v with
    | finishConfigurationAck => exact absurd rfl (h _)
    | _ => rfl

/-- A packet is refused on both sockets for the same reason. -/
theorem dispatchPacket_heals
    (h : ∀ effects, (w.conn.setup env).script w.conn.state packet ≠ .run effects) :
    dispatchPacket env packet w.healed = healedResult (dispatchPacket env packet w) := by
  have hsame : w.healed.conn.state = w.conn.state := rfl
  rw [dispatchPacket_eq, dispatchPacket_eq, hsame]
  cases hstate : w.conn.state with
  | handshake => exact handleHandshake_heals packet (w.log (.received packet))
  | status =>
    rw [hstate] at h
    exact handleStatus_heals (w := w.log (.received packet)) h
  | login =>
    rw [hstate] at h
    exact handleLogin_heals (w := w.log (.received packet)) h
  | configuration =>
    rw [hstate] at h
    exact handleConfiguration_heals (w := w.log (.received packet)) h
  | play => rfl

end

theorem mends_dispatchPacket {w : World} (h : w.Unbroken) (packet : DecodedC2S) :
    Mends (dispatchPacket env packet w) (dispatchPacket env packet w.healed) := by
  cases hscript : (w.conn.setup env).script w.conn.state packet with
  | run effects =>
    have hrun := dispatchPacket_run env w packet
    have hrun₀ := dispatchPacket_run env w.healed packet
    rw [hscript] at hrun
    rw [show (w.healed.conn.setup env).script w.healed.conn.state packet = _ from hscript] at hrun₀
    rw [hrun, hrun₀]
    exact mends_performAll (w := w.log (.received packet)) h effects
  | _ =>
    have hrefused : ∀ effects, (w.conn.setup env).script w.conn.state packet ≠ .run effects := by
      intro effects hrun
      rw [hscript] at hrun
      cases hrun
    refine .whole (dispatchPacket_heals hrefused) ?_
    have hrun := dispatchPacket_run env w packet
    rw [hscript] at hrun
    obtain ⟨e, -, herr⟩ := hrun
    rw [herr]
    exact h

end

/-! ### The connection loop -/

namespace Machine

def healed (m : Machine) : Machine := { m with world := m.world.healed }

/-- How a connection stands to the one on a socket that never fails, after the same
inputs: the same in everything, or ended by the first write that failed.  The other wrote
that packet too, and all that had gone before it. -/
inductive Truncates (m m₀ : Machine) : Prop where
  | whole (same : m₀ = m.healed) (unbroken : m.world.Unbroken)
  | stopped (fault : Fault) (ended : m.phase = .ended (.io fault.kind))
      (stops : m.world.Stops fault m₀.world) (received : m.received <+: m₀.received)

variable {env : Env} {m : Machine}

theorem world_settled {result : EStateM.Result Error World Unit}
    (h : (m.world, m.phase) = settle .draining result) : m.world = outcomeOf result := by
  cases result <;> exact (Prod.mk.inj h).1

theorem grows_step (m : Machine) (input : Input) :
    m.world.Grows (m.step env input).world := by
  cases m.steps_step env input with
  | idle same =>
    rw [same]
    exact World.Grows.refl _
  | buffers live buffer world plain =>
    rw [world]
    exact { history := List.prefix_rfl, sent := List.prefix_rfl, writes := Nat.le_refl _ }
  | dispatches live buffer packet protocol state result =>
    rw [world_settled result]
    have hgrows : World.Grows _ (outcomeOf (dispatchPacket env packet _)) :=
      grows_dispatchPacket packet (m.world.withBuffer buffer)
    exact { history := hgrows.history, sent := hgrows.sent, writes := hgrows.writes }
  | keepsAlive live id play result =>
    rw [world_settled result]
    exact grows_perform (.send (keepAlive m.conn.protocol id)) m.world

theorem eq_healed {m₀ : Machine} (hworld : m₀.world = m.world.healed) (hphase : m₀.phase = m.phase)
    (hid : m₀.nextKeepaliveId = m.nextKeepaliveId) (hreceived : m₀.received = m.received)
    (hconsumed : m₀.consumed = m.consumed) : m₀ = m.healed := by
  obtain ⟨world, phase, id, received, consumed⟩ := m₀
  simp only at hworld hphase hid hreceived hconsumed
  subst hworld hphase hid hreceived hconsumed
  rfl

namespace Truncates

variable {m₀ : Machine}

/-- What a handler does to a machine, on both sockets. -/
theorem settled {r r₀ : EStateM.Result Error World Unit} (h : Mends r r₀)
    (hm : (m.world, m.phase) = settle .draining r)
    (hm₀ : (m₀.world, m₀.phase) = settle .draining r₀)
    (hid : m₀.nextKeepaliveId = m.nextKeepaliveId) (hreceived : m₀.received = m.received)
    (hconsumed : m₀.consumed = m.consumed) : Truncates m m₀ := by
  have hworld := world_settled hm
  have hworld₀ := world_settled hm₀
  cases h with
  | whole same unbroken =>
    subst same
    refine .whole (eq_healed ?_ ?_ hid hreceived hconsumed) (hworld ▸ unbroken)
    · rw [hworld, hworld₀]
      cases r <;> rfl
    · cases r with
      | ok a w => rw [(Prod.mk.inj hm).2, (Prod.mk.inj hm₀).2]
      | error e w => rw [(Prod.mk.inj hm).2, (Prod.mk.inj hm₀).2]
  | stopped fault w result stops =>
    subst result
    obtain ⟨hw, hphase⟩ := Prod.mk.inj hm
    refine .stopped fault hphase ?_ (hreceived ▸ List.prefix_rfl)
    rw [hw, hworld₀]
    exact stops

theorem advance (h : m.world.Unbroken) : Truncates (m.advance env) (m.healed.advance env) := by
  have hsame : tryParsePacket env m.healed.conn = tryParsePacket env m.conn := rfl
  rw [Machine.advance, Machine.advance, hsame]
  cases tryParsePacket env m.conn with
  | mk r conn =>
    cases r with
    | error e => exact .whole rfl h
    | ok r =>
      cases r with
      | none => exact .whole rfl h
      | some packet =>
        exact settled (mends_dispatchPacket (w := { m.world with conn := conn }) h packet) rfl rfl
          rfl rfl rfl

theorem read (h : m.world.Unbroken) (result : Except ErrorKind Bytes) :
    Truncates (m.read result) (m.healed.read result) := by
  cases result with
  | error kind => exact .whole rfl h
  | ok bytes =>
    cases bytes with
    | nil => exact .whole rfl h
    | cons b bytes => exact .whole rfl h

theorem tick (h : m.world.Unbroken) : Truncates (m.tick env) (m.healed.tick env) := by
  rw [Machine.tick, Machine.tick]
  show Truncates _ (if m.state = .play then _ else _)
  by_cases hplay : m.state = .play
  · rw [if_pos hplay, if_pos hplay]
    exact settled (mends_write h (keepAlive m.conn.protocol m.nextKeepaliveId)) rfl rfl rfl rfl rfl
  · rw [if_neg hplay, if_neg hplay]
    exact .whole rfl h

theorem step (h : Truncates m m₀) (input : Input) :
    Truncates (m.step env input) (m₀.step env input) := by
  cases h with
  | whole same unbroken =>
    subst same
    have hhealed : m.healed.phase = m.phase := rfl
    cases hphase : m.phase with
    | draining =>
      cases input with
      | advance =>
        simp only [Machine.step, hhealed, hphase]
        exact advance unbroken
      | read result =>
        simp only [Machine.step, hhealed, hphase]
        exact .whole rfl unbroken
      | tick =>
        simp only [Machine.step, hhealed, hphase]
        exact .whole rfl unbroken
    | waiting =>
      cases input with
      | advance =>
        simp only [Machine.step, hhealed, hphase]
        exact .whole rfl unbroken
      | read result =>
        simp only [Machine.step, hhealed, hphase]
        exact read unbroken result
      | tick =>
        simp only [Machine.step, hhealed, hphase]
        exact tick unbroken
    | ended e =>
      simp only [Machine.step, hhealed, hphase]
      exact .whole rfl unbroken
  | stopped fault ended stops received =>
    have hsame : m.step env input = m := by
      unfold Machine.step
      rw [ended]
    rw [hsame]
    exact .stopped fault ended (stops.grows (grows_step m₀ input))
      (received.trans (received_step env m₀ input))

end Truncates

end Machine

/-- A socket that fails only cuts a connection short: after any inputs, and wherever its
writes fail, a connection is as it were on a socket that never fails, or it was ended by
the first write that failed, with nothing done and nothing sent that it would not have
done and sent there. -/
theorem Setup.run_truncated (S : Setup) (fault : Nat → Option Fault) (inputs : List Input) :
    (S.run fault inputs).Truncates (S.run (fun _ => none) inputs) := by
  induction inputs using List.reverseRecOn with
  | nil => exact .whole rfl fun k hk => absurd hk (Nat.not_lt_zero k)
  | append_singleton inputs input ih =>
    rw [Setup.run_snoc, Setup.run_snoc]
    exact ih.step input

end Statik
