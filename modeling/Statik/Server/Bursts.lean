import Statik.Server.Boundaries
import Statik.Server.Output

/-!
# Bursts and keepalives

In which order a connection writes its bursts and keepalives.  Without failed
writes its output is one of a few sequences, and the state tells which.
-/

namespace Statik

open Wire

/-- The keepalives with the ids 0 to `n - 1`, as `i64`s. -/
def keepAlives (protocol : ProtocolKind) (n : Nat) : List S2CPacket :=
  (List.range n).map fun i => keepAlive protocol (BitVec.ofNat 64 i)

/-- The bursts written up to a state. -/
def Setup.bursts (S : Setup) : State → List S2CPacket
  | .configuration => configurationBurst S.env
  | .play =>
    match S.protocol with
    | .v1_20_1 => playBurst S.env S.config .v1_20_1
    | .v1_21_1 => configurationBurst S.env ++ playBurst S.env S.config .v1_21_1
  | _ => []

/-- The output of a connection in the state: replies in Status and Login, then the
bursts, and in Play `n` keepalives. -/
structure InOrder (S : Setup) (state : State) (n : Nat) (output : List S2CPacket) : Prop where
  parts : ∃ replies : List S2CPacket, (∀ q ∈ replies, q.state = .status ∨ q.state = .login) ∧
    output = replies ++ (S.bursts state ++ keepAlives S.protocol n)
  idle : state ≠ .play → n = 0

/-! ### The packets that effects send -/

theorem sent_sends (packets : List S2CPacket) :
    (packets.map Effect.send).filterMap Effect.sent = packets := by
  rw [List.filterMap_map]
  exact List.filterMap_some

theorem sent_entering (state : State) (packets : List S2CPacket) :
    (Setup.entering state packets).filterMap Effect.sent = packets := sent_sends packets

theorem sent_acceptance (S : Setup) (name : String) (protocol : ProtocolKind) :
    ∀ q ∈ (S.acceptance name protocol).filterMap Effect.sent, q.state = .login := by
  have hcompression : ∀ t, (Setup.setCompression t protocol).state = .login := by
    intro t
    cases protocol <;> rfl
  have hsuccess : (Setup.loginSuccess name protocol).state = .login := by
    cases protocol <;> rfl
  intro q hq
  rw [Setup.acceptance] at hq
  split at hq
  · rcases List.mem_pair.mp (show q ∈ [_, _] from hq) with rfl | rfl
    · exact hcompression _
    · exact hsuccess
  · rw [List.mem_singleton.mp (show q ∈ [_] from hq)]
    exact hsuccess

theorem passed_append (history later : List Action) :
    passed (history ++ later) = passed history ++ passed later := List.filterMap_append

theorem passed_did (effects : List Effect) :
    passed (effects.map .did) = effects.filterMap Effect.sent := by
  rw [passed, List.filterMap_map]
  rfl

theorem keepAlives_succ (protocol : ProtocolKind) (n : Nat) :
    keepAlives protocol (n + 1) =
      keepAlives protocol n ++ [keepAlive protocol (BitVec.ofNat 64 n)] := by
  rw [keepAlives, List.range_succ, List.map_append]
  rfl

namespace InOrder

variable {S : Setup} {state : State} {n : Nat} {output : List S2CPacket}

/-- Before the bursts there are replies only. -/
theorem replies (h : InOrder S state n output) (hplay : state ≠ .play)
    (hconfiguration : state ≠ .configuration) :
    ∀ q ∈ output, q.state = .status ∨ q.state = .login := by
  obtain ⟨replies, hreplies, rfl⟩ := h.parts
  have hn := h.idle hplay
  subst hn
  have hbursts : S.bursts state = [] := by
    cases state with
    | configuration => exact absurd rfl hconfiguration
    | play => exact absurd rfl hplay
    | _ => rfl
  intro q hq
  rw [hbursts] at hq
  exact hreplies q (by simpa [keepAlives] using hq)

theorem of_replies (hplay : state ≠ .play) (hconfiguration : state ≠ .configuration)
    (h : ∀ q ∈ output, q.state = .status ∨ q.state = .login) : InOrder S state 0 output := by
  have hbursts : S.bursts state = [] := by
    cases state with
    | configuration => exact absurd rfl hconfiguration
    | play => exact absurd rfl hplay
    | _ => rfl
  refine { parts := ⟨output, h, ?_⟩, idle := fun _ => rfl }
  rw [hbursts]
  exact (List.append_nil output).symm

/-- Bursts that follow replies. -/
theorem of_bursts {replies bursts : List S2CPacket} (hbursts : S.bursts state = bursts)
    (h : ∀ q ∈ replies, q.state = .status ∨ q.state = .login) :
    InOrder S state 0 (replies ++ bursts) := by
  refine { parts := ⟨replies, h, ?_⟩, idle := fun _ => rfl }
  rw [hbursts]
  exact congrArg (replies ++ ·) (List.append_nil bursts).symm

theorem more_replies {more : List S2CPacket} (h : InOrder S state n output)
    (hplay : state ≠ .play) (hconfiguration : state ≠ .configuration)
    (hmore : ∀ q ∈ more, q.state = .status ∨ q.state = .login) :
    ∀ q ∈ output ++ more, q.state = .status ∨ q.state = .login := by
  intro q hq
  rcases List.mem_append.mp hq with hq | hq
  · exact h.replies hplay hconfiguration q hq
  · exact hmore q hq

/-- What the handlers do with a packet keeps the order. -/
theorem scripted {packet : DecodedC2S} {effects : List Effect} (h : InOrder S state n output)
    (hscript : S.Scripted state packet effects) :
    InOrder S (stateFrom state (effects.map .did)) n
      (output ++ effects.filterMap Effect.sent) := by
  cases hscript with
  | @handshake packet next hnext =>
    have hn := h.idle (by decide)
    subst hn
    have houtput := h.replies (by decide) (by decide)
    show InOrder S next 0 (output ++ [])
    rw [List.append_nil]
    rcases hnext with rfl | rfl
    · exact of_replies (by decide) (by decide) houtput
    · exact of_replies (by decide) (by decide) houtput
  | @reply packet answer hprotocol hstate =>
    have hn := h.idle (by decide)
    subst hn
    show InOrder S .status 0 (output ++ [answer])
    refine of_replies (by decide) (by decide) (h.more_replies (by decide) (by decide) ?_)
    intro q hq
    rw [List.mem_singleton.mp hq]
    exact .inl hstate
  | rejected hname hinvalid =>
    have hn := h.idle (by decide)
    subst hn
    show InOrder S .login 0 (output ++ [Setup.disconnect S.protocol])
    refine of_replies (by decide) (by decide) (h.more_replies (by decide) (by decide) ?_)
    intro q hq
    rw [List.mem_singleton.mp hq]
    cases S.protocol <;> exact .inr rfl
  | @joined packet name hprotocol hname hvalid =>
    have hn := h.idle (by decide)
    subst hn
    have hreplies := h.more_replies (by decide) (by decide)
      fun q hq => .inr (sent_acceptance S name .v1_20_1 q hq)
    rw [List.filterMap_append, sent_entering, ← List.append_assoc, stateFrom_did,
      List.filterMap_append, Setup.enters_acceptance, Setup.enters_entering]
    refine of_bursts ?_ hreplies
    show S.bursts .play = _
    rw [Setup.bursts, hprotocol]
  | @accepted packet name hprotocol hname hvalid =>
    have hn := h.idle (by decide)
    subst hn
    rw [stateFrom_did, Setup.enters_acceptance]
    exact of_replies (by decide) (by decide) (h.more_replies (by decide) (by decide)
      fun q hq => .inr (sent_acceptance S name .v1_21_1 q hq))
  | acknowledged hprotocol hack =>
    have hn := h.idle (by decide)
    subst hn
    rw [sent_entering, stateFrom_did, Setup.enters_entering]
    exact of_bursts rfl (h.replies (by decide) (by decide))
  | finished hprotocol =>
    have hn := h.idle (by decide)
    subst hn
    obtain ⟨replies, hreplies, rfl⟩ := h.parts
    rw [sent_entering, stateFrom_did, Setup.enters_entering, List.append_assoc]
    refine of_bursts ?_ hreplies
    show S.bursts .play = (configurationBurst S.env ++ []) ++ _
    rw [Setup.bursts, hprotocol, List.append_nil]
  | ignored hstate =>
    rw [List.filterMap_nil, List.append_nil]
    exact h

/-- So does the next keepalive. -/
theorem keepAlive (h : InOrder S .play n output) :
    InOrder S .play (n + 1) (output ++ [Statik.keepAlive S.protocol (BitVec.ofNat 64 n)]) := by
  obtain ⟨replies, hreplies, rfl⟩ := h.parts
  refine { parts := ⟨replies, hreplies, ?_⟩, idle := fun hplay => absurd rfl hplay }
  rw [keepAlives_succ]
  simp only [List.append_assoc]

end InOrder

/-! ### Runs -/

/-- A write failed, or the output of the machine is in order and its keepalives
are counted. -/
def Machine.Counted (S : Setup) (m : Machine) : Prop :=
  (∃ packet, .failed packet ∈ m.history) ∨
    ∃ n, InOrder S m.state n (passed m.history) ∧ m.nextKeepaliveId = BitVec.ofNat 64 n

namespace Setup

variable {S : Setup} {m : Machine}

/-- What a dispatch leaves behind: a failed write, nothing done, or all that a
script says. -/
theorem dispatch_leaves {w : World} {packet : DecodedC2S} (h : S.Agrees w)
    (hadmits : S.Admits w.history packet) {w' : World} {phase : Phase}
    (hw' : (w', phase) = settle .draining (dispatchPacket S.env packet w)) :
    (∃ q, .failed q ∈ w'.history) ∨ w.After [.received packet] w' ∨
      ∃ effects, S.Scripted (stateAfter w.history) packet effects ∧
        w.After (.received packet :: effects.map .did) w' := by
  have hcases := dispatchPacket_cases S.env packet w
  rw [h.setup, h.state] at hcases
  rcases hcases with ⟨effects, w₁, hscript, hok, hafter⟩ |
    ⟨before, failing, after, e, w₁, -, herr, hafter, -⟩ | ⟨e, w₁, -, herr, hafter⟩
  · rw [hok] at hw'
    obtain ⟨rfl, -⟩ := Prod.mk.inj hw'
    exact .inr (.inr ⟨effects, hadmits.scripted hscript, hafter⟩)
  · rw [herr] at hw'
    obtain ⟨rfl, -⟩ := Prod.mk.inj hw'
    refine .inl ⟨failing, ?_⟩
    rw [hafter.history]
    simp
  · rw [herr] at hw'
    obtain ⟨rfl, -⟩ := Prod.mk.inj hw'
    exact .inr (.inl hafter)

/-- What keeps the order and does not touch the counter keeps the machine counted. -/
theorem counted_after {m' : Machine} {buffer : Bytes} {actions : List Action}
    (hcounted : m.Counted S) (hafter : (m.world.withBuffer buffer).After actions m'.world)
    (hid : m'.nextKeepaliveId = m.nextKeepaliveId)
    (hkeeps : ∀ n output, InOrder S m.state n output →
      InOrder S (stateFrom m.state actions) n (output ++ passed actions)) : m'.Counted S := by
  have hhistory : m'.history = m.history ++ actions := hafter.history
  have hstate : m'.state = stateFrom m.state actions := by
    rw [Machine.state, hafter.conn]
    rfl
  rcases hcounted with ⟨packet, hmem⟩ | ⟨n, horder, hcount⟩
  · refine .inl ⟨packet, ?_⟩
    rw [hhistory]
    exact List.mem_append_left _ hmem
  · refine .inr ⟨n, ?_, hid.trans hcount⟩
    rw [hhistory, hstate, passed_append]
    exact hkeeps n _ horder

/-- A round of the drain loop adds to the output what a script says. -/
theorem counted_advance (h : S.Refines m) (hcounted : m.Counted S) :
    (m.advance S.env).Counted S := by
  have hid := Machine.advance_nextKeepaliveId S.env m
  rcases Machine.advance_cases S.env m with ⟨buffer, hworld, -⟩ | ⟨buffer, packet, hprotocol,
    hstate, hresult⟩
  · have hafter : (m.world.withBuffer buffer).After [] (m.advance S.env).world := by
      rw [hworld]
      exact World.After.refl _
    refine counted_after hcounted hafter hid fun n output horder => ?_
    show InOrder S m.state n (output ++ [])
    rw [List.append_nil]
    exact horder
  · have hadmits : S.Admits m.history packet :=
      { protocol := by rw [hprotocol, ← h.agrees.setup]; rfl,
        state := by rw [hstate, ← h.agrees.state] }
    rcases dispatch_leaves (h.agrees.buffer buffer) hadmits hresult with hfailed | hafter |
      ⟨effects, hscripted, hafter⟩
    · exact .inl hfailed
    · refine counted_after hcounted hafter hid fun n output horder => ?_
      show InOrder S m.state n (output ++ [])
      rw [List.append_nil]
      exact horder
    · refine counted_after hcounted hafter hid fun n output horder => ?_
      have hscripted' : S.Scripted m.state packet effects := by
        rw [Machine.state, h.agrees.state]
        exact hscripted
      have hpassed : passed (.received packet :: effects.map .did) =
          effects.filterMap Effect.sent := passed_did effects
      rw [hpassed]
      exact horder.scripted hscripted'

theorem counted_read (hcounted : m.Counted S) (result : Except ErrorKind Bytes) :
    (m.read result).Counted S := by
  cases result with
  | error kind => exact hcounted
  | ok bytes =>
    cases bytes with
    | nil => exact hcounted
    | cons b bytes => exact hcounted

/-- A tick in Play adds the keepalive with the next id. -/
theorem counted_tick (h : S.Refines m) (hcounted : m.Counted S) : (m.tick S.env).Counted S := by
  rw [Machine.tick]
  by_cases hplay : m.state = .play
  · rw [if_pos hplay]
    have hprotocol : m.conn.protocol = S.protocol := by rw [← h.agrees.setup]; rfl
    rcases perform_cases S.env (.send (keepAlive m.conn.protocol m.nextKeepaliveId)) m.world with
      ⟨w', hok, hafter⟩ | ⟨packet, e, w', -, herr, hafter, -⟩
    · rw [show writePacket S.env _ m.world = _ from hok]
      rcases hcounted with ⟨packet, hmem⟩ | ⟨n, horder, hcount⟩
      · refine .inl ⟨packet, ?_⟩
        show _ ∈ w'.history
        rw [hafter.history]
        exact List.mem_append_left _ hmem
      · refine .inr ⟨n + 1, ?_, ?_⟩
        · show InOrder S w'.conn.state (n + 1) (passed w'.history)
          rw [hafter.history, hafter.conn, passed_append]
          show InOrder S m.state (n + 1) (passed m.history ++ [_])
          rw [hplay] at horder ⊢
          rw [hprotocol, hcount]
          exact horder.keepAlive
        · show m.nextKeepaliveId + 1 = _
          rw [hcount, BitVec.ofNat_add]
          rfl
    · rw [show writePacket S.env _ m.world = _ from herr]
      refine .inl ⟨packet, ?_⟩
      show _ ∈ w'.history
      rw [hafter.history]
      simp
  · rw [if_neg hplay]
    exact hcounted

theorem counted_step (h : S.Refines m) (hcounted : m.Counted S) (input : Input) :
    (m.step S.env input).Counted S := by
  unfold Machine.step
  split
  case h_1 => exact counted_advance h hcounted
  case h_2 result _ => exact counted_read hcounted result
  case h_3 => exact counted_tick h hcounted
  case h_4 => exact hcounted

theorem counted_run (S : Setup) (fault : Nat → Option Fault) (inputs : List Input) :
    (S.run fault inputs).Counted S := by
  induction inputs using List.reverseRecOn with
  | nil =>
    have hstart : InOrder S .handshake 0 [] :=
      .of_replies (by decide) (by decide) fun q hq => by cases hq
    exact .inr ⟨0, hstart, rfl⟩
  | append_singleton inputs input ih =>
    rw [run_snoc]
    exact counted_step (refines_run S fault inputs) ih input

/-- Whether an action is a failed write. -/
def isFailed : Action → Bool
  | .failed _ => true
  | _ => false

theorem not_failed {history : List Action} (h : history.any isFailed = false)
    (packet : S2CPacket) : .failed packet ∉ history := by
  intro hmem
  rw [List.any_eq_false] at h
  exact h _ hmem rfl

/-- The join on 1.20.1, and two ticks of the timer. -/
def joiningTicks : List Input := joining ++ [.tick, .advance, .tick]

end Setup

end Statik
