import Statik.Server.Script
import Statik.Server.Step

/-!
# Sessions

The histories a connection can have, without frames, sockets or handlers: packets
of the right version and state, each followed by its script, and keepalives.  A
trace is a session or a session broken off.  `refines_run` shows that every run
of the connection loop refines this.
-/

namespace Statik

open Wire

namespace Setup

/-- The packet may be handed to the handlers after the history. -/
structure Admits (S : Setup) (history : List Action) (packet : DecodedC2S) : Prop where
  protocol : packet.protocol = S.protocol
  state : packet.state = stateAfter history

/-- A block of actions that continues a session. -/
inductive Extends (S : Setup) (history : List Action) : List Action → Prop where
  | packet {packet : DecodedC2S} {effects : List Effect} :
      S.Admits history packet → S.script (stateAfter history) packet = .run effects →
      Extends S history (.received packet :: effects.map .did)
  | keepAlive (id : BitVec 64) :
      stateAfter history = .play →
      Extends S history [.did (.send (keepAlive S.protocol id))]

/-- A block of actions that ends a session: a refused packet, or a write that
failed. -/
inductive Breaks (S : Setup) (history : List Action) : List Action → Prop where
  | refused {packet : DecodedC2S} :
      S.Admits history packet → S.script (stateAfter history) packet = .refuse →
      Breaks S history [.received packet]
  | cut {packet : DecodedC2S} {before after : List Effect} {failing : S2CPacket} :
      S.Admits history packet →
      S.script (stateAfter history) packet = .run (before ++ .send failing :: after) →
      Breaks S history (.received packet :: (before.map .did ++ [.failed failing]))
  | keepAliveCut (id : BitVec 64) :
      stateAfter history = .play →
      Breaks S history [.failed (keepAlive S.protocol id)]

/-- The histories of a connection whose loop still runs. -/
inductive Session (S : Setup) : List Action → Prop where
  | start : Session S []
  | extend {history block : List Action} :
      Session S history → S.Extends history block → Session S (history ++ block)

/-- The histories of a connection. -/
inductive Trace (S : Setup) : List Action → Prop where
  | live {history : List Action} : S.Session history → Trace S history
  | broken {history block : List Action} :
      S.Session history → S.Breaks history block → Trace S (history ++ block)

variable {S : Setup}

/-! ### Inside a trace -/

/-- What follows a packet in a trace: all of its script, nothing when it was
refused, or its script up to a write that failed. -/
def Followed (S : Setup) (history : List Action) (packet : DecodedC2S) (post : List Action) :
    Prop :=
  (∃ effects later, S.script (stateAfter history) packet = .run effects ∧
    post = effects.map .did ++ later) ∨
  (S.script (stateAfter history) packet = .refuse ∧ post = []) ∨
  ∃ before failing after,
    S.script (stateAfter history) packet = .run (before ++ .send failing :: after) ∧
    post = before.map .did ++ [.failed failing]

/-- Where an effect of a trace comes from: a keepalive, or the script of the
packet before it. -/
def Caused (S : Setup) (pre : List Action) (effect : Effect) : Prop :=
  (S.Session pre ∧ stateAfter pre = .play ∧ ∃ id, effect = .send (keepAlive S.protocol id)) ∨
  ∃ history packet before after, pre = history ++ .received packet :: before.map .did ∧
    S.Session history ∧ S.Admits history packet ∧
    S.script (stateAfter history) packet = .run (before ++ effect :: after)

/-- A packet with a script gets at least to its first effect. -/
theorem Followed.first {history post : List Action} {packet : DecodedC2S} {effect : Effect}
    {effects : List Effect} (h : S.Followed history packet post)
    (hscript : S.script (stateAfter history) packet = .run (effect :: effects)) :
    ∃ action later, post = action :: later ∧ action.effect = some effect := by
  rcases h with ⟨effects', later, hrun, rfl⟩ | ⟨hrefuse, -⟩ | ⟨before, failing, after, hrun, rfl⟩
  · rw [hscript] at hrun
    cases hrun
    exact ⟨_, _, rfl, rfl⟩
  · rw [hscript] at hrefuse
    cases hrefuse
  · rw [hscript] at hrun
    cases before with
    | nil =>
      cases hrun
      exact ⟨_, _, rfl, rfl⟩
    | cons first before =>
      cases hrun
      exact ⟨_, _, rfl, rfl⟩

theorem Session.at_received {history pre post : List Action} {packet : DecodedC2S}
    (h : S.Session history) (heq : history = pre ++ .received packet :: post) :
    S.Session pre ∧ S.Admits pre packet ∧ ∃ effects later,
      S.script (stateAfter pre) packet = .run effects ∧ post = effects.map .did ++ later := by
  induction h generalizing post with
  | start => exact absurd heq (by simp)
  | extend hs hblock ih =>
    rcases append_eq_append_cons heq with ⟨mid, rfl, rfl⟩ | ⟨mid, rfl, hmid⟩
    · obtain ⟨hpre, hadm, effects, later, hrun, rfl⟩ := ih rfl
      exact ⟨hpre, hadm, effects, _, hrun, List.append_assoc _ _ _⟩
    · cases hblock with
      | packet hadmits hscript =>
        obtain ⟨rfl, rfl, rfl⟩ := block_at_received (received_not_mem_did _) hmid
        rw [List.append_nil]
        exact ⟨hs, hadmits, _, [], hscript, (List.append_nil _).symm⟩
      | keepAlive id hplay => cases (singleton_eq_append_cons hmid).2

/-- Before a packet of a trace there is a session that admits it. -/
theorem Trace.at_received {history pre post : List Action} {packet : DecodedC2S}
    (h : S.Trace history) (heq : history = pre ++ .received packet :: post) :
    S.Session pre ∧ S.Admits pre packet ∧ S.Followed pre packet post := by
  cases h with
  | live hs =>
    obtain ⟨hpre, hadm, hfollowed⟩ := hs.at_received heq
    exact ⟨hpre, hadm, .inl hfollowed⟩
  | broken hs hblock =>
    rcases append_eq_append_cons heq with ⟨mid, hmid, rfl⟩ | ⟨mid, rfl, hmid⟩
    · obtain ⟨hpre, hadm, effects, later, hrun, rfl⟩ := hs.at_received hmid
      exact ⟨hpre, hadm, .inl ⟨effects, _, hrun, List.append_assoc _ _ _⟩⟩
    · cases hblock with
      | refused hadmits hscript =>
        obtain ⟨rfl, rfl, rfl⟩ := block_at_received (received_not_mem_did []) hmid
        rw [List.append_nil]
        exact ⟨hs, hadmits, .inr (.inl ⟨hscript, rfl⟩)⟩
      | cut hadmits hscript =>
        obtain ⟨rfl, rfl, rfl⟩ := block_at_received (received_not_mem_cut _ _) hmid
        rw [List.append_nil]
        exact ⟨hs, hadmits, .inr (.inr ⟨_, _, _, hscript, rfl⟩)⟩
      | keepAliveCut id hplay => cases (singleton_eq_append_cons hmid).2

theorem Session.at_effect {history pre post : List Action} {a : Action} {effect : Effect}
    (h : S.Session history) (ha : a.effect = some effect) (heq : history = pre ++ a :: post) :
    S.Caused pre effect := by
  induction h generalizing post with
  | start => exact absurd heq (by simp)
  | extend hs hblock ih =>
    rcases append_eq_append_cons heq with ⟨mid, hmid, -⟩ | ⟨mid, rfl, hmid⟩
    · exact ih hmid
    · cases hblock with
      | packet hadmits hscript =>
        obtain ⟨before, after, rfl, rfl⟩ := block_at_effect ha hmid
        exact .inr ⟨_, _, before, after, rfl, hs, hadmits, hscript⟩
      | keepAlive id hplay =>
        obtain ⟨rfl, rfl⟩ := singleton_eq_append_cons hmid
        cases ha
        rw [List.append_nil]
        exact .inl ⟨hs, hplay, id, rfl⟩

/-- Every effect of a trace, a failed write included, has its cause before it. -/
theorem Trace.at_effect {history pre post : List Action} {a : Action} {effect : Effect}
    (h : S.Trace history) (ha : a.effect = some effect) (heq : history = pre ++ a :: post) :
    S.Caused pre effect := by
  cases h with
  | live hs => exact hs.at_effect ha heq
  | broken hs hblock =>
    rcases append_eq_append_cons heq with ⟨mid, hmid, -⟩ | ⟨mid, rfl, hmid⟩
    · exact hs.at_effect ha hmid
    · cases hblock with
      | refused hadmits hscript =>
        obtain ⟨-, rfl⟩ := singleton_eq_append_cons hmid
        cases ha
      | @cut packet before after failing hadmits hscript =>
        rw [← List.cons_append] at hmid
        rcases append_eq_append_cons hmid with ⟨mid', hdid, -⟩ | ⟨mid', rfl, hfailed⟩
        · obtain ⟨before', after', rfl, rfl⟩ := block_at_effect ha hdid
          rw [List.append_assoc, List.cons_append] at hscript
          exact .inr ⟨_, packet, before', _, rfl, hs, hadmits, hscript⟩
        · obtain ⟨rfl, rfl⟩ := singleton_eq_append_cons hfailed
          cases ha
          rw [List.append_nil]
          exact .inr ⟨_, packet, before, after, rfl, hs, hadmits, hscript⟩
      | keepAliveCut id hplay =>
        obtain ⟨rfl, rfl⟩ := singleton_eq_append_cons hmid
        cases ha
        rw [List.append_nil]
        exact .inl ⟨hs, hplay, id, rfl⟩

/-! ### The wrong-stage arms -/

/-- A packet of the connection's state is of the handler's stage. -/
theorem script_ne_wrongStage {state : State} {packet : DecodedC2S} (h : packet.state = state) :
    S.script state packet ≠ .wrongStage := by
  subst h
  have hname : ∀ (name : String) protocol effects,
      S.loginScript name protocol effects ≠ .wrongStage := by
    intro name protocol effects
    rw [loginScript]
    split <;> exact fun h => nomatch h
  have hhandshake : ∀ version intent, S.handshake version intent ≠ .wrongStage := by
    intro version intent
    rw [handshake]
    split
    · cases intent <;> exact fun h => nomatch h
    · exact fun h => nomatch h
  cases packet with
  | v1_20_1 p =>
    obtain ⟨v, x⟩ := p
    cases v with
    | handshake => exact hhandshake _ _
    | loginStart => exact hname _ _ _
    | _ => exact fun h => nomatch h
  | v1_21_1 p =>
    obtain ⟨v, x⟩ := p
    cases v with
    | handshake => exact hhandshake _ _
    | hello => exact hname _ _ _
    | _ => exact fun h => nomatch h

/-! ### The connection loop refines sessions -/

/-- The connection of a world agrees with the recorded history. -/
structure Agrees (S : Setup) (w : World) : Prop where
  setup : w.conn.setup S.env = S
  state : w.conn.state = stateAfter w.history
  threshold : w.conn.compressionThreshold = thresholdAfter w.history

/-- How a machine and its history stand to each other. -/
structure Refines (S : Setup) (m : Machine) : Prop where
  agrees : S.Agrees m.world
  trace : S.Trace m.history
  live : m.Live → S.Session m.history
  plain : ∀ e, m.phase = .ended e → Plain e

theorem Agrees.after {w w' : World} {actions : List Action} (h : S.Agrees w)
    (ha : w.After actions w') : S.Agrees w' :=
  { setup := by rw [ha.conn]; exact h.setup,
    state := by rw [ha.history, ha.conn, stateAfter_append, h.state],
    threshold := by rw [ha.history, ha.conn, thresholdAfter_append, h.threshold] }

theorem Agrees.buffer {w : World} (h : S.Agrees w) (buffer : Bytes) :
    S.Agrees (w.withBuffer buffer) :=
  { setup := h.setup, state := h.state, threshold := h.threshold }

/-- What a handler or a keepalive comes to in a session. -/
def Settles (S : Setup) (w : World) (result : EStateM.Result Error World Unit) : Prop :=
  match result with
  | .ok _ w' => ∃ block, S.Extends w.history block ∧ w.After block w'
  | .error e w' => ∃ block, S.Breaks w.history block ∧ w.After block w' ∧ Plain e

theorem Settles.refines {w : World} {result : EStateM.Result Error World Unit}
    (h : S.Settles w result) (hagrees : S.Agrees w) (hsession : S.Session w.history)
    {m : Machine} (hm : (m.world, m.phase) = settle .draining result) : S.Refines m := by
  cases result with
  | ok _ w' =>
    obtain ⟨rfl, hphase⟩ := Prod.mk.inj hm
    obtain ⟨block, hextends, hafter⟩ := h
    have hs : S.Session m.world.history := by
      rw [hafter.history]
      exact .extend hsession hextends
    exact { agrees := hagrees.after hafter, trace := .live hs, live := fun _ => hs,
            plain := fun e he => by rw [hphase] at he; cases he }
  | error e w' =>
    obtain ⟨rfl, hphase⟩ := Prod.mk.inj hm
    obtain ⟨block, hbreaks, hafter, he⟩ := h
    have ht : S.Trace m.world.history := by
      rw [hafter.history]
      exact .broken hsession hbreaks
    exact { agrees := hagrees.after hafter, trace := ht, live := fun hl => absurd hphase (hl e),
            plain := fun e' he' => by rw [hphase] at he'; cases he'; exact he }

/-- A dispatch performs the script of the packet, or part of it. -/
theorem settles_dispatch {w : World} {packet : DecodedC2S} (h : S.Agrees w)
    (hadmits : S.Admits w.history packet) : S.Settles w (dispatchPacket S.env packet w) := by
  have hcases := dispatchPacket_cases S.env packet w
  rw [h.setup, h.state] at hcases
  rcases hcases with ⟨effects, w', hscript, hok, hafter⟩ |
    ⟨before, failing, after, e, w', hscript, herr, hafter, he⟩ |
    ⟨e, w', ⟨hscript, he⟩ | hscript, herr, hafter⟩
  · rw [hok]
    exact ⟨_, .packet hadmits hscript, hafter⟩
  · rw [herr]
    exact ⟨_, .cut hadmits hscript, hafter, he⟩
  · rw [herr]
    exact ⟨_, .refused hadmits hscript, hafter, he⟩
  · exact absurd hscript (script_ne_wrongStage hadmits.state)

theorem settles_keepAlive {w : World} (h : S.Agrees w) (hplay : w.conn.state = .play)
    (id : BitVec 64) : S.Settles w (writePacket S.env (keepAlive S.protocol id) w) := by
  have hplay' : stateAfter w.history = .play := by rw [← h.state, hplay]
  rcases perform_cases S.env (.send (keepAlive S.protocol id)) w with
    ⟨w', hok, hafter⟩ | ⟨packet, e, w', hpacket, herr, hafter, he⟩
  · rw [show writePacket S.env _ w = _ from hok]
    exact ⟨_, .keepAlive id hplay', hafter⟩
  · cases hpacket
    rw [show writePacket S.env _ w = _ from herr]
    exact ⟨_, .keepAliveCut id hplay', hafter, he⟩

variable {m : Machine}

/-- Everything a step can do in a session: nothing, to take bytes in or out of
the buffer, or to settle a handler or a keepalive. -/
inductive Steps (S : Setup) (m m' : Machine) : Prop where
  | idle (same : m' = m)
  | buffers (live : m.Live) (buffer : Bytes) (world : m'.world = m.world.withBuffer buffer)
      (plain : ∀ e, m'.phase = .ended e → Plain e)
  | settles (live : m.Live) (buffer : Bytes) (result : EStateM.Result Error World Unit)
      (settled : S.Settles (m.world.withBuffer buffer) result)
      (world : (m'.world, m'.phase) = settle .draining result)

theorem steps_step (h : S.Refines m) (input : Input) : S.Steps m (m.step S.env input) := by
  have hprotocol : m.conn.protocol = S.protocol := by rw [← h.agrees.setup]; rfl
  cases m.steps_step S.env input with
  | idle same => exact .idle same
  | buffers live buffer world plain => exact .buffers live buffer world plain
  | dispatches live buffer packet protocol state result =>
    have hadmits : S.Admits m.history packet :=
      { protocol := by rw [protocol, hprotocol], state := by rw [state, ← h.agrees.state] }
    exact .settles live buffer _ (settles_dispatch (h.agrees.buffer buffer) hadmits) result
  | keepsAlive live id play result =>
    rw [hprotocol] at result
    exact .settles live m.conn.buffer _ (settles_keepAlive h.agrees play id) result

theorem refines_start (S : Setup) (fault : Nat → Option Fault) :
    S.Refines (.start S.config S.protocol S.address fault) :=
  { agrees := { setup := rfl, state := rfl, threshold := rfl }, trace := .live .start,
    live := fun _ => .start, plain := fun _ h => nomatch h }

theorem refines_step (h : S.Refines m) (input : Input) : S.Refines (m.step S.env input) := by
  cases steps_step h input with
  | idle same => rw [same]; exact h
  | buffers live buffer world plain =>
    exact { agrees := by rw [world]; exact h.agrees.buffer buffer,
            trace := by rw [Machine.history, world]; exact h.trace,
            live := fun _ => by rw [Machine.history, world]; exact h.live live,
            plain := plain }
  | settles live buffer result settled world =>
    exact settled.refines (h.agrees.buffer buffer) (h.live live) world

/-- Every run of the connection loop refines the sessions. -/
theorem refines_run (S : Setup) (fault : Nat → Option Fault) (inputs : List Input) :
    S.Refines (S.run fault inputs) :=
  List.foldlRecOn inputs _ (refines_start S fault) fun _ h input _ => refines_step h input

/-- A step adds at most one block to the history. -/
theorem step_block (h : S.Refines m) (input : Input) :
    ∃ block, (m.step S.env input).history = m.history ++ block ∧
      (block = [] ∨ S.Extends m.history block ∨ S.Breaks m.history block) := by
  cases steps_step h input with
  | idle same => exact ⟨[], by rw [same, List.append_nil], .inl rfl⟩
  | buffers live buffer world plain =>
    exact ⟨[], by rw [Machine.history, world, List.append_nil]; rfl, .inl rfl⟩
  | settles live buffer result settled world =>
    cases result with
    | ok _ w' =>
      obtain ⟨block, hextends, hafter⟩ := settled
      refine ⟨block, ?_, .inr (.inl hextends)⟩
      rw [Machine.history, (Prod.mk.inj world).1]
      exact hafter.history
    | error e w' =>
      obtain ⟨block, hbreaks, hafter, -⟩ := settled
      refine ⟨block, ?_, .inr (.inr hbreaks)⟩
      rw [Machine.history, (Prod.mk.inj world).1]
      exact hafter.history

end Setup

end Statik
