import Statik.Server.Draining
import Statik.Server.Replay
import Statik.Server.Status

/-!
# Conversations

A client that sends packets, each in a frame the server can read by then, has every one of
them answered by its script, however its bytes are cut into reads.
-/

namespace Statik

open Wire

namespace Setup

variable (S : Setup)

/-- The frame is read as the packet by a connection that has come so far. -/
def Conveyed (p : Progress) (packet : DecodedC2S) (f : Frame) : Prop :=
  ∃ body rest, bodyBytes S.env.flate2 p.threshold f.body = .ok (some body) ∧
    DecodedC2S.decode S.env.serde S.protocol p.state body = .ok (packet, rest)

/-- Each frame is read as its packet once the packets before it are answered, and none of
those is refused. -/
def Conveys : Progress → List (DecodedC2S × Frame) → Prop
  | _, [] => True
  | p, (packet, f) :: later =>
    p.refused = false ∧ S.Conveyed p packet f ∧ Conveys (S.block p packet).2 later

/-- What the packets lead to. -/
def answers : Progress → List DecodedC2S → List (List Action)
  | _, [] => []
  | p, packet :: packets => (S.block p packet).1 :: answers (S.block p packet).2 packets

/-- How far they lead. -/
def progressAfter : Progress → List DecodedC2S → Progress
  | p, [] => p
  | p, packet :: packets => progressAfter (S.block p packet).2 packets

variable {S} {p : Progress} {messages : List (DecodedC2S × Frame)}

theorem take_conveyed {packet : DecodedC2S} {f : Frame} (hrefused : p.refused = false)
    (h : S.Conveyed p packet f) (rest : Bytes) :
    S.replayer.take p (f.bytes ++ rest) =
      some ((S.block p packet).1, (S.block p packet).2, rest) := by
  obtain ⟨body, unread, hbody, hdecode⟩ := h
  have hparse : parseFrame S.env (S.connection p (f.bytes ++ rest)) f.body rest =
      (.ok (some packet), S.connection p rest) := by
    rw [parseFrame]
    simp only [connection_threshold, hbody, connection_protocol, connection_state, hdecode]
    rfl
  rw [replayer_take, takeBlock_frame hrefused, hparse]
  rfl

theorem drain_conveys (h : S.Conveys p messages) (rest : Bytes) :
    S.replayer.drain p (streamOf (messages.map Prod.snd) ++ rest) =
      (S.replayer.drain (S.progressAfter p (messages.map Prod.fst)) rest).prepend
        (S.answers p (messages.map Prod.fst)) := by
  induction messages generalizing p with
  | nil => rfl
  | cons message later ih =>
    obtain ⟨packet, f⟩ := message
    obtain ⟨hrefused, hconveyed, hlater⟩ := h
    have hstream : streamOf (((packet, f) :: later).map Prod.snd) ++ rest =
        f.bytes ++ (streamOf (later.map Prod.snd) ++ rest) := List.append_assoc _ _ _
    rw [hstream, Splitter.drain_some (take_conveyed hrefused hconveyed _), ih hlater,
      ← Received.prepend_append]
    rfl

theorem block_ne_nil (p : Progress) (packet : DecodedC2S) : (S.block p packet).1 ≠ [] := by
  rw [block]
  split <;> exact List.cons_ne_nil _ _

theorem nil_not_mem_answers (p : Progress) (packets : List DecodedC2S) :
    [] ∉ S.answers p packets := by
  induction packets generalizing p with
  | nil => exact List.not_mem_nil
  | cons packet packets ih =>
    intro h
    rcases List.mem_cons.mp h with hnil | hlater
    · exact block_ne_nil p packet hnil.symm
    · exact ih _ hlater

/-- The whole stream of a conversation. -/
theorem drain_conversation (h : S.Conveys .start messages) :
    S.replayer.drain .start (streamOf (messages.map Prod.snd)) =
      { items := S.answers .start (messages.map Prod.fst),
        state := S.progressAfter .start (messages.map Prod.fst), pending := [] } := by
  have hdrain := drain_conveys h []
  rw [List.append_nil, S.drain_pending _ Pending.nil, Received.prepend, List.append_nil] at hdrain
  exact hdrain

/-- A connection that waits after the stream of a conversation has answered all of it. -/
theorem Conveys.answered {m : Machine} (h : S.Conveys .start messages) (hreplays : Replays S m)
    (hreceived : m.received = streamOf (messages.map Prod.snd)) (hwaiting : m.phase = .waiting) :
    driven m.history = (S.answers .start (messages.map Prod.fst)).flatten ∧
      m.conn.progress = S.progressAfter .start (messages.map Prod.fst) ∧ m.conn.buffer = [] := by
  have hlive : m.Live := fun e he => by rw [hwaiting] at he; cases he
  obtain ⟨blocks, hblocks, hdrain, hpending⟩ := hreplays.live hlive
  rw [hreceived, drain_conversation h] at hdrain
  have hitems := congrArg Received.items hdrain
  rcases hpending hwaiting with hp | hskipped
  · -- nothing is left to be taken
    rw [S.drain_pending _ hp] at hdrain hitems
    have hall : S.answers .start (messages.map Prod.fst) = blocks :=
      hitems.trans (List.append_nil blocks)
    refine ⟨by rw [hblocks, hall], ?_, ?_⟩
    · exact (congrArg Received.state hdrain).symm
    · exact (congrArg Received.pending hdrain).symm
  · -- no frame of the conversation is skipped
    have hmem : [] ∈ S.answers .start (messages.map Prod.fst) := by
      rw [show S.answers .start (messages.map Prod.fst) = _ from hitems]
      exact List.mem_append_left _ hskipped
    exact absurd hmem (nil_not_mem_answers _ _)

end Setup

/-! ### Getting to the end of a stream -/

/-- Every packet among the actions is turned into bytes under the threshold it is written
under. -/
def Writable (env : Env) (threshold : Option (BitVec 32)) (actions : List Action) : Prop :=
  ∀ pre packet post, actions = pre ++ .did (.send packet) :: post →
    ∃ bytes, outgoing env (thresholdFrom threshold pre) packet = .ok bytes

theorem Writable.tail {env : Env} {threshold : Option (BitVec 32)} {action : Action}
    {actions : List Action} (h : Writable env threshold (action :: actions)) :
    Writable env (action.applyThreshold threshold) actions := by
  intro pre packet post heq
  exact h (action :: pre) packet post (by rw [heq, List.cons_append])

theorem Writable.append {env : Env} {threshold : Option (BitVec 32)} {actions later : List Action}
    (h : Writable env threshold (actions ++ later)) :
    Writable env threshold actions ∧
      Writable env (thresholdFrom threshold actions) later := by
  constructor
  · intro pre packet post heq
    exact h pre packet (post ++ later) (by rw [heq, List.append_assoc, List.cons_append])
  · intro pre packet post heq
    have hwhole := h (actions ++ pre) packet post (by rw [heq, List.append_assoc])
    rwa [thresholdFrom_append] at hwhole

/-- No write fails. -/
def World.Sound (w : World) : Prop := ∀ n, w.socket.fault n = none

/-- On a sound socket, effects that can be written are all performed. -/
theorem performAll_writable {env : Env} {effects : List Effect} {w : World} (hsound : w.Sound)
    (h : Writable env w.conn.compressionThreshold (effects.map .did)) :
    ∃ w', performAll env effects w = .ok () w' ∧ w.After (effects.map .did) w' ∧ w'.Sound := by
  induction effects generalizing w with
  | nil => exact ⟨w, rfl, World.After.refl w, hsound⟩
  | cons effect effects ih =>
    have hfirst : ∃ w', perform env effect w = .ok () w' ∧ w.After [.did effect] w' ∧ w'.Sound := by
      cases effect with
      | send packet =>
        obtain ⟨bytes, hbytes⟩ := h [] packet (effects.map .did) rfl
        rcases writePacket_cases env w packet with ⟨bytes', -, -, hok⟩ | ⟨e, socket, -, hwhy⟩
        · exact ⟨_, hok, w.after_sent _ packet, hsound⟩
        · rcases hwhy with ⟨hout, -⟩ | ⟨hfault, -⟩
          · cases hbytes.symm.trans hout
          · exact absurd (hsound _) hfault
      | enter state => exact ⟨_, rfl, w.after_enter state, hsound⟩
      | compress threshold => exact ⟨_, rfl, w.after_compress threshold, hsound⟩
    obtain ⟨w₁, hok, hafter, hsound₁⟩ := hfirst
    have htail : Writable env w₁.conn.compressionThreshold (effects.map .did) := by
      rw [hafter.conn]
      exact h.tail
    obtain ⟨w', hrest, hafter', hsound'⟩ := ih hsound₁ htail
    exact ⟨w', (performAll_cons_ok hok).trans hrest, hafter.trans hafter', hsound'⟩

/-- A stream that ends with a frame, of packets that are not refused and answered with
packets that can be written. -/
structure Setup.Finishes (S : Setup) (p : Progress) (b : Bytes) : Prop where
  whole : (S.replayer.drain p b).pending = []
  accepted : (S.replayer.drain p b).state.refused = false
  writable : Writable S.env p.threshold (S.replayer.drain p b).items.flatten

namespace Setup.Finishes

variable {S : Setup} {p : Progress} {b : Bytes}

/-- There is something to take as long as there are bytes. -/
theorem take_ne_none (h : S.Finishes p b) (hb : b ≠ []) : S.replayer.take p b ≠ none := by
  intro hnone
  have hwhole := h.whole
  rw [Splitter.drain_none hnone] at hwhole
  exact hb hwhole

theorem of_take {a : List Action} {p' : Progress} {rest : Bytes} (h : S.Finishes p b)
    (htake : S.replayer.take p b = some (a, p', rest))
    (hp : p'.threshold = thresholdFrom p.threshold a) :
    Writable S.env p.threshold a ∧ S.Finishes p' rest := by
  have hdrain := Splitter.drain_some htake
  have hwritable := h.writable
  rw [hdrain, Received.prepend, List.flatten_append, List.flatten_singleton] at hwritable
  refine ⟨hwritable.append.1, { whole := ?_, accepted := ?_, writable := ?_ }⟩
  · have hwhole := h.whole
    rw [hdrain] at hwhole
    exact hwhole
  · have haccepted := h.accepted
    rw [hdrain] at haccepted
    exact haccepted
  · rw [hp]
    exact hwritable.append.2

/-- A packet that is refused is not followed by anything. -/
theorem not_refused (h : S.Finishes p b) : p.refused = false := by
  by_contra hne
  have hnone : S.replayer.take p b = none := by
    rw [replayer_take, takeBlock, if_pos (Bool.not_eq_false _ ▸ hne)]
  have haccepted := h.accepted
  rw [Splitter.drain_none hnone] at haccepted
  exact hne haccepted

end Setup.Finishes

namespace Setup

variable {S : Setup} {p : Progress}

/-- A block is taken as soon as its frame is there. -/
theorem take_of_append {b more : Bytes} (hp : ¬ Pending b) {a : List Action} {p' : Progress}
    {r : Bytes} (h : S.replayer.take p (b ++ more) = some (a, p', r)) :
    ∃ rest, S.replayer.take p b = some (a, p', rest) ∧ r = rest ++ more := by
  have hrefused := (takeBlock_eq_some h).1
  have hsome : ∃ r', S.replayer.take p b = some r' := by
    rcases peekHeader_cases b with hpending | ⟨e, -, hpeek⟩ | ⟨f, rest, rfl⟩
    · exact absurd hpending hp
    · rw [replayer_take, takeBlock, hrefused, tryParsePacket,
        show peekHeader (S.connection p (b ++ more)).buffer = _ from
          peekHeader_append_error hpeek more] at h
      cases h
    · rw [replayer_take, List.append_assoc, takeBlock_frame hrefused, parseFrame_connection] at h
      rw [replayer_take, takeBlock_frame hrefused]
      cases hcall : parseFrame S.env (S.connection p (f.bytes ++ rest)) f.body rest with
      | mk r' conn =>
        rw [hcall] at h
        cases r' with
        | error e => cases h
        | ok r' =>
          cases r' with
          | none => exact ⟨_, rfl⟩
          | some packet => exact ⟨_, rfl⟩
  obtain ⟨⟨a', p'', rest⟩, htake⟩ := hsome
  have hstable := S.replayer.stable more htake
  rw [h] at hstable
  obtain ⟨rfl, hrest⟩ := Prod.mk.inj (Option.some.inj hstable)
  obtain ⟨rfl, hr⟩ := Prod.mk.inj hrest
  exact ⟨rest, htake, hr⟩

/-- What a block is, it leads to. -/
theorem block_threshold (p : Progress) (packet : DecodedC2S) :
    (S.block p packet).2.threshold = thresholdFrom p.threshold (S.block p packet).1 := by
  rw [block]
  split <;> rfl

end Setup

/-- A connection on its way through a stream it can answer to the end. -/
structure Answering (S : Setup) (stream : Bytes) (m : Machine) : Prop where
  replays : Replays S m
  refines : S.Refines m
  live : m.Live
  sound : m.world.Sound
  finishes : ∀ more, m.received ++ more = stream →
    S.Finishes m.conn.progress (m.conn.buffer ++ more)

namespace Answering

variable {S : Setup} {stream : Bytes} {m : Machine}

theorem start (h : S.Finishes .start stream) :
    Answering S stream (.start S.config S.protocol S.address fun _ => none) :=
  { replays := Replays.start S _, refines := Setup.refines_start S _,
    live := (fun e he => by cases he), sound := fun _ => rfl,
    finishes := fun more hmore => by cases hmore; exact h }

/-- A packet that is not refused, answered with packets that can be written, is answered. -/
theorem dispatched (h : Answering S stream m) {packet : DecodedC2S} {buffer : Bytes} {m' : Machine}
    (haccepted : (S.block m.conn.progress packet).2.refused = false)
    (hwritable : Writable S.env m.conn.progress.threshold (S.block m.conn.progress packet).1)
    (hresult : (m'.world, m'.phase) =
      settle .draining (dispatchPacket S.env packet (m.world.withBuffer buffer))) :
    m'.Live ∧ m'.world.Sound ∧ m'.conn.progress = (S.block m.conn.progress packet).2 ∧
      m'.conn.buffer = buffer := by
  have hrun := dispatchPacket_run S.env (m.world.withBuffer buffer) packet
  rw [(h.refines.agrees.buffer buffer).setup] at hrun
  cases hscript : S.script m.conn.progress.state packet with
  | run effects =>
    rw [show S.script (m.world.withBuffer buffer).conn.state packet = _ from hscript] at hrun
    rw [Setup.block_run hscript] at hwritable ⊢
    have hsound : ((m.world.withBuffer buffer).log (.received packet)).Sound := h.sound
    obtain ⟨w', hok, hafter, hsound'⟩ := performAll_writable hsound hwritable.tail
    rw [show dispatchPacket S.env packet (m.world.withBuffer buffer) = _ from hrun.trans hok]
      at hresult
    obtain ⟨hworld, hphase⟩ := Prod.mk.inj hresult
    have hconn : m'.conn = _ := (congrArg World.conn hworld).trans hafter.conn
    refine ⟨fun e he => ?_, ?_, ?_, ?_⟩
    · rw [hphase] at he
      cases he
    · rw [hworld]
      exact hsound'
    · rw [hconn]
      rfl
    · rw [hconn]
      rfl
  | refuse =>
    rw [Setup.block_refused (fun effects heq => by cases hscript.symm.trans heq)] at haccepted
    cases haccepted
  | wrongStage =>
    rw [Setup.block_refused (fun effects heq => by cases hscript.symm.trans heq)] at haccepted
    cases haccepted

theorem advance (h : Answering S stream m) (hphase : m.phase = .draining)
    (hstream : m.received <+: stream) : Answering S stream (m.advance S.env) := by
  have hreceived := Machine.advance_received S.env m
  have hreplays := h.replays.advance h.refines h.live
  have hrefines : S.Refines (m.advance S.env) := by
    have hstep := Setup.refines_step h.refines .advance
    unfold Machine.step at hstep
    rwa [hphase] at hstep
  by_cases hp : Pending m.conn.buffer
  · obtain ⟨-, hworld, hwaiting⟩ := @Statik.advance_pending S.env m hp
    exact
      { replays := hreplays, refines := hrefines,
        live := (fun e he => by rw [hwaiting] at he; cases he),
        sound := by rw [hworld]; exact h.sound,
        finishes := by
          rw [hreceived, Machine.conn, hworld]
          exact h.finishes }
  · obtain ⟨more, hmore⟩ := hstream
    have hfinishes := h.finishes more hmore
    have hne : m.conn.buffer ++ more ≠ [] := by
      intro hnil
      rw [(List.append_eq_nil_iff.mp hnil).1] at hp
      exact hp Pending.nil
    obtain ⟨⟨a, p', r⟩, htake⟩ := Option.ne_none_iff_exists'.mp (hfinishes.take_ne_none hne)
    obtain ⟨rest, hrest, rfl⟩ := Setup.take_of_append hp htake
    have hsetup := h.refines.agrees.setup
    -- whatever follows the bytes received is what was to follow them
    have hmore' : ∀ {p : Progress}, S.Finishes p (rest ++ more) →
        ∀ more', m.received ++ more' = stream → S.Finishes p (rest ++ more') := by
      intro p hp more' heq
      rwa [List.append_cancel_left (heq.trans hmore.symm)]
    cases hparse : tryParsePacket S.env m.conn with
    | mk result conn =>
      obtain ⟨buffer, hconn⟩ := tryParsePacket_conn S.env m.conn
      rw [hparse] at hconn
      simp only at hconn
      subst hconn
      cases result with
      | error e =>
        rw [Setup.take_failed hsetup hparse] at hrest
        cases hrest
      | ok result =>
        cases result with
        | none =>
          have hworld : (m.advance S.env).world = m.world.withBuffer buffer := by
            rw [Machine.advance, hparse]
            rfl
          have hwaiting : (m.advance S.env).phase = .waiting := by rw [Machine.advance, hparse]
          have hlt : buffer.length < m.conn.buffer.length := by
            rcases tryParsePacket_cases S.env m.conn with ⟨hpending, -⟩ | ⟨e, -, hcall⟩ |
              ⟨f, behind, hbuffer, hcall⟩
            · exact absurd hpending hp
            · rw [hparse] at hcall
              cases hcall
            · have hshorter := parseFrame_length_lt S.env m.conn f behind
              rwa [← hcall, hparse, ← hbuffer] at hshorter
          rw [Setup.take_skipped hsetup hparse hlt] at hrest
          cases hrest
          exact
            { replays := hreplays, refines := hrefines,
              live := (fun e he => by rw [hwaiting] at he; cases he),
              sound := by rw [hworld]; exact h.sound,
              finishes := by
                rw [hreceived, Machine.conn, hworld]
                exact hmore' (hfinishes.of_take htake rfl).2 }
        | some packet =>
          have hresult : ((m.advance S.env).world, (m.advance S.env).phase) =
              settle .draining (dispatchPacket S.env packet (m.world.withBuffer buffer)) := by
            rw [Machine.advance, hparse]
            rfl
          rw [Setup.take_packet hsetup hparse] at hrest
          cases hrest
          obtain ⟨hwritable, hrest⟩ := hfinishes.of_take htake (Setup.block_threshold _ _)
          obtain ⟨hlive, hsound, hprogress, hbuffer⟩ :=
            h.dispatched hrest.not_refused hwritable hresult
          exact
            { replays := hreplays, refines := hrefines, live := hlive, sound := hsound,
              finishes := by
                rw [hreceived, hprogress, hbuffer]
                exact hmore' hrest }

theorem read (h : Answering S stream m) (hwaiting : m.phase = .waiting) {chunk : Bytes}
    (hchunk : chunk ≠ []) : Answering S stream (m.read (.ok chunk)) := by
  have hrefines : S.Refines (m.read (.ok chunk)) := by
    have hstep := Setup.refines_step h.refines (.read (.ok chunk))
    unfold Machine.step at hstep
    rwa [hwaiting] at hstep
  have hreplays := h.replays.read h.live (.ok chunk)
  cases chunk with
  | nil => exact absurd rfl hchunk
  | cons b chunk =>
    refine
      { replays := hreplays, refines := hrefines, live := (fun e he => by cases he),
        sound := h.sound, finishes := fun more hmore => ?_ }
    have hwhole := h.finishes (b :: chunk ++ more) (by rw [← List.append_assoc]; exact hmore)
    rwa [← List.append_assoc] at hwhole

/-- Rounds of the drain loop take nothing from the peer, and enough of them lead to the
`select!`. -/
theorem drains (h : Answering S stream m) (hstream : m.received <+: stream) :
    ∃ k, Answering S stream (m.exec S.env (List.replicate k .advance)) ∧
      (m.exec S.env (List.replicate k .advance)).received = m.received ∧
      (m.exec S.env (List.replicate k .advance)).phase = .waiting := by
  have hrounds : ∀ k, Answering S stream (m.exec S.env (List.replicate k .advance)) ∧
      (m.exec S.env (List.replicate k .advance)).received = m.received := by
    intro k
    induction k with
    | zero => exact ⟨h, rfl⟩
    | succ k ih =>
      obtain ⟨hanswering, hreceived⟩ := ih
      rw [List.replicate_succ', Machine.exec_append]
      generalize m.exec S.env (List.replicate k .advance) = m' at hanswering hreceived
      rw [← hreceived] at hstream
      show Answering S stream (m'.step S.env .advance) ∧ (m'.step S.env .advance).received = _
      unfold Machine.step
      split
      case h_1 hphase _ =>
        exact ⟨hanswering.advance hphase hstream,
          (Machine.advance_received S.env m').trans hreceived⟩
      case h_2 heq => cases heq
      case h_3 heq => cases heq
      case h_4 => exact ⟨hanswering, hreceived⟩
  obtain ⟨k, -, hends⟩ := drain_ends S.env m
  obtain ⟨hanswering, hreceived⟩ := hrounds k
  refine ⟨k, hanswering, hreceived, ?_⟩
  cases hphase : (m.exec S.env (List.replicate k .advance)).phase with
  | draining => exact absurd hphase hends
  | waiting => rfl
  | ended e => exact absurd hphase (hanswering.live e)

/-- The rest of the stream can be read in any chunks, each drained before the next. -/
theorem reads (h : Answering S stream m) (hwaiting : m.phase = .waiting) (chunks : List Bytes)
    (hchunks : ∀ c ∈ chunks, c ≠ []) (hstream : m.received ++ chunks.flatten <+: stream) :
    ∃ inputs : List Input, inputs.filterMap Input.chunk = chunks ∧
      (m.exec S.env inputs).received = m.received ++ chunks.flatten ∧
      (m.exec S.env inputs).phase = .waiting := by
  induction chunks generalizing m with
  | nil => exact ⟨[], rfl, (List.append_nil _).symm, hwaiting⟩
  | cons chunk chunks ih =>
    have hchunk := hchunks chunk List.mem_cons_self
    have hread : m.step S.env (.read (.ok chunk)) = m.read (.ok chunk) := by
      unfold Machine.step
      rw [hwaiting]
    have hreceived : (m.read (.ok chunk)).received = m.received ++ chunk := by
      cases chunk with
      | nil => exact absurd rfl hchunk
      | cons b chunk => rfl
    rw [List.flatten_cons, ← List.append_assoc, ← hreceived] at hstream
    obtain ⟨k, hanswering, hsame, hphase⟩ :=
      (h.read hwaiting hchunk).drains ((List.prefix_append _ _).trans hstream)
    rw [← hsame] at hstream
    obtain ⟨inputs, hinputs, hall, hends⟩ :=
      ih hanswering hphase (fun c hc => hchunks c (List.mem_cons_of_mem chunk hc)) hstream
    refine ⟨.read (.ok chunk) :: (List.replicate k .advance ++ inputs), ?_, ?_, ?_⟩
    · rw [List.filterMap_cons, List.filterMap_append,
        List.filterMap_replicate_of_none rfl, hinputs]
      rfl
    · show ((m.step S.env (.read (.ok chunk))).exec S.env _).received = _
      rw [hread, Machine.exec_append, hall, hsame, hreceived, List.append_assoc]
      rfl
    · show ((m.step S.env (.read (.ok chunk))).exec S.env _).phase = _
      rw [hread, Machine.exec_append, hends]

end Answering

namespace Setup

variable {S : Setup} {messages : List (DecodedC2S × Frame)}

/-- Read in whatever chunks, the stream is answered to its end. -/
theorem Finishes.reached {stream : Bytes} (h : S.Finishes .start stream) (chunks : List Bytes)
    (hflatten : chunks.flatten = stream) (hchunks : ∀ c ∈ chunks, c ≠ []) :
    ∃ inputs : List Input, inputs.filterMap Input.chunk = chunks ∧
      (S.run (fun _ => none) inputs).received = stream ∧
      (S.run (fun _ => none) inputs).phase = .waiting := by
  have hstart := Answering.start h
  obtain ⟨k, hanswering, hnil, hwaiting⟩ := hstart.drains List.nil_prefix
  have hnothing : (Machine.start S.config S.protocol S.address fun _ => none).received = [] := rfl
  rw [hnothing] at hnil
  have hstream : (Machine.exec S.env (.start S.config S.protocol S.address fun _ => none)
      (List.replicate k .advance)).received ++ chunks.flatten <+: stream := by
    rw [hnil, hflatten]
    exact List.prefix_rfl
  obtain ⟨inputs, hinputs, hall, hends⟩ := hanswering.reads hwaiting chunks hchunks hstream
  refine ⟨List.replicate k .advance ++ inputs, ?_, ?_, ?_⟩
  · rw [List.filterMap_append, List.filterMap_replicate_of_none rfl, hinputs]
    rfl
  · rw [run_append, Setup.run, hall, hnil, hflatten]
    rfl
  · rw [run_append, Setup.run, hends]

theorem Conveys.finishes (h : S.Conveys .start messages)
    (haccepted : (S.progressAfter .start (messages.map Prod.fst)).refused = false)
    (hwritable : Writable S.env none (S.answers .start (messages.map Prod.fst)).flatten) :
    S.Finishes .start (streamOf (messages.map Prod.snd)) := by
  have hdrain := drain_conversation h
  exact
    { whole := by rw [hdrain],
      accepted := by rw [hdrain]; exact haccepted,
      writable := by rw [hdrain]; exact hwritable }

/-- A connection that waits after a conversation has answered each packet by its script,
whatever the reads, the keepalives between them and the writes were.  Where no packet is
refused and all answers can be written, the conversation can be read to its end in any
chunks. -/
theorem run_answers (S : Setup) (messages : List (DecodedC2S × Frame))
    (h : S.Conveys .start messages) :
    (∀ fault inputs, (S.run fault inputs).received = streamOf (messages.map Prod.snd) →
      (S.run fault inputs).phase = .waiting →
      driven (S.run fault inputs).history =
          (S.answers .start (messages.map Prod.fst)).flatten ∧
        (S.run fault inputs).conn.progress = S.progressAfter .start (messages.map Prod.fst) ∧
        (S.run fault inputs).conn.buffer = []) ∧
    ((S.progressAfter .start (messages.map Prod.fst)).refused = false →
      Writable S.env none (S.answers .start (messages.map Prod.fst)).flatten →
      ∀ chunks : List Bytes, chunks.flatten = streamOf (messages.map Prod.snd) →
        (∀ c ∈ chunks, c ≠ []) →
        ∃ inputs : List Input, inputs.filterMap Input.chunk = chunks ∧
          (S.run (fun _ => none) inputs).received = streamOf (messages.map Prod.snd) ∧
          (S.run (fun _ => none) inputs).phase = .waiting) :=
  ⟨fun fault inputs hreceived hwaiting =>
    h.answered (Replays.run S fault inputs) hreceived hwaiting,
   fun haccepted hwritable chunks => (h.finishes haccepted hwritable).reached chunks⟩

/-- A handshake for Status and a `Ping`. -/
def pinging : List (DecodedC2S × Frame) :=
  [(.v1_20_1 ⟨.handshake, ⟨763⟩, "a", 25565, .status, ()⟩,
    .of [0, 0xfb, 0x05, 1, 0x61, 0x63, 0xdd, 1] (by decide)),
   (.v1_20_1 ⟨.ping, 5, ()⟩, .of [1, 0, 0, 0, 0, 0, 0, 0, 5] (by decide))]

theorem pinging_conveys : (Setup.bare .v1_20_1 false).Conveys .start pinging :=
  ⟨rfl, ⟨[0, 0xfb, 0x05, 1, 0x61, 0x63, 0xdd, 1], [], rfl, rfl⟩,
   rfl, ⟨[1, 0, 0, 0, 0, 0, 0, 0, 5], [], rfl, rfl⟩, trivial⟩

theorem pinging_answers :
    (∀ fault inputs, ((Setup.bare .v1_20_1 false).run fault inputs).received =
          streamOf (pinging.map Prod.snd) →
      ((Setup.bare .v1_20_1 false).run fault inputs).phase = .waiting →
      driven ((Setup.bare .v1_20_1 false).run fault inputs).history =
          ((Setup.bare .v1_20_1 false).answers .start (pinging.map Prod.fst)).flatten ∧
        ((Setup.bare .v1_20_1 false).run fault inputs).conn.progress =
          (Setup.bare .v1_20_1 false).progressAfter .start (pinging.map Prod.fst) ∧
        ((Setup.bare .v1_20_1 false).run fault inputs).conn.buffer = []) ∧
    (((Setup.bare .v1_20_1 false).progressAfter .start (pinging.map Prod.fst)).refused = false →
      Writable (Setup.bare .v1_20_1 false).env none
        ((Setup.bare .v1_20_1 false).answers .start (pinging.map Prod.fst)).flatten →
      ∀ chunks : List Bytes, chunks.flatten = streamOf (pinging.map Prod.snd) →
        (∀ c ∈ chunks, c ≠ []) →
        ∃ inputs : List Input, inputs.filterMap Input.chunk = chunks ∧
          (bareRun .v1_20_1 false inputs).received = streamOf (pinging.map Prod.snd) ∧
          (bareRun .v1_20_1 false inputs).phase = .waiting) :=
  run_answers (Setup.bare .v1_20_1 false) pinging pinging_conveys

end Setup

end Statik
