import Statik.Server.Draining
import Statik.Server.Handler

/-!
# How a connection ends

`Handler::run` takes an error that is an `UnexpectedEof` for the peer closing the
stream.  So it is from the socket, and from a frame that ends too early it is not.
-/

namespace Statik

open Wire

/-! ### Errors of the handlers -/

/-- The socket reported the end of the stream at one of the writes from `w` to `w'`. -/
def EofBetween (w w' : World) : Prop :=
  ∃ i fault, w.socket.writes ≤ i ∧ i < w'.socket.writes ∧ w.socket.fault i = some fault ∧
    fault.kind = .unexpectedEof

/-- The same socket, some writes later. -/
structure Later (w w' : World) : Prop where
  writes : w.socket.writes ≤ w'.socket.writes
  fault : w'.socket.fault = w.socket.fault

theorem Textual.not_eof {e : Error} (h : Textual e) : e.isUnexpectedEof = false := by
  rw [Error.isUnexpectedEof, h.noIo]
  rfl

theorem EofBetween.after {w w₁ w' : World} (h : EofBetween w₁ w') (hw : Later w w₁) :
    EofBetween w w' := by
  obtain ⟨i, fault, hle, hlt, hfault, hkind⟩ := h
  rw [hw.fault] at hfault
  exact ⟨i, fault, Nat.le_trans hw.writes hle, hlt, hfault, hkind⟩

section

variable {env : Env} {w w' : World} {e : Error}

theorem writePacket_later {packet : S2CPacket} (h : writePacket env packet w = .ok () w') :
    Later w w' := by
  rcases writePacket_cases env w packet with ⟨bytes, -, -, hok⟩ | ⟨e, socket, herr, -⟩
  · rw [hok] at h
    cases h
    exact { writes := Nat.le_succ _, fault := rfl }
  · rw [herr] at h
    cases h

/-- Encoding and compressing report texts. -/
theorem writePacket_eof {packet : S2CPacket} (h : writePacket env packet w = .error e w')
    (heof : e.isUnexpectedEof = true) : EofBetween w w' := by
  rw [writePacket] at h
  cases hout : outgoing env w.conn.compressionThreshold packet with
  | error e' =>
    rw [hout] at h
    cases h
    rw [(outgoing_fails env _ packet e hout).not_eof] at heof
    cases heof
  | ok bytes =>
    rw [hout] at h
    cases hfault : w.socket.fault w.socket.writes with
    | none =>
      simp only [Socket.write, hfault] at h
      cases h
    | some fault =>
      simp only [Socket.write, hfault] at h
      cases h
      have hkind : fault.kind = .unexpectedEof := by
        simpa [Error.isUnexpectedEof, Error.downcastIo] using heof
      exact ⟨w.socket.writes, fault, Nat.le_refl _, Nat.lt_succ_self _, hfault, hkind⟩

theorem performAll_eof {effects : List Effect} (h : performAll env effects w = .error e w')
    (heof : e.isUnexpectedEof = true) : EofBetween w w' := by
  induction effects generalizing w with
  | nil => cases h
  | cons effect effects ih =>
    cases effect with
    | send packet =>
      cases hwrite : writePacket env packet w with
      | ok u w₁ =>
        rw [performAll_cons_ok (show perform env (.send packet) w = _ from hwrite)] at h
        exact (ih h).after (writePacket_later hwrite)
      | error e' w₁ =>
        rw [performAll_cons_error (show perform env (.send packet) w = _ from hwrite)] at h
        cases h
        exact writePacket_eof hwrite heof
    | enter state =>
      rw [performAll_cons_ok (show perform env (.enter state) w = _ from rfl)] at h
      exact (ih h).after { writes := Nat.le_refl _, fault := rfl }
    | compress threshold =>
      rw [performAll_cons_ok (show perform env (.compress threshold) w = _ from rfl)] at h
      exact (ih h).after { writes := Nat.le_refl _, fault := rfl }

end

/-- What the handlers refuse they refuse with a text. -/
theorem acceptHandshake_refuses {env : Env} {w : World} {version : BitVec 32}
    {intent : ClientIntent}
    (h : ∀ effects, (w.conn.setup env).handshake version intent ≠ .run effects) :
    ∃ e, e.downcastIo = none ∧ acceptHandshake version intent w = .error e w := by
  by_cases hversion : asUsize version = w.conn.protocol.protocolVersion
  · have hrun : acceptHandshake version intent w =
        (do setState (← ofResult (intentToState intent)) : Handler Unit) w := by
      show (if _ then _ else _ : Handler Unit) w = _
      rw [if_pos hversion]
    cases intent with
    | transfer => exact ⟨_, rfl, hrun⟩
    | _ => exact absurd (if_pos hversion) (h _)
  · refine ⟨versionMismatch w.conn.protocol version, rfl, ?_⟩
    show (if _ then _ else _ : Handler Unit) w = _
    rw [if_neg hversion]
    rfl

theorem dispatchPacket_refuses {env : Env} {w : World} {packet : DecodedC2S}
    (h : ∀ effects, (w.conn.setup env).script w.conn.state packet ≠ .run effects) :
    ∃ e, e.downcastIo = none ∧
      dispatchPacket env packet w = .error e (w.log (.received packet)) := by
  have hlogin : ∀ {name : String} {protocol : ProtocolKind} {then_ : List Effect},
      ¬ ∀ effects, (w.conn.setup env).loginScript name protocol then_ ≠ .run effects := by
    intro name protocol then_ hno
    rw [Setup.loginScript] at hno
    by_cases hvalid : isValidUsername name = true
    · rw [if_pos hvalid] at hno
      exact hno _ rfl
    · rw [if_neg hvalid] at hno
      exact hno _ rfl
  rw [dispatchPacket_eq]
  cases hstate : w.conn.state with
  | handshake =>
    rw [hstate] at h
    cases packet with
    | v1_20_1 p =>
      obtain ⟨v, x⟩ := p
      cases v with
      | handshake => exact acceptHandshake_refuses (w := w.log _) h
      | _ => exact ⟨_, rfl, rfl⟩
    | v1_21_1 p =>
      obtain ⟨v, x⟩ := p
      cases v with
      | handshake => exact acceptHandshake_refuses (w := w.log _) h
      | _ => exact ⟨_, rfl, rfl⟩
  | status =>
    rw [hstate] at h
    cases packet with
    | v1_20_1 p =>
      obtain ⟨v, x⟩ := p
      cases v with
      | statusRequest => exact absurd rfl (h _)
      | ping => exact absurd rfl (h _)
      | _ => exact ⟨_, rfl, rfl⟩
    | v1_21_1 p =>
      obtain ⟨v, x⟩ := p
      cases v with
      | statusRequest => exact absurd rfl (h _)
      | ping => exact absurd rfl (h _)
      | _ => exact ⟨_, rfl, rfl⟩
  | login =>
    rw [hstate] at h
    cases packet with
    | v1_20_1 p =>
      obtain ⟨v, x⟩ := p
      cases v with
      | loginStart => exact absurd h hlogin
      | _ => exact ⟨_, rfl, rfl⟩
    | v1_21_1 p =>
      obtain ⟨v, x⟩ := p
      cases v with
      | hello => exact absurd h hlogin
      | loginAcknowledged => exact absurd rfl (h _)
      | _ => exact ⟨_, rfl, rfl⟩
  | configuration =>
    rw [hstate] at h
    cases packet with
    | v1_20_1 p => exact ⟨_, rfl, rfl⟩
    | v1_21_1 p =>
      obtain ⟨v, x⟩ := p
      cases v with
      | finishConfigurationAck => exact absurd rfl (h _)
      | _ => exact absurd rfl (h _)
  | play =>
    rw [hstate] at h
    exact absurd rfl (h _)

theorem dispatchPacket_eof {env : Env} {packet : DecodedC2S} {w w' : World} {e : Error}
    (h : dispatchPacket env packet w = .error e w') (heof : e.isUnexpectedEof = true) :
    EofBetween w w' := by
  by_cases hrun : ∀ effects, (w.conn.setup env).script w.conn.state packet ≠ .run effects
  · obtain ⟨e', htext, herr⟩ := dispatchPacket_refuses hrun
    rw [herr] at h
    cases h
    rw [Error.isUnexpectedEof, htext] at heof
    cases heof
  · simp only [not_forall, not_not] at hrun
    obtain ⟨effects, heffects⟩ := hrun
    have hdispatch := dispatchPacket_run env w packet
    rw [heffects] at hdispatch
    rw [hdispatch] at h
    exact (performAll_eof h heof).after { writes := Nat.le_refl _, fault := rfl }

/-! ### Errors of the connection loop -/

/-- A packet is decoded from the body of the frame. -/
def Decodes (env : Env) (self : Connection) (body : Bytes) : Prop :=
  ∃ data packet rest, bodyBytes env.flate2 self.compressionThreshold body = .ok (some data) ∧
    DecodedC2S.decode env.serde self.protocol self.state data = .ok (packet, rest)

/-- The body of the frame ends too early: in its Data Length, or before the packet
does. -/
def EndsEarly (env : Env) (self : Connection) (body : Bytes) : Prop :=
  bodyBytes env.flate2 self.compressionThreshold body = .ok none ∨
  ∃ data e, bodyBytes env.flate2 self.compressionThreshold body = .ok (some data) ∧
    DecodedC2S.decode env.serde self.protocol self.state data = .error e ∧
    e.isUnexpectedEof = true

theorem EndsEarly.not_decodes {env : Env} {self : Connection} {body : Bytes}
    (h : EndsEarly env self body) : ¬ Decodes env self body := by
  rintro ⟨data, packet, rest, hbody, hdecode⟩
  rcases h with hnone | ⟨data', e, hbody', hdecode', -⟩
  · rw [hbody] at hnone
    cases hnone
  · cases hbody.symm.trans hbody'
    rw [hdecode] at hdecode'
    cases hdecode'

theorem peekHeader_not_eof {buffer : Bytes} {e : Error} (h : peekHeader buffer = .error e) :
    e.isUnexpectedEof = false := by
  rw [peekHeader] at h
  cases hdecode : VarInt.decode buffer with
  | error e' =>
    rw [hdecode] at h
    simp only at h
    by_cases heof : e'.isUnexpectedEof = true
    · rw [if_pos heof] at h
      cases h
    · rw [if_neg heof] at h
      cases h
      simpa using heof
  | ok r =>
    rw [hdecode] at h
    simp only at h
    split at h
    · split at h
      · split at h <;> cases h
      · cases h
        rfl
    · cases h
      rfl

theorem bodyBytes_not_eof {flate2 : Flate2} {threshold : Option (BitVec 32)} {body : Bytes}
    {e : Error} (h : bodyBytes flate2 threshold body = .error e) : e.isUnexpectedEof = false := by
  cases threshold with
  | none => cases h
  | some threshold =>
    rw [bodyBytes] at h
    cases hdecode : VarInt.decode body with
    | error e' =>
      rw [hdecode] at h
      simp only at h
      by_cases heof : e'.isUnexpectedEof = true
      · rw [if_pos heof] at h
        cases h
      · rw [if_neg heof] at h
        cases h
        simpa using heof
    | ok r =>
      rw [hdecode] at h
      simp only at h
      split at h
      · cases h
      · split at h
        · split at h
          · cases hread : flate2.readExact (asUsize r.1.val) r.2 with
            | ok data =>
              rw [hread] at h
              cases h
            | error e' =>
              rw [hread] at h
              cases h
              rw [Flate2.readExact] at hread
              split at hread <;> cases hread
              rfl
          · cases h
            rfl
        · cases h
          rfl

section

variable {env : Env} {self : Connection}

/-- `try_parse_packet` reports the end of the input where a frame ends too early. -/
theorem tryParsePacket_eof {e : Error} (h : (tryParsePacket env self).1 = .error e)
    (heof : e.isUnexpectedEof = true) :
    self.state.skipsUndecodable = false ∧ ∃ (f : Frame) (rest : Bytes),
      self.buffer = f.bytes ++ rest ∧ EndsEarly env self f.body := by
  rcases peekHeader_cases self.buffer with hp | ⟨e', -, hpeek⟩ | ⟨f, rest, hbuffer⟩
  · rw [tryParsePacket, peekHeader_pending hp] at h
    cases h
  · rw [tryParsePacket, hpeek] at h
    cases h
    rw [peekHeader_not_eof hpeek] at heof
    cases heof
  · rw [tryParsePacket_frame hbuffer, parseFrame] at h
    cases hbody : bodyBytes env.flate2 self.compressionThreshold f.body with
    | error e' =>
      rw [hbody] at h
      cases h
      rw [bodyBytes_not_eof hbody] at heof
      cases heof
    | ok data =>
      cases data with
      | none =>
        rw [hbody] at h
        cases h
      | some data =>
        cases hdecode : DecodedC2S.decode env.serde self.protocol self.state data with
        | ok r =>
          simp only [hbody, hdecode] at h
          cases h
        | error e' =>
          simp only [hbody, hdecode] at h
          by_cases hskips : self.state.skipsUndecodable = true
          · rw [if_pos hskips] at h
            cases h
          · rw [if_neg hskips] at h
            cases h
            exact ⟨by simpa using hskips, f, rest, hbuffer, .inr ⟨data, e, hbody, hdecode, heof⟩⟩

/-- Where undecodable frames are fatal, one that does not decode is reported as an
error other than the end of the input, or it ends too early. -/
theorem tryParsePacket_undecodable {f : Frame} {rest : Bytes}
    (hstate : self.state.skipsUndecodable = false) (hbuffer : self.buffer = f.bytes ++ rest)
    (hdecodes : ¬ Decodes env self f.body) :
    (∃ e, (tryParsePacket env self).1 = .error e ∧ e.isUnexpectedEof = false) ∨
      EndsEarly env self f.body := by
  rw [tryParsePacket_frame hbuffer, parseFrame]
  cases hbody : bodyBytes env.flate2 self.compressionThreshold f.body with
  | error e => exact .inl ⟨e, rfl, bodyBytes_not_eof hbody⟩
  | ok data =>
    cases data with
    | none => exact .inr (.inl hbody)
    | some data =>
      cases hdecode : DecodedC2S.decode env.serde self.protocol self.state data with
      | ok r => exact absurd ⟨data, r.1, r.2, hbody, hdecode⟩ hdecodes
      | error e =>
        by_cases heof : e.isUnexpectedEof = true
        · exact .inr (.inr ⟨data, e, hbody, hdecode, heof⟩)
        · simp only [hdecode, hstate]
          exact .inl ⟨e, rfl, by simpa using heof⟩

/-- A frame that ends too early is reported as the end of the input, or as one of
which more is to come. -/
theorem tryParsePacket_endsEarly {f : Frame} {rest : Bytes}
    (hstate : self.state.skipsUndecodable = false) (hbuffer : self.buffer = f.bytes ++ rest)
    (h : EndsEarly env self f.body) :
    (tryParsePacket env self).1 = .ok none ∨
      ∃ e, (tryParsePacket env self).1 = .error e ∧ e.isUnexpectedEof = true := by
  rw [tryParsePacket_frame hbuffer, parseFrame]
  rcases h with hnone | ⟨data, e, hbody, hdecode, heof⟩
  · rw [hnone]
    exact .inl rfl
  · simp only [hbody, hdecode, hstate]
    exact .inr ⟨e, rfl, heof⟩

end

namespace Machine

variable {env : Env} {m : Machine} {e : Error}

theorem step_advance (h : m.phase = .draining) : m.step env .advance = m.advance env := by
  unfold step
  rw [h]

/-- Where a round of the drain loop returns with the end of the input. -/
theorem advance_eof (h : (m.advance env).phase = .ended e) (heof : e.isUnexpectedEof = true) :
    (m.state.skipsUndecodable = false ∧ ∃ (f : Frame) (rest : Bytes),
      m.conn.buffer = f.bytes ++ rest ∧ EndsEarly env m.conn f.body) ∨
    EofBetween m.world (m.advance env).world := by
  rw [advance] at h ⊢
  cases hparse : tryParsePacket env m.conn with
  | mk r conn =>
    rw [hparse] at h
    cases r with
    | error e' =>
      cases h
      exact .inl (tryParsePacket_eof (by rw [hparse]) heof)
    | ok r =>
      cases r with
      | none => cases h
      | some packet =>
        simp only at h ⊢
        cases hdispatch : dispatchPacket env packet { m.world with conn := conn } with
        | ok u w' =>
          rw [hdispatch] at h
          cases h
        | error e' w' =>
          rw [hdispatch] at h
          cases h
          have hsocket := dispatchPacket_eof hdispatch heof
          exact .inr hsocket

theorem tick_eof (hwaiting : m.phase = .waiting) (h : (m.tick env).phase = .ended e)
    (heof : e.isUnexpectedEof = true) : EofBetween m.world (m.tick env).world := by
  rw [tick] at h ⊢
  by_cases hplay : m.state = .play
  · rw [if_pos hplay] at h ⊢
    cases hwrite : writePacket env (keepAlive m.conn.protocol m.nextKeepaliveId) m.world with
    | ok u w' =>
      rw [hwrite] at h
      cases h
    | error e' w' =>
      rw [hwrite] at h
      cases h
      exact writePacket_eof hwrite heof
  · rw [if_neg hplay, hwaiting] at h
    cases h

theorem read_eof {result : Except ErrorKind Bytes} (h : (m.read result).phase = .ended e)
    (heof : e.isUnexpectedEof = true) : result = .ok [] ∨ result = .error .unexpectedEof := by
  cases result with
  | error kind =>
    cases h
    have hkind : kind = .unexpectedEof := by
      simpa [Error.isUnexpectedEof, Error.downcastIo] using heof
    exact .inr (by rw [hkind])
  | ok bytes =>
    cases bytes with
    | nil => exact .inl rfl
    | cons b bytes => cases h

/-- The loop returns with the end of the input where the peer closes the stream, or a
frame ends too early. -/
theorem step_eof {input : Input} (hlive : m.Live) (h : (m.step env input).phase = .ended e)
    (heof : e.isUnexpectedEof = true) :
    (input = .advance ∧ m.phase = .draining ∧ m.state.skipsUndecodable = false ∧
      ∃ (f : Frame) (rest : Bytes), m.conn.buffer = f.bytes ++ rest ∧
        EndsEarly env m.conn f.body) ∨
    input = .read (.ok []) ∨ input = .read (.error .unexpectedEof) ∨
      EofBetween m.world (m.step env input).world := by
  unfold step at h ⊢
  split at h
  case h_1 hphase =>
    rcases advance_eof h heof with ⟨hstate, hframe⟩ | hsocket
    · exact .inl ⟨rfl, hphase, hstate, hframe⟩
    · exact .inr (.inr (.inr hsocket))
  case h_2 result hphase =>
    rcases read_eof h heof with hend | herror
    · exact .inr (.inl (by rw [hend]))
    · exact .inr (.inr (.inl (by rw [herror])))
  case h_3 hphase => exact .inr (.inr (.inr (tick_eof hphase h heof)))
  case h_4 => exact absurd h (hlive e)

end Machine

/-! ### Runs of a handler -/

namespace HandlerRun

/-- The event lets `run` return cleanly: the peer closes the stream, as a read or a
write reports, or the shutdown signal comes. -/
def Concludes (env : Env) (h : HandlerRun) : HandlerEvent → Prop
  | .connection input =>
    input = .read (.ok []) ∨ input = .read (.error .unexpectedEof) ∨
      EofBetween h.machine.world (h.machine.step env input).world
  | .shutdown received _ _ => received ≠ .closed

/-- What `run` returns after the event says how the connection ended: cleanly only for
a reason, and with an error after a frame that does not decode where that is fatal. -/
structure Accounts (env : Env) (h : HandlerRun) (event : HandlerEvent) : Prop where
  clean : h.outcome = none → (h.step env event).outcome = some (.ok ()) → h.Concludes env event
  fatal : ∀ (f : Frame) (rest : Bytes), h.outcome = none → event = .connection .advance →
    h.machine.phase = .draining → h.machine.state.skipsUndecodable = false →
    h.machine.conn.buffer = f.bytes ++ rest → ¬ Decodes env h.machine.conn f.body →
    ∃ e, (h.step env event).outcome = some (.error e)

/-- The next call of `try_parse_packet` is in Handshake, Status or Login and meets a
frame that ends too early. -/
def RunsShort (env : Env) (h : HandlerRun) : Prop :=
  h.outcome = none ∧ h.machine.phase = .draining ∧
    h.machine.state.skipsUndecodable = false ∧ ∃ (f : Frame) (rest : Bytes),
      h.machine.conn.buffer = f.bytes ++ rest ∧ EndsEarly env h.machine.conn f.body

variable {env : Env} {h : HandlerRun}

/-- Away from frames that end too early a step accounts for its outcome. -/
theorem Waits.accounts (hwaits : h.Waits) {event : HandlerEvent}
    (hshort : event = .connection .advance → ¬ h.RunsShort env) : h.Accounts env event := by
  constructor
  · intro hnone hok
    cases event with
    | connection input =>
      rcases h.step_connection input hnone with ⟨e, hended, hstep⟩ | ⟨-, hstep⟩
      · rw [hstep] at hok
        have heof : e.isUnexpectedEof = true := by
          by_contra heof
          simp only [connectionEnded, if_neg heof] at hok
          cases hok
        rcases Machine.step_eof (hwaits.live hnone) hended heof with
          ⟨rfl, hphase, hstate, hframe⟩ | hpeer
        · exact absurd ⟨hnone, hphase, hstate, hframe⟩ (hshort rfl)
        · exact hpeer
      · rw [hstep] at hok
        rw [hnone] at hok
        cases hok
    | shutdown received next cut =>
      rcases h.step_shutdown hnone (hwaits.flag hnone) with hsame | ⟨hsignal, -, -⟩ |
        ⟨-, -, hnone', -⟩
      · rw [hsame, hnone] at hok
        cases hok
      · exact hsignal
      · rw [hnone'] at hok
        cases hok
  · intro f rest hnone hadvance hphase hstate hbuffer hdecodes
    subst hadvance
    rcases tryParsePacket_undecodable hstate hbuffer hdecodes with ⟨e, he, heof⟩ | hearly
    · have hended : (h.machine.step env .advance).phase = .ended e := by
        rw [Machine.step_advance hphase]
        exact (advance_fails env h.machine he).1
      rcases h.step_connection .advance hnone with ⟨e', hended', hstep⟩ | ⟨hlive, -⟩
      · rw [hended] at hended'
        cases hended'
        refine ⟨e, ?_⟩
        rw [hstep, connectionEnded, if_neg (by rw [heof]; decide)]
      · exact absurd hended (hlive e)
    · exact absurd ⟨hnone, hphase, hstate, f, rest, hbuffer, hearly⟩ (hshort rfl)

theorem RunsShort.not_accounts (hshort : h.RunsShort env) :
    ¬ h.Accounts env (.connection .advance) := by
  obtain ⟨hnone, hphase, hstate, f, rest, hbuffer, hearly⟩ := hshort
  intro haccounts
  obtain ⟨e, he⟩ := haccounts.fatal f rest hnone rfl hphase hstate hbuffer hearly.not_decodes
  rcases h.step_connection .advance hnone with ⟨e', hended, hstep⟩ | ⟨-, hstep⟩
  · rw [Machine.step_advance hphase] at hended
    rcases tryParsePacket_endsEarly hstate hbuffer hearly with hparse | ⟨eof, hparse, heof⟩
    · rw [(advance_phase env h.machine).mpr hparse] at hended
      cases hended
    · rw [(advance_fails env h.machine hparse).1] at hended
      cases hended
      rw [hstep, connectionEnded, if_pos heof] at he
      cases he
  · rw [hstep, hnone] at he
    cases he

end HandlerRun

namespace Setup

/-- `run` accounts for the end of the connection in every step of a run if and only if
no call of `try_parse_packet` in Handshake, Status or Login meets a frame that ends too
early. -/
theorem handle_accounts_iff (S : Setup) (fault : Nat → Option Fault)
    (events : List HandlerEvent) :
    (∀ pre event, pre ++ [event] <+: events → (S.handle fault pre).Accounts S.env event) ↔
      ∀ pre, pre ++ [.connection .advance] <+: events →
        ¬ (S.handle fault pre).RunsShort S.env := by
  constructor
  · intro h pre hpre hshort
    exact hshort.not_accounts (h pre _ hpre)
  · intro h pre event hpre
    refine (S.handle_waits fault pre).accounts fun hadvance => ?_
    subst hadvance
    exact h pre hpre

/-- A frame of one byte, the id of the handshake without its fields. -/
def bareHandshake : List HandlerEvent :=
  [.connection .advance, .connection (.read (.ok [1, 0]))]

theorem bareHandshake_not_accounts :
    ¬ ∀ pre event, pre ++ [event] <+: bareHandshake ++ [.connection .advance] →
      ((Setup.bare .v1_20_1 false).handle (fun _ => none) pre).Accounts
        (Setup.bare .v1_20_1 false).env event := by
  intro h
  have hrun : ((Setup.bare .v1_20_1 false).handle (fun _ => none) bareHandshake).outcome.isNone =
      true ∧ (((Setup.bare .v1_20_1 false).handle (fun _ => none)
        (bareHandshake ++ [.connection .advance])).outcome.any Except.toBool) = true := by
    decide +kernel
  have hnone := Option.isNone_iff_eq_none.mp hrun.1
  obtain ⟨r, hr, hok⟩ := (Option.any_eq_true _ _).mp hrun.2
  rw [handle_snoc] at hr
  cases r with
  | error e => cases hok
  | ok u =>
    have hconcludes := (h bareHandshake _ List.prefix_rfl).clean hnone hr
    rcases hconcludes with hread | hread | ⟨i, fault, -, -, hfault, -⟩
    · cases hread
    · cases hread
    · have hsound : ((Setup.bare .v1_20_1 false).handle (fun _ => none)
          bareHandshake).machine.world.socket.fault i = none := by rfl
      rw [hsound] at hfault
      cases hfault

end Setup

end Statik
