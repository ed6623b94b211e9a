import Statik.Server.Phases

/-!
# Logging in

What a connection writes while it logs in, in which order, and what it takes to
leave Login.
-/

namespace Statik

open Wire

/-! ### Kinds of packets and actions -/

/-- A login packet with a name that is accepted. -/
def DecodedC2S.acceptsLogin (packet : DecodedC2S) : Bool :=
  packet.loginName.any isValidUsername

/-- A login packet with a name that is rejected. -/
def DecodedC2S.rejectsLogin (packet : DecodedC2S) : Bool :=
  packet.loginName.any fun name => !isValidUsername name

/-- A packet Login answers: `LoginStart`, `Hello` or `LoginAcknowledged`. -/
def DecodedC2S.drivesLogin (packet : DecodedC2S) : Bool :=
  packet.loginName.isSome || packet.isLoginAcknowledged

namespace S2CPacket

def isLoginSuccess : S2CPacket → Bool
  | .v1_20_1 p => p.1 == .loginSuccess
  | .v1_21_1 p => p.1 == .loginSuccess

def isSetCompression : S2CPacket → Bool
  | .v1_20_1 p => p.1 == .setCompression
  | .v1_21_1 p => p.1 == .setCompression

/-- `S2CDisconnect` of Login. -/
def isLoginDisconnect : S2CPacket → Bool
  | .v1_20_1 p => p.1 == .disconnect
  | .v1_21_1 p => p.1 == .disconnect

end S2CPacket

def Effect.sends (kind : S2CPacket → Bool) : Effect → Bool
  | .send packet => kind packet
  | _ => false

/-- A packet of the kind is passed to `write_packet`. -/
def Action.writes (kind : S2CPacket → Bool) (action : Action) : Bool :=
  action.effect.any fun effect => effect.sends kind

/-- A packet of the kind is handed to the handlers. -/
def Action.dispatches (kind : DecodedC2S → Bool) : Action → Bool
  | .received packet => kind packet
  | _ => false

theorem loginPacket_state {packet : S2CPacket}
    (h : packet.isLoginSuccess = true ∨ packet.isSetCompression = true ∨
      packet.isLoginDisconnect = true) : packet.state = .login := by
  cases packet with
  | v1_20_1 p =>
    obtain ⟨v, x⟩ := p
    cases v <;> first | rfl | (rcases h with h | h | h <;> cases h)
  | v1_21_1 p =>
    obtain ⟨v, x⟩ := p
    cases v <;> first | rfl | (rcases h with h | h | h <;> cases h)

namespace Setup

variable {S : Setup}

theorem setCompression_kind (threshold : BitVec 32) (protocol : ProtocolKind) :
    (setCompression threshold protocol).isSetCompression = true ∧
      (setCompression threshold protocol).isLoginSuccess = false ∧
      (setCompression threshold protocol).isLoginDisconnect = false := by
  cases protocol <;> exact ⟨rfl, rfl, rfl⟩

theorem loginSuccess_kind (name : String) (protocol : ProtocolKind) :
    (loginSuccess name protocol).isSetCompression = false ∧
      (loginSuccess name protocol).isLoginSuccess = true ∧
      (loginSuccess name protocol).isLoginDisconnect = false := by
  cases protocol <;> exact ⟨rfl, rfl, rfl⟩

theorem disconnect_kind (protocol : ProtocolKind) :
    (disconnect protocol).isSetCompression = false ∧
      (disconnect protocol).isLoginSuccess = false ∧
      (disconnect protocol).isLoginDisconnect = true := by
  cases protocol <;> exact ⟨rfl, rfl, rfl⟩

/-! ### What a script writes in Login -/

theorem mem_acceptance {name : String} {protocol : ProtocolKind} {packet : S2CPacket}
    (h : .send packet ∈ S.acceptance name protocol) :
    packet = setCompression S.config.compression.threshold protocol ∨
      packet = loginSuccess name protocol := by
  rw [acceptance] at h
  split at h
  · simpa using h
  · exact .inr (by simpa using h)

/-- A Login packet of a script rejects a login or accepts one. -/
theorem Scripted.login_send {state : State} {packet : DecodedC2S} {effects : List Effect}
    {answer : S2CPacket} (h : Scripted S state packet effects) (hmem : .send answer ∈ effects)
    (hstate : answer.state = .login) :
    (packet.rejectsLogin = true ∧ answer = disconnect S.protocol ∧
      effects = [.send (disconnect S.protocol)]) ∨
    ∃ name rest, packet.loginName = some name ∧ isValidUsername name = true ∧
      effects = S.acceptance name S.protocol ++ rest ∧
      .send answer ∈ S.acceptance name S.protocol := by
  have hburst : ∀ (packets : List S2CPacket) (next : State),
      (∀ q ∈ packets, q.state ≠ .login) → .send answer ∉ entering next packets := by
    intro packets next hne hin
    rcases List.mem_cons.mp hin with heq | hsend
    · cases heq
    · obtain ⟨q, hq, hqa⟩ := List.mem_map.mp hsend
      cases hqa
      exact hne answer hq hstate
  have hplay : ∀ protocol, ∀ q ∈ playBurst S.env S.config protocol, q.state ≠ .login := by
    intro protocol q hq
    rw [(playBurst_inPhase _ _ _ q hq).2]
    decide
  have hconfiguration : ∀ q ∈ configurationBurst S.env, q.state ≠ .login := by
    intro q hq
    rw [(configurationBurst_inPhase _ q hq).2]
    decide
  cases h with
  | handshake _ => cases List.mem_singleton.mp hmem
  | reply _ hanswer =>
    cases List.mem_singleton.mp hmem
    rw [hanswer] at hstate
    cases hstate
  | rejected hname hinvalid =>
    cases List.mem_singleton.mp hmem
    refine .inl ⟨?_, rfl, rfl⟩
    rw [DecodedC2S.rejectsLogin, hname, Option.any_some, hinvalid]
    rfl
  | @joined _ name hprotocol hname hvalid =>
    refine .inr ⟨name, _, hname, hvalid, by rw [hprotocol], ?_⟩
    rw [hprotocol]
    exact (List.mem_append.mp hmem).resolve_right (hburst _ _ (hplay _))
  | @accepted _ name hprotocol hname hvalid =>
    refine .inr ⟨name, [], hname, hvalid, by rw [hprotocol, List.append_nil], ?_⟩
    rw [hprotocol]
    exact hmem
  | acknowledged _ _ => exact absurd hmem (hburst _ _ hconfiguration)
  | finished _ => exact absurd hmem (hburst _ _ (hplay _))
  | ignored _ => cases hmem

/-! ### The packets Login answers -/

theorem script_accepts {packet : DecodedC2S} (hprotocol : packet.protocol = S.protocol)
    (h : packet.acceptsLogin = true) :
    ∃ name rest, S.script .login packet = .run (S.acceptance name S.protocol ++ rest) ∧
      ∀ q, .send q ∈ rest → q.state = .play := by
  obtain ⟨name, hname, hvalid⟩ := (Option.any_eq_true _ _).mp h
  cases packet with
  | v1_20_1 p =>
    obtain ⟨v, x⟩ := p
    cases v with
    | loginStart =>
      cases hname
      refine ⟨x.1, entering .play (playBurst S.env S.config .v1_20_1), ?_, fun q hq => ?_⟩
      · rw [← hprotocol]
        exact if_pos hvalid
      · simp only [entering, List.mem_cons, reduceCtorEq, false_or] at hq
        obtain ⟨q', hq', heq⟩ := List.mem_map.mp hq
        cases heq
        exact (playBurst_inPhase _ _ _ q hq').2
    | _ => cases hname
  | v1_21_1 p =>
    obtain ⟨v, x⟩ := p
    cases v with
    | hello =>
      cases hname
      refine ⟨x.1, [], ?_, fun q hq => absurd hq List.not_mem_nil⟩
      rw [← hprotocol]
      exact if_pos hvalid
    | _ => cases hname

theorem script_rejects {packet : DecodedC2S} (hprotocol : packet.protocol = S.protocol)
    (h : packet.rejectsLogin = true) :
    S.script .login packet = .run [.send (disconnect S.protocol)] := by
  obtain ⟨name, hname, hinvalid⟩ := (Option.any_eq_true _ _).mp h
  have hinvalid : ¬ isValidUsername name = true := by simpa using hinvalid
  cases packet with
  | v1_20_1 p =>
    obtain ⟨v, x⟩ := p
    cases v with
    | loginStart =>
      cases hname
      rw [← hprotocol]
      exact if_neg hinvalid
    | _ => cases hname
  | v1_21_1 p =>
    obtain ⟨v, x⟩ := p
    cases v with
    | hello =>
      cases hname
      rw [← hprotocol]
      exact if_neg hinvalid
    | _ => cases hname

theorem script_acknowledged {packet : DecodedC2S} (h : packet.isLoginAcknowledged = true) :
    S.script .login packet = .run (entering .configuration (configurationBurst S.env)) := by
  cases packet with
  | v1_20_1 p => cases h
  | v1_21_1 p =>
    obtain ⟨v, x⟩ := p
    cases v with
    | loginAcknowledged => rfl
    | _ => cases h

theorem acknowledged_state {packet : DecodedC2S} (h : packet.isLoginAcknowledged = true) :
    packet.state = .login := by
  cases packet with
  | v1_20_1 p => cases h
  | v1_21_1 p =>
    obtain ⟨v, x⟩ := p
    cases v with
    | loginAcknowledged => rfl
    | _ => cases h

theorem loginName_acknowledged {packet : DecodedC2S} (h : packet.isLoginAcknowledged = true) :
    packet.loginName = none := by
  cases packet with
  | v1_20_1 p => cases h
  | v1_21_1 p =>
    obtain ⟨v, x⟩ := p
    cases v with
    | loginAcknowledged => rfl
    | _ => cases h

theorem acceptsLogin_state {packet : DecodedC2S} (h : packet.acceptsLogin = true) :
    packet.state = .login := by
  obtain ⟨name, hname, -⟩ := (Option.any_eq_true _ _).mp h
  exact loginName_state hname

theorem rejectsLogin_state {packet : DecodedC2S} (h : packet.rejectsLogin = true) :
    packet.state = .login := by
  obtain ⟨name, hname, -⟩ := (Option.any_eq_true _ _).mp h
  exact loginName_state hname

/-- The acceptance ends with the success packet. -/
theorem acceptance_success (S : Setup) (name : String) (protocol : ProtocolKind) :
    ∃ mid, S.acceptance name protocol = mid ++ [.send (loginSuccess name protocol)] := by
  rw [acceptance]
  split
  · exact ⟨[_, _], rfl⟩
  · exact ⟨[], rfl⟩

/-! ### No state after Login without a success packet -/

/-- A login was accepted, and the success packet was written in reply. -/
def LoggedIn (history : List Action) : Prop :=
  ∃ before packet mid success after,
    history = before ++ .received packet :: (mid ++ .did (.send success) :: after) ∧
    packet.acceptsLogin = true ∧ success.isLoginSuccess = true ∧ ∀ p, .received p ∉ mid

theorem LoggedIn.append {history : List Action} (h : LoggedIn history) (later : List Action) :
    LoggedIn (history ++ later) := by
  obtain ⟨before, packet, mid, success, after, rfl, haccepts, hsuccess, hmid⟩ := h
  refine ⟨before, packet, mid, success, after ++ later, ?_, haccepts, hsuccess, hmid⟩
  simp only [List.append_assoc, List.cons_append]

theorem loggedIn_acceptance {before later : List Action} {packet : DecodedC2S}
    (haccepts : packet.acceptsLogin = true) (name : String) (protocol : ProtocolKind) :
    LoggedIn (before ++ .received packet :: ((S.acceptance name protocol).map .did ++ later)) := by
  obtain ⟨mid, hmid⟩ := acceptance_success S name protocol
  rw [hmid]
  refine ⟨before, packet, mid.map .did, _, later, ?_, haccepts,
    (loginSuccess_kind name protocol).2.1, received_not_mem_did mid⟩
  simp

theorem Session.loggedIn {history : List Action} (h : S.Session history) {packet : DecodedC2S}
    (hmem : .received packet ∈ history) (haccepts : packet.acceptsLogin = true) :
    LoggedIn history := by
  obtain ⟨pre, post, heq⟩ := List.append_of_mem hmem
  obtain ⟨-, hadmits, effects, later, hrun, rfl⟩ := h.at_received heq
  obtain ⟨name, rest, hscript, -⟩ := script_accepts hadmits.protocol haccepts
  rw [← hadmits.state, acceptsLogin_state haccepts, hscript] at hrun
  cases hrun
  rw [heq, List.map_append, List.append_assoc]
  exact loggedIn_acceptance haccepts name S.protocol

/-- Effects that enter one state enter it at one place. -/
theorem enter_split {l r before after : List Effect} {state next : State}
    (hl : l.filterMap Effect.enters = []) (hr : r.filterMap Effect.enters = [])
    (h : l ++ .enter state :: r = before ++ .enter next :: after) :
    before = l ∧ next = state := by
  have hnone : ∀ {zs us vs : List Effect}, zs.filterMap Effect.enters = [] →
      zs ≠ us ++ .enter next :: vs := by
    intro zs us vs hzs heq
    rw [heq, List.filterMap_append, filterMap_enter] at hzs
    exact absurd (List.append_eq_nil_iff.mp hzs).2 (List.cons_ne_nil _ _)
  rcases append_eq_append_cons h with ⟨mid, heq, -⟩ | ⟨mid, rfl, hmid⟩
  · exact absurd heq (hnone hl)
  · cases mid with
    | nil =>
      cases (List.cons.inj hmid).1
      exact ⟨List.append_nil _, rfl⟩
    | cons effect mid => exact absurd (List.cons.inj hmid).2 (hnone hr)

/-- What leads to a state after Login: an accepted login, an acknowledgement, or
the end of Configuration. -/
theorem Scripted.at_enter {state next : State} {packet : DecodedC2S}
    {before after : List Effect} (h : Scripted S state packet (before ++ .enter next :: after))
    (hnext : next = .configuration ∨ next = .play) :
    (packet.acceptsLogin = true ∧ ∃ name, before = S.acceptance name S.protocol) ∨
    packet.isLoginAcknowledged = true ∨ (state = .configuration ∧ next = .play) := by
  generalize heffects : before ++ .enter next :: after = effects at h
  have hsingle : ∀ {effect : Effect}, [effect] = before ++ .enter next :: after →
      effect = .enter next := fun h => (singleton_eq_append_cons h).2
  cases h with
  | handshake hstate =>
    cases hsingle heffects.symm
    rcases hstate with rfl | rfl <;> rcases hnext with h | h <;> cases h
  | reply hprotocol hstate => cases hsingle heffects.symm
  | rejected hname hinvalid => cases hsingle heffects.symm
  | @joined _ name hprotocol hname hvalid =>
    obtain ⟨rfl, -⟩ := enter_split (enters_acceptance S name _) (enters_sends _) heffects.symm
    refine .inl ⟨?_, name, by rw [hprotocol]⟩
    rw [DecodedC2S.acceptsLogin, hname, Option.any_some, hvalid]
  | @accepted _ name hprotocol hname hvalid =>
    have hnone := enters_acceptance S name .v1_21_1
    rw [← heffects, List.filterMap_append, filterMap_enter] at hnone
    exact absurd (List.append_eq_nil_iff.mp hnone).2 (List.cons_ne_nil _ _)
  | acknowledged hprotocol hack => exact .inr (.inl hack)
  | finished hprotocol =>
    obtain ⟨-, rfl⟩ := enter_split (l := []) rfl (enters_sends _) heffects.symm
    exact .inr (.inr ⟨rfl, rfl⟩)
  | ignored hstate => exact absurd heffects (by simp)

/-- Configuration and Play are entered after a successful login only. -/
def EntersAfterSuccess (history : List Action) : Prop :=
  ∀ pre state post, history = pre ++ .did (.enter state) :: post →
    state = .configuration ∨ state = .play → LoggedIn pre

/-- Every acknowledgement comes after a login that was accepted. -/
def AcknowledgesSuccess (history : List Action) : Prop :=
  ∀ pre packet post, history = pre ++ .received packet :: post →
    packet.isLoginAcknowledged = true →
    ∃ login, .received login ∈ pre ∧ login.acceptsLogin = true

theorem Trace.loggedIn_or_configuration {history pre post : List Action} {next : State}
    (h : S.Trace history) (hacks : AcknowledgesSuccess history)
    (heq : history = pre ++ .did (.enter next) :: post)
    (hnext : next = .configuration ∨ next = .play) :
    LoggedIn pre ∨ next = .play ∧ ∃ earlier later, pre = earlier ++ later ∧
      stateAfter earlier = .configuration := by
  rcases h.at_effect rfl heq with ⟨-, -, id, hsend⟩ | ⟨earlier, packet, before, after, rfl,
    hsession, hadmits, hscript⟩
  · cases hsend
  · rcases (hadmits.scripted hscript).at_enter hnext with ⟨haccepts, name, rfl⟩ | hack |
      ⟨hstate, rfl⟩
    · have hlogged : LoggedIn (earlier ++ .received packet ::
          ((S.acceptance name S.protocol).map .did ++ [])) :=
        loggedIn_acceptance haccepts name S.protocol
      rw [List.append_nil] at hlogged
      exact .inl hlogged
    · rw [heq, List.append_assoc, List.cons_append] at hacks
      obtain ⟨login, hlogin, haccepts⟩ := hacks earlier packet _ rfl hack
      exact .inl ((hsession.loggedIn hlogin haccepts).append _)
    · exact .inr ⟨rfl, earlier, _, rfl, hstate⟩

theorem stateAfter_entered {history : List Action} (h : stateAfter history ≠ .handshake) :
    ∃ pre post, history = pre ++ .did (.enter (stateAfter history)) :: post := by
  induction history using List.reverseRecOn with
  | nil => exact absurd rfl h
  | append_singleton history action ih =>
    have hkept : ∀ action : Action, stateAfter (history ++ [action]) = stateAfter history →
        stateAfter (history ++ [action]) ≠ .handshake →
        ∃ pre post, history ++ [action] =
          pre ++ .did (.enter (stateAfter (history ++ [action]))) :: post := by
      intro action hsame hne
      rw [hsame] at hne ⊢
      obtain ⟨pre, post, heq⟩ := ih hne
      refine ⟨pre, post ++ [action], ?_⟩
      rw [← List.cons_append, ← List.append_assoc, ← heq]
    cases action with
    | received packet => exact hkept _ (stateAfter_append _ _) h
    | failed packet => exact hkept _ (stateAfter_append _ _) h
    | did effect =>
      cases effect with
      | send packet => exact hkept _ (stateAfter_append _ _) h
      | compress threshold => exact hkept _ (stateAfter_append _ _) h
      | enter state => exact ⟨history, [], by rw [stateAfter_append]; rfl⟩

theorem Trace.entersAfterSuccess {history : List Action} (h : S.Trace history)
    (hacks : AcknowledgesSuccess history) : EntersAfterSuccess history := by
  intro pre state post heq hnext
  rcases h.loggedIn_or_configuration hacks heq hnext with hlogged | ⟨rfl, earlier, later, rfl,
    hstate⟩
  · exact hlogged
  · have hentered : stateAfter earlier ≠ .handshake := by
      rw [hstate]
      decide
    obtain ⟨pre', post', heq'⟩ := stateAfter_entered hentered
    rw [hstate] at heq'
    rw [heq', List.append_assoc, List.append_assoc, List.cons_append] at heq
    rcases h.loggedIn_or_configuration hacks heq (.inl rfl) with hlogged | ⟨hplay, -⟩
    · rw [heq', List.append_assoc]
      exact hlogged.append _
    · cases hplay

/-- An acknowledgement moves the connection on at once. -/
theorem Trace.acknowledgesSuccess {history : List Action} (h : S.Trace history)
    (henters : EntersAfterSuccess history) : AcknowledgesSuccess history := by
  intro pre packet post heq hack
  obtain ⟨-, hadmits, hfollowed⟩ := h.at_received heq
  have hscript := script_acknowledged (S := S) hack
  rw [← acknowledged_state hack, hadmits.state] at hscript
  obtain ⟨action, later, rfl, haction⟩ := hfollowed.first hscript
  have henter : action = .did (.enter .configuration) := by
    cases action with
    | did effect => exact congrArg Action.did (Option.some.inj haction)
    | _ => cases haction
  subst henter
  rw [List.append_cons] at heq
  obtain ⟨before, login, mid, success, after, hpre, haccepts, -, -⟩ :=
    henters _ _ _ heq (.inl rfl)
  have hmem : Action.received login ∈ pre ++ [.received packet] := by
    rw [hpre]
    exact List.mem_append_right _ List.mem_cons_self
  rcases List.mem_append.mp hmem with hin | hself
  · exact ⟨login, hin, haccepts⟩
  · cases List.mem_singleton.mp hself
    obtain ⟨name, hname, -⟩ := (Option.any_eq_true _ _).mp haccepts
    rw [loginName_acknowledged hack] at hname
    cases hname

/-- In a run, Configuration and Play are entered after a successful login only,
if and only if the client acknowledges no login before one was accepted. -/
theorem run_entersAfterSuccess_iff (S : Setup) (fault : Nat → Option Fault)
    (inputs : List Input) :
    EntersAfterSuccess (S.run fault inputs).history ↔
      AcknowledgesSuccess (S.run fault inputs).history :=
  have htrace := (refines_run S fault inputs).trace
  ⟨htrace.acknowledgesSuccess, htrace.entersAfterSuccess⟩

theorem LoggedIn.any {history : List Action} (h : LoggedIn history) :
    history.any (Action.dispatches DecodedC2S.acceptsLogin) = true := by
  obtain ⟨before, packet, mid, success, after, rfl, haccepts, -, -⟩ := h
  refine List.any_eq_true.mpr ⟨.received packet, ?_, haccepts⟩
  exact List.mem_append_right _ List.mem_cons_self

/-- The frames of a handshake for Login and a `LoginAcknowledged`. -/
def acknowledgeOnly : List Input :=
  [.advance, .read (.ok ([8, 0, 0xff, 0x05, 1, 0x61, 0x63, 0xdd, 2] ++ [1, 3])),
   .advance, .advance]

theorem acknowledgeOnly_not_entersAfterSuccess :
    ¬ EntersAfterSuccess (bareRun .v1_21_1 false acknowledgeOnly).history := by
  intro h
  obtain ⟨action, haction, hsplit⟩ :=
    split_at (l := (bareRun .v1_21_1 false acknowledgeOnly).history) (i := 3)
      (p := Action.performs fun effect => effect.enters == some .configuration) (by decide +kernel)
  obtain ⟨effect, rfl, heffect⟩ := Action.performs_eq haction
  have henter : effect = .enter .configuration := by
    cases effect with
    | enter state => exact congrArg Effect.enter (Option.some.inj (beq_iff_eq.mp heffect))
    | _ => cases heffect
  rw [henter] at hsplit
  have hnone : ((bareRun .v1_21_1 false acknowledgeOnly).history.take 3).any
      (Action.dispatches DecodedC2S.acceptsLogin) = false := by decide +kernel
  have hlogged := (h _ _ _ hsplit (.inl rfl)).any
  rw [hnone] at hlogged
  cases hlogged

end Setup

end Statik
