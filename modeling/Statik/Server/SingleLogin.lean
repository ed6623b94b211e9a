import Statik.Server.Login

/-!
# Logging in once

How often a connection sends `SetCompression` and `LoginSuccess`: as often as it
accepts a login, which 1.21.1 can do any number of times.
-/

namespace Statik

open Wire

namespace Setup

variable {S : Setup}

/-- The number of accepted logins. -/
def logins (history : List Action) : Nat :=
  history.countP (Action.dispatches DecodedC2S.acceptsLogin)

/-- How the packets written in reply to logins relate to the logins. -/
structure Balanced (S : Setup) (history : List Action) : Prop where
  compression : history.countP (Action.writes S2CPacket.isSetCompression) =
    if S.config.compression.enabled then logins history else 0
  success_le : history.countP (Action.writes S2CPacket.isLoginSuccess) ≤ logins history
  success : S.config.compression.enabled = false →
    history.countP (Action.writes S2CPacket.isLoginSuccess) = logins history

/-! ### Counting effects -/

@[simp] theorem logins_append (history later : List Action) :
    logins (history ++ later) = logins history + logins later := List.countP_append

theorem logins_received (packet : DecodedC2S) (actions : List Action) :
    logins (.received packet :: actions) =
      (if packet.acceptsLogin then 1 else 0) + logins actions := by
  rw [logins, List.countP_cons, Nat.add_comm]
  rfl

theorem logins_did (effects : List Effect) : logins (effects.map .did) = 0 := by
  rw [logins, List.countP_map]
  exact List.countP_eq_zero.mpr fun _ _ => Bool.false_ne_true

theorem logins_cut (effects : List Effect) (failing : S2CPacket) :
    logins (effects.map .did ++ [.failed failing]) = 0 := by
  rw [logins_append, logins_did]
  rfl

theorem countP_did (kind : S2CPacket → Bool) (effects : List Effect) :
    (effects.map Action.did).countP (Action.writes kind) = effects.countP (Effect.sends kind) := by
  rw [List.countP_map]
  rfl

/-- A write counts whether or not it fails. -/
theorem countP_cut (kind : S2CPacket → Bool) (effects : List Effect) (failing : S2CPacket) :
    (effects.map Action.did ++ [Action.failed failing]).countP (Action.writes kind) =
      (effects ++ [Effect.send failing]).countP (Effect.sends kind) := by
  rw [List.countP_append, List.countP_append, countP_did]
  rfl

theorem countP_sends_eq_zero {kind : S2CPacket → Bool} {effects : List Effect}
    (h : ∀ q, .send q ∈ effects → kind q = false) : effects.countP (Effect.sends kind) = 0 := by
  refine List.countP_eq_zero.mpr fun effect hmem => ?_
  cases effect with
  | send q => exact Bool.not_eq_true _ ▸ h q hmem
  | _ => exact Bool.false_ne_true

/-! ### Logins and their replies -/

/-- A packet that is no accepted login is answered with neither of the packets. -/
theorem Admits.no_reply {history : List Action} {packet : DecodedC2S} {effects : List Effect}
    (h : S.Admits history packet) (hscript : S.script (stateAfter history) packet = .run effects)
    (hrefused : packet.acceptsLogin = false) {answer : S2CPacket}
    (hmem : .send answer ∈ effects) :
    answer.isSetCompression = false ∧ answer.isLoginSuccess = false := by
  by_cases hlogin : answer.state = .login
  · rcases (h.scripted hscript).login_send hmem hlogin with ⟨-, rfl, -⟩ | ⟨name, -, hname,
      hvalid, -⟩
    · exact ⟨(disconnect_kind _).1, (disconnect_kind _).2.1⟩
    · rw [DecodedC2S.acceptsLogin, hname, Option.any_some, hvalid] at hrefused
      cases hrefused
  · rw [← Bool.not_eq_true, ← Bool.not_eq_true]
    exact ⟨fun hkind => hlogin (loginPacket_state (.inr (.inl hkind))),
      fun hkind => hlogin (loginPacket_state (.inl hkind))⟩

/-- The packets of an acceptance, each once, and the first of them at its head. -/
theorem acceptance_counts (S : Setup) (name : String) (protocol : ProtocolKind) :
    ∃ first rest, S.acceptance name protocol = first :: rest ∧
      (first :: rest).countP (Effect.sends S2CPacket.isLoginSuccess) = 1 ∧
      (S.config.compression.enabled = true →
        first.sends S2CPacket.isSetCompression = true ∧
          (first :: rest).countP (Effect.sends S2CPacket.isSetCompression) = 1) ∧
      (S.config.compression.enabled = false →
        first.sends S2CPacket.isLoginSuccess = true ∧
          (first :: rest).countP (Effect.sends S2CPacket.isSetCompression) = 0) := by
  obtain ⟨hset, hsetSuccess, -⟩ := setCompression_kind S.config.compression.threshold protocol
  obtain ⟨hsuccessSet, hsuccess, -⟩ := loginSuccess_kind name protocol
  rw [acceptance]
  by_cases henabled : S.config.compression.enabled = true
  · rw [if_pos henabled]
    refine ⟨_, _, rfl, ?_, fun _ => ⟨hset, ?_⟩, fun h => ?_⟩
    · simp [Effect.sends, hsetSuccess, hsuccess]
    · simp [Effect.sends, hset, hsuccessSet]
    · rw [henabled] at h
      cases h
  · rw [if_neg henabled]
    refine ⟨_, _, rfl, ?_, fun h => absurd h henabled, fun _ => ⟨hsuccess, ?_⟩⟩
    · simp [Effect.sends, hsuccess]
    · simp [Effect.sends, hsuccessSet]

/-- Effects that send nothing of Login send no packet of a kind that Login alone
has. -/
theorem countP_sends_elsewhere {kind : S2CPacket → Bool} {effects : List Effect}
    (hkind : ∀ q, kind q = true → q.state = .login)
    (h : ∀ q, .send q ∈ effects → q.state ≠ .login) :
    effects.countP (Effect.sends kind) = 0 := by
  refine countP_sends_eq_zero fun q hq => ?_
  rw [← Bool.not_eq_true]
  exact fun htrue => h q hq (hkind q htrue)

section

variable {history : List Action} {packet : DecodedC2S} {effects performed : List Effect}

theorem Admits.counts_refused (h : S.Admits history packet)
    (hscript : S.script (stateAfter history) packet = .run effects)
    (hpre : performed <+: effects) (hrefused : packet.acceptsLogin = false) :
    performed.countP (Effect.sends S2CPacket.isSetCompression) = 0 ∧
      performed.countP (Effect.sends S2CPacket.isLoginSuccess) = 0 := by
  have hnone := fun (q : S2CPacket) (hq : .send q ∈ performed) =>
    h.no_reply hscript hrefused (hpre.subset hq)
  exact ⟨countP_sends_eq_zero fun q hq => (hnone q hq).1,
    countP_sends_eq_zero fun q hq => (hnone q hq).2⟩

/-- What the beginning of the script of an accepted login sends: one
`SetCompression` where compression is enabled, and otherwise one `LoginSuccess`. -/
theorem Admits.counts_accepted (h : S.Admits history packet)
    (hscript : S.script (stateAfter history) packet = .run effects)
    (hpre : performed <+: effects) (hne : effects ≠ [] → performed ≠ [])
    (haccepts : packet.acceptsLogin = true) :
    performed.countP (Effect.sends S2CPacket.isSetCompression) =
        (if S.config.compression.enabled then 1 else 0) ∧
      performed.countP (Effect.sends S2CPacket.isLoginSuccess) ≤ 1 ∧
      (S.config.compression.enabled = false →
        performed.countP (Effect.sends S2CPacket.isLoginSuccess) = 1) := by
  obtain ⟨name, rest, hrun, hrest⟩ := script_accepts h.protocol haccepts
  rw [← h.state, acceptsLogin_state haccepts, hrun] at hscript
  cases hscript
  have hplay : ∀ q, .send q ∈ rest → q.state ≠ .login := fun q hq => by
    rw [hrest q hq]
    decide
  obtain ⟨first, tail, hacceptance, hone, henabled, hdisabled⟩ :=
    acceptance_counts S name S.protocol
  rw [hacceptance] at hpre hne
  have hset : performed.countP (Effect.sends S2CPacket.isSetCompression) ≤
      (first :: tail ++ rest).countP (Effect.sends S2CPacket.isSetCompression) := hpre.countP_le
  have hsuccess : performed.countP (Effect.sends S2CPacket.isLoginSuccess) ≤
      (first :: tail ++ rest).countP (Effect.sends S2CPacket.isLoginSuccess) := hpre.countP_le
  rw [List.countP_append, countP_sends_elsewhere (fun q hq => loginPacket_state (.inr (.inl hq)))
    hplay] at hset
  rw [List.countP_append, countP_sends_elsewhere (fun q hq => loginPacket_state (.inl hq))
    hplay] at hsuccess
  have hhead : first ∈ performed := by
    cases performed with
    | nil => exact absurd rfl (hne (List.cons_ne_nil _ _))
    | cons effect performed' =>
      rw [List.cons_append, List.cons_prefix_cons] at hpre
      rw [hpre.1]
      exact List.mem_cons_self
  have hfirst : ∀ kind, first.sends kind = true → 1 ≤ performed.countP (Effect.sends kind) :=
    fun kind hkind => List.one_le_countP_iff.mpr ⟨first, hhead, hkind⟩
  refine ⟨?_, by omega, fun hoff => ?_⟩
  · split
    case isTrue hon =>
      have := hfirst _ (henabled hon).1
      have := (henabled hon).2
      omega
    case isFalse hoff =>
      have := (hdisabled (Bool.eq_false_iff.mpr hoff)).2
      omega
  · have := hfirst _ (hdisabled hoff).1
    omega

/-- A packet and the beginning of its script are balanced, when there is more of
the script than nothing. -/
theorem Admits.balanced {actions : List Action} (h : S.Admits history packet)
    (hscript : S.script (stateAfter history) packet = .run effects)
    (hpre : performed <+: effects) (hne : effects ≠ [] → performed ≠ [])
    (hlogins : logins actions = 0)
    (hwrites : ∀ kind, actions.countP (Action.writes kind) =
      performed.countP (Effect.sends kind)) :
    S.Balanced (.received packet :: actions) := by
  have hcount : ∀ kind, (Action.received packet :: actions).countP (Action.writes kind) =
      performed.countP (Effect.sends kind) := by
    intro kind
    rw [List.countP_cons, hwrites]
    rfl
  by_cases haccepts : packet.acceptsLogin = true
  · obtain ⟨hset, hle, hsuccess⟩ := h.counts_accepted hscript hpre hne haccepts
    refine { compression := ?_, success_le := ?_, success := fun hoff => ?_ } <;>
      rw [hcount, logins_received, if_pos haccepts, hlogins]
    · exact hset
    · exact hle
    · exact hsuccess hoff
  · obtain ⟨hset, hsuccess⟩ :=
      h.counts_refused hscript hpre (Bool.eq_false_iff.mpr haccepts)
    refine { compression := ?_, success_le := ?_, success := fun _ => ?_ } <;>
      rw [hcount, logins_received, if_neg haccepts, hlogins]
    · rw [hset, ite_self]
    · exact Nat.le_of_eq hsuccess
    · exact hsuccess

end

theorem Balanced.nil (S : Setup) : S.Balanced [] :=
  { compression := (ite_self _).symm, success_le := Nat.le_refl _, success := fun _ => rfl }

theorem Balanced.append {history later : List Action} (h : S.Balanced history)
    (h' : S.Balanced later) : S.Balanced (history ++ later) := by
  refine { compression := ?_, success_le := ?_, success := fun hoff => ?_ } <;>
    rw [List.countP_append, logins_append]
  · rw [h.compression, h'.compression]
    split <;> rfl
  · exact Nat.add_le_add h.success_le h'.success_le
  · rw [h.success hoff, h'.success hoff]

theorem keepAlive_balanced (id : BitVec 64) {action : Action}
    (h : action.effect = some (.send (keepAlive S.protocol id))) : S.Balanced [action] := by
  have hkind : ∀ kind : S2CPacket → Bool, (∀ q, kind q = true → q.state = .login) →
      [action].countP (Action.writes kind) = 0 := by
    intro kind hkind
    rw [List.countP_singleton, Action.writes, h, Option.any_some, if_neg]
    intro htrue
    have hplay := hkind _ htrue
    rw [(keepAlive_inPhase S.protocol id).2] at hplay
    cases hplay
  have hset := hkind S2CPacket.isSetCompression fun q hq => loginPacket_state (.inr (.inl hq))
  have hsuccess := hkind S2CPacket.isLoginSuccess fun q hq => loginPacket_state (.inl hq)
  have hlogins : logins [action] = 0 := by
    cases action with
    | received packet => cases h
    | _ => rfl
  exact { compression := by rw [hset, hlogins, ite_self], success_le := by rw [hsuccess]; omega,
          success := fun _ => by rw [hsuccess, hlogins] }

theorem Extends.balanced {history block : List Action} (h : S.Extends history block) :
    S.Balanced block := by
  cases h with
  | packet hadmits hscript =>
    exact hadmits.balanced hscript List.prefix_rfl id (logins_did _) fun kind => countP_did kind _
  | keepAlive id hplay => exact keepAlive_balanced id rfl

theorem Breaks.balanced {history block : List Action} (h : S.Breaks history block) :
    S.Balanced block := by
  cases h with
  | @refused packet hadmits hscript =>
    have hrefused : packet.acceptsLogin = false := by
      rw [← Bool.not_eq_true]
      intro haccepts
      obtain ⟨name, rest, hrun, -⟩ := script_accepts hadmits.protocol haccepts
      rw [← hadmits.state, acceptsLogin_state haccepts, hrun] at hscript
      cases hscript
    have hlogins : logins [.received packet] = 0 := by
      rw [logins_received, hrefused]
      rfl
    exact { compression := by rw [hlogins, ite_self]; rfl, success_le := Nat.zero_le _,
            success := fun _ => by rw [hlogins]; rfl }
  | @cut packet before after failing hadmits hscript =>
    refine hadmits.balanced hscript ⟨after, ?_⟩ (fun _ => ?_) (logins_cut before failing)
      fun kind => countP_cut kind before failing
    · rw [List.append_assoc, List.singleton_append]
    · exact List.append_ne_nil_of_right_ne_nil _ (List.cons_ne_nil _ _)
  | keepAliveCut id hplay => exact keepAlive_balanced id rfl

theorem Session.balanced {history : List Action} (h : S.Session history) :
    S.Balanced history := by
  induction h with
  | start => exact .nil S
  | extend hs hblock ih => exact ih.append hblock.balanced

theorem Trace.balanced {history : List Action} (h : S.Trace history) : S.Balanced history := by
  cases h with
  | live hs => exact hs.balanced
  | broken hs hblock => exact hs.balanced.append hblock.balanced

/-! ### The order of the packets -/

/-- A packet of either kind is written in reply to an accepted login. -/
theorem Trace.at_reply {history pre post : List Action} {action : Action} {answer : S2CPacket}
    (h : S.Trace history) (haction : action.effect = some (.send answer))
    (heq : history = pre ++ action :: post)
    (hanswer : answer.isSetCompression = true ∨ answer.isLoginSuccess = true) :
    ∃ before packet sent after, pre = before ++ .received packet :: sent.map .did ∧
      packet.acceptsLogin = true ∧ S.Admits before packet ∧
      S.script (stateAfter before) packet = .run (sent ++ .send answer :: after) := by
  have hlogin : answer.state = .login := by
    rcases hanswer with hset | hsuccess
    · exact loginPacket_state (.inr (.inl hset))
    · exact loginPacket_state (.inl hsuccess)
  rcases h.at_effect haction heq with ⟨-, -, id, hsend⟩ | ⟨before, packet, sent, after, rfl, -,
    hadmits, hscript⟩
  · cases hsend
    rw [(keepAlive_inPhase S.protocol id).2] at hlogin
    cases hlogin
  · refine ⟨before, packet, sent, after, rfl, ?_, hadmits, hscript⟩
    by_contra hrefused
    obtain ⟨hset, hsuccess⟩ := hadmits.no_reply hscript (Bool.eq_false_iff.mpr hrefused)
      (List.mem_append_right _ List.mem_cons_self)
    rw [hset, hsuccess] at hanswer
    rcases hanswer with h | h <;> cases h

/-- `SetCompression` comes first in its script. -/
theorem setCompression_first {packet : DecodedC2S} {sent after : List Effect}
    {answer : S2CPacket} (hprotocol : packet.protocol = S.protocol)
    (haccepts : packet.acceptsLogin = true)
    (hscript : S.script .login packet = .run (sent ++ .send answer :: after))
    (hanswer : answer.isSetCompression = true) : sent = [] := by
  obtain ⟨name, rest, hrun, hrest⟩ := script_accepts hprotocol haccepts
  rw [hscript] at hrun
  have heffects := Verdict.run.inj hrun
  have hlater : ∀ later : List Effect, (∀ q, .send q ∈ later → q.isSetCompression = false) →
      .send answer ∉ later := by
    intro later hkinds hmem
    rw [hkinds answer hmem] at hanswer
    cases hanswer
  have hsuccess : .send answer ∉ .send (loginSuccess name S.protocol) :: rest := by
    refine hlater _ fun q hq => ?_
    rcases List.mem_cons.mp hq with heq | hq
    · cases heq
      exact (loginSuccess_kind _ _).1
    · rw [← Bool.not_eq_true]
      intro hset
      have hplay := hrest q hq
      rw [loginPacket_state (.inr (.inl hset))] at hplay
      cases hplay
  have hin : .send answer ∈ sent ++ .send answer :: after :=
    List.mem_append_right _ List.mem_cons_self
  rw [acceptance] at heffects
  split at heffects
  · cases sent with
    | nil => rfl
    | cons effect sent =>
      have htail : sent ++ .send answer :: after =
          .compress _ :: .send (loginSuccess name S.protocol) :: rest := (List.cons.inj heffects).2
      have hin' : Effect.send answer ∈ sent ++ .send answer :: after :=
        List.mem_append_right _ List.mem_cons_self
      rw [htail] at hin'
      rcases List.mem_cons.mp hin' with heq | hmem
      · cases heq
      · exact absurd hmem hsuccess
  · rw [heffects] at hin
    exact absurd hin hsuccess

/-- At most one `SetCompression` and at most one `LoginSuccess` are written, and
no `SetCompression` after a `LoginSuccess`. -/
structure SingleLogin (history : List Action) : Prop where
  compression : history.countP (Action.writes S2CPacket.isSetCompression) ≤ 1
  success : history.countP (Action.writes S2CPacket.isLoginSuccess) ≤ 1
  order : ∀ pre action post, history = pre ++ action :: post →
    action.writes S2CPacket.isLoginSuccess = true →
    ∀ later ∈ post, later.writes S2CPacket.isSetCompression = false

theorem Action.writes_eq {kind : S2CPacket → Bool} {action : Action}
    (h : action.writes kind = true) :
    ∃ answer, action.effect = some (.send answer) ∧ kind answer = true := by
  obtain ⟨effect, heffect, hsends⟩ := (Option.any_eq_true _ _).mp h
  cases effect with
  | send answer => exact ⟨answer, heffect, hsends⟩
  | _ => cases hsends

theorem Trace.singleLogin {history : List Action} (h : S.Trace history)
    (hone : logins history ≤ 1) : SingleLogin history := by
  refine { compression := ?_, success := Nat.le_trans h.balanced.success_le hone,
           order := ?_ }
  · rw [h.balanced.compression]
    split
    · exact hone
    · exact Nat.zero_le 1
  · intro pre action post heq hsuccess later hmem
    rw [← Bool.not_eq_true]
    intro hset
    obtain ⟨mid, rest, rfl⟩ := List.append_of_mem hmem
    obtain ⟨reply, hreply, hreplyKind⟩ := Action.writes_eq hsuccess
    obtain ⟨threshold, hthreshold, hthresholdKind⟩ := Action.writes_eq hset
    -- the later packet was written in reply to a login of its own
    have hlater : history = (pre ++ action :: mid) ++ later :: rest := by
      rw [heq, List.append_assoc, List.cons_append]
    obtain ⟨before, packet, sent, after, hpre, haccepts, hadmits, hscript⟩ :=
      h.at_reply hthreshold hlater (.inl hthresholdKind)
    rw [← hadmits.state, acceptsLogin_state haccepts] at hscript
    cases setCompression_first hadmits.protocol haccepts hscript hthresholdKind
    obtain ⟨before', packet', sent', after', rfl, haccepts', -, -⟩ :=
      h.at_reply hreply heq (.inr hreplyKind)
    have hearlier : 1 ≤ logins before := by
      rcases append_eq_append_cons hpre with ⟨tail, -, hnil⟩ | ⟨tail, rfl, -⟩
      · exact absurd hnil.symm (List.append_ne_nil_of_right_ne_nil _ (List.cons_ne_nil _ _))
      · rw [logins_append, logins_append, logins_received, if_pos haccepts']
        omega
    have htwo : logins history = logins before + 1 + logins (later :: rest) := by
      rw [hlater, hpre, logins_append, logins_append, logins_received, if_pos haccepts]
      rfl
    omega

/-- In a run, at most one `SetCompression` and one `LoginSuccess` are written, in
this order, if and only if at most one login is accepted. -/
theorem run_singleLogin_iff (S : Setup) (fault : Nat → Option Fault) (inputs : List Input) :
    SingleLogin (S.run fault inputs).history ↔ logins (S.run fault inputs).history ≤ 1 := by
  have htrace := (refines_run S fault inputs).trace
  refine ⟨fun h => ?_, htrace.singleLogin⟩
  by_cases henabled : S.config.compression.enabled = true
  · have hcompression := htrace.balanced.compression
    rw [if_pos henabled] at hcompression
    exact hcompression ▸ h.compression
  · exact htrace.balanced.success (Bool.eq_false_iff.mpr henabled) ▸ h.success

/-- The frames of a handshake for Login and two `Hello`s with the name "abc". -/
def helloTwice : List Input :=
  let hello := [21, 0, 3, 0x61, 0x62, 0x63] ++ List.replicate 16 0
  [.advance, .read (.ok ([8, 0, 0xff, 0x05, 1, 0x61, 0x63, 0xdd, 2] ++ hello ++ hello)),
   .advance, .advance, .advance]

theorem helloTwice_not_singleLogin :
    ¬ SingleLogin (bareRun .v1_21_1 false helloTwice).history := by
  intro h
  have htwice : (bareRun .v1_21_1 false helloTwice).history.countP
      (Action.performs (Effect.sends S2CPacket.isLoginSuccess)) = 2 := by decide +kernel
  have hone := h.success
  have hle := List.countP_mono_left (p := Action.performs (Effect.sends S2CPacket.isLoginSuccess))
    (q := Action.writes S2CPacket.isLoginSuccess)
    (l := (bareRun .v1_21_1 false helloTwice).history)
    fun action _ haction => by
      obtain ⟨effect, rfl, heffect⟩ := Action.performs_eq haction
      exact heffect
  omega

/-! ### 1.20.1 -/

/-- An accepted login ends in Play. -/
theorem Scripted.joins {packet : DecodedC2S} {effects : List Effect}
    (h : Scripted S .login packet effects) (hprotocol : S.protocol = .v1_20_1)
    (haccepts : packet.acceptsLogin = true) : stateFrom .login (effects.map .did) = .play := by
  cases h with
  | rejected hname hinvalid =>
    rw [DecodedC2S.acceptsLogin, hname, Option.any_some, hinvalid] at haccepts
    cases haccepts
  | joined _ hname hvalid =>
    rw [stateFrom_did, List.filterMap_append, enters_acceptance, enters_entering]
    rfl
  | accepted hother hname hvalid =>
    rw [hprotocol] at hother
    cases hother
  | acknowledged hother hack =>
    rw [hprotocol] at hother
    cases hother
  | ignored hstate => rcases hstate with h | h <;> cases h

theorem Extends.joins {history block : List Action} (h : S.Extends history block)
    (hprotocol : S.protocol = .v1_20_1) :
    (stateAfter history = .play → stateFrom (stateAfter history) block = .play) ∧
    (logins block = 0 ∨ logins block = 1 ∧ stateAfter history = .login ∧
      stateFrom (stateAfter history) block = .play) := by
  constructor
  · intro hplay
    rcases h.moves with hsame | hmove
    · rw [hsame, hplay]
    · rw [hplay] at hmove
      cases hmove
  · cases h with
    | @packet packet effects hadmits hscript =>
      rw [logins_received, logins_did]
      by_cases haccepts : packet.acceptsLogin = true
      · have hlogin : stateAfter history = .login := by
          rw [← hadmits.state, acceptsLogin_state haccepts]
        have hscripted := hadmits.scripted hscript
        rw [hlogin] at hscripted
        rw [if_pos haccepts, hlogin]
        exact .inr ⟨rfl, rfl, hscripted.joins hprotocol haccepts⟩
      · exact .inl (by rw [if_neg haccepts])
    | keepAlive id hplay => exact .inl rfl

/-- Under 1.20.1 no login is accepted before Play, and one at most. -/
theorem Session.logins_v1_20_1 {history : List Action} (h : S.Session history)
    (hprotocol : S.protocol = .v1_20_1) :
    logins history ≤ 1 ∧ (stateAfter history ≠ .play → logins history = 0) := by
  induction h with
  | start => exact ⟨Nat.zero_le 1, fun _ => rfl⟩
  | extend hs hblock ih =>
    obtain ⟨hle, hzero⟩ := ih
    obtain ⟨hplay, hnone | ⟨hone, hlogin, hjoins⟩⟩ := hblock.joins hprotocol
    · rw [logins_append, hnone, stateAfter_append]
      exact ⟨hle, fun hne => hzero fun h => hne (hplay h)⟩
    · have hbefore := hzero (by rw [hlogin]; decide)
      rw [logins_append, hone, stateAfter_append]
      exact ⟨by omega, fun hne => absurd hjoins hne⟩

theorem Breaks.logins {history block : List Action} (h : S.Breaks history block) :
    Setup.logins block = 0 ∨ Setup.logins block = 1 ∧ stateAfter history = .login := by
  have hpacket : ∀ {packet : DecodedC2S} {actions : List Action}, S.Admits history packet →
      Setup.logins actions = 0 → Setup.logins (.received packet :: actions) = 0 ∨
        Setup.logins (.received packet :: actions) = 1 ∧ stateAfter history = .login := by
    intro packet actions hadmits hnone
    rw [logins_received, hnone]
    by_cases haccepts : packet.acceptsLogin = true
    · rw [if_pos haccepts, ← hadmits.state]
      exact .inr ⟨rfl, acceptsLogin_state haccepts⟩
    · exact .inl (by rw [if_neg haccepts])
  cases h with
  | refused hadmits hscript => exact hpacket hadmits rfl
  | cut hadmits hscript => exact hpacket hadmits (logins_cut _ _)
  | keepAliveCut id hplay => exact .inl rfl

/-- Every run under 1.20.1 accepts at most one login. -/
theorem run_logins_v1_20_1 (S : Setup) (fault : Nat → Option Fault) (inputs : List Input)
    (hprotocol : S.protocol = .v1_20_1) : logins (S.run fault inputs).history ≤ 1 := by
  have htrace := (refines_run S fault inputs).trace
  generalize (S.run fault inputs).history = history at htrace ⊢
  cases htrace with
  | live hs => exact (hs.logins_v1_20_1 hprotocol).1
  | broken hs hblock =>
    obtain ⟨hle, hzero⟩ := hs.logins_v1_20_1 hprotocol
    rw [logins_append]
    rcases hblock.logins with hnone | ⟨hone, hlogin⟩
    · omega
    · have hbefore := hzero (by rw [hlogin]; decide)
      omega

end Setup

end Statik
